import Stencil.Pool

/-! A pool together with the buffers that are rented from it. -/
namespace Stencil

structure Rentals where
  pool : Pool := {}
  /-- Each rental has a slot of its own, which is empty once the buffer has gone back. -/
  slots : List (Option Buffer) := []

namespace Rentals

inductive Event where
  | rent (size : Nat)
  /-- Make room in a rented buffer. -/
  | ensure (slot len : Nat)
  /-- Copy bytes to a place in a rented buffer. -/
  | store (slot pos : Nat) (bytes : List UInt8)
  | drop (slot : Nat)
  deriving DecidableEq, Repr

inductive Fault where
  /-- The slot that it names is empty. -/
  | emptySlot
  | panic (panic : Panic)
  deriving DecidableEq, Repr

def buffer? (r : Rentals) (slot : Nat) : Option Buffer := (r.slots[slot]?).join

def live (r : Rentals) : Nat := r.slots.countP Option.isSome

def rent (r : Rentals) (size : Nat) : Option Fault × Rentals :=
  match r.pool.lend size with
  | .ok (buffer, pool) => (none, ⟨pool, r.slots ++ [some buffer]⟩)
  | .error panic => (some (.panic panic), { r with pool := r.pool.refuse })

def use (r : Rentals) (slot : Nat) (action : Buffer → Except Panic Buffer) :
    Option Fault × Rentals :=
  match r.buffer? slot with
  | none => (some .emptySlot, r)
  | some buffer =>
    match action buffer with
    | .ok changed => (none, { r with slots := r.slots.set slot (some changed) })
    | .error panic => (some (.panic panic), r)

def drop (r : Rentals) (slot : Nat) : Option Fault × Rentals :=
  match r.buffer? slot with
  | none => (some .emptySlot, r)
  | some buffer => (none, ⟨r.pool.takeBack buffer, r.slots.set slot none⟩)

/-- One event: why it does not happen, if it does not, and what is there after it. -/
def step (r : Rentals) : Event → Option Fault × Rentals
  | .rent size => r.rent size
  | .ensure slot len => r.use slot (Buffer.grow len)
  | .store slot pos bytes => r.use slot (Buffer.store pos bytes)
  | .drop slot => r.drop slot

def run (r : Rentals) (events : List Event) : Rentals :=
  events.foldl (fun r event => (r.step event).2) r

end Rentals

end Stencil
