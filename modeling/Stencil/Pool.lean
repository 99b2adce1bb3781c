import Stencil.Buffer

/-! A pool of buffers for reuse. -/
namespace Stencil

structure Pool where
  /-- Buffers that wait for reuse, the one that came back last first. -/
  free : List (List UInt8) := []
  rented : Nat := 0
  returned : Nat := 0
  deriving DecidableEq, Repr

namespace Pool

def limit : Nat := 32

def idle (p : Pool) : Nat := p.free.length

def lent (p : Pool) : Nat := p.rented - p.returned

/-- At least `size` bytes: what is missing is filled with zeros. -/
def padded (size : Nat) (bytes : List UInt8) : List UInt8 :=
  bytes ++ Buffer.zeros (size - bytes.length)

def rent (p : Pool) (size : Nat) : Buffer × Pool :=
  let bytes := padded size (p.free.head?.getD [])
  (.rented bytes, { p with free := p.free.tail, rented := p.rented + 1 })

/-- Rent a buffer, unless no buffer can hold so many bytes. -/
def lend (p : Pool) (size : Nat) : Except Panic (Buffer × Pool) :=
  if Buffer.maxBytes < size then .error .tooLarge else .ok (p.rent size)

/-- The pool after a buffer was asked for that is too large: the one that was taken for it is
lost. -/
def refuse (p : Pool) : Pool := { p with free := p.free.tail }

/-- Take a buffer back, and keep it unless there are enough. -/
def takeBack (p : Pool) (b : Buffer) : Pool :=
  { p with
    free := if p.idle < limit then b.slice :: p.free else p.free
    returned := p.returned + 1 }

end Pool

end Stencil
