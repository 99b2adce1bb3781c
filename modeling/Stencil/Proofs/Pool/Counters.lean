import Stencil.Pool.Rentals
import Stencil.Proofs.Buffer.Refinement

/-! What a pool counts while buffers are rented from it, used and given back. -/
namespace Stencil

namespace Pool

theorem length_padded (size : Nat) (bytes : List UInt8) :
    (padded size bytes).length = max size bytes.length := by
  simp only [padded, Buffer.zeros, List.length_append, List.length_replicate]
  omega

theorem idle_rent (p : Pool) (size : Nat) : (p.rent size).2.idle = p.idle - 1 := by
  simp [rent, idle]

theorem idle_takeBack (p : Pool) (b : Buffer) :
    (p.takeBack b).idle = if p.idle < limit then p.idle + 1 else p.idle := by
  unfold takeBack
  split <;> rfl

end Pool

namespace Rentals

namespace Event

def isRent : Event → Bool
  | .rent _ => true
  | _ => false

def isDrop : Event → Bool
  | .drop _ => true
  | _ => false

def slot? : Event → Option Nat
  | .rent _ => none
  | .ensure slot _ | .store slot _ _ | .drop slot => some slot

/-- The event is about a buffer that stays rented. -/
def IsUse (event : Event) : Prop := event.isRent = false ∧ event.isDrop = false

end Event

theorem step_rent (r : Rentals) {size : Nat} (hsize : size ≤ Buffer.maxBytes) :
    r.step (.rent size) =
      (none, ⟨(r.pool.rent size).2, r.slots ++ [some (r.pool.rent size).1]⟩) := by
  simp only [step, Rentals.rent, Pool.lend]
  rw [if_neg (Nat.not_lt.mpr hsize)]

theorem step_drop {r : Rentals} {slot : Nat} {buffer : Buffer}
    (hbuffer : r.buffer? slot = some buffer) :
    r.step (.drop slot) = (none, ⟨r.pool.takeBack buffer, r.slots.set slot none⟩) := by
  simp only [step, Rentals.drop, hbuffer]

/-- What an event can do to a pool and its buffers. -/
inductive Happens (r : Rentals) : Event → Option Fault → Rentals → Prop where
  | rent {size : Nat} (hsize : size ≤ Buffer.maxBytes) :
    Happens r (.rent size) none ⟨(r.pool.rent size).2, r.slots ++ [some (r.pool.rent size).1]⟩
  | refuse {size : Nat} (hsize : Buffer.maxBytes < size) :
    Happens r (.rent size) (some (.panic .tooLarge)) { r with pool := r.pool.refuse }
  | use {event : Event} {slot : Nat} {buffer changed : Buffer} (huse : event.IsUse)
      (hslot : event.slot? = some slot) (hbuffer : r.buffer? slot = some buffer)
      (hsize : buffer.size ≤ changed.size)
      (hrented : ∀ bytes, buffer = .rented bytes → changed = .rented changed.slice) :
    Happens r event none { r with slots := r.slots.set slot (some changed) }
  | panic {event : Event} {slot : Nat} {buffer : Buffer} {panic : Panic} (huse : event.IsUse)
      (hslot : event.slot? = some slot) (hbuffer : r.buffer? slot = some buffer) :
    Happens r event (some (.panic panic)) r
  | drop {slot : Nat} {buffer : Buffer} (hbuffer : r.buffer? slot = some buffer) :
    Happens r (.drop slot) none ⟨r.pool.takeBack buffer, r.slots.set slot none⟩
  | miss {event : Event} {slot : Nat} (hslot : event.slot? = some slot)
      (hnone : r.buffer? slot = none) :
    Happens r event (some .emptySlot) r

/-- An action on a buffer keeps its kind and never makes it shorter. -/
theorem happens_use (r : Rentals) {event : Event} {slot : Nat}
    {action : Buffer → Except Panic Buffer} (huse : event.IsUse) (hslot : event.slot? = some slot)
    (haction : ∀ b b', action b = .ok b' → b.size ≤ b'.size ∧
      ∀ bytes, b = .rented bytes → b' = .rented b'.slice) :
    r.Happens event (r.use slot action).1 (r.use slot action).2 := by
  unfold use
  cases hbuffer : r.buffer? slot with
  | none => exact .miss hslot hbuffer
  | some buffer =>
    dsimp only
    cases hchanged : action buffer with
    | error panic => exact .panic huse hslot hbuffer
    | ok changed =>
      obtain ⟨hsize, hrented⟩ := haction buffer changed hchanged
      exact .use huse hslot hbuffer hsize hrented

theorem happens_step (r : Rentals) (event : Event) :
    r.Happens event (r.step event).1 (r.step event).2 := by
  cases event with
  | rent size =>
    by_cases hsize : size ≤ Buffer.maxBytes
    · rw [step_rent r hsize]
      exact .rent hsize
    · simp only [step, Rentals.rent, Pool.lend]
      rw [if_pos (Nat.lt_of_not_le hsize)]
      exact .refuse (Nat.lt_of_not_le hsize)
  | ensure slot len =>
    refine happens_use r ⟨rfl, rfl⟩ rfl fun b b' hgrow => ?_
    rw [Buffer.eq_reserve_of_grow hgrow]
    refine ⟨(Buffer.slice_prefix_reserve len b).length_le, ?_⟩
    rintro bytes rfl
    simp only [Buffer.reserve]
    split <;> rfl
  | store slot pos bytes =>
    refine happens_use r ⟨rfl, rfl⟩ rfl fun b b' hstore => ?_
    refine ⟨Nat.le_of_eq (Buffer.size_store hstore).symm, ?_⟩
    rintro bytes rfl
    rw [(Buffer.store_eq_ok_iff.mp hstore).2]
    rfl
  | drop slot =>
    cases hbuffer : r.buffer? slot with
    | none =>
      simp only [step, Rentals.drop, hbuffer]
      exact .miss rfl hbuffer
    | some buffer =>
      rw [step_drop hbuffer]
      exact .drop hbuffer

def happened (r : Rentals) : List Event → List Event
  | [] => []
  | event :: rest =>
    if (r.step event).1 = none then event :: happened (r.step event).2 rest
    else happened (r.step event).2 rest

theorem Happens.rented {r r' : Rentals} {event : Event} {fault : Option Fault}
    (h : r.Happens event fault r') :
    r'.pool.rented = r.pool.rented + if fault = none ∧ event.isRent then 1 else 0 := by
  cases h with
  | rent hsize => rfl
  | refuse hsize => rfl
  | use huse hslot hbuffer hsize hrented => simp [huse.1]
  | panic huse hslot hbuffer => simp
  | drop hbuffer => rfl
  | miss hslot hnone => simp

theorem Happens.returned {r r' : Rentals} {event : Event} {fault : Option Fault}
    (h : r.Happens event fault r') :
    r'.pool.returned = r.pool.returned + if fault = none ∧ event.isDrop then 1 else 0 := by
  cases h with
  | rent hsize => rfl
  | refuse hsize => rfl
  | use huse hslot hbuffer hsize hrented => simp [huse.2]
  | panic huse hslot hbuffer => simp
  | drop hbuffer => rfl
  | miss hslot hnone => simp

theorem counters_run (r : Rentals) (events : List Event) :
    (r.run events).pool.rented = r.pool.rented + (r.happened events).countP Event.isRent ∧
    (r.run events).pool.returned = r.pool.returned + (r.happened events).countP Event.isDrop := by
  induction events generalizing r with
  | nil => exact ⟨rfl, rfl⟩
  | cons event rest ih =>
    have hrented := (r.happens_step event).rented
    have hreturned := (r.happens_step event).returned
    obtain ⟨hrest, hrest'⟩ := ih (r.step event).2
    change ((r.step event).2.run rest).pool.rented = _ ∧ ((r.step event).2.run rest).pool.returned = _
    rw [hrest, hrest', hrented, hreturned, happened]
    by_cases hfault : (r.step event).1 = none
    · simp only [hfault, true_and, if_true, List.countP_cons]
      omega
    · simp [hfault]

theorem getElem?_of_buffer? {r : Rentals} {slot : Nat} {buffer : Buffer}
    (h : r.buffer? slot = some buffer) : r.slots[slot]? = some (some buffer) :=
  Option.join_eq_some_iff.mp h

/-- A count after one entry of a list is replaced. -/
theorem countP_set_add {α : Type} (p : α → Bool) {l : List α} {i : Nat} {a : α}
    (h : l[i]? = some a) (b : α) :
    (l.set i b).countP p + (if p a then 1 else 0) = l.countP p + if p b then 1 else 0 := by
  obtain ⟨hlt, rfl⟩ := List.getElem?_eq_some_iff.mp h
  rw [List.countP_set hlt]
  by_cases ha : p l[i] = true
  · have hpos : 0 < l.countP p := List.countP_pos_iff.mpr ⟨_, List.getElem_mem hlt, ha⟩
    simp only [ha, if_true]
    omega
  · simp [ha]

/-- The counters tell how many buffers are rented, and not too many wait. -/
structure Balanced (r : Rentals) : Prop where
  rented_eq : r.pool.rented = r.pool.returned + r.live
  idle_le : r.pool.idle ≤ Pool.limit

theorem Balanced.happens {r r' : Rentals} {event : Event} {fault : Option Fault}
    (hr : r.Balanced) (h : r.Happens event fault r') : r'.Balanced := by
  obtain ⟨hrented, hidle⟩ := hr
  unfold live at hrented
  cases h with
  | rent hsize =>
    refine ⟨?_, ?_⟩
    · simp only [Pool.rent, live, List.countP_append, List.countP_singleton, Option.isSome_some,
        if_true]
      omega
    · rw [Pool.idle_rent]
      omega
  | refuse hsize =>
    refine ⟨hrented, ?_⟩
    simp only [Pool.refuse, Pool.idle, List.length_tail] at hidle ⊢
    omega
  | @use _ slot buffer changed huse hslot hbuffer hsize hkind =>
    have hcount := countP_set_add Option.isSome (getElem?_of_buffer? hbuffer) (some changed)
    refine ⟨?_, hidle⟩
    simp only [live, Option.isSome_some, if_true] at hcount ⊢
    omega
  | panic huse hslot hbuffer => exact ⟨hrented, hidle⟩
  | @drop slot buffer hbuffer =>
    have hcount := countP_set_add Option.isSome (getElem?_of_buffer? hbuffer) none
    refine ⟨?_, ?_⟩
    · simp only [live, Pool.takeBack, Option.isSome_some, Option.isSome_none, Bool.false_eq_true,
        if_true, if_false] at hcount ⊢
      omega
    · rw [Pool.idle_takeBack]
      split <;> omega
  | miss hslot hnone => exact ⟨hrented, hidle⟩

theorem Balanced.run {r : Rentals} (h : r.Balanced) (events : List Event) :
    (r.run events).Balanced := by
  induction events generalizing r with
  | nil => exact h
  | cons event rest ih => exact ih (h.happens (r.happens_step event))

theorem balanced_empty : ({} : Rentals).Balanced := ⟨rfl, Nat.zero_le _⟩

end Rentals

end Stencil
