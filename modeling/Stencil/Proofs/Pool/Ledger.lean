import Stencil.Body.Run
import Stencil.Proofs.Pool.Counters

/-! Which buffer is where: each one that was ever made waits in the pool, or is rented once, or is
gone. -/
namespace Stencil

namespace Rentals

/-- A buffer that waits for reuse: which of all buffers it is, when it came back, and the bytes that
it had then. -/
structure Waiting where
  number : Nat
  since : Nat
  bytes : List UInt8

structure Held where
  number : Nat
  bytes : List UInt8

/-- Where the buffers are that have been made. Time passes when one is kept for reuse. -/
structure Ledger where
  made : Nat := 0
  time : Nat := 0
  waiting : List Waiting := []
  /-- The buffers by slot. -/
  held : List (Option Held) := []
  gone : List Nat := []

namespace Ledger

/-- What may become of the buffers at an event. -/
inductive Move : Ledger → Event → Ledger → Prop where
  | make {l : Ledger} {size : Nat} {bytes : List UInt8} (hsize : size ≤ Buffer.maxBytes)
      (hnone : l.waiting = []) (hlength : bytes.length = size) :
    Move l (.rent size) { l with made := l.made + 1, held := l.held ++ [some ⟨l.made, bytes⟩] }
  | reuse {l : Ledger} {size : Nat} {w : Waiting} {before after : List Waiting} {bytes : List UInt8}
      (hsize : size ≤ Buffer.maxBytes) (hwaiting : l.waiting = before ++ w :: after)
      (hlatest : ∀ o ∈ before ++ after, o.since < w.since) (hbytes : w.bytes <+: bytes)
      (hlength : bytes.length = max size w.bytes.length) :
    Move l (.rent size)
      { l with waiting := before ++ after, held := l.held ++ [some ⟨w.number, bytes⟩] }
  -- what cannot be made so large is taken out of the pool before that is found out
  | refuse {l : Ledger} {size : Nat} (hsize : Buffer.maxBytes < size) (hnone : l.waiting = []) :
    Move l (.rent size) l
  | lose {l : Ledger} {size : Nat} {w : Waiting} {before after : List Waiting}
      (hsize : Buffer.maxBytes < size) (hwaiting : l.waiting = before ++ w :: after)
      (hlatest : ∀ o ∈ before ++ after, o.since < w.since) :
    Move l (.rent size) { l with waiting := before ++ after, gone := w.number :: l.gone }
  | use {l : Ledger} {event : Event} {slot : Nat} {h : Held} {bytes : List UInt8}
      (huse : event.IsUse) (hslot : event.slot? = some slot)
      (hheld : l.held[slot]? = some (some h)) (hlength : h.bytes.length ≤ bytes.length) :
    Move l event { l with held := l.held.set slot (some ⟨h.number, bytes⟩) }
  | keep {l : Ledger} {slot : Nat} {h : Held} (hheld : l.held[slot]? = some (some h))
      (hroom : l.waiting.length < Pool.limit) :
    Move l (.drop slot)
      { l with
        time := l.time + 1
        waiting := ⟨h.number, l.time, h.bytes⟩ :: l.waiting
        held := l.held.set slot none }
  | discard {l : Ledger} {slot : Nat} {h : Held} (hheld : l.held[slot]? = some (some h))
      (hfull : l.waiting.length = Pool.limit) :
    Move l (.drop slot) { l with held := l.held.set slot none, gone := h.number :: l.gone }
  | miss {l : Ledger} {event : Event} {slot : Nat} (hslot : event.slot? = some slot)
      (hempty : (l.held[slot]?).join = none) :
    Move l event l

/-- The ledger tells of a pool and its buffers. -/
structure Shows (l : Ledger) (r : Rentals) : Prop where
  free_eq : r.pool.free = l.waiting.map Waiting.bytes
  slots_eq : r.slots = l.held.map (Option.map fun h => .rented h.bytes)

/-- The last that came back stands first. -/
structure Ordered (l : Ledger) : Prop where
  pairwise : l.waiting.Pairwise fun a b => b.since < a.since
  before_now : ∀ w ∈ l.waiting, w.since < l.time

def places (l : Ledger) (number : Nat) : Nat :=
  l.waiting.countP (·.number = number) + l.held.countP (·.any (·.number = number)) +
    l.gone.count number

/-- Each buffer that was made is in exactly one place. -/
def Owned (l : Ledger) : Prop := ∀ number, l.places number = if number < l.made then 1 else 0

variable {l l' : Ledger} {r r' : Rentals} {event : Event} {fault : Option Fault}

theorem Move.ordered (h : Move l event l') (hl : l.Ordered) : l'.Ordered := by
  have hshorter {w : Waiting} {before after : List Waiting}
      (hwaiting : l.waiting = before ++ w :: after) :
      (before ++ after).Pairwise (fun a b => b.since < a.since) ∧
        ∀ o ∈ before ++ after, o.since < l.time := by
    have hsub : (before ++ after).Sublist l.waiting := by
      rw [hwaiting]
      exact (List.sublist_cons_self w after).append_left before
    exact ⟨hl.pairwise.sublist hsub, fun o ho => hl.before_now o (hsub.mem ho)⟩
  cases h with
  | make => exact ⟨hl.pairwise, hl.before_now⟩
  | reuse hsize hwaiting => exact ⟨(hshorter hwaiting).1, (hshorter hwaiting).2⟩
  | refuse => exact hl
  | lose hsize hwaiting => exact ⟨(hshorter hwaiting).1, (hshorter hwaiting).2⟩
  | use => exact ⟨hl.pairwise, hl.before_now⟩
  | keep =>
    refine ⟨hl.pairwise.cons fun w hw => hl.before_now w hw, ?_⟩
    rintro w hw
    rcases List.mem_cons.mp hw with rfl | hw
    · exact Nat.lt_succ_self _
    · exact Nat.lt_succ_of_lt (hl.before_now w hw)
  | discard => exact ⟨hl.pairwise, hl.before_now⟩
  | miss => exact hl

theorem countP_set_held {slot : Nat} {h : Held} (hheld : l.held[slot]? = some (some h))
    (after : Option Held) (number : Nat) :
    (l.held.set slot after).countP (·.any (·.number = number)) +
        (if h.number = number then 1 else 0) =
      l.held.countP (·.any (·.number = number)) +
        if after.any (·.number = number) then 1 else 0 := by
  simpa using countP_set_add (Option.any fun h => decide (h.number = number)) hheld after

theorem Move.owned (h : Move l event l') (hl : l.Owned) : l'.Owned := by
  intro number
  have hplaces := hl number
  simp only [places] at hplaces ⊢
  cases h with
  | make hsize hnone hlength =>
    simp only [List.countP_append, List.countP_singleton, Option.any_some, decide_eq_true_eq]
    split at hplaces <;> split <;> split <;> omega
  | reuse hsize hwaiting hlatest hbytes hlength =>
    rw [hwaiting] at hplaces
    simp only [List.countP_append, List.countP_cons, List.countP_nil, Option.any_some,
      decide_eq_true_eq] at hplaces ⊢
    omega
  | refuse => exact hplaces
  | lose hsize hwaiting hlatest =>
    rw [hwaiting] at hplaces
    simp only [List.countP_append, List.countP_cons, List.count_cons, beq_iff_eq,
      decide_eq_true_eq] at hplaces ⊢
    omega
  | @use _ slot h bytes huse hslot hheld hlength =>
    have hcount := countP_set_held hheld (some ⟨h.number, bytes⟩) number
    simp only [Option.any_some, decide_eq_true_eq] at hcount ⊢
    omega
  | keep hheld hroom =>
    have hcount := countP_set_held hheld none number
    simp only [Option.any_none, Bool.false_eq_true, if_false, List.countP_cons,
      decide_eq_true_eq] at hcount ⊢
    omega
  | discard hheld hfull =>
    have hcount := countP_set_held hheld none number
    simp only [Option.any_none, Bool.false_eq_true, if_false, List.count_cons,
      beq_iff_eq] at hcount ⊢
    omega
  | miss => exact hplaces

theorem Shows.buffer?_eq (h : l.Shows r) (slot : Nat) :
    r.buffer? slot = (l.held[slot]?).join.map fun held => .rented held.bytes := by
  rw [buffer?, h.slots_eq, List.getElem?_map]
  cases l.held[slot]? <;> rfl

theorem Shows.exists_held (h : l.Shows r) {slot : Nat} {buffer : Buffer}
    (hbuffer : r.buffer? slot = some buffer) :
    ∃ held, l.held[slot]? = some (some held) ∧ buffer = .rented held.bytes := by
  rw [h.buffer?_eq slot] at hbuffer
  obtain ⟨held, hheld, rfl⟩ := Option.map_eq_some_iff.mp hbuffer
  exact ⟨held, Option.join_eq_some_iff.mp hheld, rfl⟩

theorem Shows.idle_eq (h : l.Shows r) : r.pool.idle = l.waiting.length := by
  rw [Pool.idle, h.free_eq, List.length_map]

theorem Shows.exists_rent (h : l.Shows r) (hordered : l.Ordered) {size : Nat}
    (hsize : size ≤ Buffer.maxBytes) :
    ∃ l', Move l (.rent size) l' ∧
      l'.Shows ⟨(r.pool.rent size).2, r.slots ++ [some (r.pool.rent size).1]⟩ := by
  obtain ⟨hfree, hslots⟩ := h
  have hpairwise := hordered.pairwise
  cases hwaiting : l.waiting with
  | nil =>
    rw [hwaiting] at hfree
    have hlength : (Pool.padded size []).length = size := by
      rw [Pool.length_padded, List.length_nil, Nat.max_zero]
    refine ⟨_, .make hsize hwaiting hlength, ?_, ?_⟩
    · simp [Pool.rent, hfree, hwaiting]
    · simp [Pool.rent, hfree, hslots]
  | cons w rest =>
    rw [hwaiting] at hfree hpairwise
    have hsplit : l.waiting = [] ++ w :: rest := hwaiting
    have hlatest := (List.pairwise_cons.mp hpairwise).1
    have hbytes : w.bytes <+: Pool.padded size w.bytes := List.prefix_append _ _
    refine ⟨_, .reuse hsize hsplit hlatest hbytes (Pool.length_padded size w.bytes), ?_, ?_⟩
    · simp [Pool.rent, hfree]
    · simp [Pool.rent, hfree, hslots]

theorem Shows.exists_refuse (h : l.Shows r) (hordered : l.Ordered) {size : Nat}
    (hsize : Buffer.maxBytes < size) :
    ∃ l', Move l (.rent size) l' ∧ l'.Shows { r with pool := r.pool.refuse } := by
  obtain ⟨hfree, hslots⟩ := h
  have hpairwise := hordered.pairwise
  cases hwaiting : l.waiting with
  | nil =>
    rw [hwaiting] at hfree
    exact ⟨l, .refuse hsize hwaiting, by simp [Pool.refuse, hfree, hwaiting], hslots⟩
  | cons w rest =>
    rw [hwaiting] at hfree hpairwise
    have hsplit : l.waiting = [] ++ w :: rest := hwaiting
    have hlatest := (List.pairwise_cons.mp hpairwise).1
    refine ⟨_, .lose hsize hsplit hlatest, ?_, hslots⟩
    simp [Pool.refuse, hfree]

theorem Shows.exists_drop (h : l.Shows r) (hidle : r.pool.idle ≤ Pool.limit) {slot : Nat}
    {buffer : Buffer} (hbuffer : r.buffer? slot = some buffer) :
    ∃ l', Move l (.drop slot) l' ∧
      l'.Shows ⟨r.pool.takeBack buffer, r.slots.set slot none⟩ := by
  obtain ⟨held, hheld, rfl⟩ := h.exists_held hbuffer
  have hcount := h.idle_eq
  obtain ⟨hfree, hslots⟩ := h
  by_cases hroom : r.pool.idle < Pool.limit
  · refine ⟨_, .keep hheld (hcount ▸ hroom), ?_, ?_⟩
    · simp [Pool.takeBack, hroom, hfree, Buffer.slice]
    · simp [hslots, List.map_set]
  · refine ⟨_, .discard hheld (by omega), ?_, ?_⟩
    · simp [Pool.takeBack, hroom, hfree]
    · simp [hslots, List.map_set]

/-- Whatever an event does, the buffers move as they may. -/
theorem Shows.exists_move (h : l.Shows r) (hordered : l.Ordered)
    (hidle : r.pool.idle ≤ Pool.limit) (hhappens : r.Happens event fault r') :
    ∃ l', Move l event l' ∧ l'.Shows r' := by
  cases hhappens with
  | rent hsize => exact h.exists_rent hordered hsize
  | refuse hsize => exact h.exists_refuse hordered hsize
  | @use _ slot buffer changed huse hslot hbuffer hsize hrented =>
    obtain ⟨held, hheld, rfl⟩ := h.exists_held hbuffer
    have hlength : held.bytes.length ≤ changed.slice.length := hsize
    refine ⟨_, .use huse hslot hheld hlength, h.free_eq, ?_⟩
    rw [hrented held.bytes rfl, h.slots_eq, List.map_set]
    rfl
  | @panic _ slot _ _ huse hslot hbuffer =>
    obtain ⟨held, hheld, rfl⟩ := h.exists_held hbuffer
    obtain ⟨hlt, hget⟩ := List.getElem?_eq_some_iff.mp hheld
    have hsame : l.held.set slot (some held) = l.held := by rw [← hget, List.set_getElem_self]
    refine ⟨_, .use huse hslot hheld (Nat.le_refl _), h.free_eq, ?_⟩
    rw [hsame]
    exact h.slots_eq
  | drop hbuffer => exact h.exists_drop hidle hbuffer
  | @miss _ slot hslot hnone =>
    refine ⟨l, .miss hslot ?_, h⟩
    rw [h.buffer?_eq slot, Option.map_eq_none_iff] at hnone
    exact hnone

/-- Ledgers that tell of a run, event by event, up to the last of them. -/
inductive Follows : Rentals → Ledger → List Event → Ledger → Prop where
  | done {r : Rentals} {l : Ledger} (hshows : l.Shows r) : Follows r l [] l
  | step {r : Rentals} {l next last : Ledger} {event : Event} {rest : List Event}
      (hshows : l.Shows r) (hmove : Move l event next)
      (hrest : Follows (r.step event).2 next rest last) : Follows r l (event :: rest) last

theorem Follows.owned {events : List Event} (h : Follows r l events l') (hl : l.Owned) :
    l'.Owned := by
  induction h with
  | done => exact hl
  | step hshows hmove hrest ih => exact ih (hmove.owned hl)

theorem Follows.shows {events : List Event} (h : Follows r l events l') :
    l'.Shows (r.run events) := by
  induction h with
  | done hshows => exact hshows
  | step hshows hmove hrest ih => exact ih

theorem Shows.exists_follows (h : l.Shows r) (hordered : l.Ordered) (hr : r.Balanced)
    (events : List Event) : ∃ last, Follows r l events last := by
  induction events generalizing r l with
  | nil => exact ⟨l, .done h⟩
  | cons event rest ih =>
    have hhappens := r.happens_step event
    obtain ⟨next, hmove, hnext⟩ := h.exists_move hordered hr.idle_le hhappens
    obtain ⟨last, hlast⟩ := ih hnext (hmove.ordered hordered) (hr.happens hhappens)
    exact ⟨last, .step h hmove hlast⟩

theorem shows_empty : ({} : Ledger).Shows {} := ⟨rfl, rfl⟩

theorem ordered_empty : ({} : Ledger).Ordered := ⟨.nil, by simp⟩

theorem owned_empty : ({} : Ledger).Owned := fun number => by simp [places]

end Ledger

/-- The account of a run that has led to a pool and its buffers. -/
structure Accounts (events : List Event) (r : Rentals) : Prop where
  rented_eq : r.pool.rented = (happened {} events).countP Event.isRent
  returned_eq : r.pool.returned = (happened {} events).countP Event.isDrop
  lent_eq : r.pool.lent = r.live
  idle_le : r.pool.idle ≤ 32
  idle_rent : ∀ size ≤ Buffer.maxBytes,
    (r.step (.rent size)).1 = none ∧ (r.step (.rent size)).2.pool.idle = r.pool.idle - 1
  idle_drop : ∀ slot buffer, r.buffer? slot = some buffer →
    (r.step (.drop slot)).1 = none ∧
      (r.step (.drop slot)).2.pool.idle = if r.pool.idle = 32 then 32 else r.pool.idle + 1
  ledger : ∃ l, Ledger.Follows {} {} events l ∧ l.Shows r ∧ l.Owned

end Rentals

/-- One buffer was rented and given back. -/
structure Pool.CountsOne (before after : Pool) : Prop where
  rented_eq : after.rented = before.rented + 1
  returned_eq : after.returned = before.returned + 1
  lent_eq : after.lent = before.lent

namespace BufferWrites

variable {b : BufferWrites} {size : Nat}

theorem acquire_pooled (hstorage : b.storage = .pooled size) (hsize : size ≤ Buffer.maxBytes)
    (pool : Pool) : b.acquire pool = (.ok (pool.rent size).1, (pool.rent size).2) := by
  simp only [acquire, hstorage, Pool.lend]
  rw [if_neg (Nat.not_lt.mpr hsize)]

/-- Whatever has become of the buffer, it is counted once. -/
theorem countsOne_release (hstorage : b.storage = .pooled size) (pool : Pool) (final : Buffer) :
    pool.CountsOne (b.release final (pool.rent size).2) := by
  simp only [release, hstorage]
  refine ⟨rfl, rfl, ?_⟩
  exact Nat.add_sub_add_right pool.rented 1 pool.returned

theorem countsOne_run (hstorage : b.storage = .pooled size) (hsize : size ≤ Buffer.maxBytes)
    (pool : Pool) (env : Environment) : pool.CountsOne (b.run pool env).pool := by
  simp only [run, acquire_pooled hstorage hsize pool]
  exact countsOne_release hstorage pool _

theorem run_of_tooLarge (hstorage : b.storage = .pooled size) (hsize : Buffer.maxBytes < size)
    (pool : Pool) (env : Environment) : b.run pool env = ⟨.error .tooLarge, pool.refuse⟩ := by
  simp only [run, acquire, hstorage, Pool.lend]
  rw [if_pos hsize]

end BufferWrites

/-- Each run has its account: the counters are the numbers of buffers that were rented and given
back, and each buffer moves as the ledger says. A body with a rented buffer counts one of each,
however it ends and whatever it holds then; one that asks for too much gets none and counts
nothing. -/
theorem Rentals.accounts_of_run (events : List Event) :
    Accounts events (run {} events) ∧
    ∀ (b : BufferWrites) (size : Nat) (pool : Pool) (env : Environment), b.storage = .pooled size →
      (size ≤ Buffer.maxBytes → pool.CountsOne (b.run pool env).pool ∧
        ∃ buffer left, b.acquire pool = (.ok buffer, left) ∧
          ∀ final, pool.CountsOne (b.release final left)) ∧
      (Buffer.maxBytes < size → b.run pool env = ⟨.error .tooLarge, pool.refuse⟩) := by
  have hbalanced := balanced_empty.run events
  obtain ⟨hrented, hreturned⟩ := counters_run {} events
  refine ⟨⟨by simpa using hrented, by simpa using hreturned, ?_, hbalanced.idle_le, ?_, ?_, ?_⟩, ?_⟩
  · rw [Pool.lent, hbalanced.rented_eq, Nat.add_sub_cancel_left]
  · intro size hsize
    rw [step_rent _ hsize]
    exact ⟨rfl, Pool.idle_rent _ size⟩
  · intro slot buffer hbuffer
    have hidle : (run {} events).pool.idle ≤ 32 := hbalanced.idle_le
    rw [step_drop hbuffer]
    refine ⟨rfl, ?_⟩
    dsimp only
    rw [Pool.idle_takeBack, Pool.limit]
    split <;> split <;> omega
  · obtain ⟨l, hl⟩ := Ledger.shows_empty.exists_follows Ledger.ordered_empty balanced_empty events
    exact ⟨l, hl, hl.shows, hl.owned Ledger.owned_empty⟩
  · intro b size pool env hstorage
    refine ⟨fun hsize => ?_, fun hsize => BufferWrites.run_of_tooLarge hstorage hsize pool env⟩
    exact ⟨BufferWrites.countsOne_run hstorage hsize pool env, _, _,
      BufferWrites.acquire_pooled hstorage hsize pool, BufferWrites.countsOne_release hstorage pool⟩

end Stencil
