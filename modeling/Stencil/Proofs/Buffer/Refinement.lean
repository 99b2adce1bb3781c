import Stencil.Pool
import Stencil.Proofs.Buffer.Tape

/-! Buffers of every kind show the beginning of one endless tape: growth shows more of it and
changes nothing on it. -/
namespace Stencil

/-- A byte at every place. -/
abbrev Tape := Nat → UInt8

def Tape.put (t : Tape) (pos : Nat) (bytes : List UInt8) : Tape := fun i =>
  if i < pos then t i else (bytes[i - pos]?).getD (t i)

namespace Buffer

inductive Deed where
  /-- Make room for at least so many bytes. -/
  | ensure (len : Nat)
  | store (pos : Nat) (bytes : List UInt8)
  deriving DecidableEq, Repr

/-- One deed. A store outside of the slice breaks off. -/
def perform (b : Buffer) : Deed → Except Panic Buffer
  | .ensure len => b.grow len
  | .store pos bytes => b.store pos bytes

def performAll (b : Buffer) (deeds : List Deed) : Except Panic Buffer := deeds.foldlM perform b

def Deed.onTape (t : Tape) : Deed → Tape
  | .ensure _ => t
  | .store pos bytes => t.put pos bytes

/-- The tape that a buffer shows the beginning of. All bytes behind the slice are zeros. -/
def tape (b : Buffer) : Tape := fun i => (b.slice[i]?).getD 0

inductive Origin where
  /-- A new buffer with so many bytes in place. -/
  | inPlace (size : Nat)
  /-- A buffer of at least so many bytes from a pool. -/
  | lent (pool : Pool) (size : Nat)

namespace Origin

def make : Origin → Except Panic Buffer
  | .inPlace size => .ok (.ofSize size)
  | .lent pool size => (pool.lend size).map Prod.fst

/-- The forms that a buffer can take. One with bytes in place keeps their number, and holds either
none or more than these elsewhere; a lent one stays as it is. -/
inductive Shapes : Origin → Buffer → Prop where
  | unspilled {size : Nat} {inline : List UInt8} (hinline : inline.length = size) :
    Shapes (.inPlace size) (.stack inline [])
  | spilled {size : Nat} {inline spilled : List UInt8} (hinline : inline.length = size)
    (hspilled : size < spilled.length) : Shapes (.inPlace size) (.stack inline spilled)
  | lent {pool : Pool} {size : Nat} {bytes : List UInt8} : Shapes (.lent pool size) (.rented bytes)

theorem shapes_of_make {o : Origin} {b : Buffer} (h : o.make = .ok b) : o.Shapes b := by
  cases o with
  | inPlace size =>
    cases h
    exact .unspilled List.length_replicate
  | lent pool size =>
    simp only [make, Pool.lend] at h
    split at h
    · cases h
    · cases h
      exact .lent

end Origin

/-- Growth adds zeros behind the slice, and nothing else. -/
theorem slice_reserve_eq_append (len : Nat) (b : Buffer) :
    (b.reserve len).slice = b.slice ++ zeros ((b.reserve len).size - b.size) := by
  rw [size, slice_reserve, size]
  split
  · simp [extend, zeros]
  · simp [zeros]

theorem tape_reserve (len : Nat) (b : Buffer) : (b.reserve len).tape = b.tape := by
  funext i
  rw [tape, tape, slice_reserve_eq_append, List.getElem?_append]
  split
  · rfl
  · next h =>
    rw [List.getElem?_eq_none (Nat.le_of_not_lt h), zeros, List.getElem?_replicate]
    split <;> rfl

theorem store_eq_ok_iff {b b' : Buffer} {pos : Nat} {bytes : List UInt8} :
    b.store pos bytes = .ok b' ↔ pos + bytes.length ≤ b.size ∧
      b' = b.withSlice (b.slice.take pos ++ overwrite bytes (b.slice.drop pos)) := by
  unfold store
  split
  · next h => simp [h, eq_comm]
  · next h => simp [h]

/-- The slice after a store that fits. -/
theorem length_stored {slice bytes : List UInt8} {pos : Nat}
    (h : pos + bytes.length ≤ slice.length) :
    (slice.take pos ++ overwrite bytes (slice.drop pos)).length = slice.length := by
  rw [List.length_append, length_overwrite]
  · simp only [List.length_take, List.length_drop]
    omega
  · simp only [List.length_drop]
    omega

theorem slice_store {b b' : Buffer} {pos : Nat} {bytes : List UInt8}
    (h : b.store pos bytes = .ok b') :
    b'.slice = b.slice.take pos ++ overwrite bytes (b.slice.drop pos) := by
  obtain ⟨hroom, rfl⟩ := store_eq_ok_iff.mp h
  exact slice_withSlice (length_stored hroom)

theorem size_store {b b' : Buffer} {pos : Nat} {bytes : List UInt8}
    (h : b.store pos bytes = .ok b') : b'.size = b.size := by
  rw [size, slice_store h]
  exact length_stored (store_eq_ok_iff.mp h).1

theorem tape_store {b b' : Buffer} {pos : Nat} {bytes : List UInt8}
    (h : b.store pos bytes = .ok b') : b'.tape = b.tape.put pos bytes := by
  have hroom : pos + bytes.length ≤ b.slice.length := (store_eq_ok_iff.mp h).1
  funext i
  rw [tape, slice_store h, Tape.put, tape, overwrite, List.getElem?_append, List.length_take,
    Nat.min_eq_left (by omega)]
  by_cases hbefore : i < pos
  · rw [if_pos hbefore, if_pos hbefore, List.getElem?_take_of_lt hbefore]
  · rw [if_neg hbefore, if_neg hbefore, List.getElem?_append]
    split
    · next hinside => rw [List.getElem?_eq_getElem hinside, Option.getD_some, Option.getD_some]
    · next hbehind =>
      rw [List.getElem?_drop, List.getElem?_drop, List.getElem?_eq_none (Nat.le_of_not_lt hbehind),
        Option.getD_none]
      congr 2
      omega

theorem isEmpty_of_longer {n : Nat} {spilled : List UInt8} (h : n < spilled.length) :
    spilled.isEmpty = false := by
  rw [List.isEmpty_eq_false_iff]
  exact List.ne_nil_of_length_pos (by omega)

namespace Origin

variable {o : Origin} {b b' : Buffer}

theorem Shapes.reserve (h : o.Shapes b) (len : Nat) : o.Shapes (b.reserve len) := by
  cases h with
  | @unspilled size inline hinline =>
    by_cases hfits : len ≤ inline.length
    · simpa [Buffer.reserve, hfits] using Shapes.unspilled hinline
    · have hgrown : size < (extend inline len).length := by
        rw [length_extend (by omega)]
        exact Nat.lt_of_lt_of_le (by omega) (le_growthSize _ _)
      simpa [Buffer.reserve, hfits] using Shapes.spilled hinline hgrown
  | @spilled size inline spilled hinline hspilled =>
    have hempty := isEmpty_of_longer hspilled
    by_cases hshort : spilled.length < len
    · have hgrown : size < (extend spilled len).length := by
        rw [length_extend (by omega)]
        exact Nat.lt_of_lt_of_le (by omega) (le_growthSize _ _)
      simpa [Buffer.reserve, hempty, hshort] using Shapes.spilled hinline hgrown
    · simpa [Buffer.reserve, hempty, hshort] using Shapes.spilled hinline hspilled
  | @lent pool size bytes =>
    by_cases hshort : bytes.length < len
    · simpa [Buffer.reserve, hshort] using Shapes.lent
    · simpa [Buffer.reserve, hshort] using Shapes.lent

theorem Shapes.store (h : o.Shapes b) {pos : Nat} {bytes : List UInt8}
    (hstore : b.store pos bytes = .ok b') : o.Shapes b' := by
  obtain ⟨hroom, rfl⟩ := store_eq_ok_iff.mp hstore
  have hlength := length_stored hroom
  cases h with
  | unspilled hinline => exact .unspilled (hlength.trans hinline)
  | @spilled size inline spilled hinline hspilled =>
    have hempty := isEmpty_of_longer hspilled
    have hslice := slice_spilled inline (Nat.zero_lt_of_lt hspilled)
    simp only [withSlice, hempty, Bool.false_eq_true, ↓reduceIte]
    refine .spilled hinline ?_
    rwa [hlength, hslice]
  | lent => exact .lent

end Origin

section Run

variable {o : Origin} {b b' : Buffer}

/-- One deed keeps the form of the buffer, takes nothing off its slice, and does to the tape what
it says. -/
theorem perform_step (h : o.Shapes b) {deed : Deed} (hdeed : b.perform deed = .ok b') :
    o.Shapes b' ∧ b.size ≤ b'.size ∧ b'.tape = deed.onTape b.tape := by
  cases deed with
  | ensure len =>
    obtain rfl := eq_reserve_of_grow hdeed
    exact ⟨h.reserve len, (slice_prefix_reserve len b).length_le, tape_reserve len b⟩
  | store pos bytes =>
    exact ⟨h.store hdeed, Nat.le_of_eq (size_store hdeed).symm, tape_store hdeed⟩

theorem performAll_run (h : o.Shapes b) {deeds : List Deed} (hdeeds : b.performAll deeds = .ok b') :
    o.Shapes b' ∧ b.size ≤ b'.size ∧ b'.tape = deeds.foldl Deed.onTape b.tape := by
  induction deeds generalizing b with
  | nil =>
    cases hdeeds
    exact ⟨h, Nat.le_refl _, rfl⟩
  | cons deed deeds ih =>
    cases hdeed : b.perform deed with
    | error panic => simp [performAll, hdeed, bind, Except.bind] at hdeeds
    | ok next =>
      have hrest : next.performAll deeds = .ok b' := by
        simpa [performAll, hdeed, bind, Except.bind] using hdeeds
      obtain ⟨hnext, hsize, htape⟩ := perform_step h hdeed
      obtain ⟨hlast, hsizes, htapes⟩ := ih hnext hrest
      refine ⟨hlast, Nat.le_trans hsize hsizes, ?_⟩
      rw [htapes, htape, List.foldl_cons]

end Run

/-- Write pieces one behind the other from the beginning, and take the text before the cursor. -/
def written (b : Buffer) (pieces : List (List UInt8)) : Except Panic (List Char) := do
  (← pieces.foldlM Cursor.append ⟨b, 0⟩).text

end Buffer

namespace Cursor

/-- The text before the cursor, whatever bytes stand there. -/
theorem Holds.text_lossy {c : Cursor} {bytes : List UInt8} (h : c.Holds bytes) :
    c.text = .ok (Text.decodeLossy bytes) := by
  rw [Cursor.text, Buffer.text, if_pos h.pos_le, h.take_eq]

/-- An append either puts the bytes behind those that are there, or there is no memory for it. -/
theorem Holds.append_cases {c : Cursor} {bytes : List UInt8} (h : c.Holds bytes)
    (more : List UInt8) :
    (∃ c', c.append more = .ok c' ∧ c'.Holds (bytes ++ more)) ∨
      c.append more = .error .tooLarge ∧ Buffer.ample < (bytes ++ more).length := by
  obtain hgrow | ⟨hgrow, hlong⟩ := c.buffer.grow_cases (c.pos + more.length)
  · exact .inl (h.append_of_grow hgrow)
  · right
    rw [List.length_append, ← h.1]
    refine ⟨?_, hlong⟩
    simp [Cursor.append, hgrow, bind, Except.bind]

theorem Holds.foldlM_append_cases {c : Cursor} {bytes : List UInt8} (h : c.Holds bytes)
    (pieces : List (List UInt8)) :
    (∃ c', pieces.foldlM Cursor.append c = .ok c' ∧ c'.Holds (bytes ++ pieces.flatten)) ∨
      pieces.foldlM Cursor.append c = .error .tooLarge ∧
        Buffer.ample < (bytes ++ pieces.flatten).length := by
  induction pieces generalizing c bytes with
  | nil => exact .inl ⟨c, rfl, by simpa using h⟩
  | cons piece pieces ih =>
    obtain ⟨c', happend, hc'⟩ | ⟨happend, hlong⟩ := h.append_cases piece
    · have hrest := ih hc'
      rw [List.append_assoc] at hrest
      simpa [happend, bind, Except.bind] using hrest
    · right
      refine ⟨by simp [happend, bind, Except.bind], ?_⟩
      simp only [List.flatten_cons, List.length_append] at hlong ⊢
      omega

end Cursor

namespace Buffer

/-- Whatever a buffer is and holds, what is written into it one behind the other is the text that
is taken, unless there is no memory for it. -/
theorem written_cases (b : Buffer) (pieces : List (List UInt8)) :
    b.written pieces = .ok (Text.decodeLossy pieces.flatten) ∨
      b.written pieces = .error .tooLarge ∧ ample < pieces.flatten.length := by
  obtain ⟨c, hfold, hc⟩ | ⟨hfold, hlong⟩ := (Cursor.holds_nil b).foldlM_append_cases pieces
  · left
    rw [written, hfold]
    exact hc.text_lossy
  · right
    exact ⟨by rw [written, hfold]; rfl, hlong⟩

/-- A buffer of any size, new or lent with bytes of an earlier text in it, shows the beginning of a
tape after any deeds: it keeps its form, its slice never gets shorter, and the tape is what the
stores have made of it. Growth gives the room that it is asked for, keeps every byte and adds
zeros; only room beyond half of the memory can be refused. A store inside the slice succeeds and
keeps its length. So two buffers into which the same pieces are written one behind the other give
the same text, whatever they are and hold. -/
theorem refines_tape :
    (∀ (o : Origin) (made b : Buffer) (deeds : List Deed), o.make = .ok made →
      made.performAll deeds = .ok b →
      o.Shapes b ∧ made.size ≤ b.size ∧ b.tape = deeds.foldl Deed.onTape made.tape ∧
      (∀ len, b.grow len = .error .tooLarge ∧ ample < len ∨
        ∃ b', b.grow len = .ok b' ∧ len ≤ b'.size ∧ b.size ≤ b'.size ∧
          b'.slice = b.slice ++ zeros (b'.size - b.size)) ∧
      ∀ pos bytes, pos + bytes.length ≤ b.size →
        ∃ b', b.store pos bytes = .ok b' ∧ b'.size = b.size ∧ b'.tape = b.tape.put pos bytes) ∧
    ∀ (b b' : Buffer) (pieces : List (List UInt8)),
      (pieces.flatten.length ≤ ample →
        b.written pieces = .ok (Text.decodeLossy pieces.flatten) ∧
          b'.written pieces = b.written pieces) ∧
      ∀ text text', b.written pieces = .ok text → b'.written pieces = .ok text' →
        text = text' := by
  constructor
  · intro o made b deeds hmade hrun
    obtain ⟨hshape, hsize, htape⟩ := performAll_run (Origin.shapes_of_make hmade) hrun
    refine ⟨hshape, hsize, htape, ?_, ?_⟩
    · intro len
      obtain hgrow | hrefused := b.grow_cases len
      · right
        exact ⟨_, hgrow, le_size_reserve len b, (slice_prefix_reserve len b).length_le,
          slice_reserve_eq_append len b⟩
      · exact .inl hrefused
    · intro pos bytes hroom
      have hstore := store_eq_ok_iff.mpr ⟨hroom, rfl⟩
      exact ⟨_, hstore, size_store hstore, tape_store hstore⟩
  · intro b b' pieces
    have hb := b.written_cases pieces
    have hb' := b'.written_cases pieces
    constructor
    · intro hroom
      have hgiven := hb.resolve_right fun hrefused => Nat.not_lt_of_le hroom hrefused.2
      have hgiven' := hb'.resolve_right fun hrefused => Nat.not_lt_of_le hroom hrefused.2
      exact ⟨hgiven, hgiven'.trans hgiven.symm⟩
    · intro text text' htext htext'
      simp only [htext, htext', reduceCtorEq, false_and, or_false, Except.ok.injEq] at hb hb'
      rw [hb, hb']

/-- A lent buffer that holds two bytes of an earlier text, and one without any bytes in place: the
first is stored into and grows, and both give the same text. -/
theorem refines_tape_stale :
    let stale : Pool := { free := [[0x41, 0xff]] }
    let deeds := [Deed.store 1 [0x42], .ensure 5, .store 3 [0x43]]
    let pieces : List (List UInt8) := [[0x68], [], [0xc3, 0xa9]]
    (∃ made b : Buffer, (Origin.lent stale 3).make = .ok made ∧ made.performAll deeds = .ok b ∧
      b.tape = ((made.tape).put 1 [0x42]).put 3 [0x43]) ∧
    ∃ lent new : Buffer, (Origin.lent stale 3).make = .ok lent ∧ (Origin.inPlace 0).make = .ok new ∧
      lent.written pieces = .ok ['h', 'é'] ∧ new.written pieces = lent.written pieces := by
  intro stale deeds pieces
  constructor
  · refine ⟨.rented [0x41, 0xff, 0], .rented [0x41, 0x42, 0, 0x43, 0, 0], rfl, rfl, ?_⟩
    exact (refines_tape.1 (.lent stale 3) _ _ deeds rfl rfl).2.2.1
  · refine ⟨.rented [0x41, 0xff, 0], .ofSize 0, rfl, rfl, ?_⟩
    exact (refines_tape.2 _ _ pieces).1 (by decide)

end Buffer

end Stencil
