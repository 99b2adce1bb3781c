import Stencil.Proofs.Buffer.Tape

/-! Values that write themselves at the cursor. -/
namespace Stencil

/-- A value writes these bytes: it does so on every tail that has room for them, and on a shorter
one it reports none, whatever it leaves there. Where the bytes outgrow the bound that it announces,
they are at most half of the largest tail that it is offered. -/
structure Writable.Writes (w : Writable) (bytes : List UInt8) : Prop where
  room : ∀ tail : List UInt8, bytes.length ≤ tail.length →
    (w.attempt tail).1 = some bytes.length ∧ bytes <+: (w.attempt tail).2
  short : ∀ tail : List UInt8, tail.length < bytes.length → (w.attempt tail).1 = none
  modest : bytes.length ≤ w.lengthBound ∨ 2 * bytes.length ≤ Buffer.maxTail

/-- What a value reports is true: it has written no more than the tail holds, and text. -/
def Writable.Honest (w : Writable) : Prop :=
  ∀ (tail : List UInt8) (n : Nat), (w.attempt tail).1 = some n →
    n ≤ tail.length ∧ Text.Valid ((w.attempt tail).2.take n)

theorem Writable.writes_ofBytes {lengthBound : Nat} {bytes : List UInt8}
    (h : bytes.length ≤ lengthBound ∨ 2 * bytes.length ≤ Buffer.maxTail) :
    (Writable.ofBytes lengthBound bytes).Writes bytes where
  room tail htail := by
    simp only [ofBytes, if_pos htail, true_and]
    exact List.prefix_append _ _
  short tail htail := by simp [ofBytes, Nat.not_le.mpr htail]
  modest := h

theorem Writable.Writes.honest {w : Writable} {text : List Char}
    (h : w.Writes (Text.encode text)) : w.Honest := by
  intro tail n hn
  by_cases htail : (Text.encode text).length ≤ tail.length
  · obtain ⟨hsome, hprefix⟩ := h.room tail htail
    obtain rfl : (Text.encode text).length = n := Option.some.inj (hsome.symm.trans hn)
    rw [← List.prefix_iff_eq_take.mp hprefix]
    exact ⟨htail, Text.valid_encode text⟩
  · rw [h.short tail (Nat.lt_of_not_le htail)] at hn
    cases hn

namespace Buffer

/-- What a value leaves behind when it is tried at a place. -/
def attempted (pos : Nat) (w : Writable) (b : Buffer) : Buffer :=
  b.withSlice (b.slice.take pos ++ (w.attempt (b.slice.drop pos)).2)

section Attempt

variable {pos : Nat} {b : Buffer} (h : pos ≤ b.size) (w : Writable)
include h

theorem slice_attempted :
    (attempted pos w b).slice = b.slice.take pos ++ (w.attempt (b.slice.drop pos)).2 := by
  rw [attempted, slice_withSlice]
  unfold size at h ⊢
  rw [List.length_append, w.length_attempt, List.length_take, List.length_drop]
  omega

theorem size_attempted : (attempted pos w b).size = b.size := by
  rw [size, slice_attempted h, List.length_append, w.length_attempt, ← List.length_append,
    List.take_append_drop]
  rfl

/-- An attempt changes nothing before its place. -/
theorem take_attempted : (attempted pos w b).slice.take pos = b.slice.take pos := by
  have hlength : (b.slice.take pos).length = pos := List.length_take_of_le h
  rw [slice_attempted h, List.take_left' hlength]

theorem drop_attempted :
    (attempted pos w b).slice.drop pos = (w.attempt (b.slice.drop pos)).2 := by
  have hlength : (b.slice.take pos).length = pos := List.length_take_of_le h
  rw [slice_attempted h, List.drop_left' hlength]

end Attempt

/-- How the offers to a value go on from a room: growth is refused, the value takes the room, the
next room would be too large, or the value is offered twice as much. -/
inductive Offers (pos : Nat) (w : Writable) :
    Nat → Buffer → Except Panic (Nat × Buffer) → Prop where
  | refused {room : Nat} {b : Buffer} {panic : Panic}
      (hgrow : b.grow (pos + room) = .error panic) : Offers pos w room b (.error panic)
  | taken {room n : Nat} {b b' : Buffer} (hgrow : b.grow (pos + room) = .ok b')
      (hsome : (w.attempt (b'.slice.drop pos)).1 = some n) :
      Offers pos w room b (.ok (n, attempted pos w b'))
  | last {room : Nat} {b b' : Buffer} (hgrow : b.grow (pos + room) = .ok b')
      (hnone : (w.attempt (b'.slice.drop pos)).1 = none) (hlast : maxTail < 2 * room) :
      Offers pos w room b (.ok (0, attempted pos w b'))
  | again {room : Nat} {b b' : Buffer} {result : Except Panic (Nat × Buffer)}
      (hgrow : b.grow (pos + room) = .ok b')
      (hnone : (w.attempt (b'.slice.drop pos)).1 = none) (hnext : 2 * room ≤ maxTail)
      (hrest : Offers pos w (2 * room) (attempted pos w b') result) : Offers pos w room b result

/-- The loop makes these offers and comes to an end, since the room doubles up to a fixed bound. -/
theorem offers_writeWithin (pos : Nat) (w : Writable) (room : Nat) (hroom : 0 < room)
    (b : Buffer) : Offers pos w room b (writeWithin pos w room hroom b) := by
  rw [writeWithin]
  cases hgrow : b.grow (pos + room) with
  | error panic => exact .refused hgrow
  | ok b' =>
    simp only [bind, Except.bind]
    split
    · next n hsome => exact .taken hgrow hsome
    · next hnone =>
      split
      · next hlast => exact .last hgrow hnone hlast
      · next hnext =>
        have hrest := offers_writeWithin pos w (2 * room) (by omega) (attempted pos w b')
        exact .again hgrow hnone (by omega) hrest
termination_by maxTail - room

theorem offers_writeAt (pos : Nat) (w : Writable) (b : Buffer) :
    Offers pos w (max w.lengthBound 1) b (b.writeAt pos w) := offers_writeWithin pos w _ _ b

theorem le_size_of_grow {len : Nat} {b b' : Buffer} (h : b.grow len = .ok b') :
    len ≤ b'.size ∧ b.slice <+: b'.slice := by
  rw [eq_reserve_of_grow h]
  exact ⟨le_size_reserve _ b, slice_prefix_reserve _ b⟩

/-- What stands before the place of an attempt is still there after it, once the buffer has grown
for it. -/
theorem take_prefix_attempted {pos room : Nat} {b b' : Buffer}
    (hgrow : b.grow (pos + room) = .ok b') (w : Writable) :
    b.slice.take pos <+: (attempted pos w b').slice.take pos := by
  obtain ⟨hsize, added, hadded⟩ := le_size_of_grow hgrow
  rw [take_attempted (by omega) w, ← hadded, List.take_append]
  exact List.prefix_append _ _

/-- Bytes stand at a place of the second buffer, and before the place there is what the first has
there. -/
structure Landed (pos : Nat) (bytes : List UInt8) (b b' : Buffer) : Prop where
  inside : pos + bytes.length ≤ b'.size
  landed : bytes <+: b'.slice.drop pos
  kept : b.slice.take pos <+: b'.slice

/-- A room that a value takes has the bytes at its front. -/
theorem Landed.of_taken {w : Writable} {bytes : List UInt8} (hw : w.Writes bytes)
    {pos room n : Nat} {b b' : Buffer} (hgrow : b.grow (pos + room) = .ok b')
    (hsome : (w.attempt (b'.slice.drop pos)).1 = some n) :
    bytes.length = n ∧ Landed pos bytes b (attempted pos w b') := by
  obtain ⟨hsize, -⟩ := le_size_of_grow hgrow
  have hplace : pos ≤ b'.size := by omega
  have htail : bytes.length ≤ (b'.slice.drop pos).length := by
    apply Nat.le_of_not_lt
    intro hshort
    rw [hw.short _ hshort] at hsome
    cases hsome
  obtain ⟨hwritten, hbytes⟩ := hw.room _ htail
  refine ⟨Option.some.inj (hwritten.symm.trans hsome), ?_, ?_, ?_⟩
  · rw [size_attempted hplace]
    rw [List.length_drop] at htail
    unfold size at hplace ⊢
    omega
  · rw [drop_attempted hplace]
    exact hbytes
  · exact (take_prefix_attempted hgrow w).trans (List.take_prefix _ _)

/-- A room that a value does not take is shorter than its bytes. -/
theorem room_lt_of_none {w : Writable} {bytes : List UInt8} (hw : w.Writes bytes)
    {pos room : Nat} {b b' : Buffer} (hgrow : b.grow (pos + room) = .ok b')
    (hnone : (w.attempt (b'.slice.drop pos)).1 = none) : room < bytes.length := by
  obtain ⟨hsize, -⟩ := le_size_of_grow hgrow
  apply Nat.lt_of_not_le
  intro hle
  have htail : bytes.length ≤ (b'.slice.drop pos).length := by
    rw [List.length_drop]
    unfold size at hsize
    omega
  rw [(hw.room _ htail).1] at hnone
  cases hnone

/-- The bytes land before the value is given up, unless growth is refused. The induction is on the
offers: one that fails is shorter than the bytes, so the next is at most twice as long as they
are. -/
theorem Offers.lands {w : Writable} {bytes : List UInt8} (hw : w.Writes bytes) {pos room : Nat}
    {b : Buffer} {result : Except Panic (Nat × Buffer)} (h : Offers pos w room b result)
    (hmodest : bytes.length ≤ room ∨ 2 * bytes.length ≤ maxTail) :
    (∃ b', result = .ok (bytes.length, b') ∧ Landed pos bytes b b') ∨
      result = .error .tooLarge ∧ ample < pos + max room (min (2 * bytes.length) maxTail) := by
  induction h with
  | @refused room b panic hgrow =>
    right
    obtain hgranted | ⟨hrefused, hlong⟩ := b.grow_cases (pos + room)
    · cases hgranted.symm.trans hgrow
    · cases hrefused.symm.trans hgrow
      exact ⟨rfl, by omega⟩
  | taken hgrow hsome =>
    left
    obtain ⟨rfl, hlanded⟩ := Landed.of_taken hw hgrow hsome
    exact ⟨_, rfl, hlanded⟩
  | last hgrow hnone hlast =>
    have hshort := room_lt_of_none hw hgrow hnone
    omega
  | again hgrow hnone hnext _ ih =>
    have hshort := room_lt_of_none hw hgrow hnone
    rcases ih (by omega) with ⟨b', hok, hlanded⟩ | ⟨hrefused, hlong⟩
    · left
      refine ⟨b', hok, hlanded.inside, hlanded.landed, ?_⟩
      exact (take_prefix_attempted hgrow w).trans hlanded.kept
    · right
      exact ⟨hrefused, by omega⟩

/-- A value that is honest leaves text behind the bytes that were there, as much as it reports. -/
theorem Offers.honest {w : Writable} (hw : w.Honest) {pos room : Nat} {b : Buffer}
    {result : Except Panic (Nat × Buffer)} (h : Offers pos w room b result) {n : Nat}
    {b' : Buffer} (hok : result = .ok (n, b')) :
    ∃ bytes, Text.Valid bytes ∧ bytes.length = n ∧ Landed pos bytes b b' := by
  induction h with
  | refused => cases hok
  | @taken room n' b b₁ hgrow hsome =>
    cases hok
    obtain ⟨hsize, -⟩ := le_size_of_grow hgrow
    have hplace : pos ≤ b₁.size := by omega
    obtain ⟨hle, hvalid⟩ := hw _ _ hsome
    have hlength : ((w.attempt (b₁.slice.drop pos)).2.take n).length = n := by
      rw [List.length_take, w.length_attempt]
      omega
    refine ⟨_, hvalid, hlength, ?_, ?_, ?_⟩
    · rw [size_attempted hplace, hlength]
      rw [List.length_drop] at hle
      unfold size at hplace ⊢
      omega
    · rw [drop_attempted hplace]
      exact List.take_prefix _ _
    · exact (take_prefix_attempted hgrow w).trans (List.take_prefix _ _)
  | @last room b b₁ hgrow hnone hlast =>
    cases hok
    obtain ⟨hsize, -⟩ := le_size_of_grow hgrow
    have hplace : pos ≤ b₁.size := by omega
    refine ⟨[], Text.valid_nil, rfl, ?_, List.nil_prefix, ?_⟩
    · rw [size_attempted hplace]
      exact hplace
    · exact (take_prefix_attempted hgrow w).trans (List.take_prefix _ _)
  | again hgrow hnone hnext _ ih =>
    obtain ⟨bytes, hvalid, hlength, hlanded⟩ := ih hok
    refine ⟨bytes, hvalid, hlength, hlanded.inside, hlanded.landed, ?_⟩
    exact (take_prefix_attempted hgrow w).trans hlanded.kept

/-- Bytes that land behind others continue them. -/
theorem Landed.append_prefix {bytes more : List UInt8} {b b' : Buffer}
    (h : Landed bytes.length more b b') (hbytes : bytes <+: b.slice) :
    bytes ++ more <+: b'.slice := by
  obtain ⟨-, hmore, hkept⟩ := h
  rw [← List.prefix_iff_eq_take.mp hbytes] at hkept
  obtain ⟨rest, hrest⟩ := hkept
  rw [← hrest, List.drop_left] at hmore
  rw [← hrest]
  exact (List.prefix_append_right_inj bytes).mpr hmore

end Buffer

namespace Cursor

/-- Where memory is granted, a value appends the bytes that it writes. -/
theorem Holds.format {c : Cursor} {bytes : List UInt8} (h : c.Holds bytes) {w : Writable}
    {more : List UInt8} (hw : w.Writes more)
    (hroom : bytes.length + max (2 * more.length) w.lengthBound + 1 ≤ Buffer.ample) :
    ∃ c', c.format w = .ok (more.length, c') ∧ c'.Holds (bytes ++ more) := by
  obtain ⟨b, pos⟩ := c
  obtain ⟨rfl, hb⟩ := h
  have hmodest := hw.modest
  have hoffers := Buffer.offers_writeAt bytes.length w b
  rcases hoffers.lands hw (by omega) with ⟨b', hwrite, hlanded⟩ | ⟨-, hlong⟩
  · refine ⟨⟨b', bytes.length + more.length⟩, ?_, List.length_append.symm,
      hlanded.append_prefix hb⟩
    simp [Cursor.format, hwrite, bind, Except.bind, pure, Except.pure]
  · omega

end Cursor

end Stencil
