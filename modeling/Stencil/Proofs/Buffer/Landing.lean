import Stencil.Proofs.Buffer.Format
import Stencil.Proofs.Numeral

/-! A value that writes itself into a buffer lands at its place, whatever length it announces.
Numbers, truth values and characters do so at the first attempt. -/
namespace Stencil

namespace Writable

/-- References write what they refer to. -/
theorem Writes.behind {w : Writable} {bytes : List UInt8} (h : w.Writes bytes)
    (references : List Reference) : (w.behind references).Writes bytes where
  room tail htail := by
    rw [attempt_behind]
    exact h.room tail htail
  short tail htail := by
    rw [attempt_behind]
    exact h.short tail htail
  modest := by
    rw [lengthBound_behind]
    exact h.modest

/-- A value of fixed bytes that announces none, and that spoils a tail which is too short for it. -/
def unannounced (bytes : List UInt8) : Writable where
  lengthBound := 0
  attempt tail :=
    if bytes.length ≤ tail.length then (some bytes.length, overwrite bytes tail)
    else (none, List.replicate tail.length 0xff)
  length_attempt tail := by
    split
    next h => exact length_overwrite h
    next => exact List.length_replicate

theorem writes_unannounced {bytes : List UInt8} (h : 2 * bytes.length ≤ Buffer.maxTail) :
    (unannounced bytes).Writes bytes where
  room tail htail := by
    simp only [unannounced, if_pos htail, true_and]
    exact List.prefix_append _ _
  short tail htail := by simp [unannounced, Nat.not_le.mpr htail]
  modest := .inr h

end Writable

theorem Text.length_encodeChar_le (c : Char) : (encodeChar c).length ≤ 4 := by
  unfold encodeChar
  dsimp only
  split
  · simp
  · split
    · simp
    · split <;> simp

namespace Primitive

theorem bytes_eq_encode (p : Primitive) : p.bytes = Text.encode p.display := by
  cases p with
  | int t n => simp only [bytes, display, n.numeral_eq]
  | bool value => rfl
  | char value => simp [bytes, display, Text.encode]

/-- What a number, truth value or character announces is enough for it. -/
theorem length_encode_display_le (p : Primitive) :
    (Text.encode p.display).length ≤ p.lengthBound := by
  cases p with
  | int t n => exact n.length_encode_decimal_le
  | bool value => cases value <;> decide
  | char value => simp [display, lengthBound, Text.encode]

theorem lengthBound_int_le (t : IntType) : t.lengthBound ≤ 40 := by
  cases t <;> decide

theorem lengthBound_lt_maxTail (p : Primitive) : p.lengthBound < Buffer.maxTail := by
  have hmax : 40 < Buffer.maxTail := by decide
  have hbound : p.lengthBound ≤ 40 := by
    cases p with
    | int t n => exact lengthBound_int_le t
    | bool value => simp [lengthBound]
    | char value => exact Nat.le_trans (Text.length_encodeChar_le value) (by omega)
  omega

theorem writes_writable (p : Primitive) : p.writable.Writes (Text.encode p.display) := by
  rw [writable, p.bytes_eq_encode]
  exact Writable.writes_ofBytes (.inl p.length_encode_display_le)

end Primitive

namespace Buffer

theorem Landed.getElem?_eq {pos : Nat} {bytes : List UInt8} {b b' : Buffer}
    (h : Landed pos bytes b b') {i : Nat} (hi : i < pos) (hsize : i < b.size) :
    b'.slice[i]? = b.slice[i]? := by
  obtain ⟨rest, hrest⟩ := h.kept
  have hlength : i < (b.slice.take pos).length := by
    rw [List.length_take]
    unfold size at hsize
    omega
  rw [← hrest, List.getElem?_append_left hlength, List.getElem?_take_of_lt hi]

/-- A value that announces enough takes the first room that it is offered. -/
theorem writeAt_of_announced {w : Writable} {bytes : List UInt8} (hw : w.Writes bytes)
    (hbound : bytes.length ≤ w.lengthBound) (pos : Nat) (b : Buffer) :
    b.writeAt pos w = (b.grow (pos + max w.lengthBound 1)).map fun grown =>
      (bytes.length, attempted pos w grown) := by
  have hoffers := offers_writeAt pos w b
  generalize b.writeAt pos w = result at hoffers ⊢
  cases hoffers with
  | refused hgrow =>
    rw [hgrow]
    rfl
  | taken hgrow hsome =>
    obtain ⟨rfl, -⟩ := Landed.of_taken hw hgrow hsome
    rw [hgrow]
    rfl
  | last hgrow hnone hlast =>
    have hshort := room_lt_of_none hw hgrow hnone
    omega
  | again hgrow hnone hnext hrest =>
    have hshort := room_lt_of_none hw hgrow hnone
    omega

/-- Whatever a buffer is and holds, and wherever a value is to be written in it, so that the places
it may take are all words: the attempts come to an end, and the bytes stand at the place while all
before it is as it was. The value may announce too little, and may leave anything behind when it
fails. Only where the buffer would have to grow beyond what one can hold is it refused, and not
before the place is near a quarter of the largest word. A number, a truth value or a character, also
behind references, takes the first room. -/
theorem writeAt_lands :
    (∀ (b : Buffer) (pos : Nat) (w : Writable) (bytes : List UInt8), w.Writes bytes →
      w.lengthBound < maxTail → pos + 1 <<< 31 < 1 <<< 64 →
      (∃ b', b.writeAt pos w = .ok (bytes.length, b') ∧ pos + bytes.length ≤ b'.size ∧
        bytes <+: b'.slice.drop pos ∧ ∀ i < pos, i < b.size → b'.slice[i]? = b.slice[i]?) ∨
      b.writeAt pos w = .error .tooLarge ∧ ample < pos + maxTail) ∧
    ∀ (p : Primitive) (references : List Reference) (b : Buffer) (pos : Nat),
      pos + 1 <<< 31 < 1 <<< 64 →
      let w := p.writable.behind references
      let bytes := Text.encode p.display
      w.Writes bytes ∧ w.lengthBound < maxTail ∧
        b.writeAt pos w = (b.grow (pos + max w.lengthBound 1)).map fun grown =>
          (bytes.length, attempted pos w grown) := by
  constructor
  · intro b pos w bytes hw hbound _
    have hmodest := hw.modest
    have hoffers := offers_writeAt pos w b
    rcases hoffers.lands hw (by omega) with ⟨b', hok, hlanded⟩ | ⟨hrefused, hlong⟩
    · left
      exact ⟨b', hok, hlanded.inside, hlanded.landed, fun _ => hlanded.getElem?_eq⟩
    · right
      exact ⟨hrefused, by omega⟩
  · intro p references b pos _ w bytes
    have hw : w.Writes bytes := p.writes_writable.behind references
    have hlength : w.lengthBound = p.lengthBound := Writable.lengthBound_behind _ references
    have hannounced : bytes.length ≤ w.lengthBound := by
      rw [hlength]
      exact p.length_encode_display_le
    refine ⟨hw, ?_, writeAt_of_announced hw hannounced pos b⟩
    rw [hlength]
    exact p.lengthBound_lt_maxTail

/-- Fourteen bytes that are announced as none go behind two others, into four bytes in place. -/
theorem writeAt_lands_unannounced :
    let bytes := Text.encode "underestimated".toList
    let b := Buffer.stack [0x61, 0x62, 0, 0] []
    (Writable.unannounced bytes).Writes bytes ∧
      ∃ b', b.writeAt 2 (.unannounced bytes) = .ok (14, b') ∧ bytes <+: b'.slice.drop 2 ∧
        b'.slice[0]? = some 0x61 ∧ b'.slice[1]? = some 0x62 := by
  intro bytes b
  have hw : (Writable.unannounced bytes).Writes bytes := Writable.writes_unannounced (by decide)
  have hlands := writeAt_lands.1 b 2 (.unannounced bytes) bytes hw (by decide) (by decide)
  rcases hlands with ⟨b', hok, -, hlanded, hkept⟩ | ⟨-, hlong⟩
  · exact ⟨hw, b', hok, hlanded, hkept 0 (by decide) (by decide), hkept 1 (by decide) (by decide)⟩
  · exact absurd hlong (by decide)

/-- Behind half of the largest word no buffer can grow for even one digit. -/
theorem writeAt_refused_behind_memory :
    let seven : IntType.Number .u8 := ⟨7, by decide, by decide⟩
    let w := (Primitive.int .u8 seven).writable
    w.Writes [0x37] ∧ w.lengthBound < maxTail ∧ 1 <<< 63 + 1 <<< 31 < 1 <<< 64 ∧
      (ofSize 4).writeAt (1 <<< 63) w = .error .tooLarge := by
  intro seven w
  have hw : w.Writes [0x37] := (Primitive.int .u8 seven).writes_writable
  have hrefused : (ofSize 4).grow (1 <<< 63 + max w.lengthBound 1) = .error .tooLarge :=
    if_pos (by decide)
  refine ⟨hw, by decide, by decide, ?_⟩
  rw [writeAt_of_announced hw (by decide), hrefused]
  rfl

end Buffer

end Stencil
