import Stencil.Primitive

/-! Every number writes its decimal text, in places that always suffice. -/
namespace Stencil

namespace Text

/-- The decimal digits of a number, without leading zeros. -/
structure IsDigits (n : Nat) (digits : List Char) : Prop where
  ne_nil : digits ≠ []
  isDigit : ∀ c ∈ digits, isDigit c = true
  value : digitsValue digits = n
  leading : digits.head? = some '0' → digits = ['0']

/-- The decimal text of a number: its digits, behind a minus sign if it is negative. -/
inductive IsDecimal : Int → List Char → Prop where
  | nonneg {n : Nat} {digits : List Char} (h : IsDigits n digits) : IsDecimal (n : Int) digits
  | negative {n : Nat} {digits : List Char} (h : IsDigits (n + 1) digits) :
      IsDecimal (.negSucc n) ('-' :: digits)

theorem digitsValue_toDigits (n : Nat) : digitsValue (Nat.toDigits 10 n) = n := by
  have hvalue := Nat.ofDigitChars_ten_toDigits (n := n)
  rw [Nat.ofDigitChars_eq_foldl] at hvalue
  simpa [digitsValue, Nat.mul_comm] using hvalue

theorem head?_toDigits (n : Nat) (h : (Nat.toDigits 10 n).head? = some '0') : n = 0 := by
  induction n using Nat.strongRecOn with
  | ind n ih =>
    rw [Nat.toDigits_eq_if (by omega)] at h
    split at h
    · simpa using h
    · next hn =>
      have hhead : (Nat.toDigits 10 (n / 10)).head? = some '0' := by
        cases hdigits : Nat.toDigits 10 (n / 10) with
        | nil => exact absurd hdigits Nat.toDigits_ne_nil
        | cons c digits => simpa [hdigits] using h
      have hquotient := ih (n / 10) (by omega) hhead
      omega

theorem isDigits_toDigits (n : Nat) : IsDigits n (Nat.toDigits 10 n) where
  ne_nil := Nat.toDigits_ne_nil
  isDigit c hc := by
    have hdigit := Nat.isDigit_of_mem_toDigits (by omega) (by omega) hc
    simpa [isDigit, Char.isDigit, Char.le_def] using hdigit
  value := digitsValue_toDigits n
  leading h := by
    rw [head?_toDigits n h]
    rfl

theorem isDecimal_decimal (value : Int) : IsDecimal value (decimal value) := by
  cases value with
  | ofNat n => exact .nonneg (isDigits_toDigits n)
  | negSucc n => exact .negative (isDigits_toDigits (n + 1))

end Text

def digitBytes (n : Nat) : List UInt8 := Text.encode (Nat.toDigits 10 n)

theorem encodeChar_digitChar : ∀ k < 10, Text.encodeChar k.digitChar = [(48 + k).toUInt8] := by
  decide

/-- The last digit comes off the end. -/
theorem digitBytes_eq (n : Nat) :
    digitBytes n = (if n / 10 = 0 then [] else digitBytes (n / 10)) ++ [digitByte n] := by
  have hlast := encodeChar_digitChar (n % 10) (Nat.mod_lt n (by omega))
  unfold digitBytes digitByte
  rw [Nat.toDigits_eq_if (by omega)]
  by_cases hn : n < 10
  · rw [if_pos hn, if_pos (by omega), ← hlast, Nat.mod_eq_of_lt hn]
    simp [Text.encode]
  · rw [if_neg hn, if_neg (by omega), ← hlast]
    simp [Text.encode]

theorem length_digitBytes_eq (n : Nat) : (digitBytes n).length = (Nat.toDigits 10 n).length := by
  induction n using Nat.strongRecOn with
  | ind n ih =>
    rw [digitBytes_eq, Nat.toDigits_eq_if (by omega)]
    by_cases hn : n < 10
    · rw [if_pos (by omega), if_pos hn]
      rfl
    · have hquotient := ih (n / 10) (by omega)
      rw [if_neg (by omega), if_neg hn]
      simp [hquotient]

/-- From a place on, the bytes hold a text. -/
def Filled (place : Nat) (text bytes : List UInt8) : Prop :=
  place ≤ bytes.length ∧ bytes.drop place = text

theorem filled_length (bytes : List UInt8) : Filled bytes.length [] bytes :=
  ⟨Nat.le_refl _, List.drop_length⟩

theorem Filled.setByte {place : Nat} {text bytes : List UInt8} (h : Filled (place + 1) text bytes)
    (byte : UInt8) :
    ∃ bytes', Stencil.setByte place byte bytes = .ok bytes' ∧ Filled place (byte :: text) bytes' := by
  obtain ⟨hplace, rfl⟩ := h
  have hlt : place < bytes.length := by omega
  refine ⟨bytes.set place byte, if_pos hlt, ?_, ?_⟩
  · rw [List.length_set]
    omega
  · rw [List.drop_set, if_neg (Nat.lt_irrefl place), Nat.sub_self,
      List.drop_eq_getElem_cons hlt, List.set_cons_zero]

/-- The digits find their places. The induction is on the place: each digit takes one. -/
theorem Filled.putDigits {place n : Nat} {text bytes : List UInt8} (h : Filled place text bytes)
    (hplaces : (digitBytes n).length ≤ place) :
    ∃ start bytes', Stencil.putDigits place n bytes = .ok (start, bytes') ∧
      start + (digitBytes n).length = place ∧ Filled start (digitBytes n ++ text) bytes' := by
  induction place generalizing n text bytes with
  | zero =>
    rw [digitBytes_eq] at hplaces
    simp at hplaces
  | succ place ih =>
    obtain ⟨bytes₁, hset, hfilled⟩ := h.setByte (digitByte n)
    simp only [Stencil.putDigits, hset, bind, Except.bind]
    rw [digitBytes_eq] at hplaces ⊢
    split
    · exact ⟨place, bytes₁, rfl, by simp, by simpa using hfilled⟩
    · next hn =>
      rw [if_neg hn, List.length_append] at hplaces
      have hrest : (digitBytes (n / 10)).length ≤ place := by
        simp only [List.length_cons, List.length_nil] at hplaces
        omega
      obtain ⟨start, bytes₂, hdigits, hstart, hfilled₂⟩ := ih hfilled hrest
      refine ⟨start, bytes₂, hdigits, ?_, ?_⟩
      · simp only [List.length_append, List.length_cons, List.length_nil]
        omega
      · simpa using hfilled₂

theorem Filled.putSign {place : Nat} {text bytes : List UInt8} (h : Filled place text bytes)
    (hplace : 0 < place) :
    ∃ start bytes', Stencil.putSign place bytes = .ok (start, bytes') ∧
      Filled start (45 :: text) bytes' := by
  cases place with
  | zero => omega
  | succ place =>
    obtain ⟨bytes', hset, hfilled⟩ := h.setByte 45
    refine ⟨place, bytes', ?_, hfilled⟩
    simp only [Stencil.putSign, hset]
    rfl

theorem encode_decimal (value : Int) :
    Text.encode (Text.decimal value) =
      (if value < 0 then [45] else []) ++ digitBytes value.natAbs := by
  cases value with
  | ofNat n => simp [Text.decimal, digitBytes]
  | negSucc n =>
    rw [if_pos (Int.negSucc_lt_zero n), Int.natAbs_negSucc]
    rfl

namespace IntType

def largest (t : IntType) : Nat := Max.max t.min.natAbs t.max.natAbs

/-- How many digits a number of the type has at most, its sign apart. -/
def digitBound (t : IntType) : Nat := if t.signed then t.lengthBound - 1 else t.lengthBound

theorem largest_lt_word (t : IntType) : t.largest < 1 <<< t.wordBits := by
  cases t <;> decide

theorem digitBound_pos (t : IntType) : 0 < t.digitBound := by
  cases t <;> decide

/-- A place is left for the sign when all digits have been put. -/
theorem digitBound_lt_places (t : IntType) : t.digitBound < t.places := by
  cases t <;> decide

namespace Number

variable {t : IntType}

theorem natAbs_le_largest (n : t.Number) : n.value.natAbs ≤ t.largest := by
  have hmin := n.min_le
  have hmax := n.le_max
  unfold largest
  omega

/-- Nothing is cut off when a number is brought to the width of a word. -/
theorem magnitude_eq (n : t.Number) : n.magnitude = n.value.natAbs :=
  Nat.mod_eq_of_lt (Nat.lt_of_le_of_lt n.natAbs_le_largest t.largest_lt_word)

theorem length_digitBytes (n : t.Number) : (digitBytes n.value.natAbs).length ≤ t.digitBound := by
  have hlargest : t.largest < 10 ^ t.digitBound := by
    cases t <;> decide
  rw [length_digitBytes_eq, Nat.length_toDigits_le_iff (by omega) t.digitBound_pos]
  exact Nat.lt_of_le_of_lt n.natAbs_le_largest hlargest

/-- The places suffice for the digits and the sign of every number. -/
theorem numeral_eq (n : t.Number) :
    n.numeral = .ok (Text.encode (Text.decimal n.value)) := by
  have hlength := n.length_digitBytes
  have hplaces := t.digitBound_lt_places
  have hempty : Filled t.places [] (List.replicate t.places 0) := by
    simpa using filled_length (List.replicate t.places 0)
  obtain ⟨start, bytes, hdigits, hstart, hfilled⟩ :=
    hempty.putDigits (n := n.value.natAbs) (by omega)
  rw [List.append_nil] at hfilled
  unfold numeral
  rw [n.magnitude_eq, hdigits, encode_decimal]
  by_cases hnegative : n.value < 0
  · obtain ⟨start', bytes', hsign, -, htext⟩ := hfilled.putSign (by omega)
    simp [bind, Except.bind, pure, Except.pure, hnegative, hsign, htext]
  · simp [bind, Except.bind, pure, Except.pure, hnegative, hfilled.2]

theorem length_encode_decimal_le (n : t.Number) :
    (Text.encode (Text.decimal n.value)).length ≤ t.lengthBound := by
  have hlength := n.length_digitBytes
  have hpos := t.digitBound_pos
  have hmin := n.min_le
  rw [encode_decimal, List.length_append]
  unfold digitBound at hlength hpos
  unfold IntType.min at hmin
  cases hsigned : t.signed with
  | true =>
    rw [hsigned, if_pos rfl] at hlength hpos
    split
    · simp only [List.length_cons, List.length_nil]
      omega
    · simp only [List.length_nil]
      omega
  | false =>
    simp only [hsigned, Bool.false_eq_true, ↓reduceIte] at hlength hmin
    rw [if_neg (by omega), List.length_nil]
    omega

end Number

end IntType

namespace Writable

theorem lengthBound_behind (w : Writable) (references : List Reference) :
    (w.behind references).lengthBound = w.lengthBound := by
  induction references with
  | nil => rfl
  | cons reference references ih => exact ih

theorem attempt_behind (w : Writable) (references : List Reference) :
    (w.behind references).attempt = w.attempt := by
  induction references with
  | nil => rfl
  | cons reference references ih => exact ih

end Writable

/-- A number of any type, behind any references, writes its decimal text into every buffer that is
long enough and leaves a shorter one alone; in a longer one, the bytes behind the text stay as they
are. The numeral never runs out of places, and the text keeps the announced bound. -/
theorem IntType.Number.attempt_decimal {t : IntType} (n : t.Number) (references : List Reference)
    (buffer : List UInt8) :
    let w := (Primitive.int t n).writable.behind references
    let text := Text.encode (Text.decimal n.value)
    Text.IsDecimal n.value (Text.decimal n.value) ∧ n.numeral = .ok text ∧
      w.attempt buffer =
        (if text.length ≤ buffer.length then
          (some text.length, text ++ buffer.drop text.length)
        else (none, buffer)) ∧
      text.length ≤ w.lengthBound := by
  intro w text
  have hbytes : (Primitive.int t n).bytes = text := by
    simp only [Primitive.bytes, n.numeral_eq]
    rfl
  refine ⟨Text.isDecimal_decimal n.value, n.numeral_eq, ?_, ?_⟩
  · simp only [w, Writable.attempt_behind, Primitive.writable, Writable.ofBytes, hbytes, overwrite]
  · rw [Writable.lengthBound_behind]
    exact n.length_encode_decimal_le

end Stencil
