import Stencil.Panic
import Stencil.Text.Utf8

/-! Parts of a text, taken by byte positions. -/
namespace Stencil.Text

/-- The byte position of the first character that fits. -/
def position? (p : Char → Bool) : List Char → Option Nat
  | [] => none
  | c :: s => if p c then some 0 else (position? p s).map ((encodeChar c).length + ·)

/-- The text before a byte position and the text from there on; it breaks off at a position inside of
a character or behind the end. -/
def cut : Nat → List Char → Except Panic (List Char × List Char)
  | 0, s => .ok ([], s)
  | _ + 1, [] => .error .outOfRange
  | n + 1, c :: s =>
    if (encodeChar c).length ≤ n + 1 then do
      let (before, after) ← cut (n + 1 - (encodeChar c).length) s
      return (c :: before, after)
    else .error .insideCharacter

def before (n : Nat) (s : List Char) : Except Panic (List Char) := do
  let (text, _) ← cut n s
  return text

def after (n : Nat) (s : List Char) : Except Panic (List Char) := do
  let (_, text) ← cut n s
  return text

def byteAt (n : Nat) (s : List Char) : Except Panic UInt8 :=
  match (encode s)[n]? with
  | some b => .ok b
  | none => .error .outOfRange

theorem encodeChar_ne_nil (c : Char) : encodeChar c ≠ [] := by
  unfold encodeChar
  dsimp only
  split
  · simp
  · split
    · simp
    · split <;> simp

theorem byteLength_cons (c : Char) (s : List Char) :
    byteLength (c :: s) = (encodeChar c).length + byteLength s := by
  simp [byteLength, encode]

theorem byteLength_pos {s : List Char} (h : s ≠ []) : 0 < byteLength s := by
  obtain ⟨c, s, rfl⟩ := List.exists_cons_of_ne_nil h
  have hc := List.length_pos_iff.mpr (encodeChar_ne_nil c)
  rw [byteLength_cons]
  omega

theorem eq_of_cut {n : Nat} {s first rest : List Char} (h : cut n s = .ok (first, rest)) :
    s = first ++ rest ∧ byteLength first = n := by
  induction n, s using cut.induct generalizing first with
  | case1 s =>
    rw [cut] at h
    cases h
    exact ⟨rfl, rfl⟩
  | case2 n =>
    rw [cut] at h
    cases h
  | case3 n c s hc ih =>
    rw [cut, if_pos hc] at h
    obtain ⟨⟨first', rest'⟩, hcut, hok⟩ := Panic.exists_of_bind h
    cases hok
    obtain ⟨rfl, hlength⟩ := ih hcut
    refine ⟨rfl, ?_⟩
    rw [byteLength_cons]
    omega
  | case4 n c s hc =>
    rw [cut, if_neg hc] at h
    cases h

/-- What is left behind a position that is not the beginning is shorter. -/
theorem length_lt_of_after {n : Nat} {s rest : List Char} (h : after n s = .ok rest)
    (hn : 0 < n) : rest.length < s.length := by
  obtain ⟨⟨first, rest'⟩, hcut, hok⟩ := Panic.exists_of_bind h
  cases hok
  obtain ⟨rfl, hlength⟩ := eq_of_cut hcut
  cases first with
  | nil => exact absurd hlength (Nat.ne_of_lt hn)
  | cons c first =>
    simp only [List.cons_append, List.length_cons, List.length_append]
    omega

end Stencil.Text
