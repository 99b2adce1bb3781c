import Stencil.Proofs.Text.Utf8
import Stencil.Source.Literal
import Stencil.Source.Tree

/-! A text that is quoted as a literal is the value of that literal. -/
namespace Stencil.Source

namespace Literal

open Lexeme

theorem quotedValue_of_step {state next : Inside} {c : Char}
    (h : state.step .text c = some next) (hplain : next ≠ .plain) (hclosed : next ≠ .closed)
    (rest : List Char) : quotedValue state (c :: rest) = quotedValue next rest := by
  rw [quotedValue, h]
  cases next <;> first | rfl | exact absurd rfl hplain | exact absurd rfl hclosed

theorem quotedValue_of_plain {state : Inside} {c : Char} (h : state.step .text c = some .plain)
    (rest : List Char) :
    quotedValue state (c :: rest) = completed state c :: quotedValue .plain rest := by
  rw [quotedValue, h]

theorem hexValue?_digitChar : ∀ d < 16,
    hexValue? d.digitChar = some d ∧ d.digitChar ≠ '_' ∧ d.digitChar ≠ '\x7d' := by
  decide

theorem step_codeDigits {count : Nat} (hcount : count < 6) (value : Nat) {d : Nat} (hd : d < 16) :
    Inside.step .text (.codeDigits count value) d.digitChar =
      some (.codeDigits (count + 1) (value * 16 + d)) := by
  obtain ⟨hvalue, hblank, hclose⟩ := hexValue?_digitChar d hd
  simp [Inside.step, hvalue, hblank, hclose, Nat.ne_of_lt hcount]

/-- The digits of a code point come to its value, one digit at a time from the left. -/
theorem quotedValue_digits {n : Nat} (hlength : (Nat.toDigits 16 n).length ≤ 6)
    (rest : List Char) :
    quotedValue (.codeDigits 0 0) (Nat.toDigits 16 n ++ rest) =
      quotedValue (.codeDigits (Nat.toDigits 16 n).length n) rest := by
  induction n using Nat.strongRecOn generalizing rest with
  | ind n ih =>
    by_cases hsmall : n < 16
    · rw [Nat.toDigits_of_lt_base hsmall]
      have hstep := step_codeDigits (by decide : 0 < 6) 0 hsmall
      simp only [Nat.zero_mul, Nat.zero_add] at hstep
      exact quotedValue_of_step hstep nofun nofun rest
    · have hbase : 16 ≤ n := Nat.le_of_not_lt hsmall
      rw [Nat.toDigits_of_base_le (by decide) hbase] at hlength ⊢
      rw [List.length_append, List.length_singleton] at hlength ⊢
      have hstep := step_codeDigits (Nat.lt_of_succ_le hlength) (n / 16) (Nat.mod_lt n (by decide))
      rw [Nat.div_add_mod' n 16] at hstep
      rw [List.append_assoc, ih (n / 16) (by omega) (by omega)]
      exact quotedValue_of_step hstep nofun nofun rest

/-- A character that has no shape of its own is spelled by its code point. -/
theorem quotedValue_codePoint (c : Char) (rest : List Char) :
    quotedValue .plain ('\\' :: 'u' :: '\x7b' :: (Text.hexDigits c.toNat ++ '\x7d' :: rest)) =
      c :: quotedValue .plain rest := by
  have hbounds := Text.char_bounds c
  have hlength : (Nat.toDigits 16 c.toNat).length ≤ 6 := by
    rw [Nat.length_toDigits_le_iff (by decide) (by decide)]
    omega
  have hpos : 0 < (Nat.toDigits 16 c.toNat).length := Nat.length_toDigits_pos
  have hscalar : isScalar c.toNat = true := by
    simpa [isScalar] using hbounds
  have hclose : Inside.step .text (.codeDigits (Nat.toDigits 16 c.toNat).length c.toNat) '\x7d' =
      some .plain := by
    simp [Inside.step, hpos, hscalar]
  calc quotedValue .plain ('\\' :: 'u' :: '\x7b' :: (Text.hexDigits c.toNat ++ '\x7d' :: rest))
      = quotedValue (.codeDigits 0 0) (Nat.toDigits 16 c.toNat ++ '\x7d' :: rest) := rfl
    _ = quotedValue (.codeDigits (Nat.toDigits 16 c.toNat).length c.toNat) ('\x7d' :: rest) :=
      quotedValue_digits hlength _
    _ = Char.ofNat c.toNat :: quotedValue .plain rest := quotedValue_of_plain hclose rest
    _ = c :: quotedValue .plain rest := by rw [Char.ofNat_toNat]

theorem quotedValue_escapeChar (c : Char) (rest : List Char) :
    quotedValue .plain (Text.escapeChar c ++ rest) = c :: quotedValue .plain rest := by
  unfold Text.escapeChar
  split
  · next h => subst h; rfl
  split
  · next h => subst h; rfl
  split
  · next h => subst h; rfl
  split
  · next h => subst h; rfl
  split
  · next h => subst h; rfl
  split
  · next h => subst h; rfl
  split
  · next hreturn hquote hbackslash _ =>
    have hstep : Inside.step .text .plain c = some .plain := by
      simp [Inside.step, Inside.plainStep, hquote, hbackslash, hreturn]
    exact quotedValue_of_plain hstep rest
  · rw [List.cons_append, List.cons_append, List.cons_append, List.append_assoc]
    exact quotedValue_codePoint c rest

theorem quotedValue_escapeLiteral (s rest : List Char) :
    quotedValue .plain (Text.escapeLiteral s ++ '"' :: rest) = s := by
  induction s with
  | nil => rfl
  | cons c s ih =>
    rw [Text.escapeLiteral, List.append_assoc]
    split
    · next hnul =>
      obtain ⟨rfl, -⟩ : c = '\x00' ∧ _ := by simpa using hnul
      exact congrArg ('\x00' :: ·) ih
    · rw [quotedValue_escapeChar, ih]

/-- Reading gives back the text that was quoted. -/
theorem text?_quoteLiteral (s : List Char) : text? (Text.quoteLiteral s) = some s :=
  congrArg some (quotedValue_escapeLiteral s [])

end Literal

theorem Tree.ofText_inj {s t : List Char} : Tree.ofText s = Tree.ofText t ↔ s = t := by
  refine ⟨fun h => ?_, congrArg Tree.ofText⟩
  have hquoted : Text.quoteLiteral s = Text.quoteLiteral t :=
    String.ofList_injective (Tree.literal.inj h)
  have hread := Literal.text?_quoteLiteral s
  rw [hquoted, Literal.text?_quoteLiteral] at hread
  exact (Option.some.inj hread).symm

end Stencil.Source
