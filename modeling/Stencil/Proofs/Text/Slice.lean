import Stencil.Proofs.Text.Utf8
import Stencil.Text.Slice

/-! Cuts between two texts, and where a character is found. -/
namespace Stencil.Text

theorem cut_append (s t : List Char) : cut (byteLength s) (s ++ t) = .ok (s, t) := by
  induction s with
  | nil => simp [cut, byteLength, encode]
  | cons c s ih =>
    obtain ⟨n, hn⟩ := Nat.exists_eq_add_one.mpr (byteLength_pos (List.cons_ne_nil c s))
    have hlength := byteLength_cons c s
    rw [hn] at hlength ⊢
    rw [List.cons_append, cut, if_pos (by omega)]
    have hrest : n + 1 - (encodeChar c).length = byteLength s := by omega
    rw [hrest, ih]
    rfl

theorem before_append (s t : List Char) : before (byteLength s) (s ++ t) = .ok s := by
  rw [before, cut_append]
  rfl

theorem after_append (s t : List Char) : after (byteLength s) (s ++ t) = .ok t := by
  rw [after, cut_append]
  rfl

theorem position?_append {p : Char → Bool} {s : List Char} (h : ∀ c ∈ s, p c = false)
    (t : List Char) : position? p (s ++ t) = (position? p t).map (byteLength s + ·) := by
  induction s with
  | nil => simp [byteLength, encode]
  | cons c s ih =>
    obtain ⟨hc, hs⟩ := List.forall_mem_cons.mp h
    simp only [List.cons_append, position?, hc, Bool.false_eq_true, ↓reduceIte, ih hs,
      Option.map_map, byteLength_cons]
    congr 1
    funext n
    exact (Nat.add_assoc _ _ _).symm

theorem getElem?_encode_append {c : Char} {b : UInt8} (hc : encodeChar c = [b])
    (s t : List Char) : (encode (s ++ c :: t))[byteLength s]? = some b := by
  rw [encode_append, byteLength, List.getElem?_append_right (Nat.le_refl _), Nat.sub_self]
  simp [encode, hc]

theorem byteAt_append {c : Char} {b : UInt8} (hc : encodeChar c = [b]) (s t : List Char) :
    byteAt (byteLength s) (s ++ c :: t) = .ok b := by
  rw [byteAt, getElem?_encode_append hc]

end Stencil.Text
