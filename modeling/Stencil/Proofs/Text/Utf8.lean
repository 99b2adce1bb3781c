import Stencil.Text.Utf8

/-! Decoding gives back the text that was encoded. -/
namespace Stencil.Text

/-- Bytes that are the encoding of some text. -/
def Valid (bytes : List UInt8) : Prop := ∃ text, encode text = bytes

theorem encode_append (s t : List Char) : encode (s ++ t) = encode s ++ encode t :=
  List.flatMap_append

theorem byteLength_append (s t : List Char) :
    byteLength (s ++ t) = byteLength s + byteLength t := by
  simp only [byteLength, encode_append, List.length_append]

theorem valid_nil : Valid [] := ⟨[], rfl⟩

theorem valid_encode (text : List Char) : Valid (encode text) := ⟨text, rfl⟩

theorem Valid.append {bytes more : List UInt8} (h : Valid bytes) (h' : Valid more) :
    Valid (bytes ++ more) := by
  obtain ⟨s, rfl⟩ := h
  obtain ⟨t, rfl⟩ := h'
  exact ⟨s ++ t, encode_append s t⟩

theorem toNat_toUInt8 {n : Nat} (h : n < 256) : n.toUInt8.toNat = n := by
  rw [Nat.toUInt8_eq, UInt8.toNat_ofNat']
  exact Nat.mod_eq_of_lt h

/-- What an unfinished character does with a byte in its range: it adds the byte's six bits. -/
theorem Decoder.step_within {low high : UInt8} (missing value k : Nat)
    (hlow : low.toNat ≤ 0x80 + k % 64) (hhigh : 0x80 + k % 64 ≤ high.toNat) :
    (Decoder.within missing low high value).step (0x80 + k % 64).toUInt8 =
      match missing with
      | 0 => ([Char.ofNat (value * 64 + k % 64)], .start)
      | missing + 1 => ([], .within missing 0x80 0xbf (value * 64 + k % 64)) := by
  have hb : (0x80 + k % 64).toUInt8.toNat = 0x80 + k % 64 := toNat_toUInt8 (by omega)
  have hbits : (0x80 + k % 64) % 64 = k % 64 := by omega
  generalize (0x80 + k % 64).toUInt8 = b at hb
  have hin : (decide (low ≤ b) && decide (b ≤ high)) = true := by
    simp [UInt8.le_iff_toNat_le, hb, hlow, hhigh]
  cases missing <;> simp [step, hin, hb, hbits]

theorem Decoder.run_later {low high : UInt8} (missing value k : Nat)
    (hlow : low.toNat ≤ 0x80 + k % 64) (hhigh : 0x80 + k % 64 ≤ high.toNat) (bs : List UInt8) :
    (Decoder.within (missing + 1) low high value).run ((0x80 + k % 64).toUInt8 :: bs) =
      (Decoder.within missing 0x80 0xbf (value * 64 + k % 64)).run bs := by
  rw [run, step_within (missing + 1) value k hlow hhigh]
  rfl

theorem Decoder.run_last (value k : Nat) (bs : List UInt8) :
    (Decoder.within 0 0x80 0xbf value).run ((0x80 + k % 64).toUInt8 :: bs) =
      Char.ofNat (value * 64 + k % 64) :: Decoder.start.run bs := by
  have hhigh : 0x80 + k % 64 ≤ (0xbf : UInt8).toNat := by
    simp only [UInt8.reduceToNat]
    omega
  rw [run, step_within 0 value k (Nat.le_add_right _ _) hhigh]
  rfl

theorem Decoder.first_of_two : ∀ k < 32, 2 ≤ k →
    first (0xc0 + k).toUInt8 = ([], .within 0 0x80 0xbf k) := by decide

theorem Decoder.first_of_three : ∀ k < 16, first (0xe0 + k).toUInt8 =
    ([], .within 1 (if k = 0 then 0xa0 else 0x80) (if k = 13 then 0x9f else 0xbf) k) := by decide

theorem Decoder.first_of_four : ∀ k < 5, first (0xf0 + k).toUInt8 =
    ([], .within 2 (if k = 0 then 0x90 else 0x80) (if k = 4 then 0x8f else 0xbf) k) := by decide

theorem Decoder.run_start_cons (b : UInt8) (bs : List UInt8) :
    Decoder.start.run (b :: bs) = (first b).1 ++ (first b).2.run bs := rfl

theorem char_bounds (c : Char) : c.toNat < 0xd800 ∨ 0xdfff < c.toNat ∧ c.toNat < 0x110000 := c.valid

/-- A byte that can be a character by itself stands for nothing else: the bytes of longer characters
are all from 128 on. -/
theorem toNat_of_mem_encodeChar {c : Char} {b : UInt8} (h : b ∈ encodeChar c)
    (hb : b.toNat < 0x80) : c.toNat = b.toNat := by
  have hbounds := char_bounds c
  unfold encodeChar at h
  generalize c.toNat = n at h hbounds
  dsimp only at h
  have high {k : Nat} (hk : 0x80 ≤ k) (hk' : k < 256) : b ≠ k.toUInt8 := by
    rintro rfl
    rw [toNat_toUInt8 hk'] at hb
    omega
  split at h
  · next hn =>
    obtain rfl := List.mem_singleton.mp h
    exact (toNat_toUInt8 (by omega)).symm
  split at h
  · next hn =>
    simp only [List.mem_cons, List.not_mem_nil, or_false] at h
    rcases h with h | h
    · exact absurd h (high (by omega) (by omega))
    · exact absurd h (high (by omega) (by omega))
  split at h
  · next hn =>
    simp only [List.mem_cons, List.not_mem_nil, or_false] at h
    rcases h with h | h | h
    · exact absurd h (high (by omega) (by omega))
    · exact absurd h (high (by omega) (by omega))
    · exact absurd h (high (by omega) (by omega))
  · simp only [List.mem_cons, List.not_mem_nil, or_false] at h
    rcases h with h | h | h | h
    · exact absurd h (high (by omega) (by omega))
    · exact absurd h (high (by omega) (by omega))
    · exact absurd h (high (by omega) (by omega))
    · exact absurd h (high (by omega) (by omega))

/-- A character is decoded from its bytes, whatever follows: one case for each number of bytes. -/
theorem Decoder.run_encodeChar (c : Char) (bs : List UInt8) :
    Decoder.start.run (encodeChar c ++ bs) = c :: Decoder.start.run bs := by
  have hc := Char.ofNat_toNat c
  have hbounds := char_bounds c
  unfold encodeChar
  generalize c.toNat = n at hc hbounds
  dsimp only
  split
  · next h =>
    simp [run_start_cons, first, toNat_toUInt8 (show n < 256 by omega), h, hc]
  split
  · next h =>
    have hvalue : n / 64 * 64 + n % 64 = n := by omega
    simp only [List.cons_append, List.nil_append, run_start_cons,
      first_of_two (n / 64) (by omega) (by omega)]
    rw [run_last, hvalue, hc]
  split
  · next h =>
    have hvalue : (n / 4096 * 64 + n / 64 % 64) * 64 + n % 64 = n := by omega
    simp only [List.cons_append, List.nil_append, run_start_cons,
      first_of_three (n / 4096) (by omega)]
    -- the second byte is in range since neither short forms nor surrogates are encoded
    have hlow : (if n / 4096 = 0 then (0xa0 : UInt8) else 0x80).toNat ≤ 0x80 + n / 64 % 64 := by
      split
      · simp only [UInt8.reduceToNat]
        omega
      · exact Nat.le_add_right _ _
    have hhigh : 0x80 + n / 64 % 64 ≤ (if n / 4096 = 13 then (0x9f : UInt8) else 0xbf).toNat := by
      split
      · simp only [UInt8.reduceToNat]
        omega
      · simp only [UInt8.reduceToNat]
        omega
    rw [run_later 0 _ _ hlow hhigh, run_last, hvalue, hc]
  · next h =>
    have hvalue : ((n / 262144 * 64 + n / 4096 % 64) * 64 + n / 64 % 64) * 64 + n % 64 = n := by
      omega
    simp only [List.cons_append, List.nil_append, run_start_cons,
      first_of_four (n / 262144) (by omega)]
    have hlow : (if n / 262144 = 0 then (0x90 : UInt8) else 0x80).toNat ≤
        0x80 + n / 4096 % 64 := by
      split
      · simp only [UInt8.reduceToNat]
        omega
      · exact Nat.le_add_right _ _
    have hhigh : 0x80 + n / 4096 % 64 ≤
        (if n / 262144 = 4 then (0x8f : UInt8) else 0xbf).toNat := by
      split
      · simp only [UInt8.reduceToNat]
        omega
      · simp only [UInt8.reduceToNat]
        omega
    rw [run_later 1 _ _ hlow hhigh, run_later 0 _ _ (Nat.le_add_right _ _) (by simp; omega),
      run_last, hvalue, hc]

theorem decodeLossy_encode (text : List Char) : decodeLossy (encode text) = text := by
  unfold decodeLossy encode
  induction text with
  | nil => rfl
  | cons c text ih => rw [List.flatMap_cons, Decoder.run_encodeChar, ih]

end Stencil.Text
