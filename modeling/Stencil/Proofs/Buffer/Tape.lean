import Stencil.Buffer.Cursor
import Stencil.Proofs.Text.Utf8

/-! Buffers as tapes: growth keeps what is written, and writing at the cursor appends. -/
namespace Stencil

namespace Buffer

theorem le_growthSize (current needed : Nat) : needed ≤ growthSize current needed :=
  Nat.le_max_left _ _

theorem length_extend {bytes : List UInt8} {needed : Nat} (h : bytes.length ≤ needed) :
    (extend bytes needed).length = growthSize bytes.length needed := by
  have hle := le_growthSize bytes.length needed
  simp only [extend, zeros, List.length_append, List.length_replicate]
  omega

theorem slice_spilled (inline : List UInt8) {spilled : List UInt8} (h : 0 < spilled.length) :
    slice (.stack inline spilled) = spilled := by
  cases spilled with
  | nil => simp at h
  | cons x spilled => rfl

/-- What growth does to the bytes that can be seen, whatever holds them. -/
theorem slice_reserve (len : Nat) (b : Buffer) :
    (b.reserve len).slice = if b.size < len then extend b.slice len else b.slice := by
  cases b with
  | rented bytes =>
    by_cases h : bytes.length < len
    · simp [reserve, slice, size, h]
    · simp [reserve, slice, size, h]
  | stack inline spilled =>
    cases spilled with
    | nil =>
      have hslice : slice (.stack inline []) = inline := rfl
      by_cases h : inline.length < len
      · have hreserve : reserve len (.stack inline []) = .stack inline (extend inline len) := by
          simp [reserve, Nat.not_le.mpr h]
        have hlen : 0 < (extend inline len).length := by
          rw [length_extend (Nat.le_of_lt h)]
          have hle := le_growthSize inline.length len
          omega
        rw [hreserve, slice_spilled inline hlen, size, hslice, if_pos h]
      · have hreserve : reserve len (.stack inline []) = .stack inline [] := by
          simp [reserve, Nat.le_of_not_lt h]
        rw [hreserve, size, hslice, if_neg h]
    | cons x spilled =>
      have hslice : slice (.stack inline (x :: spilled)) = x :: spilled := rfl
      by_cases h : (x :: spilled).length < len
      · have hreserve : reserve len (.stack inline (x :: spilled)) =
            .stack inline (extend (x :: spilled) len) := by
          rw [reserve, if_neg (by simp), if_pos h]
        rw [hreserve, size, hslice, if_pos h]
        rfl
      · have hreserve : reserve len (.stack inline (x :: spilled)) =
            .stack inline (x :: spilled) := by
          rw [reserve, if_neg (by simp), if_neg h]
        rw [hreserve, size, hslice, if_neg h]

theorem le_size_reserve (len : Nat) (b : Buffer) : len ≤ (b.reserve len).size := by
  rw [size, slice_reserve]
  split
  · next h =>
    rw [length_extend (show b.slice.length ≤ len from Nat.le_of_lt h)]
    exact le_growthSize _ _
  · next h => exact Nat.le_of_not_lt h

/-- Growth leaves alone what was there. -/
theorem slice_prefix_reserve (len : Nat) (b : Buffer) : b.slice <+: (b.reserve len).slice := by
  rw [slice_reserve]
  split
  · exact List.prefix_append _ _
  · exact List.prefix_rfl

theorem slice_withSlice {b : Buffer} {bytes : List UInt8} (h : bytes.length = b.size) :
    (b.withSlice bytes).slice = bytes := by
  cases b with
  | rented _ => rfl
  | stack inline spilled =>
    cases spilled with
    | nil => rfl
    | cons x spilled =>
      have hlen : 0 < bytes.length := by simp [h, size, slice]
      exact slice_spilled inline hlen

/-- A length that every buffer can be grown to: growth at most doubles it. -/
def ample : Nat := 1 <<< 62

theorem grow_of_le_ample {len : Nat} (h : len ≤ ample) (b : Buffer) :
    b.grow len = .ok (b.reserve len) := by
  unfold grow
  rw [if_neg]
  rintro ⟨hlt, hmax⟩
  simp only [ample, maxBytes, growthSize] at h hmax
  omega

theorem grow_cases (len : Nat) (b : Buffer) :
    b.grow len = .ok (b.reserve len) ∨ b.grow len = .error .tooLarge ∧ ample < len := by
  by_cases h : len ≤ ample
  · exact .inl (grow_of_le_ample h b)
  · unfold grow
    split
    · exact .inr ⟨rfl, Nat.lt_of_not_le h⟩
    · exact .inl rfl

theorem eq_reserve_of_grow {len : Nat} {b b' : Buffer} (h : b.grow len = .ok b') :
    b' = b.reserve len := by
  unfold grow at h
  split at h
  · cases h
  · cases h
    rfl

/-- A store right behind some bytes of the slice appends to them. -/
theorem store_prefix {b : Buffer} {bytes : List UInt8} (h : bytes <+: b.slice)
    {more : List UInt8} (hroom : bytes.length + more.length ≤ b.size) :
    ∃ b', b.store bytes.length more = .ok b' ∧ bytes ++ more <+: b'.slice := by
  obtain ⟨rest, hrest⟩ := h
  have hslice : b.slice.take bytes.length ++ overwrite more (b.slice.drop bytes.length) =
      bytes ++ more ++ rest.drop more.length := by
    simp [← hrest, overwrite]
  refine ⟨_, if_pos hroom, ?_⟩
  rw [hslice, slice_withSlice]
  · exact List.prefix_append _ _
  · simp only [size, ← hrest, List.length_append, List.length_drop] at hroom ⊢
    omega

end Buffer

namespace Cursor

/-- These bytes stand before the cursor. -/
def Holds (c : Cursor) (bytes : List UInt8) : Prop :=
  c.pos = bytes.length ∧ bytes <+: c.buffer.slice

theorem holds_nil (b : Buffer) : Holds ⟨b, 0⟩ [] := ⟨rfl, List.nil_prefix⟩

theorem Holds.pos_le {c : Cursor} {bytes : List UInt8} (h : c.Holds bytes) :
    c.pos ≤ c.buffer.size := h.1 ▸ h.2.length_le

theorem Holds.take_eq {c : Cursor} {bytes : List UInt8} (h : c.Holds bytes) :
    c.buffer.slice.take c.pos = bytes := by
  rw [h.1]
  exact (List.prefix_iff_eq_take.mp h.2).symm

/-- An append puts the bytes behind those that are there, once the buffer has grown for them. -/
theorem Holds.append_of_grow {c : Cursor} {bytes : List UInt8} (h : c.Holds bytes)
    {more : List UInt8} (hgrow : c.buffer.grow (c.pos + more.length) =
      .ok (c.buffer.reserve (c.pos + more.length))) :
    ∃ c', c.append more = .ok c' ∧ c'.Holds (bytes ++ more) := by
  obtain ⟨b, pos⟩ := c
  obtain ⟨rfl, hb⟩ := h
  have hsize := Buffer.le_size_reserve (bytes.length + more.length) b
  obtain ⟨b', hstore, hb'⟩ := Buffer.store_prefix
    (hb.trans (Buffer.slice_prefix_reserve (bytes.length + more.length) b)) hsize
  refine ⟨⟨b', bytes.length + more.length⟩, ?_, List.length_append.symm, hb'⟩
  simp [Cursor.append, hgrow, hstore, bind, Except.bind, pure, Except.pure]

/-- The text before the cursor is the one whose bytes stand there. -/
theorem Holds.text {c : Cursor} {text : List Char} (h : c.Holds (Text.encode text)) :
    c.text = .ok text := by
  rw [Cursor.text, Buffer.text, if_pos h.pos_le, h.take_eq, Text.decodeLossy_encode]

end Cursor

end Stencil
