import Stencil.Scratch
import Stencil.Proofs.Buffer.Refinement

/-! Formatting through scratch space joins the pieces of text that are written, however much of the
space is in place and however the text is cut. -/
namespace Stencil

/-- Text put before a result, if there is one. -/
theorem map_append_append (x : Except Panic (List Char)) (s t : List Char) :
    (x.map (t ++ ·)).map (s ++ ·) = x.map (s ++ t ++ ·) := by
  cases x with
  | error panic => rfl
  | ok text => simp [Except.map]

theorem map_nil_append (x : Except Panic (List Char)) : x.map ([] ++ ·) = x := by
  cases x <;> rfl

theorem Showing.toText_eq (s : Showing) :
    s.toText = (settle s.ending).map fun _ => s.pieces.flatten := by
  unfold toText
  cases settle s.ending <;> rfl

theorem Showing.settle_eq_ok {ending : ShowEnd} {done : Unit} (h : settle ending = .ok done) :
    ending = .done := by
  cases ending with
  | done => rfl
  | failed => cases h
  | raised message => cases h

theorem Showing.toText_ne_ok {s : Showing} (h : s.ending ≠ .done) (text : List Char) :
    s.toText ≠ .ok text := by
  rw [toText_eq]
  cases hsettle : settle s.ending with
  | error panic => simp [Except.map]
  | ok done => exact absurd (settle_eq_ok hsettle) h

def Fragment.text : Fragment → Except Panic (List Char)
  | .literal text => .ok text
  | .value showing => showing.toText

/-- How many bytes a fragment writes, also if it breaks off behind them. -/
def Fragment.size : Fragment → Nat
  | .literal text => Text.byteLength text
  | .value showing => Text.byteLength showing.pieces.flatten

namespace Scratch

/-- Fragments as one value: all pieces that they write, up to the first that breaks off, and how
that one ends. -/
def shown : List Fragment → Showing
  | [] => ⟨[], .done⟩
  | .literal text :: rest => ⟨text :: (shown rest).pieces, (shown rest).ending⟩
  | .value s :: rest =>
    if s.ending = .done then ⟨s.pieces ++ (shown rest).pieces, (shown rest).ending⟩ else s

theorem shown_value_of_done {s : Showing} (h : s.ending = .done) (rest : List Fragment) :
    shown (.value s :: rest) = ⟨s.pieces ++ (shown rest).pieces, (shown rest).ending⟩ := by
  rw [shown, if_pos h]

theorem shown_value_of_ne_done {s : Showing} (h : s.ending ≠ .done) (rest : List Fragment) :
    shown (.value s :: rest) = s := by
  rw [shown, if_neg h]

/-- One value that breaks off breaks off the whole. -/
theorem ending_shown_ne_done {fragments : List Fragment} {s : Showing}
    (hs : .value s ∈ fragments) (h : s.ending ≠ .done) : (shown fragments).ending ≠ .done := by
  induction fragments with
  | nil => cases hs
  | cons f rest ih =>
    cases f with
    | literal text => exact ih (by simpa using hs)
    | value first =>
      by_cases hfirst : first.ending = .done
      · rw [shown_value_of_done hfirst]
        apply ih
        rcases List.mem_cons.mp hs with heq | hrest
        · cases heq
          exact absurd hfirst h
        · exact hrest
      · rwa [shown_value_of_ne_done hfirst]

/-- What is written is the pieces in order, and then the end. -/
theorem writeAll_eq (c : Cursor) (fragments : List Fragment) :
    writeAll c fragments = (shown fragments).pieces.foldlM write c >>= fun c =>
      (Showing.settle (shown fragments).ending).map fun _ => c := by
  induction fragments generalizing c with
  | nil => rfl
  | cons f rest ih =>
    cases f with
    | literal text =>
      simp only [writeAll, shown, List.foldlM_cons, bind_assoc]
      congr
      funext c
      exact ih c
    | value s =>
      by_cases hs : s.ending = .done
      · rw [shown_value_of_done hs, writeAll, List.foldlM_append, bind_assoc]
        congr
        funext c
        rw [hs, ← ih c]
        rfl
      · rw [shown_value_of_ne_done hs, writeAll]
        congr
        funext c
        cases hend : s.ending with
        | done => exact absurd hend hs
        | failed => rfl
        | raised message => rfl

theorem flatten_map_encode (pieces : List (List Char)) :
    (pieces.map Text.encode).flatten = Text.encode pieces.flatten := by
  induction pieces with
  | nil => rfl
  | cons piece pieces ih =>
    rw [List.map_cons, List.flatten_cons, ih, List.flatten_cons, Text.encode_append]

/-- Pieces written into a new buffer stand one behind the other, unless there is no memory. -/
theorem foldlM_write_cases (size : Nat) (pieces : List (List Char)) :
    (∃ c, pieces.foldlM write ⟨.ofSize size, 0⟩ = .ok c ∧ c.Holds (Text.encode pieces.flatten)) ∨
      pieces.foldlM write ⟨.ofSize size, 0⟩ = .error .tooLarge ∧
        Buffer.ample < Text.byteLength pieces.flatten := by
  have hbytes := (Cursor.holds_nil (.ofSize size)).foldlM_append_cases (pieces.map Text.encode)
  rw [List.foldlM_map, flatten_map_encode] at hbytes
  exact hbytes

/-- Where writing comes to its end, all pieces have come to theirs and stand before the cursor. -/
theorem holds_of_writeAll {size : Nat} {fragments : List Fragment} {c : Cursor}
    (h : writeAll ⟨.ofSize size, 0⟩ fragments = .ok c) :
    (shown fragments).ending = .done ∧ c.Holds (Text.encode (shown fragments).pieces.flatten) := by
  rw [writeAll_eq] at h
  obtain ⟨last, hfold, hend⟩ := Panic.exists_of_bind h
  cases hsettle : Showing.settle (shown fragments).ending with
  | error panic => simp [hsettle, Except.map] at hend
  | ok done =>
    obtain rfl : last = c := by simpa [hsettle, Except.map] using hend
    refine ⟨Showing.settle_eq_ok hsettle, ?_⟩
    rcases foldlM_write_cases size (shown fragments).pieces with ⟨c, hc, hholds⟩ | ⟨hnone, -⟩
    · obtain rfl : last = c := Except.ok.inj (hfold.symm.trans hc)
      exact hholds
    · cases hfold.symm.trans hnone

/-- A buffer gives the whole text, unless a value breaks off or there is no memory. -/
theorem buffered_cases (size : Nat) (fragments : List Fragment) :
    buffered size fragments = (shown fragments).toText ∨
      buffered size fragments = .error .tooLarge ∧
        Buffer.ample < Text.byteLength (shown fragments).pieces.flatten := by
  unfold buffered
  rw [writeAll_eq]
  rcases foldlM_write_cases size (shown fragments).pieces with ⟨c, hfold, hc⟩ | ⟨hfold, hlong⟩
  · left
    rw [hfold, Showing.toText_eq]
    cases Showing.settle (shown fragments).ending with
    | error panic => rfl
    | ok done => exact hc.text
  · right
    rw [hfold]
    exact ⟨rfl, hlong⟩

/-- What holds no value is its text already. -/
theorem toText_of_constant {fragments : List Fragment} {text : List Char}
    (h : constant? fragments = some text) : (shown fragments).toText = .ok text := by
  induction fragments generalizing text with
  | nil =>
    cases h
    rfl
  | cons f rest ih =>
    cases f with
    | value s => cases h
    | literal first =>
      obtain ⟨more, hmore, rfl⟩ := Option.map_eq_some_iff.mp h
      have hrest := ih hmore
      rw [Showing.toText_eq] at hrest ⊢
      rw [shown]
      cases hsettle : Showing.settle (shown rest).ending with
      | error panic => simp [hsettle, Except.map] at hrest
      | ok done => simpa [hsettle, Except.map] using hrest

/-- The texts of fragments one after the other, unless one of them breaks off. -/
def joined : List Fragment → Except Panic (List Char)
  | [] => .ok []
  | f :: rest => do
    let text ← f.text
    let more ← joined rest
    return text ++ more

def sizes : List Fragment → Nat
  | [] => 0
  | f :: rest => f.size + sizes rest

theorem joined_cons_ok {f : Fragment} {text : List Char} (h : f.text = .ok text)
    (rest : List Fragment) : joined (f :: rest) = (joined rest).map (text ++ ·) := by
  simp only [joined, h]
  cases joined rest <;> rfl

theorem joined_cons_error {f : Fragment} {panic : Panic} (h : f.text = .error panic)
    (rest : List Fragment) : joined (f :: rest) = .error panic := by
  simp only [joined, h]
  rfl

theorem format_cases (size : Nat) (fragments : List Fragment) :
    format size fragments = (shown fragments).toText ∨
      format size fragments = .error .tooLarge ∧
        Buffer.ample < Text.byteLength (shown fragments).pieces.flatten := by
  unfold format
  split
  · next text hconstant => exact .inl (toText_of_constant hconstant).symm
  · exact buffered_cases size fragments

theorem toText_shown (fragments : List Fragment) :
    (shown fragments).toText = joined fragments := by
  induction fragments with
  | nil => rfl
  | cons f rest ih =>
    cases f with
    | literal text =>
      rw [joined_cons_ok rfl, ← ih, Showing.toText_eq, Showing.toText_eq, shown]
      cases Showing.settle (shown rest).ending <;> rfl
    | value s =>
      have htext : Fragment.text (.value s) = s.toText := rfl
      by_cases hs : s.ending = .done
      · rw [Showing.toText_eq, hs] at htext
        rw [joined_cons_ok htext, ← ih, shown_value_of_done hs, Showing.toText_eq,
          Showing.toText_eq]
        cases Showing.settle (shown rest).ending with
        | error panic => rfl
        | ok done => simp [Except.map]
      · rw [shown_value_of_ne_done hs]
        cases hpanic : s.toText with
        | ok text => exact absurd hpanic (Showing.toText_ne_ok hs text)
        | error panic => rw [joined_cons_error (htext.trans hpanic)]

theorem byteLength_shown_le (fragments : List Fragment) :
    Text.byteLength (shown fragments).pieces.flatten ≤ sizes fragments := by
  induction fragments with
  | nil => exact Nat.le_refl _
  | cons f rest ih =>
    cases f with
    | literal text =>
      rw [shown, sizes, List.flatten_cons, Text.byteLength_append]
      exact Nat.add_le_add_left ih _
    | value s =>
      by_cases hs : s.ending = .done
      · rw [shown_value_of_done hs, sizes, List.flatten_append, Text.byteLength_append]
        exact Nat.add_le_add_left ih _
      · rw [shown_value_of_ne_done hs]
        exact Nat.le_add_right _ _

/-- Where memory is granted, the result does not depend on how much of it is in place. -/
theorem format_eq_joined (size : Nat) {fragments : List Fragment}
    (hroom : sizes fragments ≤ Buffer.ample) : format size fragments = joined fragments := by
  rw [← toText_shown]
  apply (format_cases size fragments).resolve_right
  rintro ⟨-, hlong⟩
  have hle := byteLength_shown_le fragments
  omega

/-- Whatever is formatted, with however many bytes in place: the result is the text of all pieces
one behind the other, or the panic of the first value that breaks off, whether or not a constant
text takes the short way. Only text beyond half of the memory can be refused instead. The bytes
that are taken as text in the end lie inside of the buffer and are those of the pieces. So neither
the size nor the cuts between the pieces matter, and where a value breaks off, there is no text. -/
theorem format_joins_pieces (size : Nat) (fragments : List Fragment) :
    (∀ result ∈ [format size fragments, buffered size fragments],
      result = (shown fragments).toText ∨
        result = .error .tooLarge ∧
          Buffer.ample < Text.byteLength (shown fragments).pieces.flatten) ∧
    (∀ c, writeAll ⟨.ofSize size, 0⟩ fragments = .ok c →
      c.pos ≤ c.buffer.size ∧
        c.buffer.slice.take c.pos = Text.encode (shown fragments).pieces.flatten) ∧
    (∀ (size' : Nat) (fragments' : List Fragment),
      (shown fragments').pieces.flatten = (shown fragments).pieces.flatten →
      (shown fragments').ending = (shown fragments).ending →
      Text.byteLength (shown fragments).pieces.flatten ≤ Buffer.ample →
      format size' fragments' = format size fragments) ∧
    ∀ s, .value s ∈ fragments → s.ending ≠ .done →
      ∃ panic, format size fragments = .error panic := by
  refine ⟨?_, ?_, ?_, ?_⟩
  · intro result hresult
    simp only [List.mem_cons, List.not_mem_nil, or_false] at hresult
    rcases hresult with rfl | rfl
    · exact format_cases size fragments
    · exact buffered_cases size fragments
  · intro c hc
    obtain ⟨-, hholds⟩ := holds_of_writeAll hc
    exact ⟨hholds.pos_le, hholds.take_eq⟩
  · intro size' fragments' hpieces hending hroom
    have hgiven := (format_cases size fragments).resolve_right fun h => by omega
    have hgiven' := (format_cases size' fragments').resolve_right fun h => by
      rw [hpieces] at h
      omega
    rw [hgiven, hgiven', Showing.toText_eq, Showing.toText_eq, hpieces, hending]
  · intro s hs hbroken
    cases hresult : format size fragments with
    | error panic => exact ⟨panic, rfl⟩
    | ok text =>
      rcases format_cases size fragments with hgiven | ⟨hrefused, -⟩
      · rw [hresult] at hgiven
        exact absurd hgiven.symm (Showing.toText_ne_ok (ending_shown_ne_done hs hbroken) text)
      · rw [hresult] at hrefused
        cases hrefused

end Scratch

end Stencil
