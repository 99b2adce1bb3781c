import Stencil.Proofs.Template.Reading

/-! The verdict on the braces of a template is the verdict of reading it. -/
namespace Stencil.Template

/-- All that a reader gives, one after the other until it gives nothing. -/
def Reader.yields (r : Reader) : List (Except Fault Segment) :=
  match _h : r.next with
  | none => []
  | some (x, r') => x :: r'.yields
termination_by r.rest.length
decreasing_by exact Reader.length_next_lt _h

theorem Reader.yields_none {r : Reader} (h : r.next = none) : r.yields = [] := by
  rw [yields]
  split
  · rfl
  · next h' => rw [h] at h'; cases h'

theorem Reader.yields_some {r r' : Reader} {x : Except Fault Segment}
    (h : r.next = some (x, r')) : r.yields = x :: r'.yields := by
  rw [yields]
  split
  · next h' => rw [h] at h'; cases h'
  · next h' => rw [h] at h'; cases h'; rfl

/-- Behind a fault there is no more to read. -/
theorem Reader.next_of_error {r r' : Reader} {fault : Fault}
    (h : r.next = some (.error fault, r')) : r'.next = none := by
  cases step_of_next h <;> rfl

/-- A reader gives its segments in order and then its fault, if it has one. -/
theorem Reader.yields_eq (r : Reader) :
    r.yields = r.reading.segments.map .ok ++ r.reading.fault.toList.map .error := by
  induction r using Reader.yields.induct with
  | case1 r h =>
    rw [yields_none h, reading_none h]
    rfl
  | case2 r x r' h ih =>
    rw [yields_some h]
    cases x with
    | error fault =>
      rw [yields_none (next_of_error h), reading_error h]
      rfl
    | ok segment =>
      rw [ih, reading_ok h]
      rfl

theorem yields_start (s : List Char) :
    (start s).yields = (read s).segments.map .ok ++ (read s).fault.toList.map .error :=
  Reader.yields_eq (start s)

def Segment.isHole : Segment → Bool
  | .hole _ => true
  | .literal _ => false

def holeCount (segments : List Segment) : Nat := segments.countP Segment.isHole

theorem holeCount_literal (text : List Char) (segments : List Segment) :
    holeCount (.literal text :: segments) = holeCount segments :=
  List.countP_cons_of_neg (by simp [Segment.isHole])

theorem holeCount_hole (name : List Char) (segments : List Segment) :
    holeCount (.hole name :: segments) = holeCount segments + 1 :=
  List.countP_cons_of_pos rfl

/-- The holes that have been begun and not read to their end when the fault is met. -/
def Fault.begun : Fault → Nat
  | .unclosed _ | .nested _ => 1
  | .unmatched _ => 0

def Reading.verdict (r : Reading) : Balance :=
  ⟨r.fault.isNone, holeCount r.segments + (r.fault.map Fault.begun).getD 0⟩

theorem length_holeNames (s : List Char) :
    (holeNames s).length = holeCount (read s).segments := by
  unfold holeNames holeCount
  rw [List.length_filterMap_eq_countP]
  congr 1
  funext segment
  cases segment <;> rfl

theorem Plain.notMem_encode {text : List Char} (hp : Plain text) {b : UInt8}
    (h : b ∈ Text.encode text) : b ≠ 0x7b ∧ b ≠ 0x7d := by
  obtain ⟨c, hc, hb⟩ := List.mem_flatMap.mp h
  obtain ⟨hopen, hclose⟩ := isBrace_eq_false.mp (hp c hc)
  constructor
  · rintro rfl
    exact hopen (Char.toNat_inj.mp (Text.toNat_of_mem_encodeChar hb (by decide)))
  · rintro rfl
    exact hclose (Char.toNat_inj.mp (Text.toNat_of_mem_encodeChar hb (by decide)))

/-- Text without braces does not change the state of the judge. -/
theorem balanceFrom_append {text : List Char} (hp : Plain text) (inside : Bool) (holes : Nat)
    (after : List UInt8) :
    balanceFrom inside holes (Text.encode text ++ after) = balanceFrom inside holes after := by
  have hbytes : ∀ b ∈ Text.encode text, b ≠ 0x7b ∧ b ≠ 0x7d := fun b => hp.notMem_encode
  generalize Text.encode text = bytes at hbytes
  induction bytes with
  | nil => rfl
  | cons b bytes ih =>
    obtain ⟨⟨hopen, hclose⟩, hbytes⟩ := List.forall_mem_cons.mp hbytes
    simp only [List.cons_append, balanceFrom, hopen, hclose, ↓reduceIte]
    exact ih hbytes

theorem encode_open (s : List Char) : Text.encode ('\x7b' :: s) = 0x7b :: Text.encode s := rfl

/-- One rule of reading at a time: outside of braces the judge counts what the scanner gives. -/
theorem balanceFrom_reads {s : List Char} {n : Nat} {reading : Reading} (h : Reads s n reading)
    (holes : Nat) :
    balanceFrom false holes (Text.encode s) =
      ⟨reading.verdict.wellFormed, holes + reading.verdict.holes⟩ := by
  induction h generalizing holes with
  | ended => rfl
  | unmatched => rfl
  | unclosed hp =>
    have hend := balanceFrom_append hp true (holes + 1) []
    rw [List.append_nil] at hend
    simpa [encode_open, balanceFrom, Reading.verdict, holeCount, Fault.begun] using hend
  | @nested _ text after hp =>
    have hend := balanceFrom_append hp true (holes + 1) (Text.encode ('\x7b' :: after))
    simpa [encode_open, Text.encode_append, balanceFrom, Reading.verdict, holeCount, Fault.begun]
      using hend
  | @hole _ text after reading hp _ ih =>
    calc balanceFrom false holes (Text.encode ('\x7b' :: (text ++ '\x7d' :: after)))
        = balanceFrom true (holes + 1) (Text.encode text ++ Text.encode ('\x7d' :: after)) := by
          rw [encode_open, Text.encode_append]
          rfl
      _ = balanceFrom true (holes + 1) (Text.encode ('\x7d' :: after)) := balanceFrom_append hp _ _ _
      _ = balanceFrom false (holes + 1) (Text.encode after) := rfl
      _ = _ := ih (holes + 1)
      _ = _ := by
        simp only [Reading.verdict, Reading.cons, holeCount_hole, Balance.mk.injEq, true_and]
        omega
  | @literal _ text after reading hp _ _ _ ih =>
    rw [Text.encode_append, balanceFrom_append hp, ih]
    simp only [Reading.verdict, Reading.cons, holeCount_literal]

theorem balance_eq_verdict (s : List Char) : balance s = (read s).verdict := by
  have h := balanceFrom_reads (reads_reading (start s)) 0
  simpa [balance, start, read] using h

theorem wellFormed_iff {s : List Char} :
    (balance s).wellFormed = true ↔ (read s).fault = none := by
  simp [balance_eq_verdict, Reading.verdict]

theorem wellFormed_eq_false_iff {s : List Char} :
    (balance s).wellFormed = false ↔ ∃ fault, (read s).fault = some fault := by
  rw [balance_eq_verdict, ← Option.isSome_iff_exists]
  simp [Reading.verdict]

/-- The judge of the braces and the scanner agree on every text. Braces are well formed if and only
if no fault is given; then the holes that are counted are those that are given. Otherwise one fault
follows the segments, and a hole that it breaks off has been counted. -/
theorem balance_agrees_with_yields (s : List Char) :
    ((balance s).wellFormed = true ↔ ∀ fault, .error fault ∉ (start s).yields) ∧
    ((balance s).wellFormed = true → ∃ segments : List Segment,
      (start s).yields = segments.map .ok ∧
      (balance s).holes = holeCount segments ∧
      (balance s).holes = (holeNames s).length) ∧
    ((balance s).wellFormed = false → ∃ (segments : List Segment) (fault : Fault),
      (start s).yields = segments.map .ok ++ [.error fault] ∧
      (balance s).holes = holeCount segments + fault.begun) := by
  rw [length_holeNames, balance_eq_verdict, yields_start]
  generalize read s = r
  obtain ⟨segments, fault⟩ := r
  cases fault with
  | none =>
    refine ⟨by simp [Reading.verdict], fun _ => ⟨segments, ?_, rfl, rfl⟩, by simp [Reading.verdict]⟩
    exact List.append_nil _
  | some fault =>
    exact ⟨by simp [Reading.verdict], by simp [Reading.verdict],
      fun _ => ⟨segments, fault, rfl, rfl⟩⟩

end Stencil.Template
