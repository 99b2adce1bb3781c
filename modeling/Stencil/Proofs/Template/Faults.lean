import Stencil.Proofs.Template.Segmentation

/-! Where a fault lies, in bytes, and what a reader gives when it is asked again and again. -/
namespace Stencil.Template

/-- The answers of a reader that is asked so many times, also after it has come to an end. -/
def Reader.calls : Nat → Reader → Except Panic (List (Option (Except Fault Segment)))
  | 0, _ => .ok []
  | count + 1, r => do
    match ← r.scan with
    | none => return none :: (← r.calls count)
    | some (x, r') => return some x :: (← r'.calls count)

namespace Reader

theorem calls_succ_none {r : Reader} (h : r.next = none) {count : Nat}
    {answers : List (Option (Except Fault Segment))} (hcalls : r.calls count = .ok answers) :
    r.calls (count + 1) = .ok (none :: answers) := by
  simp only [calls, scan_eq_next, h, bind, Except.bind, hcalls]
  rfl

theorem calls_succ_some {r r' : Reader} {x : Except Fault Segment} (h : r.next = some (x, r'))
    {count : Nat} {answers : List (Option (Except Fault Segment))}
    (hcalls : r'.calls count = .ok answers) : r.calls (count + 1) = .ok (some x :: answers) := by
  simp only [calls, scan_eq_next, h, bind, Except.bind, hcalls]
  rfl

theorem exists_calls (count : Nat) (r : Reader) : ∃ answers, r.calls count = .ok answers := by
  induction count generalizing r with
  | zero => exact ⟨[], rfl⟩
  | succ count ih =>
    cases hnext : r.next with
    | none =>
      obtain ⟨answers, hcalls⟩ := ih r
      exact ⟨_, calls_succ_none hnext hcalls⟩
    | some found =>
      obtain ⟨x, r'⟩ := found
      obtain ⟨answers, hcalls⟩ := ih r'
      exact ⟨_, calls_succ_some hnext hcalls⟩

theorem calls_ended {r : Reader} (h : r.next = none) (more : Nat) :
    r.calls more = .ok (List.replicate more none) := by
  induction more with
  | zero => rfl
  | succ more ih => exact calls_succ_none h ih

/-- A reader gives what it has to give, one after the other, and nothing ever after. -/
theorem calls_yields (r : Reader) (more : Nat) :
    r.calls (r.yields.length + more) = .ok (r.yields.map some ++ List.replicate more none) := by
  induction r using Reader.yields.induct with
  | case1 r hnext =>
    rw [yields_none hnext, List.length_nil, Nat.zero_add]
    exact calls_ended hnext more
  | case2 r x r' hnext ih =>
    rw [yields_some hnext, List.length_cons, Nat.add_right_comm]
    exact calls_succ_some hnext ih

end Reader

def NoBraceAt (text : List Char) (i : Nat) : Prop :=
  (Text.encode text)[i]? ≠ some 0x7b ∧ (Text.encode text)[i]? ≠ some 0x7d

/-- The fault of a template that is read up to a byte position, and what stands there and at the
offset of the fault. -/
inductive PointsAt (template : List Char) (position : Nat) : Fault → Prop where
  | unmatched (hclose : (Text.encode template)[position]? = some 0x7d) :
      PointsAt template position (.unmatched position)
  | unclosed (hopen : (Text.encode template)[position]? = some 0x7b)
      (hafter : ∀ i, position < i → NoBraceAt template i) :
      PointsAt template position (.unclosed position)
  | nested {offset : Nat} (hopen : (Text.encode template)[position]? = some 0x7b)
      (hlt : position < offset) (hagain : (Text.encode template)[offset]? = some 0x7b)
      (hbetween : ∀ i, position < i → i < offset → NoBraceAt template i) :
      PointsAt template position (.nested offset)

theorem Plain.noBraceAt {text : List Char} (hp : Plain text) (i : Nat) : NoBraceAt text i := by
  constructor
  · intro h
    exact (hp.notMem_encode (List.mem_of_getElem? h)).1 rfl
  · intro h
    exact (hp.notMem_encode (List.mem_of_getElem? h)).2 rfl

theorem noBraceAt_append_left {text after : List Char} {i : Nat} (hi : i < Text.byteLength text) :
    NoBraceAt (text ++ after) i ↔ NoBraceAt text i := by
  rw [NoBraceAt, Text.encode_append, List.getElem?_append_left hi]
  rfl

theorem noBraceAt_append_right {front text : List Char} {i : Nat}
    (hi : Text.byteLength front ≤ i) :
    NoBraceAt (front ++ text) i ↔ NoBraceAt text (i - Text.byteLength front) := by
  rw [NoBraceAt, Text.encode_append, List.getElem?_append_right hi]
  rfl

theorem byteLength_append_open (front : List Char) :
    Text.byteLength (front ++ ['\x7b']) = Text.byteLength front + 1 :=
  Text.byteLength_append front ['\x7b']

theorem Remains.pointsAt {front rest : List Char} {fault : Fault}
    (h : Remains rest (Text.byteLength front) (some fault)) :
    PointsAt (front ++ rest) (Text.byteLength front) fault := by
  have hfront := byteLength_append_open front
  cases h with
  | unmatched => exact .unmatched (Text.getElem?_encode_append encodeChar_close front _)
  | @unclosed _ text hp =>
    refine .unclosed (Text.getElem?_encode_append encodeChar_open front _) ?_
    intro i hi
    rw [List.append_cons, noBraceAt_append_right (by omega)]
    exact hp.noBraceAt _
  | @nested _ text after hp =>
    have hagain := Text.getElem?_encode_append encodeChar_open (front ++ ['\x7b'] ++ text) after
    rw [Text.byteLength_append, hfront] at hagain
    refine .nested (Text.getElem?_encode_append encodeChar_open front _) (by omega) ?_ ?_
    · simpa using hagain
    · intro i hlow hhigh
      rw [List.append_cons, noBraceAt_append_right (by omega), noBraceAt_append_left (by omega)]
      exact hp.noBraceAt _

/-- However often a reader of a text is asked, no cut of it is made inside of a character. Where the
braces do not match, it gives segments that make up the beginning of the template, then one fault,
which points at the brace that does not match, and then nothing any more. -/
theorem faults_point_at_braces (template : List Char) :
    (∀ count, ∃ answers, (start template).calls count = .ok answers) ∧
    ((balance template).wellFormed = false →
      ∃ fault, (read template).fault = some fault ∧
        (∀ more, (start template).calls ((read template).segments.length + 1 + more) =
          .ok ((read template).segments.map (fun s => some (.ok s)) ++
            some (.error fault) :: List.replicate more none)) ∧
        render (read template).segments <+: template ∧
        PointsAt template (Text.byteLength (render (read template).segments)) fault) := by
  refine ⟨fun count => Reader.exists_calls count _, ?_⟩
  intro hwell
  have hreads : Reads template 0 (read template) := reads_reading (start template)
  obtain ⟨fault, hfault⟩ := wellFormed_eq_false_iff.mp hwell
  have hyields : (start template).yields =
      (read template).segments.map .ok ++ [.error fault] := by
    rw [yields_start, hfault]
    rfl
  obtain ⟨rest, htemplate, hrest⟩ := hreads.exists_remains
  rw [hfault, Nat.zero_add] at hrest
  refine ⟨fault, hfault, ?_, ⟨rest, htemplate.symm⟩, ?_⟩
  · intro more
    have hcalls := (start template).calls_yields more
    simpa [hyields, Function.comp_def] using hcalls
  · have hpoints := hrest.pointsAt
    rwa [← htemplate] at hpoints

/-- A brace inside of a hole, behind characters of two and of three bytes. -/
theorem faults_point_at_braces_nested :
    let template := ['é', '\x7b', 'a', '\x7d', 'ü', '\x7b', '€', '\x7b', 'b', '\x7d']
    (balance template).wellFormed = false ∧
      (start template).calls 6 =
        .ok [some (.ok (.literal ['é'])), some (.ok (.hole ['a'])), some (.ok (.literal ['ü'])),
          some (.error (.nested 11)), none, none] ∧
      PointsAt template 7 (.nested 11) := by
  intro template
  have hwell : (balance template).wellFormed = false := by decide
  have hread : read template = ⟨[.literal ['é'], .hole ['a'], .literal ['ü']], some (.nested 11)⟩ := by
    cbv
  obtain ⟨fault, hfault, hcalls, -, hpoints⟩ := (faults_point_at_braces template).2 hwell
  rw [hread] at hfault hcalls hpoints
  cases hfault
  exact ⟨hwell, hcalls 2, hpoints⟩

end Stencil.Template
