import Stencil.Method
import Stencil.Proofs.Template.Balance

/-! Which stubs are bound, and why the others are not. -/
namespace Stencil

namespace Text

theorem dropWhile_isBlank_eq_nil_iff {s : List Char} :
    s.dropWhile isBlank = [] ↔ s.all isBlank = true := by
  induction s with
  | nil => simp
  | cons c s ih =>
    rw [List.dropWhile_cons, List.all_cons]
    cases hc : isBlank c with
    | false => simp
    | true => rw [if_pos rfl, ih, Bool.true_and]

theorem trim_eq_nil_iff {s : List Char} : trim s = [] ↔ s.all isBlank = true := by
  have hsplit : s.all isBlank = (s.dropWhile isBlank).all isBlank := by
    have happend := List.takeWhile_append_dropWhile (p := isBlank) (l := s)
    rw [← congrArg (List.all · isBlank) happend, List.all_append, List.all_takeWhile,
      Bool.true_and]
  rw [trim, List.reverse_eq_nil_iff, dropWhile_isBlank_eq_nil_iff, List.all_reverse, hsplit]

end Text

namespace Template

theorem isBlank_iff {template : List Char} : isBlank template = true ↔ Text.trim template = [] :=
  Text.trim_eq_nil_iff.symm

theorem plain_of_isBlank {template : List Char} (h : isBlank template = true) : Plain template := by
  intro c hc
  have hblank := List.all_eq_true.mp h c hc
  refine isBrace_eq_false.mpr ⟨?_, ?_⟩
  · rintro rfl
    exact absurd hblank (by decide)
  · rintro rfl
    exact absurd hblank (by decide)

theorem balance_of_isBlank {template : List Char} (h : isBlank template = true) :
    balance template = ⟨true, 0⟩ := by
  have hplain := balanceFrom_append (plain_of_isBlank h) false 0 []
  rw [List.append_nil] at hplain
  exact hplain

/-- Where the braces match, the holes that are counted are those that are read. -/
theorem holes_eq_length {template : List Char} (h : (balance template).wellFormed = true) :
    (balance template).holes = (holeNames template).length := by
  have hfault := wellFormed_iff.mp h
  simp [balance_eq_verdict, Reading.verdict, hfault, length_holeNames]

end Template

namespace Stub

def askedName (placeholder : List Char) : String := String.ofList (Text.trim placeholder)

/-- A placeholder that asks for another parameter than the one in its place, and the first to do
so. -/
def FirstMismatch (placeholders : List (List Char)) (params : List Parameter)
    (placeholder : List Char) (name : String) : Prop :=
  ∃ i : Nat, placeholders[i]? = some placeholder ∧ (params.map Parameter.name)[i]? = some name ∧
    askedName placeholder ≠ name ∧
    ∀ j < i, (placeholders.map askedName)[j]? = (params.map Parameter.name)[j]?

/-- A stub whose template fits its signature. -/
structure Consistent (s : Stub) (options : Options) : Prop where
  wellFormed : (Template.balance s.template).wellFormed = true
  holes : (Template.holeNames s.template).length = s.params.length
  names : options.strictNames = true →
    (Template.holeNames s.template).map askedName = s.params.map Parameter.name

/-- A template that shows nothing, although there are parameters to be shown. -/
def Empty (s : Stub) : Prop := Text.trim s.template = [] ∧ s.params ≠ []

/-- What a stub that is not bound is reported for: each problem counts only if those before it do
not arise. -/
inductive Refused (s : Stub) (options : Options) : Problem → Prop where
  | templateEmpty (hempty : s.Empty) : Refused s options .templateEmpty
  | templateMalformed (hshows : ¬s.Empty)
      (hmalformed : (Template.balance s.template).wellFormed = false) :
      Refused s options .templateMalformed
  | holeCount (hshows : ¬s.Empty) (hwell : (Template.balance s.template).wellFormed = true)
      (hcount : (Template.holeNames s.template).length ≠ s.params.length) :
      Refused s options (.holeCount (Template.holeNames s.template).length s.params.length)
  | placeholderName {placeholder : List Char} {name : String} (hshows : ¬s.Empty)
      (hwell : (Template.balance s.template).wellFormed = true)
      (hcount : (Template.holeNames s.template).length = s.params.length)
      (hstrict : options.strictNames = true)
      (hfirst : FirstMismatch (Template.holeNames s.template) s.params placeholder name) :
      Refused s options (.placeholderName placeholder name)

theorem firstMismatch_cons_of_eq {placeholder : List Char} {placeholders : List (List Char)}
    {param : Parameter} {params : List Parameter} (h : askedName placeholder = param.name) :
    firstMismatch (placeholder :: placeholders) (param :: params) =
      firstMismatch placeholders params := if_pos h

theorem firstMismatch_cons_of_ne {placeholder : List Char} {placeholders : List (List Char)}
    {param : Parameter} {params : List Parameter} (h : askedName placeholder ≠ param.name) :
    firstMismatch (placeholder :: placeholders) (param :: params) =
      some (placeholder, param.name) := if_neg h

theorem firstMismatch_eq_none_iff {placeholders : List (List Char)} {params : List Parameter}
    (hlength : placeholders.length = params.length) :
    firstMismatch placeholders params = none ↔
      placeholders.map askedName = params.map Parameter.name := by
  induction placeholders generalizing params with
  | nil =>
    obtain rfl := List.length_eq_zero_iff.mp hlength.symm
    simp [firstMismatch]
  | cons placeholder placeholders ih =>
    cases params with
    | nil => simp at hlength
    | cons param params =>
      by_cases heq : askedName placeholder = param.name
      · rw [firstMismatch_cons_of_eq heq, ih (by simpa using hlength)]
        simp [heq]
      · rw [firstMismatch_cons_of_ne heq]
        simp [heq]

/-- A pair of equal names before the others does not matter, and one of different names is the first
mismatch. -/
theorem firstMismatch_cons_iff {placeholder asked : List Char} {placeholders : List (List Char)}
    {param : Parameter} {params : List Parameter} {name : String} :
    FirstMismatch (placeholder :: placeholders) (param :: params) asked name ↔
      if askedName placeholder = param.name then FirstMismatch placeholders params asked name
      else placeholder = asked ∧ param.name = name := by
  constructor
  · rintro ⟨i, hasked, hname, hne, hbefore⟩
    cases i with
    | zero =>
      simp only [List.getElem?_cons_zero, Option.some.injEq, List.map_cons] at hasked hname
      subst hasked hname
      rw [if_neg hne]
      exact ⟨rfl, rfl⟩
    | succ i =>
      have hfirst : askedName placeholder = param.name := by
        simpa using hbefore 0 (Nat.succ_pos i)
      rw [if_pos hfirst]
      refine ⟨i, by simpa using hasked, by simpa using hname, hne, ?_⟩
      intro j hj
      simpa using hbefore (j + 1) (Nat.succ_lt_succ hj)
  · intro h
    split at h
    · next hfirst =>
      obtain ⟨i, hasked, hname, hne, hbefore⟩ := h
      refine ⟨i + 1, by simpa using hasked, by simpa using hname, hne, ?_⟩
      intro j hj
      cases j with
      | zero => simp [hfirst]
      | succ j => simpa using hbefore j (Nat.lt_of_succ_lt_succ hj)
    · next hfirst =>
      obtain ⟨rfl, rfl⟩ := h
      exact ⟨0, rfl, rfl, hfirst, fun j hj => absurd hj (Nat.not_lt_zero j)⟩

theorem firstMismatch_eq_some_iff {placeholders : List (List Char)} {params : List Parameter}
    {placeholder : List Char} {name : String} :
    firstMismatch placeholders params = some (placeholder, name) ↔
      FirstMismatch placeholders params placeholder name := by
  induction placeholders generalizing params with
  | nil => simp [firstMismatch, FirstMismatch]
  | cons first placeholders ih =>
    cases params with
    | nil => simp [firstMismatch, FirstMismatch]
    | cons param params =>
      rw [firstMismatch_cons_iff]
      by_cases heq : askedName first = param.name
      · rw [firstMismatch_cons_of_eq heq, if_pos heq, ih]
      · rw [firstMismatch_cons_of_ne heq, if_neg heq]
        simp

theorem isBlank_and_iff (s : Stub) :
    (Template.isBlank s.template && 0 < s.params.length) = true ↔ s.Empty := by
  rw [Bool.and_eq_true, Template.isBlank_iff, decide_eq_true_eq, List.length_pos_iff]
  rfl

/-- A blank template has no holes, so that it does not fit any parameters. -/
theorem Consistent.not_empty {s : Stub} {options : Options} (h : s.Consistent options) :
    ¬s.Empty := by
  rintro ⟨hblank, hparams⟩
  have hcount := Template.holes_eq_length h.wellFormed
  rw [Template.balance_of_isBlank (Template.isBlank_iff.mpr hblank), h.holes] at hcount
  exact hparams (List.length_eq_zero_iff.mp hcount.symm)

theorem Refused.problem? {s : Stub} {options : Options} {problem : Problem}
    (h : s.Refused options problem) : s.problem? options = some problem := by
  unfold Stub.problem?
  dsimp only
  cases h with
  | templateEmpty hempty => rw [if_pos ((isBlank_and_iff s).mpr hempty)]
  | templateMalformed hshows hmalformed =>
    rw [if_neg (mt (isBlank_and_iff s).mp hshows), hmalformed]
    rfl
  | holeCount hshows hwell hcount =>
    have hholes := Template.holes_eq_length hwell
    rw [if_neg (mt (isBlank_and_iff s).mp hshows), hwell, hholes]
    simp [hcount]
  | placeholderName hshows hwell hcount hstrict hfirst =>
    have hholes := Template.holes_eq_length hwell
    rw [if_neg (mt (isBlank_and_iff s).mp hshows), hwell, hholes]
    simp [hcount, hstrict, firstMismatch_eq_some_iff.mpr hfirst]

theorem Consistent.problem? {s : Stub} {options : Options} (h : s.Consistent options) :
    s.problem? options = none := by
  have hholes := Template.holes_eq_length h.wellFormed
  unfold Stub.problem?
  dsimp only
  rw [if_neg (mt (isBlank_and_iff s).mp h.not_empty), h.wellFormed, hholes]
  cases hstrict : options.strictNames with
  | false => simp [h.holes]
  | true => simp [h.holes, (firstMismatch_eq_none_iff h.holes).mpr (h.names hstrict)]

/-- Every stub is either consistent or refused for some problem. -/
theorem consistent_or_refused (s : Stub) (options : Options) :
    s.Consistent options ∨ ∃ problem, s.Refused options problem := by
  by_cases hempty : s.Empty
  · exact .inr ⟨_, .templateEmpty hempty⟩
  cases hwell : (Template.balance s.template).wellFormed with
  | false => exact .inr ⟨_, .templateMalformed hempty hwell⟩
  | true =>
    by_cases hcount : (Template.holeNames s.template).length = s.params.length
    · cases hstrict : options.strictNames with
      | false => exact .inl ⟨hwell, hcount, by simp [hstrict]⟩
      | true =>
        cases hfirst : firstMismatch (Template.holeNames s.template) s.params with
        | none => exact .inl ⟨hwell, hcount, fun _ => (firstMismatch_eq_none_iff hcount).mp hfirst⟩
        | some found =>
          have hmismatch := firstMismatch_eq_some_iff.mp hfirst
          exact .inr ⟨_, .placeholderName hempty hwell hcount hstrict hmismatch⟩
    · exact .inr ⟨_, .holeCount hempty hwell hcount⟩

theorem problem?_eq_none_iff {s : Stub} {options : Options} :
    s.problem? options = none ↔ s.Consistent options := by
  refine ⟨fun h => ?_, Consistent.problem?⟩
  rcases s.consistent_or_refused options with hconsistent | ⟨problem, hrefused⟩
  · exact hconsistent
  · rw [hrefused.problem?] at h
    cases h

theorem problem?_eq_some_iff {s : Stub} {options : Options} {problem : Problem} :
    s.problem? options = some problem ↔ s.Refused options problem := by
  refine ⟨fun h => ?_, Refused.problem?⟩
  rcases s.consistent_or_refused options with hconsistent | ⟨problem', hrefused⟩
  · rw [hconsistent.problem?] at h
    cases h
  · rw [hrefused.problem?] at h
    cases h
    exact hrefused

theorem bind_eq_ok_iff {s : Stub} {owner : Owner} {options : Options} {m : Method} :
    s.bind owner options = .ok m ↔
      s.problem? options = none ∧ m.toStub = s ∧ m.owner = owner := by
  obtain ⟨stub, owner'⟩ := m
  unfold bind
  cases s.problem? options with
  | none => simp [eq_comm (b := s), eq_comm (b := owner)]
  | some problem => simp

/-- A stub that is bound has well-formed braces, and a parameter for each hole. -/
theorem fits_of_bind {s : Stub} {owner : Owner} {options : Options} {m : Method}
    (h : s.bind owner options = .ok m) :
    (Template.balance m.template).wellFormed = true ∧
      (Template.balance m.template).holes ≤ m.params.length := by
  obtain ⟨hnone, hstub, -⟩ := bind_eq_ok_iff.mp h
  have hfits := problem?_eq_none_iff.mp hnone
  have hholes := Template.holes_eq_length hfits.wellFormed
  rw [hstub]
  exact ⟨hfits.wellFormed, Nat.le_of_eq (hholes.trans hfits.holes)⟩

/-- The template of a stub that is bound is read to its end, and has a hole for each parameter. -/
theorem read_of_bind {s : Stub} {owner : Owner} {options : Options} {m : Method}
    (h : s.bind owner options = .ok m) :
    (Template.read m.template).fault = none ∧
      Template.holeCount (Template.read m.template).segments = m.params.length := by
  obtain ⟨hnone, hstub, -⟩ := bind_eq_ok_iff.mp h
  have hfits := problem?_eq_none_iff.mp hnone
  rw [hstub]
  exact ⟨Template.wellFormed_iff.mp hfits.wellFormed,
    (Template.length_holeNames s.template).symm.trans hfits.holes⟩

theorem bind_eq_error_iff {s : Stub} {owner : Owner} {options : Options}
    {diagnostic : Diagnostic} :
    s.bind owner options = .error diagnostic ↔
      s.problem? options = some diagnostic.problem ∧ diagnostic.pos = s.pos := by
  obtain ⟨problem, pos⟩ := diagnostic
  unfold bind
  cases s.problem? options with
  | none => simp
  | some problem' => simp [eq_comm (b := s.pos)]

/-- A stub is bound if and only if its template fits its signature, and then all that it holds goes
into the method. Any other stub is reported at its name, for the first of its problems. -/
theorem bind_iff_consistent (s : Stub) (owner : Owner) (options : Options) :
    (∀ m, s.bind owner options = .ok m ↔
      s.Consistent options ∧ m.toStub = s ∧ m.owner = owner) ∧
    ∀ diagnostic, s.bind owner options = .error diagnostic ↔
      s.Refused options diagnostic.problem ∧ diagnostic.pos = s.pos := by
  constructor
  · intro m
    rw [bind_eq_ok_iff, problem?_eq_none_iff]
  · intro diagnostic
    rw [bind_eq_error_iff, problem?_eq_some_iff]

end Stub

end Stencil
