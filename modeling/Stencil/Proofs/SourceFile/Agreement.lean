import Stencil.Proofs.Expansion
import Stencil.Proofs.SourceFile.Traversal

/-! What is generated for a whole file is what its marked impl blocks expand to, one by one. -/
namespace Stencil

open Source

/-- What stands behind the path of an attribute, without brackets around it. -/
def Source.Attribute.argumentTrees (a : Attribute) : List Tree :=
  match a.args with
  | .none => []
  | .list _ body => body
  | .value e => Tree.op "=" ++ e.trees

def Generation.functionsOf (g : Generation) (o : Owner) : List (List Tree) :=
  ((g.units.find? (·.owner.same o)).map CodeUnit.functions).getD []

theorem Generation.functionsOf_run (options : Options) (outcomes : List Outcome) (o : Owner) :
    (run options outcomes).functionsOf o =
      ((outcomes.filterMap Outcome.method?).filter (·.owner.same o)).map
        (Method.generated options) := by
  rw [functionsOf, find?_units, unitOf]
  cases (outcomes.filterMap Outcome.method?).filter (·.owner.same o) <;> rfl

theorem Generation.functionsOf_of_mem {options : Options} {outcomes : List Outcome} {u : CodeUnit}
    (hu : u ∈ (run options outcomes).units) :
    (run options outcomes).functionsOf u.owner = u.functions := by
  rw [functionsOf, find?_units, unitOf_of_mem hu]
  rfl

theorem Marker.apply_empty (options : Options) : ({} : Marker).apply options = options := by
  cases options
  rfl

namespace SourceFile

def isMarker (a : Attribute) : Bool := a.path.names.getLast? = some "named_formats"

def markerArguments (block : Impl) : List Tree :=
  ((block.attributes.find? isMarker).map Attribute.argumentTrees).getD []

/-- An impl block as its first marker finds it: the marker itself is gone. -/
def unmarked (block : Impl) : Impl :=
  { block with attributes := block.attributes.eraseP isMarker }

def expansion (unchecked : Bool) (environment : String → Option String) (block : Impl) :
    Except SourceError Expansion := do
  let marker := Marker.ofSettings (← Marker.settings (markerArguments block))
  Expansion.ofImpl (unmarked block) (marker.apply (.ofEnvironment environment unchecked))

/-- The first marker at an impl block gives these trees for it, and for any texts that read as its
arguments and as the block. -/
def ExpandsTo (unchecked : Bool) (environment : String → Option String) (block : Impl)
    (result : Except SourceError (List Tree)) : Prop :=
  Expansion.trees <$> expansion unchecked environment block = result ∧
    ∀ arguments item, trees? arguments = some (markerArguments block) →
      Impl.read? item = some (unmarked block) →
      Expansion.expand unchecked arguments item environment = result

theorem expandsTo_expansion (unchecked : Bool) (environment : String → Option String)
    (block : Impl) :
    ExpandsTo unchecked environment block
      (Expansion.trees <$> expansion unchecked environment block) := by
  refine ⟨rfl, fun arguments item harguments hitem => ?_⟩
  obtain ⟨trees, htrees, hphrase⟩ := Option.bind_eq_some_iff.mp hitem
  simp only [Expansion.expand, harguments, htrees, hphrase, expansion]
  cases Marker.settings (markerArguments block) <;> rfl

/-- The marker of a block is given no arguments, and the block is not that of a trait. -/
def IsPlain (block : Impl) : Prop :=
  block.isInherent = true ∧ ∀ a ∈ block.attributes, isMarker a = true → a.argumentTrees = []

instance (block : Impl) : Decidable (IsPlain block) := inferInstanceAs (Decidable (_ ∧ _))

theorem markerArguments_of_isPlain {block : Impl} (h : IsPlain block) :
    markerArguments block = [] := by
  unfold markerArguments
  cases hfind : block.attributes.find? isMarker with
  | none => rfl
  | some a => exact h.2 a (List.mem_of_find?_eq_some hfind) (List.find?_some hfind)

/-- The functions that a block gives by itself, outside of all modules. -/
def ownFunctions (options : Options) (block : Impl) : List (List Tree) :=
  (Stub.bound (.ofImpl block none) options block.items).map (Method.generated options)

def ownReports (options : Options) (block : Impl) : List Diagnostic :=
  Stub.reported (.ofImpl block none) options block.items

theorem expandsTo_of_isPlain (unchecked : Bool) (environment : String → Option String)
    {p : Placed} (h : IsPlain p.block) :
    let options := Options.ofEnvironment environment unchecked
    ExpandsTo unchecked environment p.block (SourceError.answer p.fault?
      (Expansion.written { unmarked p.block with items := p.block.items.filter Stub.isSkipped }
        (.ofImpl p.block none) (ownFunctions options p.block) (ownReports options p.block))) := by
  intro options
  have hinherent : (unmarked p.block).isInherent = true := h.1
  have hx : expansion unchecked environment p.block =
      Expansion.ofImpl (unmarked p.block) (({} : Marker).apply options) := by
    rw [expansion, markerArguments_of_isPlain h]
    rfl
  have hexpands := expandsTo_expansion unchecked environment p.block
  rw [hx, Marker.apply_empty, Expansion.trees_ofImpl_eq _ hinherent] at hexpands
  exact hexpands

/-- A block gives the functions of its stubs, whichever module it stands in. -/
theorem ownFunctions_eq (options : Options) (p : Placed) :
    ownFunctions options p.block = p.functions options :=
  Stub.generated_bound_owner _ _ options p.block.items

theorem ownReports_eq (options : Options) (p : Placed) :
    ownReports options p.block = (p.outcomes options).filterMap Outcome.diagnostic? :=
  Stub.reported_owner _ _ options p.block.items

/-- The first block in which a mode is wrong says what is wrong with the file. -/
theorem exists_first_fault {placed : List Placed} (h : ∃ p ∈ placed, p.fault? ≠ none) :
    ∃ p e, placed.find? (·.fault?.isSome) = some p ∧ p.fault? = some e ∧
      placed.findSome? Placed.fault? = some e := by
  obtain ⟨q, hq, hfault⟩ := h
  have hfound : (placed.find? (·.fault?.isSome)).isSome = true :=
    List.find?_isSome.mpr ⟨q, hq, Option.isSome_iff_ne_none.mpr hfault⟩
  obtain ⟨p, hp⟩ := Option.isSome_iff_exists.mp hfound
  obtain ⟨hsome, before, after, hsplit, hbefore⟩ := List.find?_eq_some_iff_append.mp hp
  obtain ⟨e, he⟩ := Option.isSome_iff_exists.mp hsome
  have hnone : ∀ q ∈ before, q.fault? = none := fun q hq => by simpa using hbefore q hq
  exact ⟨p, e, hp, he, List.findSome?_eq_some_iff.mpr ⟨before, p, after, hsplit, he, hnone⟩⟩

/-- A file whose marked impl blocks, at any depth of modules, are inherent and give their marker no
arguments; the options are those that the environment sets. If no mode is wrong, each block by
itself gives the trees of what is kept of it, of an impl block with its functions and of one failing
call for each of its reports. The file gives for each owner an impl block with the functions of the
owner's blocks, in the order of the file, and the reports of all blocks in that order. Else the file
fails as the first block in which a mode is wrong does. -/
theorem generate_agrees_with_expansion (unchecked : Bool) (environment : String → Option String)
    {text : List Char} {items : List Item} (hread : readFile? text = some items)
    (hplain : ∀ p ∈ marked items, IsPlain p.block) :
    let options := Options.ofEnvironment environment unchecked
    ((∀ p ∈ marked items, p.fault? = none) →
      ∃ g : Generation, generate text options = .ok g ∧
        (∀ p ∈ marked items, ExpandsTo unchecked environment p.block (.ok (Expansion.written
          { unmarked p.block with items := p.block.items.filter Stub.isSkipped }
          (.ofImpl p.block none) (ownFunctions options p.block) (ownReports options p.block)))) ∧
        (∀ u ∈ g.units,
          u.trees = u.owner.implHeader ++ [.braces (g.functionsOf u.owner).flatten]) ∧
        (∀ o, g.functionsOf o = ((marked items).filter (·.owner.same o)).flatMap fun p =>
          ownFunctions options p.block) ∧
        g.diagnostics = (marked items).flatMap fun p => ownReports options p.block) ∧
    ((∃ p ∈ marked items, p.fault? ≠ none) →
      ∃ p e, (marked items).find? (·.fault?.isSome) = some p ∧ p.fault? = some e ∧
        generate text options = .error e ∧
        ExpandsTo unchecked environment p.block (.error e)) := by
  intro options
  have hexpands := fun p hp => expandsTo_of_isPlain unchecked environment (hplain p hp)
  constructor
  · intro hfault
    refine ⟨_, generate_eq_ok options hread hfault, ?_, ?_, ?_, ?_⟩
    · intro p hp
      have h := hexpands p hp
      rwa [hfault p hp] at h
    · intro u hu
      rw [Generation.functionsOf_of_mem hu, CodeUnit.trees_eq]
    · intro o
      rw [Generation.functionsOf_run, filter_bound, List.map_flatMap]
      simp only [ownFunctions_eq]
      rfl
    · simp only [ownReports_eq]
      exact List.filterMap_flatMap
  · intro hwrong
    obtain ⟨p, e, hp, he, hfirst⟩ := exists_first_fault hwrong
    have h := hexpands p (List.mem_of_find?_eq_some hp)
    rw [he] at h
    refine ⟨p, e, hp, he, ?_, h⟩
    rw [generate_eq options hread, hfirst]
    rfl

set_option maxRecDepth 20000 in
/-- Blocks of one type around a module with another, and a mode that is no word inside of a
module. -/
theorem generate_agrees_with_expansion_nested :
    let text := ("#[named_formats] impl W \x7b #[template(\"y\")] fn f() -> String; \x7d "
      ++ "mod m \x7b #[named_formats] impl W "
      ++ "\x7b #[template(\"\x7b\")] fn g() -> String; \x7d \x7d "
      ++ "#[named_formats] impl W \x7b #[template(\"x\")] fn h() -> String; \x7d").toList
    let wrong := ("#[named_formats] impl V \x7b\x7d mod m \x7b #[named_formats] impl W "
      ++ "\x7b #[template(\"\x7ba\x7d\")] fn f(#[fmt(8)] a: u8) -> String; \x7d \x7d").toList
    (∃ items g, readFile? text = some items ∧ generate text {} = .ok g ∧
      (marked items).map (fun p => (p.modules, (ownFunctions {} p.block).length,
        (ownReports {} p.block).length)) = [([], 1, 0), (["m"], 0, 1), ([], 1, 0)] ∧
      (∀ p ∈ marked items, ExpandsTo false (fun _ => none) p.block (.ok (Expansion.written
        { unmarked p.block with items := p.block.items.filter Stub.isSkipped }
        (.ofImpl p.block none) (ownFunctions {} p.block) (ownReports {} p.block)))) ∧
      (∀ o, g.functionsOf o = ((marked items).filter (·.owner.same o)).flatMap fun p =>
        ownFunctions {} p.block) ∧
      g.diagnostics = (marked items).flatMap fun p => ownReports {} p.block) ∧
    generate wrong {} = .error (.malformedMode "# [fmt (8)]") := by
  intro text wrong
  constructor
  · have hfacts : (readFile? text).map (fun items => ((marked items).map (fun p =>
        (p.modules, (ownFunctions {} p.block).length, (ownReports {} p.block).length)),
        decide (∀ p ∈ marked items, IsPlain p.block),
        (marked items).all (·.fault?.isNone))) =
        some ([([], 1, 0), (["m"], 0, 1), ([], 1, 0)], true, true) := by
      decide +kernel
    obtain ⟨items, hread, hfacts⟩ := Option.map_eq_some_iff.mp hfacts
    simp only [Prod.mk.injEq, decide_eq_true_eq, List.all_eq_true, Option.isNone_iff_eq_none]
      at hfacts
    obtain ⟨hcounts, hplain, hfault⟩ := hfacts
    obtain ⟨g, hg, hexpands, -, hfunctions, hreports⟩ :=
      (generate_agrees_with_expansion false (fun _ => none) hread hplain).1 hfault
    exact ⟨items, g, hread, hg, hcounts, hexpands, hfunctions, hreports⟩
  · have hfacts : (readFile? wrong).map (fun items =>
        (decide (∀ p ∈ marked items, IsPlain p.block), (marked items).map Placed.fault?)) =
        some (true, [none, some (.malformedMode "# [fmt (8)]")]) := by decide +kernel
    obtain ⟨items, hread, hfacts⟩ := Option.map_eq_some_iff.mp hfacts
    simp only [Prod.mk.injEq, decide_eq_true_eq] at hfacts
    obtain ⟨hplain, hfaults⟩ := hfacts
    have hfault : ∀ {e}, some e ∈ (marked items).map Placed.fault? →
        e = .malformedMode "# [fmt (8)]" := fun he => by simpa [hfaults] using he
    have hwrong : ∃ p ∈ marked items, p.fault? ≠ none := by
      have hmem : some (.malformedMode "# [fmt (8)]") ∈ (marked items).map Placed.fault? := by
        simp [hfaults]
      obtain ⟨p, hp, he⟩ := List.mem_map.mp hmem
      exact ⟨p, hp, by simp [he]⟩
    obtain ⟨p, e, hp, he, hgenerate, -⟩ :=
      (generate_agrees_with_expansion false (fun _ => none) hread hplain).2 hwrong
    rw [← hfault (List.mem_map.mpr ⟨p, List.mem_of_find?_eq_some hp, he⟩)]
    exact hgenerate

end SourceFile

end Stencil
