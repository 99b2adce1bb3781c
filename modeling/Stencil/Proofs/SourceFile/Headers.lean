import Stencil.Proofs.SourceFile.Traversal

/-! Which impl header a generated function stands under. -/
namespace Stencil

open Source

def Source.Segment.arguments : Segment → List Tree
  | .plain _ => []
  | .applied _ _ trees => trees

/-- The generic arguments along a path. A type of another form is taken as a whole. -/
def Source.Ty.arguments : Ty → List (List Tree)
  | .path _ segments => segments.map Segment.arguments
  | type => [type.trees]

/-- What an impl header says of a type besides its name, as it is printed. -/
structure Header where
  parameters : String
  whereClause : String
  arguments : List String
  deriving DecidableEq

def Owner.header (o : Owner) : Header where
  parameters := render o.generics.trees
  whereClause := render o.whereClause
  arguments := o.selfType.arguments.map render

namespace SourceFile

def blocksOf (options : Options) (placed : List Placed) (o : Owner) : List Placed :=
  placed.filter fun p => p.owner.same o && !(p.bound options).isEmpty

/-- Blocks without a bound stub add nothing to an owner. -/
theorem flatMap_blocksOf (options : Options) (placed : List Placed) (o : Owner) :
    (blocksOf options placed o).flatMap (Placed.bound options) =
      (placed.filter (·.owner.same o)).flatMap (Placed.bound options) := by
  induction placed with
  | nil => rfl
  | cons p placed ih =>
    unfold blocksOf at ih ⊢
    rw [List.filter_cons, List.filter_cons]
    cases p.owner.same o with
    | false => simpa using ih
    | true =>
      cases hbound : p.bound options with
      | nil => simpa [hbound] using ih
      | cons m methods => simpa [hbound] using ih

/-- The unit of a file stands under the header of the first block of its owner that has a bound
stub, and holds the functions of all of them. -/
theorem unit_eq_of_mem {options : Options} {placed : List Placed} {u : CodeUnit}
    (hu : u ∈ (Generation.run options (placed.flatMap (Placed.outcomes options))).units) :
    ∃ first others, blocksOf options placed u.owner = first :: others ∧ u.owner = first.owner ∧
      u.functions = (first :: others).flatMap (Placed.functions options) := by
  have hunit := Generation.unitOf_of_mem hu
  rw [Generation.unitOf, filter_bound, ← flatMap_blocksOf] at hunit
  obtain ⟨m, hhead, hm⟩ := Option.map_eq_some_iff.mp hunit
  cases hblocks : blocksOf options placed u.owner with
  | nil =>
    rw [hblocks] at hhead
    cases hhead
  | cons first others =>
    rw [hblocks] at hhead hm
    have hmem : first ∈ blocksOf options placed u.owner := by simp [hblocks]
    have hbound : (first.bound options).isEmpty = false := by
      simpa using (Bool.and_eq_true_iff.mp (List.mem_filter.mp hmem).2).2
    -- the first method comes from the first block, which is not empty
    have howner : m.owner = first.owner := by
      cases hmethods : first.bound options with
      | nil => simp [hmethods] at hbound
      | cons m' methods =>
        rw [List.flatMap_cons, hmethods] at hhead
        cases hhead
        exact Stub.owner_of_mem_bound (hmethods ▸ List.mem_cons_self : m ∈ first.bound options)
    refine ⟨first, others, rfl, ?_, ?_⟩
    · rw [← hm]
      exact howner
    · rw [← hm]
      exact List.map_flatMap

/-- The functions of a unit are those of the marked blocks of its owner, which are told by space and
name alone; and the unit opens with the header of the first of them that has a bound stub. So each
function stands under a header as its own block has it if these blocks agree in that. -/
theorem units_header_of_first {options : Options} {text : List Char} {g : Generation}
    (h : generate text options = .ok g) :
    ∃ items, readFile? text = some items ∧ ∀ u ∈ g.units,
      ∃ first others, blocksOf options (marked items) u.owner = first :: others ∧
        u.owner = first.owner ∧
        u.functions = (first :: others).flatMap (Placed.functions options) ∧
        u.trees = first.owner.implHeader ++ [.braces u.functions.flatten] ∧
        ((∀ p ∈ others, p.owner.header = first.owner.header) →
          ∀ f ∈ u.functions, ∃ p ∈ marked items, f ∈ p.functions options ∧
            p.owner.same u.owner = true ∧ p.owner.header = u.owner.header) := by
  obtain ⟨items, hread, rfl⟩ := exists_of_generate h
  refine ⟨items, hread, fun u hu => ?_⟩
  obtain ⟨first, others, hblocks, howner, hfunctions⟩ := unit_eq_of_mem hu
  have htrees : u.trees = first.owner.implHeader ++ [.braces u.functions.flatten] := by
    rw [CodeUnit.trees_eq, howner]
  refine ⟨first, others, hblocks, howner, hfunctions, htrees, fun hheaders f hf => ?_⟩
  rw [hfunctions] at hf
  obtain ⟨p, hp, hfp⟩ := List.mem_flatMap.mp hf
  have hheader : p.owner.header = u.owner.header := by
    rw [howner]
    rcases List.mem_cons.mp hp with rfl | hp
    · rfl
    · exact hheaders p hp
  rw [← hblocks] at hp
  obtain ⟨hmarked, hsame⟩ := List.mem_filter.mp hp
  exact ⟨p, hmarked, hfp, (Bool.and_eq_true_iff.mp hsame).1, hheader⟩

set_option maxRecDepth 20000 in
/-- Two blocks of one generic type, the second behind a block of the same name in a module. -/
theorem units_header_of_first_shared :
    let text := ("#[named_formats] impl<T> W<T> \x7b #[template(\"x\")] fn f() -> String; \x7d "
      ++ "mod m \x7b #[named_formats] impl W<u8> "
      ++ "\x7b #[template(\"y\")] fn g() -> String; \x7d \x7d "
      ++ "#[named_formats] impl<T> W<T> \x7b #[template(\"z\")] fn h() -> String; \x7d").toList
    ∃ g items, generate text {} = .ok g ∧ readFile? text = some items ∧
      g.units.map (·.functions.length) = [2, 1] ∧
      ∀ u ∈ g.units, ∀ f ∈ u.functions, ∃ p ∈ marked items, f ∈ p.functions {} ∧
        p.owner.same u.owner = true ∧ p.owner.header = u.owner.header := by
  intro text
  let pass := fun items => Generation.run {} ((marked items).flatMap (Placed.outcomes {}))
  have hfacts : (readFile? text).map (fun items => ((marked items).all (·.fault?.isNone),
      (pass items).units.map (·.functions.length),
      (pass items).units.all fun u => (blocksOf {} (marked items) u.owner).all
        (·.owner.header = u.owner.header))) = some (true, [2, 1], true) := by
    decide +kernel
  obtain ⟨items, hread, hfacts⟩ := Option.map_eq_some_iff.mp hfacts
  simp only [Prod.mk.injEq, List.all_eq_true, Option.isNone_iff_eq_none, decide_eq_true_eq]
    at hfacts
  obtain ⟨hfault, hlengths, hheaders⟩ := hfacts
  have hgenerate := generate_eq_ok {} hread hfault
  refine ⟨pass items, items, hgenerate, hread, hlengths, fun u hu => ?_⟩
  obtain ⟨items', hread', hunits⟩ := units_header_of_first hgenerate
  cases hread.symm.trans hread'
  obtain ⟨first, others, hblocks, howner, -, -, hfunctions⟩ := hunits u hu
  refine hfunctions fun p hp => ?_
  rw [← howner]
  exact hheaders u hu p (by simp [hblocks, hp])

set_option maxRecDepth 20000 in
/-- Two instances of a generic type are one owner, so a function of the second stands under the
header of the first. -/
theorem units_header_of_other_instance :
    let text := ("#[named_formats] impl W<u8> "
      ++ "\x7b #[template(\"\x7ba\x7d\")] fn f(a: &str) -> String; \x7d "
      ++ "#[named_formats] impl W<u16> "
      ++ "\x7b #[template(\"\x7ba\x7d\")] fn g(a: &str) -> String; \x7d").toList
    ∃ g items, generate text {} = .ok g ∧ readFile? text = some items ∧
      ¬ ∀ u ∈ g.units, ∀ f ∈ u.functions, ∃ p ∈ marked items, f ∈ p.functions {} ∧
        p.owner.header = u.owner.header := by
  intro text
  let pass := fun items => Generation.run {} ((marked items).flatMap (Placed.outcomes {}))
  have hfacts : (readFile? text).map (fun items => ((marked items).all (·.fault?.isNone),
      (pass items).units.all fun u => u.functions.all fun f => (marked items).any fun p =>
        ((p.functions {}).map render).contains (render f) && p.owner.header = u.owner.header)) =
      some (true, false) := by
    decide +kernel
  obtain ⟨items, hread, hfacts⟩ := Option.map_eq_some_iff.mp hfacts
  obtain ⟨hfault, hfacts⟩ := Prod.mk.inj hfacts
  simp only [List.all_eq_true, Option.isNone_iff_eq_none] at hfault
  refine ⟨pass items, items, generate_eq_ok {} hread hfault, hread, fun hall => ?_⟩
  refine Bool.eq_false_iff.mp hfacts ?_
  simp only [List.all_eq_true, List.any_eq_true, Bool.and_eq_true, List.contains_iff_mem,
    decide_eq_true_eq]
  intro u hu f hf
  obtain ⟨p, hp, hfp, hheader⟩ := hall u hu f hf
  exact ⟨p, hp, List.mem_map_of_mem hfp, hheader⟩

end SourceFile

end Stencil
