import Stencil.Proofs.SourceFile.Agreement
import Stencil.Proofs.SourceFile.Sites

/-! The walk through a file does not tell the impl of a trait from an inherent one. -/
namespace Stencil

open Source

theorem Generation.exists_unit_of_mem_functionsOf {g : Generation} {o : Owner} {f : List Tree}
    (h : f ∈ g.functionsOf o) : ∃ u ∈ g.units, u.owner.same o = true ∧ f ∈ u.functions := by
  unfold functionsOf at h
  cases hfind : g.units.find? (·.owner.same o) with
  | none =>
    rw [hfind] at h
    cases h
  | some u =>
    rw [hfind] at h
    have howner := List.find?_some hfind
    exact ⟨u, List.mem_of_find?_eq_some hfind, howner, h⟩

namespace SourceFile

/-- The stub has a function in the unit of its owner, or a diagnostic. -/
inductive Site.GivesRise (options : Options) (g : Generation) (s : Site) : Prop where
  | function {m : Method} {u : CodeUnit} (hbound : s.outcome? options = some (.ok m))
      (hu : u ∈ g.units) (howner : u.owner.same s.owner = true)
      (hfunction : m.generated options ∈ u.functions)
  | diagnostic {d : Diagnostic} (hreported : s.outcome? options = some (.error d))
      (hd : d ∈ g.diagnostics)

theorem Site.owner_of_outcome? {options : Options} {s : Site} {m : Method}
    (h : s.outcome? options = some (.ok m)) : m.owner = s.owner := by
  have hmem : m ∈ Stub.bound s.owner options [s.item] := by
    have hitem : Stub.outcome? s.owner options s.item = some (.ok m) := h
    simp [Stub.bound, Stub.outcomes, hitem, Outcome.method?]
  exact Stub.owner_of_mem_bound hmem

theorem Site.givesRise_of_mem {options : Options} {all : List Site} {s : Site} (hs : s ∈ all)
    (hsome : (s.outcome? options).isSome) :
    s.GivesRise options (.run options (all.filterMap (Site.outcome? options))) := by
  obtain ⟨outcome, houtcome⟩ := Option.isSome_iff_exists.mp hsome
  have hmem : outcome ∈ all.filterMap (Site.outcome? options) :=
    List.mem_filterMap.mpr ⟨s, hs, houtcome⟩
  cases outcome with
  | error d => exact .diagnostic houtcome (List.mem_filterMap.mpr ⟨_, hmem, rfl⟩)
  | ok m =>
    have hfunction : m.generated options ∈ Generation.functionsOf
        (.run options (all.filterMap (Site.outcome? options))) s.owner := by
      rw [Generation.functionsOf_run]
      refine List.mem_map_of_mem (List.mem_filter.mpr ⟨List.mem_filterMap.mpr ⟨_, hmem, rfl⟩, ?_⟩)
      rw [Site.owner_of_outcome? houtcome, Owner.same_refl]
    obtain ⟨u, hu, howner, hf⟩ := Generation.exists_unit_of_mem_functionsOf hfunction
    exact .function houtcome hu howner hf

theorem size_run_sites {options : Options} {all : List Site}
    (h : ∀ s ∈ all, (s.outcome? options).isSome) :
    (Generation.run options (all.filterMap (Site.outcome? options))).size = all.length := by
  rw [Generation.size_run, ← List.length_map some, map_some_filterMap h, List.length_map]

/-- Each stub in a marked impl block gives rise to a function of its type or to a diagnostic, be it
the impl of a trait. So what is generated for a file is what its inherent impls give, exactly if no
marked impl of a trait holds a stub. -/
theorem generate_eq_inherent_iff {options : Options} {text : List Char} {g : Generation}
    (h : generate text options = .ok g) :
    ∃ items, readFile? text = some items ∧
      (∀ s ∈ sites items, s.GivesRise options g) ∧
      (g = .run options
          (((sites items).filter (·.block.isInherent)).filterMap (Site.outcome? options)) ↔
        ∀ s, StandsAmong items s → s.IsVisited → s.block.isInherent = true) := by
  obtain ⟨items, hread, hright, rfl⟩ := exists_sites_of_generate h
  have hsome : ∀ s ∈ sites items, (s.outcome? options).isSome := fun s hs =>
    isSome_outcome?_of_mem_sites options hright hs
  refine ⟨items, hread, fun s hs => Site.givesRise_of_mem hs (hsome s hs), ?_⟩
  constructor
  · intro heq s hstands hvisited
    -- the two passes give equally many functions and diagnostics, so no stub is left out
    have hsizes := congrArg Generation.size heq
    rw [size_run_sites hsome,
      size_run_sites fun s hs => hsome s (List.mem_filter.mp hs).1] at hsizes
    exact List.length_filter_eq_length_iff.mp hsizes.symm s (mem_sites.mpr ⟨hstands, hvisited⟩)
  · intro hinherent
    have hall : ∀ s ∈ sites items, s.block.isInherent = true := fun s hs =>
      hinherent s (mem_sites.mp hs).1 (mem_sites.mp hs).2
    rw [List.filter_eq_self.mpr hall]

set_option maxRecDepth 20000 in
/-- A marked impl of a trait without stubs, in a module, and one with a stub that is not marked. -/
theorem generate_eq_inherent_iff_beside :
    let text := ("#[named_formats] impl W \x7b #[template(\"x\")] fn f() -> String; \x7d "
      ++ "impl T for W \x7b #[template(\"y\")] fn g() -> String; \x7d "
      ++ "mod m \x7b #[named_formats] impl T for W \x7b fn h() -> String; \x7d \x7d").toList
    ∃ g items, generate text {} = .ok g ∧ readFile? text = some items ∧
      g.units.map (fun u => (u.owner.qualifiedName, u.functions.length)) = [("W", 1)] ∧
      g = .run {} (((sites items).filter (·.block.isInherent)).filterMap (Site.outcome? {})) := by
  intro text
  have hfacts : (generate text {}).toOption.map (fun g => (g.units.map fun u =>
      (u.owner.qualifiedName, u.functions.length), (readFile? text).map fun items =>
        (sites items).all (·.block.isInherent))) = some ([("W", 1)], some true) := by
    decide +kernel
  obtain ⟨g, hg, hfacts⟩ := Option.map_eq_some_iff.mp hfacts
  obtain ⟨hunits, hfacts⟩ := Prod.mk.inj hfacts
  have hgenerate := SourceError.eq_ok_of_toOption hg
  obtain ⟨items, hread, -, hiff⟩ := generate_eq_inherent_iff hgenerate
  refine ⟨g, items, hgenerate, hread, hunits, hiff.mpr fun s hstands hvisited => ?_⟩
  rw [hread, Option.map_some, Option.some.injEq, List.all_eq_true] at hfacts
  exact hfacts s (mem_sites.mpr ⟨hstands, hvisited⟩)

set_option maxRecDepth 20000 in
/-- The impl of a trait is marked, and its stub becomes a function of the type itself. -/
theorem units_of_traitImpl :
    let text := ("#[named_formats] impl T for X "
      ++ "\x7b #[template(\"\x7ba\x7d\")] fn f(a: &str) -> String; \x7d").toList
    ∃ g items, generate text {} = .ok g ∧ readFile? text = some items ∧
      (sites items).map (·.block.isInherent) = [false] ∧
      g.units.map (fun u => (u.owner.qualifiedName, u.functions.length)) = [("X", 1)] := by
  intro text
  have hfacts : (generate text {}).toOption.bind (fun g => (readFile? text).map fun items =>
      ((sites items).map (·.block.isInherent), g.units.map fun u =>
        (u.owner.qualifiedName, u.functions.length))) = some ([false], [("X", 1)]) := by
    decide +kernel
  obtain ⟨g, hg, hfacts⟩ := Option.bind_eq_some_iff.mp hfacts
  obtain ⟨items, hread, hfacts⟩ := Option.map_eq_some_iff.mp hfacts
  obtain ⟨hinherent, hunits⟩ := Prod.mk.inj hfacts
  exact ⟨g, items, SourceError.eq_ok_of_toOption hg, hread, hinherent, hunits⟩

end SourceFile

end Stencil
