import Stencil.Proofs.Owner
import Stencil.Proofs.SourceFile.Traversal

/-! Which units of a file are written under one name. -/
namespace Stencil

namespace SourceFile

/-- Two units of a file share a file name exactly if the names in their spaces and their own, all
cut at the underscores that they hold, are the same words. So they do not if they stand in one
space, or if none of these names holds an underscore. -/
theorem units_fileName_eq_iff {options : Options} {text : List Char} {g : Generation}
    (h : generate text options = .ok g) :
    g.units.Pairwise fun u v =>
      (u.fileName = v.fileName ↔ u.owner.words = v.owner.words) ∧
      (u.owner.space = v.owner.space → u.fileName ≠ v.fileName) ∧
      (u.owner.Unscored → v.owner.Unscored → u.fileName ≠ v.fileName) := by
  obtain ⟨items, -, rfl⟩ := exists_of_generate h
  refine (Generation.pairwise_units options _).imp fun {u v} hother => ?_
  refine ⟨Owner.fileName_eq_iff, fun hspace hfile => ?_, fun hu hv hfile => ?_⟩
  · rw [Owner.same_of_fileName_of_space hfile hspace] at hother
    cases hother
  · rw [Owner.same_of_fileName_of_unscored hfile hu hv] at hother
    cases hother

set_option maxRecDepth 20000 in
/-- Two owners in one module, with an underscore in one of their names, and one outside. -/
theorem units_fileName_eq_iff_neighbours :
    let text := ("mod a \x7b #[named_formats] impl B_C "
      ++ "\x7b #[template(\"x\")] fn f() -> String; \x7d "
      ++ "#[named_formats] impl B \x7b #[template(\"y\")] fn g() -> String; \x7d \x7d "
      ++ "#[named_formats] impl C \x7b #[template(\"z\")] fn h() -> String; \x7d").toList
    ∃ g, generate text {} = .ok g ∧
      g.units.map (·.owner.qualifiedName) = ["a::B_C", "a::B", "C"] ∧
      g.units.Pairwise fun u v => u.fileName ≠ v.fileName := by
  intro text
  have hfacts : (generate text {}).toOption.map (fun g => (g.units.map (·.owner.qualifiedName),
      decide (g.units.Pairwise fun u v => u.owner.words ≠ v.owner.words))) =
      some (["a::B_C", "a::B", "C"], true) := by
    decide +kernel
  obtain ⟨g, hg, hfacts⟩ := Option.map_eq_some_iff.mp hfacts
  obtain ⟨hnames, hwords⟩ := Prod.mk.inj hfacts
  have hgenerate := SourceError.eq_ok_of_toOption hg
  refine ⟨g, hgenerate, hnames, ?_⟩
  have hpairs := (units_fileName_eq_iff hgenerate).and (of_decide_eq_true hwords)
  exact hpairs.imp fun {u v} hpair hfile => hpair.2 (hpair.1.1.mp hfile)

set_option maxRecDepth 20000 in
/-- An underscore in the name of a module reads like the border between a module and a type. -/
theorem units_share_fileName :
    let text := ("mod a_B \x7b #[named_formats] impl C "
      ++ "\x7b #[template(\"\x7ba\x7d\")] fn f(a: &str) -> String; \x7d \x7d "
      ++ "mod a \x7b #[named_formats] impl B_C "
      ++ "\x7b #[template(\"\x7ba\x7d\")] fn g(a: &str) -> String; \x7d \x7d").toList
    ∃ g, generate text {} = .ok g ∧
      g.units.map (·.owner.qualifiedName) = ["a_B::C", "a::B_C"] ∧
      ¬ g.units.Pairwise fun u v => u.fileName ≠ v.fileName := by
  intro text
  have hfacts : (generate text {}).toOption.map (fun g => (g.units.map (·.owner.qualifiedName),
      decide (g.units.Pairwise fun u v => u.fileName ≠ v.fileName))) =
      some (["a_B::C", "a::B_C"], false) := by
    decide +kernel
  obtain ⟨g, hg, hfacts⟩ := Option.map_eq_some_iff.mp hfacts
  obtain ⟨hnames, hshared⟩ := Prod.mk.inj hfacts
  exact ⟨g, SourceError.eq_ok_of_toOption hg, hnames, of_decide_eq_false hshared⟩

end SourceFile

end Stencil
