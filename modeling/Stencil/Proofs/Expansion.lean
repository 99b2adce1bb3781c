import Stencil.Expansion
import Stencil.Proofs.Generation
import Stencil.Proofs.Stub

/-! The expansion of an impl block loses no item: each stays, or stands for one function or one
report in the trees that are given. -/
namespace Stencil

open Source

def Source.Impl.header (i : Impl) : List Tree :=
  attributeTrees i.outer ++ i.qualifiers ++ [.ofName "impl"] ++ i.generics.trees ++ i.traitTrees
    ++ i.selfType.trees ++ i.whereClause

theorem Source.Impl.trees_eq (i : Impl) :
    i.trees = i.header ++ [.braces (attributeTrees i.inner ++ i.items.flatMap ImplItem.trees)] :=
  rfl

namespace Generation

/-- Methods of one owner make one group. -/
theorem byOwner_of_owner {o : Owner} {methods : List Method} (h : ∀ m ∈ methods, m.owner = o) :
    byOwner methods = if methods.isEmpty then [] else [(o, methods)] := by
  cases methods with
  | nil => rfl
  | cons m methods =>
    obtain ⟨rfl, hrest⟩ := List.forall_mem_cons.mp h
    have hnone : (Owner.firsts (methods.map Method.owner)).filter (!m.owner.same ·) = [] := by
      rw [List.filter_eq_nil_iff]
      intro a ha
      obtain ⟨m', hm', rfl⟩ := List.mem_map.mp (Owner.mem_of_mem_firsts ha)
      simp [hrest m' hm']
    have hall : (m :: methods).filter (m.owner.same ·.owner) = m :: methods := by
      rw [List.filter_eq_self]
      intro m' hm'
      rw [h m' hm', Owner.same_refl]
    simp only [byOwner, List.map_cons, Owner.firsts, hnone, List.map_nil, hall]
    rfl

theorem units_of_owner (options : Options) {o : Owner} {outcomes : List Outcome}
    (h : ∀ m ∈ outcomes.filterMap Outcome.method?, m.owner = o) :
    (run options outcomes).units =
      if (outcomes.filterMap Outcome.method?).isEmpty then []
      else [⟨o, (outcomes.filterMap Outcome.method?).map (Method.generated options)⟩] := by
  rw [run, groups_eq_byOwner, byOwner_of_owner h]
  split <;> rfl

end Generation

namespace Expansion

theorem sort_eq (owner : Owner) (options : Options) (items : List ImplItem) :
    sort owner options items = SourceError.answer (items.findSome? Stub.fault?)
      ⟨items.filter Stub.isSkipped, Stub.outcomes owner options items⟩ := by
  induction items with
  | nil => rfl
  | cons item items ih =>
    obtain ⟨found, hinspect, -⟩ := Stub.inspect_eq item
    rw [List.findSome?_cons]
    cases hfault : Stub.fault? item with
    | some e =>
      rw [hfault] at hinspect
      rw [sort, hinspect]
      rfl
    | none =>
      rw [hfault, SourceError.answer_none] at hinspect
      rw [sort, hinspect, ih]
      cases items.findSome? Stub.fault? with
      | some e => rfl
      | none =>
        cases found <;>
          simp [Stub.isSkipped, Stub.outcomes, Stub.outcome?, hinspect, bind, Except.bind, pure,
            Except.pure]

/-- The expansion of an inherent impl block: the items that are no stubs, and what is generated for
the others. -/
theorem ofImpl_eq (options : Options) {block : Impl} (h : block.isInherent = true) :
    ofImpl block options = SourceError.answer (block.items.findSome? Stub.fault?)
      ⟨{ block with items := block.items.filter Stub.isSkipped },
        .run options (Stub.outcomes (.ofImpl block none) options block.items)⟩ := by
  simp only [ofImpl, h, sort_eq]
  cases block.items.findSome? Stub.fault? <;> rfl

/-- The impl block that is kept, then one with the functions if there are any, and then for each
report a call that fails to compile with its message. -/
def written (rest : Impl) (owner : Owner) (functions : List (List Tree))
    (reports : List Diagnostic) : List Tree :=
  rest.header ++ [.braces (attributeTrees rest.inner ++ rest.items.flatMap ImplItem.trees)]
    ++ (if functions.isEmpty then [] else owner.implHeader ++ [.braces functions.flatten])
    ++ reports.flatMap fun d => (NamePath.mk true ["core", "compile_error"]).trees
      ++ [.mark '!' false, .braces [.ofText d.message.toList]]

theorem trees_eq_written (rest : Impl) (options : Options) {o : Owner} {outcomes : List Outcome}
    (h : ∀ m ∈ outcomes.filterMap Outcome.method?, m.owner = o) :
    trees ⟨rest, .run options outcomes⟩ =
      written rest o ((outcomes.filterMap Outcome.method?).map (Method.generated options))
        (outcomes.filterMap Outcome.diagnostic?) := by
  have hfails : Diagnostic.compileError = fun d =>
      (NamePath.mk true ["core", "compile_error"]).trees
        ++ [.mark '!' false, .braces [.ofText d.message.toList]] := rfl
  rw [trees, Impl.trees_eq, Generation.units_of_owner options h, hfails, written, List.isEmpty_map]
  split
  · rfl
  · rw [List.flatMap_singleton, CodeUnit.trees_eq]
    rfl

/-- The trees of an inherent impl block: what is kept of it, and what its stubs stand for. -/
theorem trees_ofImpl_eq (options : Options) {block : Impl} (h : block.isInherent = true) :
    trees <$> ofImpl block options = SourceError.answer (block.items.findSome? Stub.fault?)
      (written { block with items := block.items.filter Stub.isSkipped } (.ofImpl block none)
        ((Stub.bound (.ofImpl block none) options block.items).map (Method.generated options))
        (Stub.reported (.ofImpl block none) options block.items)) := by
  rw [ofImpl_eq options h]
  cases block.items.findSome? Stub.fault? with
  | some e => rfl
  | none => exact congrArg Except.ok (trees_eq_written _ options fun m hm =>
      Stub.owner_of_mem_bound hm)

end Expansion

namespace Stub

end Stub

namespace Expansion

end Expansion

end Stencil
