import Stencil.Proofs.Generation
import Stencil.Proofs.Stub
import Stencil.SourceFile

/-! A file is read as the list of its marked impl blocks, each with the modules around it. -/
namespace Stencil

open Source

namespace SourceFile

/-- An impl block with the modules around it, the outermost first. -/
structure Placed where
  modules : List String
  block : Impl

namespace Placed

def owner (p : Placed) : Owner := .ofImpl p.block (spaceOf p.modules)

def fault? (p : Placed) : Option SourceError := p.block.items.findSome? Stub.fault?

def outcomes (options : Options) (p : Placed) : List Outcome :=
  Stub.outcomes p.owner options p.block.items

def bound (options : Options) (p : Placed) : List Method :=
  Stub.bound p.owner options p.block.items

def functions (options : Options) (p : Placed) : List (List Tree) :=
  (p.bound options).map (Method.generated options)

end Placed

mutual

/-- The marked impl blocks of an item, in the order of the file. -/
def markedIn (modules : List String) : Item → List Placed
  | .impl block => if isMarked block then [⟨modules, block⟩] else []
  | .module name items => markedInAll (modules ++ [name]) items
  | .other => []

def markedInAll (modules : List String) : List Item → List Placed
  | [] => []
  | item :: rest => markedIn modules item ++ markedInAll modules rest

end

def marked (items : List Item) : List Placed := markedInAll [] items

theorem outcomesOf_eq (owner : Owner) (options : Options) (items : List ImplItem) :
    outcomesOf owner options items = SourceError.answer (items.findSome? Stub.fault?)
      (Stub.outcomes owner options items) := by
  induction items with
  | nil => rfl
  | cons item items ih =>
    obtain ⟨found, hinspect, -⟩ := Stub.inspect_eq item
    rw [List.findSome?_cons]
    cases hfault : Stub.fault? item with
    | some e =>
      rw [hfault] at hinspect
      rw [outcomesOf, hinspect]
      rfl
    | none =>
      rw [hfault, SourceError.answer_none] at hinspect
      rw [outcomesOf, hinspect, ih]
      cases items.findSome? Stub.fault? with
      | some e => rfl
      | none =>
        cases found <;>
          simp [Stub.outcomes, Stub.outcome?, hinspect, bind, Except.bind, pure, Except.pure]

mutual

theorem outcomesOfItem_eq (options : Options) (modules : List String) :
    ∀ item : Item, outcomesOfItem options modules item =
      SourceError.answer ((markedIn modules item).findSome? Placed.fault?)
        ((markedIn modules item).flatMap (Placed.outcomes options))
  | .impl block => by
    rw [outcomesOfItem, markedIn]
    split
    · rw [outcomesOf_eq]
      simp [Placed.fault?, Placed.outcomes, Placed.owner]
    · rfl
  | .module name items => by
    rw [outcomesOfItem, markedIn]
    exact outcomesOfItems_eq options (modules ++ [name]) items
  | .other => by
    rw [outcomesOfItem, markedIn]
    rfl

/-- The walk through the modules gives the outcomes of the marked blocks one after the other, or the
first fault in one of them. -/
theorem outcomesOfItems_eq (options : Options) (modules : List String) :
    ∀ items : List Item, outcomesOfItems options modules items =
      SourceError.answer ((markedInAll modules items).findSome? Placed.fault?)
        ((markedInAll modules items).flatMap (Placed.outcomes options))
  | [] => by
    rw [outcomesOfItems, markedInAll]
    rfl
  | item :: rest => by
    rw [outcomesOfItems, markedInAll, outcomesOfItem_eq options modules item,
      outcomesOfItems_eq options modules rest, List.findSome?_append, List.flatMap_append]
    cases (markedIn modules item).findSome? Placed.fault? with
    | some e => rfl
    | none => cases (markedInAll modules rest).findSome? Placed.fault? <;> rfl

end

theorem generate_eq (options : Options) {text : List Char} {items : List Item}
    (h : readFile? text = some items) :
    generate text options = SourceError.answer ((marked items).findSome? Placed.fault?)
      (.run options ((marked items).flatMap (Placed.outcomes options))) := by
  rw [generate, h]
  simp only [outcomesOfItems_eq, marked]
  cases (markedInAll [] items).findSome? Placed.fault? <;> rfl

theorem generate_eq_ok (options : Options) {text : List Char} {items : List Item}
    (h : readFile? text = some items) (hfault : ∀ p ∈ marked items, p.fault? = none) :
    generate text options =
      .ok (.run options ((marked items).flatMap (Placed.outcomes options))) := by
  rw [generate_eq options h, List.findSome?_eq_none_iff.mpr hfault]
  rfl

/-- What a file is made of, if something is generated for it. -/
theorem exists_of_generate {options : Options} {text : List Char} {g : Generation}
    (h : generate text options = .ok g) :
    ∃ items, readFile? text = some items ∧
      g = .run options ((marked items).flatMap (Placed.outcomes options)) := by
  cases hread : readFile? text with
  | none =>
    rw [generate, hread] at h
    cases h
  | some items =>
    rw [generate_eq options hread] at h
    cases hfault : (marked items).findSome? Placed.fault? with
    | some e =>
      rw [hfault] at h
      cases h
    | none =>
      rw [hfault] at h
      cases h
      exact ⟨items, rfl, rfl⟩

/-- The methods of one owner are those of its blocks, one block after the other. -/
theorem filter_bound (options : Options) (placed : List Placed) (o : Owner) :
    ((placed.flatMap (Placed.outcomes options)).filterMap Outcome.method?).filter (·.owner.same o) =
      (placed.filter (·.owner.same o)).flatMap (Placed.bound options) := by
  induction placed with
  | nil => rfl
  | cons p placed ih =>
    rw [List.flatMap_cons, List.filterMap_append, List.filter_append, ih, List.filter_cons]
    change (p.bound options).filter (·.owner.same o) ++ _ = _
    have howner : ∀ m ∈ p.bound options, m.owner.same o = p.owner.same o := fun m hm => by
      rw [Stub.owner_of_mem_bound hm]
    cases hsame : p.owner.same o with
    | true =>
      rw [List.filter_eq_self.mpr fun m hm => (howner m hm).trans hsame, if_pos rfl,
        List.flatMap_cons]
    | false =>
      rw [List.filter_eq_nil_iff.mpr fun m hm => by simp [howner m hm, hsame],
        if_neg Bool.false_ne_true, List.nil_append]

end SourceFile

end Stencil
