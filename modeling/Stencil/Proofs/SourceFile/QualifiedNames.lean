import Stencil.Proofs.Owner
import Stencil.Proofs.Source.ModuleNames
import Stencil.Proofs.SourceFile.Traversal

/-! An owner is told from every other by its qualified name, whatever text its module is. -/
namespace Stencil

open Source

theorem eq_nil_of_mark {α : Type} {mark : α} {between after after' : List α} (h : mark ∉ after)
    (heq : mark :: after = between ++ mark :: after') : between = [] := by
  cases between with
  | nil => rfl
  | cons c between =>
    refine absurd ?_ h
    rw [(List.cons.inj heq).2]
    simp

/-- Where a mark stands for the last time, a list can be cut in one way only. -/
theorem append_mark_inj {α : Type} {mark : α} {before before' after after' : List α}
    (h : mark ∉ after) (h' : mark ∉ after')
    (heq : before ++ mark :: after = before' ++ mark :: after') :
    before = before' ∧ after = after' := by
  rcases List.append_eq_append_iff.mp heq with
    ⟨between, hbefore, hafter⟩ | ⟨between, hbefore, hafter⟩
  · obtain rfl := eq_nil_of_mark h hafter
    exact ⟨by simpa using hbefore.symm, by simpa using hafter⟩
  · obtain rfl := eq_nil_of_mark h' hafter
    exact ⟨by simpa using hbefore, by simpa using hafter.symm⟩

namespace Source

inductive Item.Holds (block : Impl) : Item → Prop where
  | impl : Holds block (.impl block)
  | module {name : String} {items : List Item} {item : Item} (hitem : item ∈ items)
      (hblock : Holds block item) :
    Holds block (.module name items)

/-- The impl block has been read, from a text of its own or as part of a file. -/
inductive Impl.IsRead (block : Impl) : Prop where
  | alone {text : List Char} (h : Impl.read? text = some block)
  | inFile {text : List Char} {items : List Item} {item : Item}
      (hfile : readFile? text = some items) (hitem : item ∈ items) (hblock : item.Holds block)

theorem Item.Holds.named {block : Impl} {item : Item} (h : item.Holds block) (hitem : item.Named) :
    block.selfType.Named := by
  induction h with
  | impl =>
    cases hitem with
    | impl htype => exact htype
  | module hmem _ ih =>
    cases hitem with
    | module _ hitems => exact ih (hitems _ hmem)

theorem Impl.IsRead.named {block : Impl} (h : block.IsRead) : block.selfType.Named := by
  cases h with
  | alone h => exact named_of_read? h
  | inFile hfile hitem hblock => exact hblock.named (named_of_readFile? hfile _ hitem)

end Source

namespace Owner

/-- The colons before a name without a colon are the last of the qualified name. -/
theorem same_iff_qualifiedName_eq {a b : Owner} (ha : Colonless a.name) (hb : Colonless b.name) :
    a.same b = true ↔ a.qualifiedName = b.qualifiedName := by
  rw [same_iff]
  constructor
  · rintro ⟨hspace, hname⟩
    rw [qualifiedName, qualifiedName, hspace, hname]
  intro h
  unfold qualifiedName at h
  have hcolons (space name : String) :
      (space ++ "::" ++ name).toList = (space.toList ++ [':']) ++ ':' :: name.toList := by
    simp
  cases hspace : a.space with
  | none =>
    cases hspace' : b.space with
    | none =>
      rw [hspace, hspace'] at h
      exact ⟨rfl, h⟩
    | some space' =>
      rw [hspace, hspace'] at h
      dsimp only at h
      refine absurd ?_ ha
      rw [h, hcolons]
      simp
  | some space =>
    cases hspace' : b.space with
    | none =>
      rw [hspace, hspace'] at h
      dsimp only at h
      refine absurd ?_ hb
      rw [← h, hcolons]
      simp
    | some space' =>
      rw [hspace, hspace', ← String.toList_inj] at h
      dsimp only at h
      rw [hcolons, hcolons] at h
      -- the module may hold colons of its own, so the cut is made at the last one
      obtain ⟨hbefore, hname⟩ := append_mark_inj ha hb h
      have hspaces : space.toList = space'.toList := (List.append_inj' hbefore rfl).1
      exact ⟨by rw [String.toList_inj.mp hspaces], String.toList_inj.mp hname⟩

theorem colonless_nameOfText (text : String) : Colonless (nameOfText text) := by
  unfold Colonless nameOfText
  rw [String.toList_ofList, List.mem_map]
  rintro ⟨c, -, hc⟩
  split at hc
  · next halnum =>
    rw [hc] at halnum
    exact absurd halnum (by decide)
  · exact absurd hc (by decide)

theorem colonless_getD {names : List String} {name? : Option String} {other : String}
    (h : ∀ name ∈ names, Colonless name) (hname : ∀ name ∈ name?, name ∈ names)
    (hother : Colonless other) : Colonless (name?.getD other) := by
  cases name? with
  | none => exact hother
  | some name => exact h name (hname name rfl)

/-- Whatever the shape of a type is, the name made of it has no colon. -/
theorem colonless_describe {type : Ty} (h : type.Named) : Colonless (describe type).2.1 := by
  unfold describe
  split
  · exact colonless_getD h (fun _ => List.mem_of_getLast?) colonless_empty
  · exact colonless_getD h (fun _ => List.mem_of_getLast?) colonless_empty
  · exact colonless_getD h (fun _ => List.mem_of_head?) (by unfold Colonless; decide)
  · exact colonless_nameOfText _

/-- The owner of an impl block that has been read, in whatever module. -/
def IsRead (o : Owner) : Prop := ∃ (block : Impl) (module : Option String),
  block.IsRead ∧ o = ofImpl block module

theorem IsRead.colonless {o : Owner} (h : o.IsRead) : Colonless o.name := by
  obtain ⟨block, module, hblock, rfl⟩ := h
  exact colonless_describe hblock.named

theorem IsRead.same_iff {a b : Owner} (ha : a.IsRead) (hb : b.IsRead) :
    a.same b = true ↔ a.qualifiedName = b.qualifiedName :=
  same_iff_qualifiedName_eq ha.colonless hb.colonless

end Owner

namespace Generation

variable {options : Options} {outcomes : List Outcome}

/-- The owner of a unit is that of one of its methods. -/
theorem exists_of_mem_units {u : CodeUnit} (h : u ∈ (run options outcomes).units) :
    u.owner ∈ (outcomes.filterMap Outcome.method?).map Method.owner ∧
      u.functions = ((outcomes.filterMap Outcome.method?).filter (u.owner.same ·.owner)).map
        (Method.generated options) := by
  rw [run, groups_eq_byOwner, byOwner, List.map_map] at h
  obtain ⟨o, ho, rfl⟩ := List.mem_map.mp h
  exact ⟨Owner.mem_of_mem_firsts ho, rfl⟩

variable (hread : ∀ m ∈ outcomes.filterMap Outcome.method?, m.owner.IsRead)

include hread

theorem isRead_of_mem_units {u : CodeUnit} (h : u ∈ (run options outcomes).units) :
    u.owner.IsRead := by
  obtain ⟨m, hm, howner⟩ := List.mem_map.mp (exists_of_mem_units h).1
  exact howner ▸ hread m hm

theorem pairwise_qualifiedName :
    (run options outcomes).units.Pairwise fun u v =>
      u.owner.qualifiedName ≠ v.owner.qualifiedName := by
  refine (pairwise_units options outcomes).imp_of_mem fun {u v} hu hv hother hname => ?_
  have hsame := (isRead_of_mem_units hread hu).same_iff (isRead_of_mem_units hread hv)
  rw [hsame.mpr hname] at hother
  cases hother

theorem functions_eq_of_qualifiedName {u : CodeUnit} (h : u ∈ (run options outcomes).units) :
    u.functions = ((outcomes.filterMap Outcome.method?).filter
      (·.owner.qualifiedName = u.owner.qualifiedName)).map (Method.generated options) := by
  rw [(exists_of_mem_units h).2]
  congr 1
  apply List.filter_congr
  intro m hm
  rw [Bool.eq_iff_iff, (isRead_of_mem_units hread h).same_iff (hread m hm), decide_eq_true_iff]
  exact eq_comm

end Generation

namespace SourceFile

mutual

theorem holds_of_mem_markedIn : ∀ (modules : List String) (item : Item) (p : Placed),
    p ∈ markedIn modules item → item.Holds p.block
  | modules, .impl block, p, h => by
    rw [markedIn] at h
    split at h
    · rw [List.mem_singleton.mp h]
      exact .impl
    · cases h
  | modules, .module name items, p, h => by
    rw [markedIn] at h
    obtain ⟨item, hitem, hblock⟩ := exists_of_mem_markedInAll (modules ++ [name]) items p h
    exact .module hitem hblock
  | modules, .other, p, h => by
    rw [markedIn] at h
    cases h

theorem exists_of_mem_markedInAll : ∀ (modules : List String) (items : List Item) (p : Placed),
    p ∈ markedInAll modules items → ∃ item ∈ items, item.Holds p.block
  | modules, [], p, h => by
    rw [markedInAll] at h
    cases h
  | modules, item :: rest, p, h => by
    rw [markedInAll, List.mem_append] at h
    rcases h with h | h
    · exact ⟨item, List.mem_cons_self, holds_of_mem_markedIn modules item p h⟩
    · obtain ⟨inner, hinner, hblock⟩ := exists_of_mem_markedInAll modules rest p h
      exact ⟨inner, List.mem_cons_of_mem item hinner, hblock⟩

end

theorem isRead_of_mem_bound {options : Options} {text : List Char} {items : List Item}
    (hfile : readFile? text = some items) {m : Method}
    (h : m ∈ ((marked items).flatMap (Placed.outcomes options)).filterMap Outcome.method?) :
    m.owner.IsRead := by
  rw [List.filterMap_flatMap] at h
  obtain ⟨p, hp, hm⟩ := List.mem_flatMap.mp h
  obtain ⟨item, hitem, hblock⟩ := exists_of_mem_markedInAll [] items p hp
  refine ⟨p.block, spaceOf p.modules, .inFile hfile hitem hblock, ?_⟩
  exact Stub.owner_of_mem_bound hm

/-- Two impl blocks that can be read have one owner exactly if the owners have one qualified name,
whatever texts their modules are. So the name in the header of a unit says which methods the unit is
for, and no two units of one pass, or of one file, have the same. -/
theorem qualifiedName_tells_owners_apart {block block' : Impl} (hblock : block.IsRead)
    (hblock' : block'.IsRead) (module module' : Option String) (options : Options)
    (outcomes : List Outcome)
    (hread : ∀ m ∈ outcomes.filterMap Outcome.method?, m.owner.IsRead) :
    ((Owner.ofImpl block module).same (.ofImpl block' module') = true ↔
      (Owner.ofImpl block module).qualifiedName = (Owner.ofImpl block' module').qualifiedName) ∧
    (∀ u ∈ (Generation.run options outcomes).units,
      u.functions = ((outcomes.filterMap Outcome.method?).filter
        (·.owner.qualifiedName = u.owner.qualifiedName)).map (Method.generated options)) ∧
    ((Generation.run options outcomes).units.Pairwise fun u v =>
      u.owner.qualifiedName ≠ v.owner.qualifiedName) ∧
    (∀ (text : List Char) (g : Generation), generate text options = .ok g →
      g.units.Pairwise fun u v => u.owner.qualifiedName ≠ v.owner.qualifiedName) := by
  refine ⟨?_, fun u hu => Generation.functions_eq_of_qualifiedName hread hu,
    Generation.pairwise_qualifiedName hread, fun text g hg => ?_⟩
  · exact Owner.IsRead.same_iff ⟨block, module, hblock, rfl⟩ ⟨block', module', hblock', rfl⟩
  · obtain ⟨items, hfile, rfl⟩ := exists_of_generate hg
    exact Generation.pairwise_qualifiedName fun m hm => isRead_of_mem_bound hfile hm

def outcomesOfSpellings (block block' : Impl) : List Outcome :=
  Stub.outcomes (.ofImpl block (some "x::")) {} block.items ++
    (Stub.outcomes (.ofImpl block' (some "::x::::y")) {} block'.items ++
      Stub.outcomes (.ofImpl block' (some "x:::y")) {} block'.items)

set_option maxRecDepth 20000 in
/-- A path below one module and a plain type below another belong to one owner when the modules are
spelled with empty names; a third colon makes another owner. -/
theorem qualifiedName_tells_owners_apart_spellings :
    ∃ block block' : Impl, block.IsRead ∧ block'.IsRead ∧
      (Owner.ofImpl block (some "x::")).same (.ofImpl block' (some "::x::::y")) = true ∧
      (Generation.run {} (outcomesOfSpellings block block')).units.map
        (fun u => (u.owner.qualifiedName, u.functions.length)) =
        [("x::y::Z", 2), ("x:::y::Z", 1)] ∧
      (Generation.run {} (outcomesOfSpellings block block')).units.Pairwise fun u v =>
        u.owner.qualifiedName ≠ v.owner.qualifiedName := by
  let path := "impl y::Z \x7b #[template(\"a\")] fn f() -> String; \x7d".toList
  let plain := "impl<T> Z<T> \x7b #[template(\"b\")] fn g() -> String; \x7d".toList
  have hfacts : ((Impl.read? path).bind fun block => (Impl.read? plain).map fun block' =>
        ((Owner.ofImpl block (some "x::")).qualifiedName,
          (Owner.ofImpl block' (some "::x::::y")).qualifiedName,
          (Generation.run {} (outcomesOfSpellings block block')).units.map
            fun u => (u.owner.qualifiedName, u.functions.length))) =
      some ("x::y::Z", "x::y::Z", [("x::y::Z", 2), ("x:::y::Z", 1)]) := by
    decide +kernel
  obtain ⟨block, hblock, hfacts⟩ := Option.bind_eq_some_iff.mp hfacts
  obtain ⟨block', hblock', hfacts⟩ := Option.map_eq_some_iff.mp hfacts
  simp only [Prod.mk.injEq] at hfacts
  obtain ⟨hname, hname', hunits⟩ := hfacts
  have hmethods (module : Option String) {found : Impl} (hfound : found.IsRead) :
      ∀ m ∈ (Stub.outcomes (.ofImpl found module) {} found.items).filterMap Outcome.method?,
        m.owner.IsRead := fun m hm => ⟨found, module, hfound, Stub.owner_of_mem_bound hm⟩
  have hread : ∀ m ∈ (outcomesOfSpellings block block').filterMap Outcome.method?,
      m.owner.IsRead := by
    intro m hm
    rw [outcomesOfSpellings, List.filterMap_append, List.filterMap_append, List.mem_append,
      List.mem_append] at hm
    rcases hm with hm | hm | hm
    · exact hmethods _ (.alone hblock) m hm
    · exact hmethods _ (.alone hblock') m hm
    · exact hmethods _ (.alone hblock') m hm
  have htold := qualifiedName_tells_owners_apart (.alone hblock) (.alone hblock') (some "x::")
    (some "::x::::y") {} _ hread
  exact ⟨block, block', .alone hblock, .alone hblock', htold.1.mpr (hname.trans hname'.symm),
    hunits, htold.2.2.1⟩

end SourceFile

end Stencil
