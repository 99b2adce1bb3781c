import Stencil.Proofs.Owner
import Stencil.Proofs.Source.ModuleNames
import Stencil.Proofs.SourceFile.Traversal

/-! The walk through a file comes to each stub in a marked impl block once, in the order of the
file, and knows the modules around it. -/
namespace Stencil

open Source

namespace SourceFile

/-- An item of an impl block in a file. Its place is its number among the items of the block, behind
those of the block and of the modules around it, each among its neighbours and the outermost
first. -/
structure Site where
  place : List Nat
  modules : List String
  block : Impl
  item : ImplItem

namespace Site

def owner (s : Site) : Owner := .ofImpl s.block (spaceOf s.modules)

def under (s : Site) (index : Nat) : Site := { s with place := index :: s.place }

def outcome? (options : Options) (s : Site) : Option Outcome :=
  Stub.outcome? s.owner options s.item

def within (s : Site) (name : String) : Site := { s with modules := name :: s.modules }

end Site

/-- The site belongs to an item of a file, whose own place is left out. -/
inductive Stands : Item → Site → Prop where
  | impl {block : Impl} {index : Nat} {item : ImplItem} (hitem : block.items[index]? = some item) :
    Stands (.impl block) ⟨[index], [], block, item⟩
  | module {name : String} {items : List Item} {index : Nat} {inner : Item} {s : Site}
      (hinner : items[index]? = some inner) (hs : Stands inner s) :
    Stands (.module name items) ((s.under index).within name)

def StandsAmong (items : List Item) (s : Site) : Prop :=
  ∃ index item t, items[index]? = some item ∧ Stands item t ∧ s = t.under index

mutual

def sitesOf : Item → List Site
  | .impl block =>
    if isMarked block then
      (block.items.zipIdx.filter (Stub.isStub ·.1)).map fun (item, index) =>
        ⟨[index], [], block, item⟩
    else []
  | .module name items => (sitesFrom 0 items).map (·.within name)
  | .other => []

/-- The stubs in the marked impl blocks of items, the first of which has the given number. -/
def sitesFrom (index : Nat) : List Item → List Site
  | [] => []
  | item :: rest => (sitesOf item).map (·.under index) ++ sitesFrom (index + 1) rest

end

def sites (items : List Item) : List Site := sitesFrom 0 items

def Site.IsVisited (s : Site) : Prop := isMarked s.block = true ∧ Stub.isStub s.item = true

theorem mem_sitesOf_impl {block : Impl} {s : Site} :
    s ∈ sitesOf (.impl block) ↔ Stands (.impl block) s ∧ s.IsVisited := by
  rw [sitesOf]
  split
  · next hmarked =>
    simp only [List.mem_map, List.mem_filter, Prod.exists, List.mk_mem_zipIdx_iff_getElem?]
    constructor
    · rintro ⟨item, index, ⟨hitem, hstub⟩, rfl⟩
      exact ⟨.impl hitem, hmarked, hstub⟩
    · rintro ⟨hs, -, hstub⟩
      cases hs with
      | @impl _ index item hitem => exact ⟨item, index, ⟨hitem, hstub⟩, rfl⟩
  · next hmarked =>
    simp only [List.not_mem_nil, false_iff]
    rintro ⟨hs, hvisited⟩
    cases hs with
    | impl hitem => exact hmarked hvisited.1

mutual

theorem mem_sitesOf : ∀ (item : Item) (s : Site), s ∈ sitesOf item ↔ Stands item s ∧ s.IsVisited
  | .impl block, s => mem_sitesOf_impl
  | .module name items, s => by
    rw [sitesOf, List.mem_map]
    constructor
    · rintro ⟨t, ht, rfl⟩
      obtain ⟨index, inner, u, hinner, hu, hvisited, rfl⟩ := (mem_sitesFrom 0 items t).mp ht
      rw [Nat.zero_add]
      exact ⟨.module hinner hu, hvisited⟩
    · rintro ⟨hs, hvisited⟩
      cases hs with
      | @module _ _ index inner t hinner ht =>
        refine ⟨t.under index, (mem_sitesFrom 0 items _).mpr ?_, rfl⟩
        exact ⟨index, inner, t, hinner, ht, hvisited, by rw [Nat.zero_add]⟩
  | .other, s => by
    rw [sitesOf]
    simp only [List.not_mem_nil, false_iff]
    rintro ⟨hs, -⟩
    cases hs

theorem mem_sitesFrom : ∀ (start : Nat) (items : List Item) (s : Site),
    s ∈ sitesFrom start items ↔ ∃ index item t, items[index]? = some item ∧ Stands item t ∧
      t.IsVisited ∧ s = t.under (start + index)
  | start, [], s => by
    rw [sitesFrom]
    simp
  | start, item :: rest, s => by
    rw [sitesFrom, List.mem_append, List.mem_map, mem_sitesFrom (start + 1) rest s]
    constructor
    · rintro (⟨t, ht, rfl⟩ | ⟨index, inner, t, hinner, ht, hvisited, rfl⟩)
      · obtain ⟨ht, hvisited⟩ := (mem_sitesOf item t).mp ht
        exact ⟨0, item, t, rfl, ht, hvisited, rfl⟩
      · refine ⟨index + 1, inner, t, hinner, ht, hvisited, ?_⟩
        rw [Nat.add_assoc, Nat.add_comm 1]
    · rintro ⟨index, inner, t, hinner, ht, hvisited, rfl⟩
      cases index with
      | zero =>
        cases hinner
        exact .inl ⟨t, (mem_sitesOf item t).mpr ⟨ht, hvisited⟩, rfl⟩
      | succ index =>
        refine .inr ⟨index, inner, t, hinner, ht, hvisited, ?_⟩
        rw [Nat.add_assoc, Nat.add_comm 1]

end

theorem mem_sites {items : List Item} {s : Site} :
    s ∈ sites items ↔ StandsAmong items s ∧ s.IsVisited := by
  rw [sites, mem_sitesFrom]
  constructor
  · rintro ⟨index, item, t, hitem, ht, hvisited, rfl⟩
    exact ⟨⟨index, item, t, hitem, ht, by rw [Nat.zero_add]⟩, hvisited⟩
  · rintro ⟨⟨index, item, t, hitem, ht, rfl⟩, hvisited⟩
    exact ⟨index, item, t, hitem, ht, hvisited, by rw [Nat.zero_add]⟩

mutual

theorem pairwise_sitesOf : ∀ item : Item, (sitesOf item).Pairwise fun s t => s.place < t.place
  | .impl block => by
    rw [sitesOf]
    split
    · rw [List.pairwise_map]
      refine List.Pairwise.filter _ ?_
      have hindices : (block.items.zipIdx.map Prod.snd).Pairwise (· < ·) := by
        rw [List.zipIdx_map_snd]
        exact List.pairwise_lt_range'
      rw [List.pairwise_map] at hindices
      exact hindices.imp fun hlt => List.cons_lt_cons_iff.mpr (.inl hlt)
    · exact .nil
  | .module name items => by
    rw [sitesOf, List.pairwise_map]
    exact pairwise_sitesFrom 0 items
  | .other => by
    rw [sitesOf]
    exact .nil

theorem pairwise_sitesFrom : ∀ (start : Nat) (items : List Item),
    (sitesFrom start items).Pairwise fun s t => s.place < t.place
  | start, [] => by
    rw [sitesFrom]
    exact .nil
  | start, item :: rest => by
    rw [sitesFrom, List.pairwise_append, List.pairwise_map]
    refine ⟨(pairwise_sitesOf item).imp ?_, pairwise_sitesFrom (start + 1) rest, ?_⟩
    · exact fun hlt => List.cons_lt_cons_iff.mpr (.inr ⟨rfl, hlt⟩)
    · intro s hs t ht
      obtain ⟨u, -, rfl⟩ := List.mem_map.mp hs
      obtain ⟨index, inner, v, -, -, -, rfl⟩ := (mem_sitesFrom (start + 1) rest t).mp ht
      refine List.cons_lt_cons_iff.mpr (.inl ?_)
      omega

end

/-- A stub as the walk comes to it: the modules above an item that are known already stand before
those inside of it. -/
def Site.seen (modules : List String) (s : Site) : Placed × ImplItem :=
  (⟨modules ++ s.modules, s.block⟩, s.item)

def Placed.stubs (p : Placed) : List (Placed × ImplItem) :=
  (p.block.items.filter Stub.isStub).map fun item => (p, item)

mutual

theorem flatMap_stubs_markedIn : ∀ (modules : List String) (item : Item),
    (markedIn modules item).flatMap Placed.stubs = (sitesOf item).map (Site.seen modules)
  | modules, .impl block => by
    rw [markedIn, sitesOf]
    split
    · have hstubs : block.items.filter Stub.isStub =
          (block.items.zipIdx.filter (Stub.isStub ·.1)).map Prod.fst := by
        have h := List.filter_map (f := Prod.fst) (p := Stub.isStub) (l := block.items.zipIdx)
        rwa [List.zipIdx_map_fst] at h
      rw [List.flatMap_singleton, Placed.stubs, hstubs, List.map_map, List.map_map]
      apply List.map_congr_left
      intro x hx
      simp [Site.seen]
    · rfl
  | modules, .module name items => by
    rw [markedIn, sitesOf, flatMap_stubs_markedInAll (modules ++ [name]) items 0, List.map_map]
    apply List.map_congr_left
    intro s hs
    simp [Site.seen, Site.within]
  | modules, .other => by
    rw [markedIn, sitesOf]
    rfl

theorem flatMap_stubs_markedInAll : ∀ (modules : List String) (items : List Item) (start : Nat),
    (markedInAll modules items).flatMap Placed.stubs =
      (sitesFrom start items).map (Site.seen modules)
  | modules, [], start => by
    rw [markedInAll, sitesFrom]
    rfl
  | modules, item :: rest, start => by
    rw [markedInAll, sitesFrom, List.flatMap_append, List.map_append, List.map_map,
      flatMap_stubs_markedIn modules item, flatMap_stubs_markedInAll modules rest (start + 1)]
    rfl

end

theorem flatMap_stubs_marked (items : List Item) :
    (marked items).flatMap Placed.stubs = (sites items).map (Site.seen []) :=
  flatMap_stubs_markedInAll [] items 0

theorem Placed.outcomes_eq_filterMap_stubs (options : Options) (p : Placed) :
    p.outcomes options = p.stubs.filterMap fun x => Stub.outcome? x.1.owner options x.2 := by
  rw [Placed.stubs, List.filterMap_map, List.filterMap_filter]
  rw [Placed.outcomes, Stub.outcomes]
  congr 1
  funext item
  split
  · rfl
  · next hstub => exact Stub.outcome?_of_not_isStub p.owner options (by simpa using hstub)

theorem findSome?_flatMap {α β γ : Type} (l : List α) (f : α → List β) (g : β → Option γ) :
    (l.flatMap f).findSome? g = l.findSome? fun a => (f a).findSome? g := by
  induction l with
  | nil => rfl
  | cons a l ih =>
    rw [List.flatMap_cons, List.findSome?_append, ih, List.findSome?_cons]
    cases (f a).findSome? g <;> rfl

theorem Placed.fault?_eq_findSome?_stubs (p : Placed) :
    p.fault? = p.stubs.findSome? fun x => (Stub.judged x.2).findSome? Stub.modeFault? := by
  rw [Placed.fault?, Placed.stubs, List.findSome?_map]
  induction p.block.items with
  | nil => rfl
  | cons item items ih =>
    rw [List.findSome?_cons, ih]
    cases hstub : Stub.isStub item with
    | true =>
      rw [List.filter_cons_of_pos hstub, List.findSome?_cons, Stub.fault?_of_isStub hstub]
      rfl
    | false =>
      rw [List.filter_cons_of_neg (by simp [hstub]), Stub.fault?_of_not_isStub hstub]

/-- The inputs of a file whose modes are looked at. -/
def judged (items : List Item) : List Input := (sites items).flatMap (Stub.judged ·.item)

theorem outcomes_marked_eq (options : Options) (items : List Item) :
    (marked items).flatMap (Placed.outcomes options) =
      (sites items).filterMap (Site.outcome? options) := by
  have hsites := congrArg (List.filterMap fun x => Stub.outcome? x.1.owner options x.2)
    (flatMap_stubs_marked items)
  rw [List.filterMap_flatMap, List.filterMap_map] at hsites
  simp only [← Placed.outcomes_eq_filterMap_stubs] at hsites
  exact hsites

theorem fault_marked_eq (items : List Item) :
    (marked items).findSome? Placed.fault? = (judged items).findSome? Stub.modeFault? := by
  have hsites := congrArg (List.findSome? fun x => (Stub.judged x.2).findSome? Stub.modeFault?)
    (flatMap_stubs_marked items)
  rw [findSome?_flatMap, List.findSome?_map] at hsites
  simp only [← Placed.fault?_eq_findSome?_stubs] at hsites
  rw [judged, findSome?_flatMap]
  exact hsites

theorem Stands.isName {item : Item} {s : Site} (hs : Stands item s) (hitem : item.Named) :
    ∀ name ∈ s.modules, IsName name := by
  induction hs with
  | impl _ => simp
  | @module name items index inner s hinner hs ih =>
    cases hitem with
    | module hname hitems =>
      have hrest := ih (hitems inner (List.mem_of_getElem? hinner))
      exact List.forall_mem_cons.mpr ⟨hname, hrest⟩

theorem spaceParts_spaceOf {modules : List String} (h : ∀ name ∈ modules, IsName name) :
    ((spaceOf modules).map Owner.spaceParts).getD [] = modules := by
  have hparts := Owner.spaceParts_intercalate h
  unfold spaceOf
  dsimp only
  split
  · next hempty =>
    rw [String.isEmpty_iff.mp hempty] at hparts
    exact hparts
  · exact hparts

/-- The names before the last on the path to a type. -/
def pathPrefix : Ty → List String
  | .path _ segments => (segments.map Segment.name).dropLast
  | .projection names _ => names.dropLast
  | _ => []

theorem space_ofImpl (block : Impl) (module : Option String) :
    (Owner.ofImpl block module).space =
      Owner.joinSpace ((module.map Owner.spaceParts).getD [] ++ pathPrefix block.selfType) := by
  unfold Owner.ofImpl
  cases block.selfType <;> rfl

theorem Site.space_owner {items : List Item} {s : Site} (hs : StandsAmong items s)
    (hnamed : ∀ i ∈ items, i.Named) :
    s.owner.space = Owner.joinSpace (s.modules ++ pathPrefix s.block.selfType) := by
  obtain ⟨index, item, t, hitem, ht, rfl⟩ := hs
  have hnames := ht.isName (hnamed item (List.mem_of_getElem? hitem))
  rw [Site.owner, space_ofImpl, Site.under, spaceParts_spaceOf hnames]

theorem generate_eq_of_sites (options : Options) {text : List Char} {items : List Item}
    (hread : readFile? text = some items) :
    generate text options = SourceError.answer ((judged items).findSome? Stub.modeFault?)
      (.run options ((sites items).filterMap (Site.outcome? options))) := by
  rw [generate_eq options hread, fault_marked_eq, outcomes_marked_eq]

theorem generate_eq_error_iff (options : Options) {text : List Char} {items : List Item}
    (hread : readFile? text = some items) (e : SourceError) :
    generate text options = .error e ↔
      ∃ before input after, judged items = before ++ input :: after ∧ Stub.WrongMode input e ∧
        ∀ i ∈ before, ∀ e', ¬Stub.WrongMode i e' := by
  rw [generate_eq_of_sites options hread, SourceError.answer_eq_error_iff,
    List.findSome?_eq_some_iff]
  simp only [Stub.modeFault?_eq_some_iff, Stub.modeFault?_eq_none_iff]

theorem exists_generate_eq_error_iff (options : Options) {text : List Char} {items : List Item}
    (hread : readFile? text = some items) :
    (∃ e, generate text options = .error e) ↔
      ∃ s ∈ sites items, ∃ input ∈ Stub.judged s.item, ∃ e, Stub.WrongMode input e := by
  rw [generate_eq_of_sites options hread]
  simp only [SourceError.answer_eq_error_iff, ← Stub.modeFault?_eq_some_iff,
    ← Option.isSome_iff_exists, List.isSome_findSome?, List.any_eq_true, judged, List.mem_flatMap]
  constructor
  · rintro ⟨input, ⟨s, hs, hinput⟩, hwrong⟩
    exact ⟨s, hs, input, hinput, hwrong⟩
  · rintro ⟨s, hs, input, hinput, hwrong⟩
    exact ⟨input, ⟨s, hs, hinput⟩, hwrong⟩

theorem map_some_filterMap {α β : Type} {f : α → Option β} {l : List α}
    (h : ∀ a ∈ l, (f a).isSome) : (l.filterMap f).map some = l.map f := by
  induction l with
  | nil => rfl
  | cons a l ih =>
    obtain ⟨ha, hl⟩ := List.forall_mem_cons.mp h
    obtain ⟨b, hb⟩ := Option.isSome_iff_exists.mp ha
    simp [hb, ih hl]

theorem isSome_outcome?_of_mem_sites (options : Options) {items : List Item}
    (hmodes : ∀ input ∈ judged items, Stub.modeFault? input = none) {s : Site}
    (hs : s ∈ sites items) : (s.outcome? options).isSome := by
  have hstub : Stub.isStub s.item = true := (mem_sites.mp hs).2.2
  have hfault : Stub.fault? s.item = none := by
    rw [Stub.fault?_of_isStub hstub, List.findSome?_eq_none_iff]
    exact fun input hinput => hmodes input (List.mem_flatMap.mpr ⟨s, hs, hinput⟩)
  rw [Site.outcome?, Stub.isSome_outcome? s.owner options hfault, hstub]

theorem exists_sites_of_generate {options : Options} {text : List Char} {g : Generation}
    (h : generate text options = .ok g) :
    ∃ items, readFile? text = some items ∧
      (∀ input ∈ judged items, Stub.modeFault? input = none) ∧
      g = .run options ((sites items).filterMap (Site.outcome? options)) := by
  obtain ⟨items, hread, -⟩ := exists_of_generate h
  rw [generate_eq_of_sites options hread] at h
  cases hfault : (judged items).findSome? Stub.modeFault? with
  | some e =>
    rw [hfault] at h
    cases h
  | none =>
    rw [hfault] at h
    cases h
    exact ⟨items, hread, List.findSome?_eq_none_iff.mp hfault, rfl⟩

/-- The stubs in marked impl blocks are visited once each, in the order of the file, and each
belongs to an owner in the modules around it. The first input of a stub that asks for a wrong mode is
what is wrong with the file. If there is none, what the stubs come to is what is generated. -/
theorem generate_visits_sites (options : Options) {text : List Char} {items : List Item}
    (hread : readFile? text = some items) :
    (∀ s, s ∈ sites items ↔ StandsAmong items s ∧ s.IsVisited) ∧
    (sites items).Pairwise (fun s t => s.place < t.place) ∧
    (∀ s ∈ sites items,
      s.owner.space = Owner.joinSpace (s.modules ++ pathPrefix s.block.selfType)) ∧
    ((∃ e, generate text options = .error e) ↔
      ∃ s ∈ sites items, ∃ input ∈ Stub.judged s.item, ∃ e, Stub.WrongMode input e) ∧
    (∀ e, generate text options = .error e ↔
      ∃ before input after, judged items = before ++ input :: after ∧ Stub.WrongMode input e ∧
        ∀ i ∈ before, ∀ e', ¬Stub.WrongMode i e') ∧
    ((∀ input ∈ judged items, ∀ e, ¬Stub.WrongMode input e) → ∃ outcomes,
      (sites items).map (Site.outcome? options) = outcomes.map some ∧
      outcomesOfItems options [] items = .ok outcomes ∧
      generate text options = .ok (.run options outcomes)) := by
  refine ⟨fun s => mem_sites, pairwise_sitesFrom 0 items, fun s hs => ?_,
    exists_generate_eq_error_iff options hread, generate_eq_error_iff options hread,
    fun hmodes => ?_⟩
  · exact Site.space_owner (mem_sites.mp hs).1 (named_of_readFile? hread)
  · have hright : ∀ input ∈ judged items, Stub.modeFault? input = none := fun input hinput =>
      Stub.modeFault?_eq_none_iff.mpr (hmodes input hinput)
    have hfault : (judged items).findSome? Stub.modeFault? = none :=
      List.findSome?_eq_none_iff.mpr hright
    refine ⟨(sites items).filterMap (Site.outcome? options), ?_, ?_, ?_⟩
    · exact (map_some_filterMap fun s hs => isSome_outcome?_of_mem_sites options hright hs).symm
    · have h := outcomesOfItems_eq options [] items
      change _ = SourceError.answer ((marked items).findSome? _) ((marked items).flatMap _) at h
      rw [h, fault_marked_eq, outcomes_marked_eq, hfault]
      rfl
    · rw [generate_eq_of_sites options hread, hfault]
      rfl

set_option maxRecDepth 20000 in
/-- A module inside of another, and a type behind a path. Then a stub with a wrong mode, between one
whose template cannot be read and another with a wrong mode. -/
theorem generate_visits_sites_nested :
    let text := ("#[named_formats] impl a::W "
      ++ "\x7b fn n(); #[template(\"x\")] fn f() -> String; \x7d "
      ++ "mod m \x7b mod p \x7b #[named_formats] impl V "
      ++ "\x7b #[template(\"\x7b\")] fn g() -> String; \x7d \x7d "
      ++ "#[named_formats] impl b::V \x7b #[template(\"y\")] fn h() -> String; \x7d \x7d").toList
    let wrong := ("mod m \x7b #[named_formats] impl W "
      ++ "\x7b #[template(7)] fn f(#[fmt(fast, fast)] a: u8) -> String; "
      ++ "#[template(\"\x7b\")] fn g(a: u8, #[fmt(hex)] b: u8) -> String; \x7d \x7d "
      ++ "#[named_formats] impl V "
      ++ "\x7b #[template(\"x\")] fn h(#[fmt] a: u8) -> String; \x7d").toList
    (∃ items outcomes, readFile? text = some items ∧
      (sites items).map (fun s => (s.place, s.owner.space)) = [([0, 1], some "a"),
        ([1, 0, 0, 0], some "m::p"), ([1, 1, 0], some "m::b")] ∧
      (sites items).map (Site.outcome? {}) = outcomes.map some ∧
      generate text {} = .ok (.run {} outcomes)) ∧
    generate wrong {} = .error (.unknownMode "hex" ⟨1, 126⟩) := by
  intro text wrong
  constructor
  · have hfacts : (readFile? text).map (fun items =>
        ((sites items).map (fun s => (s.place, s.owner.space)), (judged items).isEmpty)) =
        some ([([0, 1], some "a"), ([1, 0, 0, 0], some "m::p"), ([1, 1, 0], some "m::b")],
          true) := by
      decide +kernel
    obtain ⟨items, hread, hfacts⟩ := Option.map_eq_some_iff.mp hfacts
    obtain ⟨hsites, hjudged⟩ := Prod.mk.inj hfacts
    have hmodes : ∀ input ∈ judged items, ∀ e, ¬Stub.WrongMode input e := by
      simp [List.isEmpty_iff.mp hjudged]
    obtain ⟨-, -, -, -, -, hgenerate⟩ := generate_visits_sites {} hread
    obtain ⟨outcomes, houtcomes, -, hrun⟩ := hgenerate hmodes
    exact ⟨items, outcomes, hread, hsites, houtcomes, hrun⟩
  · have hfacts : (readFile? wrong).map (fun items => (judged items).map Stub.modeFault?) =
        some [none, some (.unknownMode "hex" ⟨1, 126⟩), some (.malformedMode "# [fmt]")] := by
      decide +kernel
    obtain ⟨items, hread, hfacts⟩ := Option.map_eq_some_iff.mp hfacts
    obtain ⟨-, -, -, -, herror, -⟩ := generate_visits_sites {} hread
    obtain ⟨first, rest, hjudged, hfirst, hrest⟩ := List.map_eq_cons_iff.mp hfacts
    obtain ⟨second, last, rfl, hsecond, -⟩ := List.map_eq_cons_iff.mp hrest
    have hwrong := Stub.modeFault?_eq_some_iff.mp hsecond
    refine (herror _).mpr ⟨[first], second, last, hjudged, hwrong, ?_⟩
    intro input hinput
    rw [List.mem_singleton.mp hinput]
    exact Stub.modeFault?_eq_none_iff.mp hfirst

end SourceFile

end Stencil
