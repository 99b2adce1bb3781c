import Stencil.Generation

/-! A generation pass collects the methods of each owner in one unit, in the order in which owners
first appear. -/
namespace Stencil

namespace Owner

theorem same_iff {a b : Owner} : a.same b = true ↔ a.space = b.space ∧ a.name = b.name := by
  simp [same]

@[simp] theorem same_refl (a : Owner) : a.same a = true := same_iff.mpr ⟨rfl, rfl⟩

theorem same_comm (a b : Owner) : a.same b = b.same a := by
  rw [Bool.eq_iff_iff, same_iff, same_iff, eq_comm, @eq_comm _ a.name]

/-- The same owner is the same as every other. -/
theorem same_congr {a b : Owner} (h : a.same b = true) (c : Owner) : a.same c = b.same c := by
  rw [Bool.eq_iff_iff, same_iff, same_iff]
  obtain ⟨hspace, hname⟩ := same_iff.mp h
  rw [hspace, hname]

/-- Owners where they appear first. -/
def firsts : List Owner → List Owner
  | [] => []
  | o :: owners => o :: (firsts owners).filter (!o.same ·)

theorem pairwise_firsts (owners : List Owner) :
    (firsts owners).Pairwise fun a b => a.same b = false := by
  induction owners with
  | nil => exact .nil
  | cons o owners ih =>
    refine .cons ?_ (ih.filter _)
    intro a ha
    simpa using (List.mem_filter.mp ha).2

theorem mem_of_mem_firsts {owners : List Owner} {o : Owner} (h : o ∈ firsts owners) :
    o ∈ owners := by
  induction owners with
  | nil => exact h
  | cons a owners ih =>
    rcases List.mem_cons.mp h with rfl | h
    · exact List.mem_cons_self
    · exact List.mem_cons_of_mem a (ih (List.mem_filter.mp h).1)

/-- The first owner that is the same as a given one stays the first. -/
theorem find?_firsts (owners : List Owner) (o : Owner) :
    (firsts owners).find? (·.same o) = owners.find? (·.same o) := by
  induction owners with
  | nil => rfl
  | cons a owners ih =>
    rw [firsts, List.find?_cons, List.find?_cons]
    cases ha : a.same o with
    | true => rfl
    | false =>
      dsimp only
      rw [List.find?_filter, ← ih]
      congr 1
      funext b
      cases hb : b.same o with
      | false => simp
      | true =>
        have hab : a.same b = false := by rw [same_comm, same_congr hb, same_comm, ha]
        simp [hab]

theorem any_firsts (owners : List Owner) (o : Owner) :
    (firsts owners).any (·.same o) = owners.any (·.same o) := by
  rw [← List.isSome_find?, ← List.isSome_find?, find?_firsts]

/-- One more owner comes last, unless it has appeared before. -/
theorem firsts_append (owners : List Owner) (o : Owner) :
    firsts (owners ++ [o]) =
      if owners.any (·.same o) then firsts owners else firsts owners ++ [o] := by
  induction owners with
  | nil => rfl
  | cons a owners ih =>
    rw [List.cons_append, firsts, ih, List.any_cons, firsts]
    cases owners.any (·.same o) with
    | true => simp
    | false => cases ha : a.same o <;> simp [ha]

end Owner

def Owner.implHeader (o : Owner) : List Source.Tree :=
  .ofName "impl" :: (o.generics.implTrees ++ o.selfType.trees ++ o.whereClause)

theorem CodeUnit.trees_eq (u : CodeUnit) :
    u.trees = u.owner.implHeader ++ [.braces u.functions.flatten] := by
  have hword : Code.code "impl" = [.ofName "impl"] := rfl
  simp [trees, Owner.implHeader, hword]

namespace Generation

/-- Methods by owner, as one would look them up: for each owner that appears, its methods. -/
def byOwner (methods : List Method) : List (Owner × List Method) :=
  (Owner.firsts (methods.map Method.owner)).map fun o => (o, methods.filter (o.same ·.owner))

def isKnown (methods : List Method) (o : Owner) : Bool := methods.any (·.owner.same o)

theorem any_byOwner (methods : List Method) (o : Owner) :
    (byOwner methods).any (·.1.same o) = isKnown methods o := by
  have h := Owner.any_firsts (methods.map Method.owner) o
  rw [List.any_map] at h
  rw [byOwner, List.any_map]
  exact h

/-- A method of a known owner goes to the end of the owner's methods. -/
theorem byOwner_append_known {seen : List Method} {m : Method} (h : isKnown seen m.owner = true) :
    byOwner (seen ++ [m]) = (byOwner seen).map fun group =>
      if group.1.same m.owner then (group.1, group.2 ++ [m]) else group := by
  have hany : (seen.map Method.owner).any (·.same m.owner) = true := by
    rw [List.any_map]
    exact h
  simp only [byOwner, List.map_append, List.map_cons, List.map_nil, Owner.firsts_append, hany,
    ↓reduceIte, List.map_map]
  apply List.map_congr_left
  intro o ho
  cases hsame : o.same m.owner <;> simp [hsame]

/-- A method of a new owner begins a group at the end. -/
theorem byOwner_append_new {seen : List Method} {m : Method} (h : isKnown seen m.owner = false) :
    byOwner (seen ++ [m]) = byOwner seen ++ [(m.owner, [m])] := by
  have hany : (seen.map Method.owner).any (·.same m.owner) = false := by
    rw [List.any_map]
    exact h
  have hnone : ∀ x ∈ seen, x.owner.same m.owner = false := by simpa [isKnown] using h
  have hown : seen.filter (m.owner.same ·.owner) = [] := by
    rw [List.filter_eq_nil_iff]
    intro x hx
    rw [Owner.same_comm, hnone x hx]
    exact Bool.false_ne_true
  have hother : ∀ o ∈ Owner.firsts (seen.map Method.owner), o.same m.owner = false := by
    intro o ho
    have hfirsts := Owner.any_firsts (seen.map Method.owner) m.owner
    rw [hany, List.any_eq_false] at hfirsts
    simpa using hfirsts o ho
  simp only [byOwner, List.map_append, List.map_cons, List.map_nil, Owner.firsts_append, hany,
    Bool.false_eq_true, ↓reduceIte]
  congr 1
  · apply List.map_congr_left
    intro o ho
    simp [hother o ho]
  · simp [hown]

theorem pairwise_byOwner (methods : List Method) :
    (byOwner methods).Pairwise fun a b => a.1.same b.1 = false :=
  List.pairwise_map.mpr (Owner.pairwise_firsts _)

end Generation

namespace Grouping

/-- Where no two elements have a property, a change of the first that has it is a change of each
that has it. -/
theorem modify_findIdx? {α : Type} {p : α → Bool} (f : α → α) {l : List α} {i : Nat}
    (hunique : l.Pairwise fun a b => p a = true → p b = false) (h : l.findIdx? p = some i) :
    l.modify i f = l.map fun x => if p x then f x else x := by
  induction l generalizing i with
  | nil => cases h
  | cons a l ih =>
    obtain ⟨hother, hunique⟩ := List.pairwise_cons.mp hunique
    rw [List.findIdx?_cons] at h
    cases ha : p a with
    | true =>
      rw [ha] at h
      cases h
      have hrest : l.map (fun x => if p x then f x else x) = l.map fun x => x :=
        List.map_congr_left fun b hb => if_neg (by simp [hother b hb ha])
      simp [ha, hrest]
    | false =>
      rw [ha] at h
      obtain ⟨j, hj, rfl⟩ := Option.map_eq_some_iff.mp h
      simp [ha, ih hunique hj]

/-- Whichever group takes a method, all methods are there once. -/
theorem flatMap_modify_perm (m : Method) {groups : List (Owner × List Method)} {slot : Nat}
    (h : slot < groups.length) :
    ((groups.modify slot fun (owner, methods) => (owner, methods ++ [m])).flatMap Prod.snd).Perm
      (groups.flatMap Prod.snd ++ [m]) := by
  induction groups generalizing slot with
  | nil => cases h
  | cons group groups ih =>
    cases slot with
    | zero =>
      simp only [List.modify_zero_cons, List.flatMap_cons, List.append_assoc]
      exact List.perm_append_comm.append_left _
    | succ slot =>
      simp only [List.modify_succ_cons, List.flatMap_cons, List.append_assoc]
      exact (ih (Nat.lt_of_succ_lt_succ h)).append_left _

/-- The groups hold the methods that have been seen, and the index tells where the group of each
owner stands. -/
structure Collects (g : Grouping) (seen : List Method) : Prop where
  groups_eq : g.groups = Generation.byOwner seen
  slot?_eq : ∀ o, g.slot? o = g.groups.findIdx? (·.1.same o)
  perm : (g.groups.flatMap Prod.snd).Perm seen

theorem collects_empty : Collects {} [] := ⟨rfl, fun _ => rfl, .nil⟩

variable {g : Grouping} {seen : List Method} {m : Method}

theorem Collects.known (h : g.Collects seen) (o : Owner) :
    (g.slot? o).isSome = Generation.isKnown seen o := by
  rw [h.slot?_eq, List.findIdx?_isSome, h.groups_eq, Generation.any_byOwner]

/-- A method of a known owner goes to the group that the index names. -/
theorem Collects.add_known (h : g.Collects seen) {slot : Nat}
    (hslot : g.slot? m.owner = some slot) : (g.add m).Collects (seen ++ [m]) := by
  have hadd : g.add m = { g with
      groups := g.groups.modify slot fun (owner, methods) => (owner, methods ++ [m]) } := by
    simp only [add, hslot]
  have hfind := hslot
  rw [h.slot?_eq] at hfind
  have hunique : g.groups.Pairwise fun a b =>
      a.1.same m.owner = true → b.1.same m.owner = false := by
    rw [h.groups_eq]
    refine (Generation.pairwise_byOwner seen).imp fun {a b} hab ha => ?_
    rw [Owner.same_comm, ← Owner.same_congr ha, hab]
  have hmodify := modify_findIdx? (fun (owner, methods) => (owner, methods ++ [m])) hunique hfind
  have hknown : Generation.isKnown seen m.owner = true := by
    rw [← h.known, hslot, Option.isSome_some]
  rw [hadd]
  constructor
  · rw [Generation.byOwner_append_known hknown, ← h.groups_eq]
    exact hmodify
  · intro o
    have hkept : g.slot? o = g.groups.findIdx? (·.1.same o) := h.slot?_eq o
    dsimp only
    rw [hmodify, List.findIdx?_map]
    refine hkept.trans ?_
    congr 1
    funext group
    simp only [Function.comp_apply]
    split <;> rfl
  · have hlt : slot < g.groups.length := (List.findIdx?_eq_some_iff_getElem.mp hfind).1
    exact (flatMap_modify_perm m hlt).trans (h.perm.append_right [m])

/-- A method of a new owner begins a group, and the index names its place. -/
theorem Collects.add_new (h : g.Collects seen) (hslot : g.slot? m.owner = none) :
    (g.add m).Collects (seen ++ [m]) := by
  have hadd : g.add m = { index := (m.owner, g.groups.length) :: g.index
                          groups := g.groups ++ [(m.owner, [m])] } := by
    simp only [add, hslot]
  have hnew : Generation.isKnown seen m.owner = false := by
    rw [← h.known, hslot, Option.isSome_none]
  have hother : ∀ group ∈ g.groups, group.1.same m.owner = false := by
    rw [h.slot?_eq] at hslot
    exact List.findIdx?_eq_none_iff.mp hslot
  rw [hadd]
  constructor
  · rw [Generation.byOwner_append_new hnew, ← h.groups_eq]
  · intro o
    have hkept := h.slot?_eq o
    unfold slot? at hkept ⊢
    dsimp only
    rw [List.find?_cons, List.findIdx?_append]
    cases hsame : m.owner.same o with
    | true =>
      have hnone : g.groups.findIdx? (·.1.same o) = none := by
        rw [List.findIdx?_eq_none_iff]
        intro group hgroup
        rw [Owner.same_comm, ← Owner.same_congr hsame, Owner.same_comm, hother group hgroup]
      simp [hnone, hsame]
    | false => simp [hkept, hsame]
  · simp only [List.flatMap_append, List.flatMap_cons, List.flatMap_nil, List.append_nil]
    exact h.perm.append_right [m]

theorem Collects.add (h : g.Collects seen) (m : Method) : (g.add m).Collects (seen ++ [m]) := by
  cases hslot : g.slot? m.owner with
  | some slot => exact h.add_known hslot
  | none => exact h.add_new hslot

/-- Adding methods one by one collects them behind those that were there. -/
theorem Collects.foldl_add (h : g.Collects seen) (methods : List Method) :
    (methods.foldl Grouping.add g).Collects (seen ++ methods) := by
  induction methods generalizing g seen with
  | nil => simpa using h
  | cons m methods ih =>
    have hrest := ih (h.add m)
    rwa [List.append_assoc, List.singleton_append] at hrest

end Grouping

namespace Generation

theorem collects_groups (methods : List Method) :
    (methods.foldl Grouping.add {}).Collects methods := by
  have h := Grouping.collects_empty.foldl_add methods
  rwa [List.nil_append] at h

theorem groups_eq_byOwner (methods : List Method) : groups methods = byOwner methods :=
  (collects_groups methods).groups_eq

theorem length_method?_add_diagnostic? (outcomes : List Outcome) :
    (outcomes.filterMap Outcome.method?).length + (outcomes.filterMap Outcome.diagnostic?).length =
      outcomes.length := by
  induction outcomes with
  | nil => rfl
  | cons outcome outcomes ih =>
    cases outcome <;> simp [List.filterMap_cons, Outcome.method?, Outcome.diagnostic?] <;> omega

def size (g : Generation) : Nat :=
  (g.units.flatMap CodeUnit.functions).length + g.diagnostics.length

/-- Each stub comes to one function or one diagnostic. -/
theorem size_run (options : Options) (outcomes : List Outcome) :
    (run options outcomes).size = outcomes.length := by
  have hperm := (collects_groups (outcomes.filterMap Outcome.method?)).perm.length_eq
  have hfunctions : ((run options outcomes).units.flatMap CodeUnit.functions).length =
      (outcomes.filterMap Outcome.method?).length := by
    rw [← hperm]
    simp [run, groups, List.flatMap_map, CodeUnit.ofMethods, List.length_flatMap]
  rw [size, hfunctions]
  exact length_method?_add_diagnostic? outcomes

theorem pairwise_units (options : Options) (outcomes : List Outcome) :
    (run options outcomes).units.Pairwise fun u v => u.owner.same v.owner = false := by
  rw [run, groups_eq_byOwner, List.pairwise_map]
  exact pairwise_byOwner _

/-- The group of an owner is decided by its own methods alone. -/
theorem find?_byOwner (methods : List Method) (o : Owner) :
    (byOwner methods).find? (·.1.same o) = (methods.find? (·.owner.same o)).map fun m =>
      (m.owner, methods.filter (·.owner.same o)) := by
  have hfirsts := Owner.find?_firsts (methods.map Method.owner) o
  rw [List.find?_map] at hfirsts
  rw [byOwner, List.find?_map]
  simp only [Function.comp_def] at hfirsts ⊢
  rw [hfirsts, Option.map_map]
  cases hm : methods.find? (·.owner.same o) with
  | none => rfl
  | some m =>
    have hsame : m.owner.same o = true := by simpa using List.find?_some hm
    simp only [Option.map_some, Function.comp_apply, Option.some.injEq, Prod.mk.injEq, true_and]
    apply List.filter_congr
    intro x hx
    rw [Owner.same_congr hsame, Owner.same_comm]

/-- The unit of an owner: its first method says what is generated around its methods. -/
def unitOf (options : Options) (outcomes : List Outcome) (o : Owner) : Option CodeUnit :=
  let methods := (outcomes.filterMap Outcome.method?).filter (·.owner.same o)
  methods.head?.map fun m => .ofMethods options.strategy options m.owner methods

theorem find?_units (options : Options) (outcomes : List Outcome) (o : Owner) :
    (run options outcomes).units.find? (·.owner.same o) = unitOf options outcomes o := by
  have hgroup := find?_byOwner (outcomes.filterMap Outcome.method?) o
  simp only [run, groups_eq_byOwner, List.find?_map, Function.comp_def, CodeUnit.ofMethods,
    unitOf, List.head?_filter] at hgroup ⊢
  rw [hgroup, Option.map_map]
  rfl

/-- A unit is found by its own owner. -/
theorem unitOf_of_mem {options : Options} {outcomes : List Outcome} {u : CodeUnit}
    (hu : u ∈ (run options outcomes).units) : unitOf options outcomes u.owner = some u := by
  have hpairwise := pairwise_units options outcomes
  rw [← find?_units]
  generalize (run options outcomes).units = units at hu hpairwise
  induction units with
  | nil => cases hu
  | cons v units ih =>
    obtain ⟨hother, hpairwise⟩ := List.pairwise_cons.mp hpairwise
    rcases List.mem_cons.mp hu with rfl | hu
    · exact List.find?_cons_of_pos (Owner.same_refl u.owner)
    · rw [List.find?_cons_of_neg (by simp [hother u hu]), ih hu hpairwise]

/-- A pass reports the failed outcomes in order, and generates one unit for each owner, where the
owner first appears among the bound methods. No owner has two units. The unit of an owner is made
of the owner of its first method and of exactly its methods in order; all functions together are
those of all methods, each once; and two passes that bind the same methods of an owner generate the
same unit for it, whatever else they are given. -/
theorem run_eq_byOwner (options : Options) (outcomes : List Outcome) :
    (run options outcomes).diagnostics = outcomes.filterMap Outcome.diagnostic? ∧
    (run options outcomes).units =
      (byOwner (outcomes.filterMap Outcome.method?)).map (fun (owner, methods) =>
        .ofMethods options.strategy options owner methods) ∧
    ((run options outcomes).units.Pairwise fun u v => u.owner.same v.owner = false) ∧
    (∀ o, (run options outcomes).units.find? (·.owner.same o) = unitOf options outcomes o) ∧
    ((run options outcomes).units.flatMap CodeUnit.functions).Perm
      ((outcomes.filterMap Outcome.method?).map fun m =>
        m.function (m.body options.strategy options)) ∧
    (∀ (o : Owner) (others : List Outcome),
      (others.filterMap Outcome.method?).filter (·.owner.same o) =
        (outcomes.filterMap Outcome.method?).filter (·.owner.same o) →
      (run options others).units.find? (·.owner.same o) =
        (run options outcomes).units.find? (·.owner.same o)) := by
  have hunits : (run options outcomes).units =
      (byOwner (outcomes.filterMap Outcome.method?)).map (fun (owner, methods) =>
        .ofMethods options.strategy options owner methods) := by
    rw [run, groups_eq_byOwner]
  refine ⟨rfl, hunits, ?_, find?_units options outcomes, ?_, ?_⟩
  · rw [hunits, List.pairwise_map]
    exact pairwise_byOwner _
  · have hperm := (collects_groups (outcomes.filterMap Outcome.method?)).perm
    have hfunctions := hperm.map fun m => m.function (m.body options.strategy options)
    rw [List.map_flatMap] at hfunctions
    rw [run, List.flatMap_map]
    exact hfunctions
  · intro o others hsame
    rw [find?_units, find?_units, unitOf, unitOf, hsame]

end Generation

end Stencil
