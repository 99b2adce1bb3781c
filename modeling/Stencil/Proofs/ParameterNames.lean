import Mathlib.Data.List.Nodup
import Stencil.Proofs.Binding
import Stencil.Proofs.Body.FormatString
import Stencil.Proofs.Stub

/-! When no two parameters of a generated function, and no two arguments of its call of the
formatter, have one name. -/
namespace Stencil

open Source

/-- An identifier without the mark of a raw one: with it and without it, it is the same name. -/
def bareName (name : String) : String :=
  match name.toList with
  | 'r' :: '#' :: rest => String.ofList rest
  | _ => name

/-- A raw identifier is the same name without its mark, and goes by another in a format. -/
theorem raw_or_plain (name : String) :
    (∃ rest, name = "r#" ++ rest ∧ bareName name = rest ∧
      FormatCall.argumentName name = "__raw_" ++ rest) ∨
    bareName name = name ∧ FormatCall.argumentName name = name := by
  by_cases hraw : ∃ rest, name.toList = 'r' :: '#' :: rest
  · obtain ⟨rest, hname⟩ := hraw
    refine .inl ⟨String.ofList rest, ?_, by simp [bareName, hname],
      by simp [FormatCall.argumentName, hname]⟩
    rw [← String.toList_inj, hname]
    simp
  · refine .inr ⟨?_, ?_⟩
    · unfold bareName
      split
      · next rest hname => exact absurd ⟨rest, hname⟩ hraw
      · rfl
    · unfold FormatCall.argumentName
      split
      · next rest hname => exact absurd ⟨rest, hname⟩ hraw
      · rfl

theorem raw_ne_substitute (x y : String) : "r#" ++ x ≠ "__raw_" ++ y := by
  intro heq
  have hfirst := congrArg (fun name => (String.toList name).head?) heq
  simp at hfirst

namespace Stub

def boundNames (inputs : List Input) : List String :=
  inputs.filterMap fun
    | .typed _ pattern _ => pattern.name
    | .receiver _ => none

/-- The name for the input at a position that binds none as a whole. -/
def inventedName (index : Nat) : String := "__arg" ++ toString index

/-- The names for the inputs that bind none, where the first input stands at the given position. -/
def inventedNames : Nat → List Input → List String
  | _, [] => []
  | index, .receiver _ :: rest => inventedNames index rest
  | index, .typed _ pattern _ :: rest =>
    if pattern.name.isSome then inventedNames (index + 1) rest
    else inventedName index :: inventedNames (index + 1) rest

theorem inventedName_inj {i j : Nat} (h : inventedName i = inventedName j) : i = j := by
  have hdigits : Nat.toDigits 10 i = Nat.toDigits 10 j := by
    have hlists := congrArg String.toList ((String.append_right_inj _).mp h)
    simpa [Nat.toString_eq_ofList_toDigits] using hlists
  rw [← Nat.ofDigitChars_ten_toDigits (n := i), hdigits, Nat.ofDigitChars_ten_toDigits]

theorem exists_of_mem_inventedNames {index : Nat} {inputs : List Input} {name : String}
    (h : name ∈ inventedNames index inputs) : ∃ i, index ≤ i ∧ name = inventedName i := by
  fun_induction inventedNames index inputs with
  | case1 index => cases h
  | case2 index trees rest ih => exact ih h
  | case3 index attributes pattern type rest hname ih =>
    obtain ⟨i, hi, rfl⟩ := ih h
    exact ⟨i, by omega, rfl⟩
  | case4 index attributes pattern type rest hname ih =>
    rcases List.mem_cons.mp h with rfl | h
    · exact ⟨index, Nat.le_refl index, rfl⟩
    · obtain ⟨i, hi, rfl⟩ := ih h
      exact ⟨i, by omega, rfl⟩

theorem nodup_inventedNames (index : Nat) (inputs : List Input) :
    (inventedNames index inputs).Nodup := by
  fun_induction inventedNames index inputs with
  | case1 index => exact .nil
  | case2 index trees rest ih => exact ih
  | case3 index attributes pattern type rest hname ih => exact ih
  | case4 index attributes pattern type rest hname ih =>
    refine List.nodup_cons.mpr ⟨fun hmem => ?_, ih⟩
    obtain ⟨i, hi, heq⟩ := exists_of_mem_inventedNames hmem
    have hindex := inventedName_inj heq
    omega

theorem plain_of_mem_inventedNames {index : Nat} {inputs : List Input} {name : String}
    (h : name ∈ inventedNames index inputs) :
    bareName name = name ∧ FormatCall.argumentName name = name := by
  obtain ⟨i, -, rfl⟩ := exists_of_mem_inventedNames h
  simp [bareName, FormatCall.argumentName, inventedName]

/-- No name that stands for a raw identifier in a format is that of an input without one. -/
theorem raw_notMem_inventedNames (rest : String) (index : Nat) (inputs : List Input) :
    "__raw_" ++ rest ∉ inventedNames index inputs := by
  intro h
  obtain ⟨i, -, heq⟩ := exists_of_mem_inventedNames h
  have hlists := congrArg (fun name => (String.toList name)[2]?) heq
  simp [inventedName] at hlists

/-- The parameters have the names that are bound, and those that are invented. -/
theorem names_perm {index : Nat} {inputs : List Input} {params : List Parameter}
    (h : parametersFrom index inputs = .ok params) :
    (params.map Parameter.name).Perm (boundNames inputs ++ inventedNames index inputs) := by
  induction inputs generalizing index params with
  | nil =>
    cases h
    exact .nil
  | cons input inputs ih =>
    cases input with
    | receiver trees => exact ih h
    | typed attributes pattern type =>
      obtain ⟨mode?, others, -, hothers, rfl⟩ := exists_of_parametersFrom_typed h
      have hperm := ih hothers
      rw [List.map_cons]
      cases hname : pattern.name with
      | some name => simpa [boundNames, inventedNames, parameterName, hname] using hperm
      | none =>
        simp only [boundNames, inventedNames, parameterName, hname, List.filterMap_cons,
          Option.isSome_none, Bool.false_eq_true, ↓reduceIte, Option.getD_none]
        exact (hperm.cons _).trans List.perm_middle.symm

/-- Distinct names and distinct invented names clash only with each other. -/
theorem nodup_append_inventedNames {f : String → String} {names : List String}
    (hnames : (names.map f).Nodup) (index : Nat) (inputs : List Input) :
    (names.map f ++ inventedNames index inputs).Nodup ↔
      ∀ x ∈ names, f x ∉ inventedNames index inputs := by
  rw [List.nodup_append]
  constructor
  · rintro ⟨-, -, hapart⟩ x hx hmem
    exact hapart _ (List.mem_map_of_mem hx) _ hmem rfl
  · intro hapart
    refine ⟨hnames, nodup_inventedNames index inputs, fun a ha b hb heq => ?_⟩
    obtain ⟨x, hx, rfl⟩ := List.mem_map.mp ha
    exact hapart x hx (heq ▸ hb)

theorem map_inventedNames {f : String → String} {index : Nat} {inputs : List Input}
    (h : ∀ name ∈ inventedNames index inputs, f name = name) :
    (inventedNames index inputs).map f = inventedNames index inputs := by
  rw [List.map_congr_left h, List.map_id']

/-- No parameter is declared twice exactly if no bound name is one of the invented names. -/
theorem nodup_bareName_iff {index : Nat} {inputs : List Input} {params : List Parameter}
    (h : parametersFrom index inputs = .ok params)
    (hbound : ((boundNames inputs).map bareName).Nodup) :
    (params.map fun p => bareName p.name).Nodup ↔
      ∀ x ∈ boundNames inputs, bareName x ∉ inventedNames index inputs := by
  have hperm := (names_perm h).map bareName
  rw [List.map_map, List.map_append,
    map_inventedNames fun name hname => (plain_of_mem_inventedNames hname).1] at hperm
  exact hperm.nodup_iff.trans (nodup_append_inventedNames hbound index inputs)

/-- Names that differ clash in a format only if one is raw and the other is spelled like its
substitute. -/
theorem nodup_argumentName_iff {names : List String} (hnames : (names.map bareName).Nodup) :
    (names.map FormatCall.argumentName).Nodup ↔
      ∀ x, "r#" ++ x ∈ names → "__raw_" ++ x ∉ names := by
  rw [List.nodup_map_iff_inj_on hnames.of_map]
  constructor
  · intro hargs x hraw hplain
    exact raw_ne_substitute x x (hargs _ hraw _ hplain (by simp [FormatCall.argumentName]))
  · intro hapart x hx y hy heq
    rcases raw_or_plain x with ⟨rest, hraw, hbare, harg⟩ | ⟨hbare, harg⟩
    · rcases raw_or_plain y with ⟨rest', hraw', hbare', harg'⟩ | ⟨hbare', harg'⟩
      · rw [harg, harg', String.append_right_inj] at heq
        rw [hraw, hraw', heq]
      · rw [harg, harg'] at heq
        exact absurd (heq ▸ hy) (hapart rest (hraw ▸ hx))
    · rcases raw_or_plain y with ⟨rest', hraw', hbare', harg'⟩ | ⟨hbare', harg'⟩
      · rw [harg, harg'] at heq
        exact absurd (heq ▸ hx) (hapart rest' (hraw' ▸ hy))
      · rwa [harg, harg'] at heq

theorem nodup_arguments_iff {index : Nat} {inputs : List Input} {params : List Parameter}
    (h : parametersFrom index inputs = .ok params)
    (hbound : ((boundNames inputs).map bareName).Nodup) :
    (params.map fun p => FormatCall.argumentName p.name).Nodup ↔
      (∀ x ∈ boundNames inputs, x ∉ inventedNames index inputs) ∧
      ∀ x, "r#" ++ x ∈ boundNames inputs → "__raw_" ++ x ∉ boundNames inputs := by
  have hperm := (names_perm h).map FormatCall.argumentName
  rw [List.map_map, List.map_append,
    map_inventedNames fun name hname => (plain_of_mem_inventedNames hname).2] at hperm
  -- the substitute for a raw identifier is never an invented name, and neither is the identifier
  have hspelled :
      (∀ x ∈ boundNames inputs, FormatCall.argumentName x ∉ inventedNames index inputs) ↔
        ∀ x ∈ boundNames inputs, x ∉ inventedNames index inputs := by
    refine forall₂_congr fun x hx => not_congr ?_
    rcases raw_or_plain x with ⟨rest, hraw, -, harg⟩ | ⟨-, harg⟩
    · rw [harg]
      refine iff_of_false (raw_notMem_inventedNames rest index inputs) fun hmem => ?_
      have hplain := (plain_of_mem_inventedNames hmem).2
      rw [harg] at hplain
      exact raw_ne_substitute rest rest (hraw.symm.trans hplain.symm)
    · rw [harg]
  refine hperm.nodup_iff.trans ?_
  rw [← hspelled, ← nodup_argumentName_iff hbound]
  constructor
  · intro hnodup
    have hargs := (List.nodup_append.mp hnodup).1
    exact ⟨(nodup_append_inventedNames hargs index inputs).mp hnodup, hargs⟩
  · rintro ⟨hapart, hargs⟩
    exact (nodup_append_inventedNames hargs index inputs).mpr hapart

/-- The call of a bound method has an argument for each parameter. -/
theorem args_of_bind {s : Stub} {owner : Owner} {options : Options} {m : Method}
    (h : s.bind owner options = .ok m) :
    (FormatCall.fill m.params m.template).args = FormatCall.argumentsOf m.params := by
  obtain ⟨hfault, hcount⟩ := read_of_bind h
  have hreads : Template.Reads m.template 0 (Template.read m.template) :=
    Template.reads_reading (Template.start m.template)
  rw [FormatCall.args_fill hreads hfault (Nat.le_of_eq hcount), hcount, List.take_length]

/-- The names that a stub binds stay as they are, and a parameter that takes its value apart is
named after its position. So where the bound names differ, no parameter is declared twice exactly if
none of them is spelled like the name for such a position. No argument of the formatter is named
twice exactly if none is spelled so, nor like the substitute for a raw one. -/
theorem distinct_names_iff {item : ImplItem} {s : Stub} (hfound : inspect item = .ok (.stub s))
    (hbound : ((boundNames s.signature.inputs).map bareName).Nodup) :
    ((s.params.map fun p => bareName p.name).Nodup ↔
      ∀ x ∈ boundNames s.signature.inputs, bareName x ∉ inventedNames 0 s.signature.inputs) ∧
    ∀ (owner : Owner) (options : Options) (m : Method), s.bind owner options = .ok m →
      ∃ call, m.body .formatCall options = .formatCall call ∧
        ((call.args.map Prod.fst).Nodup ↔
          (∀ x ∈ boundNames s.signature.inputs, x ∉ inventedNames 0 s.signature.inputs) ∧
          ∀ x, "r#" ++ x ∈ boundNames s.signature.inputs →
            "__raw_" ++ x ∉ boundNames s.signature.inputs) := by
  have hparams := parametersFrom_of_inspect hfound
  refine ⟨nodup_bareName_iff hparams hbound, fun owner options m hbind => ?_⟩
  refine ⟨_, rfl, ?_⟩
  rw [args_of_bind hbind, FormatCall.argumentsOf, List.map_map]
  obtain ⟨-, rfl, -⟩ := bind_eq_ok_iff.mp hbind
  exact nodup_arguments_iff hparams hbound

set_option maxRecDepth 20000 in
/-- A name spelled like that for another position, a parameter that takes its value apart, and a raw
identifier. -/
theorem distinct_names_iff_mixed :
    let text := ("#[template(\"\x7ba\x7d\x7bb\x7d\x7bc\x7d\")] "
      ++ "fn f(__arg2: u8, (x, y): P, r#type: u8) -> String;").toList
    ∃ item s, ImplItem.read? text = some item ∧ inspect item = .ok (.stub s) ∧
      boundNames s.signature.inputs = ["__arg2", "r#type"] ∧
      (s.params.map fun p => bareName p.name).Nodup ∧
      ∀ owner, ∃ m call, s.bind owner {} = .ok m ∧ m.body .formatCall {} = .formatCall call ∧
        (call.args.map Prod.fst).Nodup := by
  intro text
  have hfacts : (ofText? text).map (fun s => (boundNames s.signature.inputs,
      inventedNames 0 s.signature.inputs, (s.problem? {}).isNone)) =
      some (["__arg2", "r#type"], ["__arg1"], true) := by
    decide +kernel
  obtain ⟨item, s, hitem, hfound, hfacts⟩ := exists_of_map_ofText? hfacts
  simp only [Prod.mk.injEq] at hfacts
  obtain ⟨hbound, hinvented, hproblem⟩ := hfacts
  have hiff := distinct_names_iff hfound (by rw [hbound]; decide +kernel)
  rw [hbound, hinvented] at hiff
  refine ⟨item, s, hitem, hfound, hbound, hiff.1.mpr (by decide +kernel), fun owner => ?_⟩
  have hbind : s.bind owner {} = .ok ⟨s, owner⟩ :=
    bind_eq_ok_iff.mpr ⟨Option.isNone_iff_eq_none.mp hproblem, rfl, rfl⟩
  obtain ⟨call, hbody, hargs⟩ := hiff.2 owner {} _ hbind
  refine ⟨_, call, hbind, hbody, hargs.mpr ⟨by decide +kernel, fun x _ hsubstitute => ?_⟩⟩
  simp only [List.mem_cons, List.not_mem_nil, or_false, ← String.toList_inj] at hsubstitute
  simp at hsubstitute

set_option maxRecDepth 20000 in
/-- A parameter can be spelled like the name for a position or like the substitute for a raw
identifier. -/
theorem names_clash :
    (∃ item s, ImplItem.read? ("#[template(\"\x7ba\x7d\x7bb\x7d\")] "
        ++ "fn f(__arg1: u8, (x, y): P) -> String;").toList = some item ∧
      inspect item = .ok (.stub s) ∧ boundNames s.signature.inputs = ["__arg1"] ∧
      s.params.map Parameter.name = ["__arg1", "__arg1"]) ∧
    ∃ item s, ImplItem.read? ("#[template(\"\x7ba\x7d\x7bb\x7d\")] "
        ++ "fn f(r#type: u8, __raw_type: u8) -> String;").toList = some item ∧
      inspect item = .ok (.stub s) ∧ boundNames s.signature.inputs = ["r#type", "__raw_type"] ∧
      (FormatCall.fill s.params s.template).args =
        [("__raw_type", "r#type"), ("__raw_type", "__raw_type")] := by
  constructor
  · have hfacts : (ofText? ("#[template(\"\x7ba\x7d\x7bb\x7d\")] "
        ++ "fn f(__arg1: u8, (x, y): P) -> String;").toList).map (fun s =>
          (boundNames s.signature.inputs, s.params.map Parameter.name)) =
        some (["__arg1"], ["__arg1", "__arg1"]) := by
      decide +kernel
    obtain ⟨item, s, hitem, hfound, hfacts⟩ := exists_of_map_ofText? hfacts
    obtain ⟨hbound, hnames⟩ := Prod.mk.inj hfacts
    exact ⟨item, s, hitem, hfound, hbound, hnames⟩
  · have hfacts : (ofText? ("#[template(\"\x7ba\x7d\x7bb\x7d\")] "
        ++ "fn f(r#type: u8, __raw_type: u8) -> String;").toList).map (fun s =>
          (boundNames s.signature.inputs, (FormatCall.fill s.params s.template).args)) =
        some (["r#type", "__raw_type"],
          [("__raw_type", "r#type"), ("__raw_type", "__raw_type")]) := by
      decide +kernel
    obtain ⟨item, s, hitem, hfound, hfacts⟩ := exists_of_map_ofText? hfacts
    obtain ⟨hbound, hargs⟩ := Prod.mk.inj hfacts
    exact ⟨item, s, hitem, hfound, hbound, hargs⟩

end Stub

end Stencil
