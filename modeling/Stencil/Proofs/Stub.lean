import Stencil.Generation

/-! What becomes of an item of an impl block: it stays, or it is a stub that is bound or reported,
or it asks for a way of formatting that does not exist. -/
namespace Stencil

open Source

namespace SourceError

variable {α : Type}

/-- A value, or what is wrong if anything is. -/
def answer (fault : Option SourceError) (value : α) : Except SourceError α :=
  match fault with
  | some e => .error e
  | none => .ok value

@[simp] theorem answer_none (value : α) : answer none value = .ok value := rfl

@[simp] theorem answer_some (e : SourceError) (value : α) : answer (some e) value = .error e := rfl

theorem answer_eq_error_iff {fault : Option SourceError} {value : α} {e : SourceError} :
    answer fault value = .error e ↔ fault = some e := by
  cases fault <;> simp [answer]

theorem eq_ok_of_toOption {x : Except SourceError α} {a : α} (h : x.toOption = some a) :
    x = .ok a := by
  cases x with
  | error e => cases h
  | ok b => exact congrArg Except.ok (Option.some.inj h)

end SourceError

namespace Stub

def modeFault? : Input → Option SourceError
  | .receiver _ => none
  | .typed attributes _ _ =>
    match requested attributes with
    | .error e => some e
    | .ok _ => none

/-- A function without a body that has no receiver, gives text and carries a template. -/
def isStub : ImplItem → Bool
  | .bare fn _ =>
    !hasReceiver fn.signature && returnsText fn.signature.output && fn.attributes.any isTemplate
  | .other _ => false

def hasTemplateText : ImplItem → Bool
  | .bare fn _ => (fn.attributes.find? isTemplate).any fun a => (templateText a).isOk
  | .other _ => false

/-- What is wrong with the first mode of a stub that is not one. Nobody looks at the modes of a stub
whose template cannot be read. -/
def fault? (item : ImplItem) : Option SourceError :=
  if isStub item && hasTemplateText item then
    match item with
    | .bare fn _ => fn.signature.inputs.findSome? modeFault?
    | .other _ => none
  else none

def isSkipped (item : ImplItem) : Bool :=
  match inspect item with
  | .ok .skip => true
  | _ => false

def outcome? (owner : Owner) (options : Options) (item : ImplItem) : Option Outcome :=
  match inspect item with
  | .ok (.stub stub) => some (stub.bind owner options)
  | .ok (.rejected diagnostic) => some (.error diagnostic)
  | _ => none

/-- The parameters of a signature are refused for the first input whose mode is none. -/
theorem parametersFrom_eq (index : Nat) (inputs : List Input) :
    ∃ params, parametersFrom index inputs =
      SourceError.answer (inputs.findSome? modeFault?) params := by
  induction inputs generalizing index with
  | nil => exact ⟨[], rfl⟩
  | cons input inputs ih =>
    cases input with
    | receiver trees =>
      obtain ⟨params, hparams⟩ := ih index
      exact ⟨params, hparams⟩
    | typed attributes pattern type =>
      obtain ⟨params, hparams⟩ := ih (index + 1)
      cases hmode : requested attributes with
      | error e =>
        refine ⟨[], ?_⟩
        simp only [parametersFrom, parameter, hmode, List.findSome?_cons, modeFault?]
        rfl
      | ok mode? =>
        let first : Parameter := ⟨parameterName index pattern, type,
          (mode?.getD (.ofType type)).rendering⟩
        refine ⟨first :: params, ?_⟩
        simp only [parametersFrom, parameter, hmode, hparams, List.findSome?_cons, modeFault?]
        cases inputs.findSome? modeFault? <;> rfl

theorem exists_of_parametersFrom_typed {index : Nat} {attributes : List Attribute}
    {pattern : Pattern} {type : Ty} {rest : List Input} {params : List Parameter}
    (h : parametersFrom index (.typed attributes pattern type :: rest) = .ok params) :
    ∃ mode? others, requested attributes = .ok mode? ∧
      parametersFrom (index + 1) rest = .ok others ∧
      params = ⟨parameterName index pattern, type, (mode?.getD (.ofType type)).rendering⟩ ::
        others := by
  unfold parametersFrom parameter at h
  cases hmode : requested attributes with
  | error e =>
    rw [hmode] at h
    cases h
  | ok mode? =>
    rw [hmode] at h
    cases hothers : parametersFrom (index + 1) rest with
    | error e =>
      rw [hothers] at h
      cases h
    | ok others =>
      rw [hothers] at h
      cases h
      exact ⟨mode?, others, rfl, rfl, rfl⟩

theorem parametersFrom_of_inspect {item : ImplItem} {s : Stub}
    (h : inspect item = .ok (.stub s)) : parametersFrom 0 s.signature.inputs = .ok s.params := by
  cases item with
  | other trees => cases h
  | bare fn trees =>
    simp only [inspect, ofBareFn] at h
    split at h
    · cases h
    split at h
    · cases h
    split at h
    · cases h
    cases hparams : parameters fn.signature with
    | error e =>
      rw [hparams] at h
      cases h
    | ok params =>
      rw [hparams] at h
      cases h
      exact hparams

def ofText? (text : List Char) : Option Stub :=
  (ImplItem.read? text).bind fun item =>
    match inspect item with
    | .ok (.stub s) => some s
    | _ => none

theorem exists_of_map_ofText? {α : Type} {text : List Char} {f : Stub → α} {a : α}
    (h : (ofText? text).map f = some a) :
    ∃ item s, ImplItem.read? text = some item ∧ inspect item = .ok (.stub s) ∧ f s = a := by
  obtain ⟨s, hs, hfacts⟩ := Option.map_eq_some_iff.mp h
  obtain ⟨item, hitem, hfound⟩ := Option.bind_eq_some_iff.mp hs
  refine ⟨item, s, hitem, ?_, hfacts⟩
  split at hfound
  · next hinspect =>
    cases hfound
    exact hinspect
  · cases hfound

/-- An inspection fails for the first mode of a stub that is none. Else it finds nothing exactly if
the item is no stub. -/
theorem inspect_eq (item : ImplItem) :
    ∃ found, inspect item = SourceError.answer (fault? item) found ∧
      (found = .skip ↔ isStub item = false) := by
  cases item with
  | other trees => exact ⟨.skip, rfl, by simp [isStub]⟩
  | bare fn trees =>
    have hany : (fn.attributes.find? isTemplate).isSome = fn.attributes.any isTemplate :=
      List.isSome_find?
    simp only [inspect, ofBareFn, fault?, isStub, hasTemplateText, ← hany]
    cases hreceiver : hasReceiver fn.signature with
    | true => exact ⟨.skip, by simp⟩
    | false =>
      cases htext : returnsText fn.signature.output with
      | false => exact ⟨.skip, by simp⟩
      | true =>
        cases hfind : fn.attributes.find? isTemplate with
        | none => exact ⟨.skip, by simp⟩
        | some a =>
          simp only [Option.any_some, Option.isSome_some, Bool.not_false, Bool.and_self,
            Bool.true_and, Bool.not_true, Bool.or_self, Bool.false_eq_true, ↓reduceIte]
          cases htemplate : templateText a with
          | error problem => exact ⟨.rejected ⟨problem, fn.signature.pos⟩, rfl, by simp⟩
          | ok template =>
            obtain ⟨params, hparams⟩ := parametersFrom_eq 0 fn.signature.inputs
            refine ⟨.stub ⟨fn.attributes.filter (!isTemplate ·), fn.visibility, fn.signature,
              params, template⟩, ?_, by simp⟩
            simp only [parameters, hparams, Except.isOk, Except.toBool, ↓reduceIte]
            cases fn.signature.inputs.findSome? modeFault? <;> rfl

/-- A stub that asks for no wrong mode comes to something, and nothing else does. -/
theorem isSome_outcome? (owner : Owner) (options : Options) {item : ImplItem}
    (h : fault? item = none) : (outcome? owner options item).isSome = isStub item := by
  obtain ⟨found, hinspect, hskip⟩ := inspect_eq item
  rw [h, SourceError.answer_none] at hinspect
  unfold outcome?
  rw [hinspect]
  cases found with
  | skip => rw [hskip.mp rfl]; rfl
  | stub stub => simpa using hskip
  | rejected diagnostic => simpa using hskip

theorem fault?_of_not_isStub {item : ImplItem} (h : isStub item = false) : fault? item = none := by
  unfold fault?
  rw [h, Bool.false_and, if_neg Bool.false_ne_true]

theorem outcome?_of_not_isStub (owner : Owner) (options : Options) {item : ImplItem}
    (h : isStub item = false) : outcome? owner options item = none := by
  have hnone := isSome_outcome? owner options (fault?_of_not_isStub h)
  rw [h] at hnone
  exact Option.not_isSome_iff_eq_none.mp (Bool.eq_false_iff.mp hnone)

/-- The inputs whose modes are looked at if the item is a stub: all, or none if its template cannot
be read. -/
def judged (item : ImplItem) : List Input :=
  match item with
  | .bare fn _ => if hasTemplateText item then fn.signature.inputs else []
  | .other _ => []

theorem fault?_of_isStub {item : ImplItem} (h : isStub item = true) :
    fault? item = (judged item).findSome? modeFault? := by
  unfold fault? judged
  cases item with
  | other trees => cases h
  | bare fn trees => cases hasTemplateText (.bare fn trees) <;> simp [h]

/-- An attribute that asks for no mode that there is. -/
inductive NoMode (a : Attribute) : SourceError → Prop where
  | unknown {delim : Delim} {name : String} {pos : Pos}
      (hargs : a.args = .list delim [.word name pos]) (hword : name ∉ Peek.keywords)
      (hname : name ∉ modes.map Prod.fst) :
    NoMode a (.unknownMode name pos)
  | malformed
      (hargs : ∀ delim name pos, a.args = .list delim [.word name pos] → name ∈ Peek.keywords) :
    NoMode a (.ofMode a)

theorem mode_eq_error_iff {a : Attribute} {e : SourceError} : mode a = .error e ↔ NoMode a e := by
  have hkeyword {name : String} : Peek.keywords.contains name = true ↔ name ∈ Peek.keywords :=
    List.contains_iff_mem
  unfold mode
  constructor
  · intro h
    split at h
    · next delim name pos hargs =>
      split at h
      · next hword =>
        cases h
        refine .malformed fun delim' name' pos' hargs' => ?_
        rw [hargs] at hargs'
        cases hargs'
        exact hkeyword.mp hword
      · next hword =>
        split at h
        · cases h
        · next hlookup =>
          cases h
          refine .unknown hargs (mt hkeyword.mpr hword) fun hname => ?_
          obtain ⟨x, hx, rfl⟩ := List.mem_map.mp hname
          exact absurd (List.lookup_eq_none_iff.mp hlookup x hx) (by simp)
    · next hargs =>
      cases h
      exact .malformed fun delim name pos hargs' => absurd hargs' (hargs delim name pos)
  · intro h
    cases h with
    | @unknown delim name pos hargs hword hname =>
      have hlookup : modes.lookup name = none := by
        refine List.lookup_eq_none_iff.mpr fun x hx => ?_
        have hne : name ≠ x.1 := fun hx' => hname (hx' ▸ List.mem_map_of_mem hx)
        simpa using hne
      simp only [hargs, hlookup]
      rw [if_neg (mt hkeyword.mp hword)]
    | malformed hargs =>
      split
      · next delim name pos hlist =>
        rw [if_pos (hkeyword.mpr (hargs delim name pos hlist))]
      · rfl

/-- The first attribute of an input that should name a mode names none. -/
inductive WrongMode : Input → SourceError → Prop where
  | typed {attributes : List Attribute} {pattern : Pattern} {type : Ty} {a : Attribute}
      {e : SourceError} (hfirst : attributes.find? (·.isNamed "fmt") = some a)
      (hmode : NoMode a e) :
    WrongMode (.typed attributes pattern type) e

theorem requested_eq_error_iff {attributes : List Attribute} {e : SourceError} :
    requested attributes = .error e ↔
      ∃ a, attributes.find? (·.isNamed "fmt") = some a ∧ NoMode a e := by
  unfold requested
  split
  · next a hfirst =>
    have hmap : some <$> mode a = .error e ↔ mode a = .error e := by
      cases mode a <;> simp [Functor.map, Except.map]
    rw [hmap, mode_eq_error_iff]
    simp [hfirst]
  · next hfirst => simp [hfirst]

theorem modeFault?_eq_some_iff {input : Input} {e : SourceError} :
    modeFault? input = some e ↔ WrongMode input e := by
  cases input with
  | receiver trees =>
    constructor
    · intro h
      cases h
    · intro h
      cases h
  | typed attributes pattern type =>
    have hfault : modeFault? (.typed attributes pattern type) = some e ↔
        requested attributes = .error e := by
      simp only [modeFault?]
      split
      · next e' herror => simp [herror]
      · next mode? hok => simp [hok]
    rw [hfault, requested_eq_error_iff]
    constructor
    · rintro ⟨a, hfirst, hmode⟩
      exact .typed hfirst hmode
    · rintro ⟨hfirst, hmode⟩
      exact ⟨_, hfirst, hmode⟩

theorem modeFault?_eq_none_iff {input : Input} :
    modeFault? input = none ↔ ∀ e, ¬WrongMode input e := by
  simp only [← modeFault?_eq_some_iff]
  exact Option.eq_none_iff_forall_ne_some

theorem bind_eq_ok {s : Stub} {owner : Owner} {options : Options} {m : Method}
    (h : s.bind owner options = .ok m) : m = { s with owner } := by
  unfold bind at h
  split at h
  · cases h
  · cases h
    rfl

end Stub

def Method.generated (options : Options) (m : Method) : List Tree :=
  m.function (m.body options.strategy options)

namespace Stub

def outcomes (owner : Owner) (options : Options) (items : List ImplItem) : List Outcome :=
  items.filterMap (outcome? owner options)

def bound (owner : Owner) (options : Options) (items : List ImplItem) : List Method :=
  (outcomes owner options items).filterMap Outcome.method?

def reported (owner : Owner) (options : Options) (items : List ImplItem) : List Diagnostic :=
  (outcomes owner options items).filterMap Outcome.diagnostic?

theorem owner_of_mem_bound {owner : Owner} {options : Options} {items : List ImplItem} {m : Method}
    (h : m ∈ bound owner options items) : m.owner = owner := by
  obtain ⟨outcome, houtcome, hm⟩ := List.mem_filterMap.mp h
  obtain ⟨item, -, hitem⟩ := List.mem_filterMap.mp houtcome
  cases outcome with
  | error diagnostic => cases hm
  | ok m' =>
    cases hm
    unfold outcome? at hitem
    split at hitem
    · next stub hinspect => rw [bind_eq_ok (Option.some.inj hitem)]
    · cases hitem
    · cases hitem

/-- What is generated for a stub, and what is reported on it, do not depend on its owner. -/
theorem outcome?_owner (owner owner' : Owner) (options : Options) (item : ImplItem) :
    ((outcome? owner options item).bind Outcome.method?).map (Method.generated options) =
        ((outcome? owner' options item).bind Outcome.method?).map (Method.generated options) ∧
      (outcome? owner options item).bind Outcome.diagnostic? =
        (outcome? owner' options item).bind Outcome.diagnostic? := by
  unfold outcome?
  split
  · next stub hinspect =>
    unfold Stub.bind
    cases stub.problem? options with
    | some problem => exact ⟨rfl, rfl⟩
    | none => exact ⟨rfl, rfl⟩
  · exact ⟨rfl, rfl⟩
  · exact ⟨rfl, rfl⟩

theorem generated_bound_owner (owner owner' : Owner) (options : Options)
    (items : List ImplItem) :
    (bound owner options items).map (Method.generated options) =
      (bound owner' options items).map (Method.generated options) := by
  simp only [bound, outcomes, List.filterMap_filterMap, List.map_filterMap]
  congr 1
  funext item
  exact (outcome?_owner owner owner' options item).1

theorem reported_owner (owner owner' : Owner) (options : Options) (items : List ImplItem) :
    reported owner options items = reported owner' options items := by
  simp only [reported, outcomes, List.filterMap_filterMap]
  congr 1
  funext item
  exact (outcome?_owner owner owner' options item).2

end Stub

end Stencil
