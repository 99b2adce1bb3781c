import Mathlib.Data.List.Forall2
import Stencil.Proofs.Stub

/-! A type is judged by what stands inside of all references, brackets and groups around it. -/
namespace Stencil

namespace Source

/-- What can stand around a type and leave its values the same. -/
inductive Wrapper where
  | reference (lifetime : Option String) (mutable : Bool)
  | paren
  | group
  deriving DecidableEq, Repr

namespace Wrapper

def around : Wrapper → Ty → Ty
  | .reference lifetime mutable => .reference lifetime mutable
  | .paren => .paren
  | .group => .group

def isReference : Wrapper → Bool
  | .reference .. => true
  | .paren | .group => false

end Wrapper

namespace Ty

/-- The type inside of the wrappers, the outermost of which comes first. -/
def wrapped (wrappers : List Wrapper) (t : Ty) : Ty := wrappers.foldr Wrapper.around t

def wrappers : Ty → List Wrapper
  | .reference lifetime mutable target => .reference lifetime mutable :: target.wrappers
  | .paren inner => .paren :: inner.wrappers
  | .group inner => .group :: inner.wrappers
  | .path .. | .projection .. | .traitObject .. | .other _ => []

def core : Ty → Ty
  | .reference _ _ target => target.core
  | .paren inner | .group inner => inner.core
  | t => t

def isPath : Ty → Bool
  | .path .. => true
  | _ => false

@[simp] theorem wrapped_nil (t : Ty) : t.wrapped [] = t := rfl

@[simp] theorem wrapped_cons (w : Wrapper) (ws : List Wrapper) (t : Ty) :
    t.wrapped (w :: ws) = w.around (t.wrapped ws) := rfl

theorem wrapped_core (t : Ty) : t.core.wrapped t.wrappers = t := by
  fun_induction wrappers t with
  | case1 lifetime mutable target ih => simp [core, Wrapper.around, ih]
  | case2 inner ih => simp [core, Wrapper.around, ih]
  | case3 inner ih => simp [core, Wrapper.around, ih]
  | case4 | case5 | case6 | case7 => rfl

theorem wrappers_core (t : Ty) : t.core.wrappers = [] := by
  fun_induction core t with
  | case1 lifetime mutable target ih => exact ih
  | case2 inner ih => exact ih
  | case3 inner ih => exact ih
  | case4 t hreference hparen hgroup =>
    cases t with
    | reference lifetime mutable target => exact absurd rfl (hreference lifetime mutable target)
    | paren inner => exact absurd rfl (hparen inner)
    | group inner => exact absurd rfl (hgroup inner)
    | _ => rfl

/-- A type with something around it is no name. -/
theorem isNamed_around (name : String) (w : Wrapper) (t : Ty) :
    (w.around t).isNamed name = false := by
  cases w <;> rfl

end Ty

end Source

open Source

namespace Capabilities

theorem ofType_around (w : Wrapper) (t : Ty) :
    ofType (w.around t) = if t.isNamed "str" && w.isReference then ofText else ofType t := by
  cases w <;> simp [Wrapper.around, Wrapper.isReference, ofType]

/-- Only a reference right before the text type counts. -/
theorem ofType_wrapped (ws : List Wrapper) (t : Ty) :
    ofType (t.wrapped ws) =
      if t.isNamed "str" && ws.getLast?.any Wrapper.isReference then ofText else ofType t := by
  induction ws with
  | nil => simp
  | cons w ws ih =>
    rw [Ty.wrapped_cons, ofType_around]
    cases ws with
    | nil => rfl
    | cons v ws =>
      rw [Ty.wrapped_cons, Ty.isNamed_around, ← Ty.wrapped_cons, ih, List.getLast?_cons_cons]
      rfl

theorem ofType_eq_ofDisplay {t : Ty} (hbare : t.wrappers = []) (hpath : t.isPath = false) :
    ofType t = ofDisplay := by
  cases t with
  | path rooted segments => cases hpath
  | reference lifetime mutable target => simp [Ty.wrappers] at hbare
  | paren inner => simp [Ty.wrappers] at hbare
  | group inner => simp [Ty.wrappers] at hbare
  | _ => rfl

theorem ofType_of_isNamed_str {t : Ty} (h : t.isNamed "str" = true) : ofType t = ofDisplay := by
  unfold Ty.isNamed at h
  split at h
  · next name =>
    obtain rfl : name = "str" := of_decide_eq_true h
    rfl
  · cases h

/-- Wrappers change how a value is written only if a reference comes right before the text type. -/
theorem rendering_wrapped_ne_iff (ws : List Wrapper) (t : Ty) :
    (ofType (t.wrapped ws)).rendering ≠ (ofType t).rendering ↔
      t.isNamed "str" = true ∧ ws.getLast?.any Wrapper.isReference = true := by
  rw [ofType_wrapped, ← Bool.and_eq_true_iff]
  split
  · next h =>
    rw [ofType_of_isNamed_str (Bool.and_eq_true_iff.mp h).1]
    exact iff_of_true (by decide) h
  · next h => exact iff_of_false (not_not_intro rfl) h

theorem rendering_ofSegment_ne (segment : Segment) :
    (ofSegment segment).rendering ≠ .debugged := by
  fun_cases ofSegment segment <;> decide

/-- Of every type something is known. -/
theorem rendering_ofType_ne (t : Ty) : (ofType t).rendering ≠ .debugged := by
  fun_induction ofType t with
  | case1 lifetime mutable target htext => decide
  | case2 lifetime mutable target htext ih => exact ih
  | case3 inner ih => exact ih
  | case4 inner ih => exact ih
  | case5 rooted segments =>
    cases segments.getLast? with
    | none => decide
    | some last => exact rendering_ofSegment_ne last
  | case6 | case7 | case8 => decide

end Capabilities

def Source.Input.isTyped : Input → Bool
  | .typed .. => true
  | .receiver _ => false

namespace Stub

/-- How a parameter comes from its input. -/
def Declares : Input → Parameter → Prop
  | .receiver _, _ => False
  | .typed attributes _ type, p =>
    p.type = type ∧
    ((∀ a ∈ attributes, a.isNamed "fmt" = false) →
      p.rendering = (Capabilities.ofType type).rendering ∧ p.rendering ≠ .debugged) ∧
    (p.rendering = .debugged ↔ ∃ a delim pos, attributes.find? (·.isNamed "fmt") = some a ∧
      a.args = .list delim [.word "debug" pos])

theorem rendering_lookup_modes {name : String} {c : Capabilities}
    (h : modes.lookup name = some c) : c.rendering = .debugged ↔ name = "debug" := by
  obtain ⟨before, after, hmodes, -⟩ := List.lookup_eq_some_iff.mp h
  have hmem : (name, c) ∈ modes := hmodes ▸ List.mem_append_right before List.mem_cons_self
  simp only [modes, List.mem_cons, List.not_mem_nil, or_false, Prod.mk.injEq] at hmem
  rcases hmem with ⟨rfl, rfl⟩ | ⟨rfl, rfl⟩ | ⟨rfl, rfl⟩ <;> decide

theorem rendering_mode {a : Attribute} {c : Capabilities} (h : mode a = .ok c) :
    c.rendering = .debugged ↔ ∃ delim pos, a.args = .list delim [.word "debug" pos] := by
  unfold mode at h
  split at h
  · next delim name pos hargs =>
    split at h
    · cases h
    split at h
    · next c' hlookup =>
      cases h
      simp [rendering_lookup_modes hlookup, hargs]
    · cases h
  · cases h

theorem declares_of_requested {attributes : List Attribute} {mode? : Option Capabilities}
    (h : requested attributes = .ok mode?) (name : String) (pattern : Pattern) (type : Ty) :
    Declares (.typed attributes pattern type)
      ⟨name, type, (mode?.getD (.ofType type)).rendering⟩ := by
  unfold requested at h
  split at h
  · next a hfirst =>
    cases hmode : mode a with
    | error e =>
      rw [hmode] at h
      cases h
    | ok c =>
      rw [hmode] at h
      cases h
      have hnamed : a.isNamed "fmt" = true := by simpa using List.find?_some hfirst
      have hmem := List.mem_of_find?_eq_some hfirst
      refine ⟨rfl, fun hnone => ?_, ?_⟩
      · rw [hnone a hmem] at hnamed
        cases hnamed
      · simpa [hfirst] using rendering_mode hmode
  · next hnone =>
    cases h
    have hjudged := Capabilities.rendering_ofType_ne type
    exact ⟨rfl, fun _ => ⟨rfl, hjudged⟩, by simpa [hnone] using hjudged⟩

theorem declares_parametersFrom {index : Nat} {inputs : List Input} {params : List Parameter}
    (h : parametersFrom index inputs = .ok params) :
    List.Forall₂ Declares (inputs.filter Input.isTyped) params := by
  induction inputs generalizing index params with
  | nil =>
    cases h
    exact .nil
  | cons input inputs ih =>
    cases input with
    | receiver trees => exact ih h
    | typed attributes pattern type =>
      obtain ⟨mode?, others, hmode, hothers, rfl⟩ := exists_of_parametersFrom_typed h
      exact .cons (declares_of_requested hmode _ pattern type) (ih hothers)

end Stub

namespace Capabilities

/-- A type is judged by its core, the type without the references, brackets and groups around it;
but it is text if the core is the text type and a reference stands right before it. A core that is
no path has a display form. So wrappers around a type change how its values are written exactly if
it is the text type and a reference comes right before it. A parameter of a stub is written as its
type tells if it asks for no mode, and never in its debug form unless it asks for that. -/
theorem ofType_through_wrappers :
    (∀ t : Ty,
      t.core.wrapped t.wrappers = t ∧ t.core.wrappers = [] ∧
      ofType t = (if t.core.isNamed "str" && t.wrappers.getLast?.any Wrapper.isReference then ofText
        else ofType t.core) ∧
      (t.core.isPath = false → ofType t.core = ofDisplay) ∧
      ∀ ws, (ofType (t.wrapped ws)).rendering ≠ (ofType t).rendering ↔
        t.isNamed "str" = true ∧ ws.getLast?.any Wrapper.isReference = true) ∧
    ∀ item s, Stub.inspect item = .ok (.stub s) →
      List.Forall₂ Stub.Declares (s.signature.inputs.filter Input.isTyped) s.params := by
  constructor
  · intro t
    have hjudged := ofType_wrapped t.wrappers t.core
    rw [Ty.wrapped_core] at hjudged
    exact ⟨t.wrapped_core, t.wrappers_core, hjudged, ofType_eq_ofDisplay t.wrappers_core,
      fun ws => rendering_wrapped_ne_iff ws t⟩
  · intro item s hfound
    exact Stub.declares_parametersFrom (Stub.parametersFrom_of_inspect hfound)

set_option maxRecDepth 20000 in
/-- The text type in brackets, with the reference inside of them and outside; and a stub with a
parameter that is judged by its type and one that asks for its debug form. -/
theorem ofType_through_wrappers_mixed :
    let name : Ty := .path false [.plain "str"]
    let text := ("#[template(\"\x7ba\x7d\x7bb\x7d\")] "
      ++ "fn f(a: &'a (&mut u8), #[fmt(debug)] b: &str) -> String;").toList
    ofType (name.wrapped [.paren, .reference none false]) = ofText ∧
    ofType (name.wrapped [.reference none false, .paren]) = ofDisplay ∧
    ∃ item s, ImplItem.read? text = some item ∧ Stub.inspect item = .ok (.stub s) ∧
      s.params.map Parameter.rendering = [.selfWriting, .debugged] ∧
      List.Forall₂ Stub.Declares (s.signature.inputs.filter Input.isTyped) s.params := by
  intro name text
  refine ⟨(ofType_through_wrappers.1 _).2.2.1, (ofType_through_wrappers.1 _).2.2.1, ?_⟩
  have hfacts : (Stub.ofText? text).map (fun s => s.params.map Parameter.rendering) =
      some [.selfWriting, .debugged] := by
    decide +kernel
  obtain ⟨item, s, hitem, hfound, hrenderings⟩ := Stub.exists_of_map_ofText? hfacts
  exact ⟨item, s, hitem, hfound, hrenderings, ofType_through_wrappers.2 item s hfound⟩

end Capabilities

end Stencil
