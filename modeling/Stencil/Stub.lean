import Stencil.Classify
import Stencil.Diagnostic
import Stencil.Source.Grammar
import Stencil.SourceError

/-! Stubs: functions without a body that carry a template. -/
namespace Stencil

open Source

structure Parameter where
  name : String
  type : Ty
  rendering : Rendering

structure Stub where
  /-- The attributes other than the template. -/
  attributes : List Attribute
  visibility : List Tree
  signature : Signature
  params : List Parameter
  template : List Char

def Stub.name (s : Stub) : String := s.signature.name
def Stub.pos (s : Stub) : Pos := s.signature.pos

inductive Finding where
  /-- No stub. -/
  | skip
  | stub (stub : Stub)
  | rejected (diagnostic : Diagnostic)

namespace Stub

def templateArguments : AttributeArgs → Except Problem (List Expr)
  | .none => .ok []
  | .list _ body =>
    match phrase? (fun n => Prod.fst <$> Parser.terminated "," (n.expr true)) body with
    | some args => .ok args
    | none => .error .templateNotString
  | .value e => .ok [e]

/-- The text of a template, which must be its only argument. -/
def templateText (a : Attribute) : Except Problem (List Char) := do
  match ← templateArguments a.args with
  | [e] =>
    match e.text? with
    | some text => .ok text
    | none => .error .templateNotString
  | args => .error (.argumentCount args.length)

def modes : List (String × Capabilities) :=
  [("fast", .ofSelfWriting), ("display", .ofDisplay), ("debug", .empty)]

def mode (a : Attribute) : Except SourceError Capabilities :=
  match a.args with
  | .list _ [.word name pos] =>
    if Peek.keywords.contains name then .error (.ofMode a)
    else
      match modes.lookup name with
      | some capabilities => .ok capabilities
      | none => .error (.unknownMode name pos)
  | _ => .error (.ofMode a)

/-- The first mode that the attributes of a parameter ask for, if there is one. -/
def requested (attributes : List Attribute) : Except SourceError (Option Capabilities) :=
  match attributes.find? (·.isNamed "fmt") with
  | some a => some <$> mode a
  | none => .ok none

/-- The name of the parameter at a position. One that takes its value apart gets a name of its
own. -/
def parameterName (index : Nat) (pattern : Pattern) : String :=
  pattern.name.getD ("__arg" ++ toString index)

def parameter (index : Nat) (attributes : List Attribute) (pattern : Pattern) (type : Ty) :
    Except SourceError Parameter := do
  let capabilities := (← requested attributes).getD (.ofType type)
  return ⟨parameterName index pattern, type, capabilities.rendering⟩

def parametersFrom : Nat → List Input → Except SourceError (List Parameter)
  | _, [] => .ok []
  | index, .receiver _ :: rest => parametersFrom index rest
  | index, .typed attributes pattern type :: rest => do
    let first ← parameter index attributes pattern type
    let others ← parametersFrom (index + 1) rest
    return first :: others

def parameters (s : Signature) : Except SourceError (List Parameter) := parametersFrom 0 s.inputs

def hasReceiver (s : Signature) : Bool :=
  match s.inputs with
  | .receiver _ :: _ => true
  | _ => false

def isTemplate (a : Attribute) : Bool := a.isNamed "template"

/-- A function without a body is a stub if it has no receiver, gives text and carries a template. -/
def ofBareFn (fn : BareFn) : Except SourceError Finding :=
  if hasReceiver fn.signature || !returnsText fn.signature.output then .ok .skip
  else
    match fn.attributes.find? isTemplate with
    | none => .ok .skip
    | some a =>
      match templateText a with
      | .error problem => .ok (.rejected ⟨problem, fn.signature.pos⟩)
      | .ok template => do
        let params ← parameters fn.signature
        return .stub {
          attributes := fn.attributes.filter (!isTemplate ·)
          visibility := fn.visibility
          signature := fn.signature
          params, template }

def inspect : ImplItem → Except SourceError Finding
  | .bare fn _ => ofBareFn fn
  | .other _ => .ok .skip

end Stub

end Stencil
