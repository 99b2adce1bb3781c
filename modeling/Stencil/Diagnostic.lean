import Stencil.Source.Tree

/-! What can be wrong with a stub, and how that is reported. -/
namespace Stencil

inductive Code where
  | argumentCount
  | templateEmpty
  | templateMalformed
  | holeCount
  | templateNotString
  | placeholderName
  deriving DecidableEq, Repr

namespace Code

def number : Code → Nat
  | .argumentCount => 1
  | .templateEmpty => 2
  | .templateMalformed => 3
  | .holeCount => 4
  | .templateNotString => 5
  | .placeholderName => 6

def all : List Code :=
  [.argumentCount, .templateEmpty, .templateMalformed, .holeCount, .templateNotString,
    .placeholderName]

def ofNumber? (n : Nat) : Option Code := all.find? (·.number == n)

/-- The number in four digits behind a fixed mark. -/
def label (c : Code) : String := "NFG000" ++ toString c.number

def title : Code → String
  | .argumentCount => "Argument count mismatch"
  | .templateEmpty => "Template is empty"
  | .templateMalformed => "Template not well-formed"
  | .holeCount => "Template placeholders don't match parameter count"
  | .templateNotString => "Template is not a string literal"
  | .placeholderName => "Placeholder name doesn't match parameter name"

end Code

/-- What is wrong with a stub, with the values that the report names. -/
inductive Problem where
  | argumentCount (found : Nat)
  | templateEmpty
  | templateMalformed
  | holeCount (holes params : Nat)
  | templateNotString
  | placeholderName (placeholder : List Char) (parameter : String)
  deriving DecidableEq, Repr

namespace Problem

def code : Problem → Code
  | .argumentCount _ => .argumentCount
  | .templateEmpty => .templateEmpty
  | .templateMalformed => .templateMalformed
  | .holeCount .. => .holeCount
  | .templateNotString => .templateNotString
  | .placeholderName .. => .placeholderName

def description : Problem → String
  | .argumentCount found =>
    s!"#[template] expects exactly 1 argument for the format, found {found}"
  | .templateEmpty => "the given template must not be empty or whitespace-only"
  | .templateMalformed =>
    "the template's open ('\x7b') and close ('\x7d') brackets do not match"
  | .holeCount holes params =>
    s!"the template has {holes} placeholders, but {params} parameters are given"
  | .templateNotString => "the template must be a string literal"
  | .placeholderName placeholder parameter =>
    "placeholder \x7b" ++ String.ofList placeholder ++ "\x7d is filled by parameter `"
      ++ parameter ++ "`"

def message (p : Problem) : String := p.code.label ++ ": " ++ p.description

end Problem

structure Diagnostic where
  problem : Problem
  pos : Source.Pos
  deriving DecidableEq, Repr

namespace Diagnostic

def message (d : Diagnostic) : String := d.problem.message

def report (d : Diagnostic) : String :=
  "error[" ++ d.problem.code.label ++ "]: " ++ d.problem.description

/-- The report as source text: a call that fails to compile with the message. -/
def compileError (d : Diagnostic) : List Source.Tree :=
  Source.Tree.op "::" ++ [.ofName "core"] ++ Source.Tree.op "::"
    ++ [.ofName "compile_error"] ++ Source.Tree.op "!"
    ++ [.braces [.ofText d.message.toList]]

end Diagnostic

end Stencil
