import Stencil.Source.Grammar.Generics

/-! The grammar of function headers. -/
namespace Stencil.Source.Grammar

open Stencil.Source.Parser

variable (n : Nested)

def qualifiers : Grammar :=
  seq [keyword? "const", keyword? "async", keyword? "unsafe", externAbi?]

def signatureStart : Peek := fun ts =>
  match qualifiers ts with
  | some (_, rest) => Peek.keyword "fn" rest
  | none => false

def receiver : Grammar := do
  let reference ← when (.op "&") (seq [op "&", when .lifetime lifetime])
  let words ← seq [keyword? "mut", keyword "self"]
  let typed ←
    if reference.isEmpty then when (.op ":") (seq [op ":", n.typeTrees]) else nothing
  return reference ++ words ++ typed

/-- The object that a method is called on comes next, and not a path that begins like it. -/
def receiverStart : Peek := fun ts =>
  let marks := seq [when (.op "&") (seq [op "&", when .lifetime lifetime]), keyword? "mut"]
  match marks ts with
  | some (_, rest) => Peek.keyword "self" rest && !Peek.past 1 (.op "::") rest
  | none => false

inductive Param where
  | input (input : Input)
  | dots (trees : List Tree)

def param (first : Bool) : Parser Param := do
  let attributes ← outerAttributes n
  let shown := attributeTrees attributes
  if ← peek (.op "...") then return .dots (shown ++ (← op "..."))
  else if ← peek receiverStart then
    let trees ← receiver n
    if first then return .input (.receiver (shown ++ trees)) else fail
  else if ← peek (.and .ident (.past 1 (.op "<"))) then
    return .input (.typed attributes ⟨.other, [.ofName "_"]⟩ (← n.type true))
  else
    let pattern ← n.pattern
    let colon ← op ":"
    if ← peek (.op "...") then return .dots (shown ++ pattern.trees ++ colon ++ (← op "..."))
    else return .input (.typed attributes pattern (← n.type true))

structure Params where
  inputs : List Input := []
  /-- A comma stands after the last one, or there is none yet. -/
  expecting : Bool := true
  variadic : List Tree := []

def params : Parser Params :=
  let step (state : Params) : Parser (Option Params) := do
    if ← peek .done then return none
    else if !state.expecting then fail
    else
      match ← param n state.inputs.isEmpty with
      | .dots trees =>
        let comma ← op? ","
        return some { state with expecting := false, variadic := trees ++ comma }
      | .input found =>
        let comma ← op? ","
        return some { state with inputs := state.inputs ++ [found], expecting := !comma.isEmpty }
  iterate step {}

def signature : Parser Signature := do
  let words ← qualifiers
  let _ ← keyword "fn"
  let (name, pos) ← Parser.ident
  let generics ← generics n
  let params ← inside .paren (params n)
  let output ← output n true
  let whereClause ← whereClause n
  return {
    qualifiers := words, name, pos, generics, inputs := params.inputs
    trailing := params.variadic.isEmpty && params.expecting && !params.inputs.isEmpty
    variadic := params.variadic, output, whereClause }

end Stencil.Source.Grammar
