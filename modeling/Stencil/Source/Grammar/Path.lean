import Stencil.Source.Grammar.Attribute

/-! The grammar of paths and their arguments. -/
namespace Stencil.Source.Grammar

open Stencil.Source.Parser

variable (n : Nested)

def constArgument : Grammar := choose [
  (.literal, literal),
  (.ident, ident),
  (.brace, describedBlock n)]

/-- Items after an opening angle bracket up to the closing one, which is left. The second result
tells whether a comma follows the last item. -/
def angled {α : Type} (item : Parser α) : Parser (List α × Bool) := do
  let step (state : List α × Bool) : Parser (Option (List α × Bool)) := do
    if ← peek (.op ">") then return none
    else if !state.2 then fail
    else
      let a ← item
      if ← peek (.op ">") then return some (a :: state.1, false)
      let _ ← op ","
      return some (a :: state.1, true)
  let (found, expecting) ← iterate step ([], true)
  return (found.reverse, expecting && !found.isEmpty)

/-- Items with the look of a list that ends where the look succeeds, joined by plus signs. -/
def summed (stop : Peek) (item : Grammar) : Grammar := do
  let step (state : Bool × List Tree) : Parser (Option (Bool × List Tree)) := do
    let (more, trees) := state
    if !more || (← peek stop) then return none
    let found ← item
    if ← peek (.op "+") then
      let sign ← op "+"
      return some (true, trees ++ found ++ sign)
    else return some (false, trees ++ found)
  return (← iterate step (true, [])).2

/-- Bounds after a colon; a colon without bounds is dropped. -/
def boundsAfterColon (stop : Peek) (item : Grammar) : Grammar := do
  if ← peek (.op ":") then
    let colon ← op ":"
    let bounds ← summed stop item
    return if bounds.isEmpty then [] else colon ++ bounds
  else nothing

def lifetimeParam : Grammar :=
  seq [lifetime, boundsAfterColon (.any [.done, .op ",", .op ">"]) lifetime]

def valued (value : Grammar) : Grammar := when (.op "=") (seq [op "=", value])

/-- A parameter that is declared, after its attributes: a lifetime, a type or a constant. -/
def paramAfter (attributes : List Tree) : Parser GenericParam := do
  if ← peek .lifetime then return ⟨true, attributes ++ (← lifetimeParam), []⟩
  else if ← peek .ident then
    let stop : Peek := .any [.done, .op ",", .op ">", .op "="]
    let head ← seq [ident, boundsAfterColon stop n.boundTrees]
    return ⟨false, attributes ++ head, ← valued n.typeTrees⟩
  else
    let head ← seq [keyword "const", ident, op ":", n.typeTrees]
    return ⟨false, attributes ++ head, ← valued (constArgument n)⟩

def genericParam : Parser GenericParam := do paramAfter n (← outerTrees n)

def binder : Grammar :=
  let params : Grammar := do
    let (items, trailing) ← angled (genericParam n)
    return separate (Tree.op ",") (items.map fun p => p.head ++ p.default)
      ++ (if trailing then Tree.op "," else [])
  seq [keyword "for", op "<", params, op ">"]

def binder? : Grammar := when (.keyword "for") (binder n)

def output (plus : Bool) : Parser (Option Ty) := do
  if ← peek (.op "->") then
    let _ ← op "->"
    return some (← n.type plus)
  else return none

def outputTrees (plus : Bool) : Grammar := do
  match ← output n plus with
  | some type => return Tree.op "->" ++ type.trees
  | none => nothing

def parenArguments : Grammar :=
  seq [wrap .paren (listed "," n.typeTrees), outputTrees n false]

inductive Argument where
  | lifetime (trees : List Tree)
  | type (type : Ty)
  | other (trees : List Tree)

namespace Argument

def trees : Argument → List Tree
  | .lifetime trees | .other trees => trees
  | .type t => t.trees

def type? : Argument → Option Ty
  | .type t => some t
  | _ => none

def isLifetime : Argument → Bool
  | .lifetime _ => true
  | _ => false

end Argument

/-- A path of one step can be the name of an associated item. -/
def isAssociated : Ty → Bool
  | .path false [_] => true
  | _ => false

/-- An argument in angle brackets: a lifetime, a constant, a type, or an associated item with its
value or its bounds. -/
def argument : Parser Argument := do
  if ← peek (.and .lifetime (Peek.past 1 (.op "+")).not) then return .lifetime (← lifetime)
  else if ← peek (.or .literal .brace) then return .other (← constArgument n)
  else
    let type ← n.type true
    if !isAssociated type then return .type type
    else if ← peek (.op "=") then
      let sign ← op "="
      let value ← ifPeek (.or .literal .brace) (constArgument n) n.typeTrees
      return .other (type.trees ++ sign ++ value)
    else if ← peek (.op ":") then
      let colon ← op ":"
      let bounds ← summed (.or (.op ",") (.op ">")) n.boundTrees
      return .other (type.trees ++ colon ++ bounds)
    else return .type type

/-- Arguments in angle brackets: the types among them, and the trees with lifetimes first. -/
def angleArguments : Parser (List Ty × List Tree) := do
  let start ← op "<"
  let (arguments, trailing) ← angled (argument n)
  let finish ← op ">"
  let shown := markedFirst (arguments.map fun a => (a.isLifetime, a.trees)) trailing
  return (arguments.filterMap Argument.type?, start ++ shown ++ finish)

def turbofish : Parser (List Ty × List Tree) := do
  let colons ← op "::"
  let (types, trees) ← angleArguments n
  return (types, colons ++ trees)

/-- One step of a path. In an expression its arguments need a double colon. -/
def segment (inExpr : Bool) : Parser Segment := do
  if ← peek (.keywordIn ["super", "self", "crate", "try"]) then
    return .plain (← Parser.anyWord).1
  else
    let name ← ifPeek (.keyword "Self") (Prod.fst <$> Parser.anyWord) (Prod.fst <$> Parser.ident)
    if !inExpr && (← peek (.opNot "<" ["<=", "<<="])) then
      let (types, trees) ← angleArguments n
      return .applied name types trees
    else if ← peek (.and (.op "::") (.past 2 (.op "<"))) then
      let (types, trees) ← turbofish n
      return .applied name types trees
    else return .plain name

def moreSegments (inExpr : Bool) (go : Peek) : Parser (List Segment) := collect do
  if ← peek (.and (.op "::") go) then
    let _ ← op "::"
    return some (← segment n inExpr)
  else return none

def path (inExpr : Bool) : Parser (Bool × List Segment) := do
  let rooted := !(← op? "::").isEmpty
  let first ← segment n inExpr
  let others ← moreSegments n inExpr (Peek.past 2 .paren).not
  return (rooted, first :: others)

def plainPath (inExpr : Bool) : Grammar := do
  let (rooted, segments) ← path n inExpr
  return pathTrees rooted segments

/-- A path, or an item of the type that stands in angle brackets before it. -/
def qualifiedPath (inExpr : Bool) : Parser Ty := do
  if ← peek (.op "<") then
    let start ← op "<"
    let self ← n.type true
    let viaTrait ←
      if ← peek (.keyword "as") then
        let word ← keyword "as"
        let (rooted, segments) ← path n false
        pure (segments.map Segment.name, word ++ pathTrees rooted segments)
      else pure ([], [])
    let finish ← op ">"
    let colons ← op "::"
    let first ← segment n inExpr
    let others ← moreSegments n inExpr (fun _ => true)
    let segments := first :: others
    return .projection (viaTrait.1 ++ segments.map Segment.name)
      (start ++ self.trees ++ viaTrait.2 ++ finish ++ colons ++ pathTrees false segments)
  else
    let (rooted, segments) ← path n inExpr
    return .path rooted segments

/-- The angle bracket to come begins generic parameters rather than a path. -/
def genericsStart : Peek :=
  .and (.op "<") (.any [
    .past 1 (.any [.op ">", .op "#", .keyword "const"]),
    .and (.past 1 (.or .lifetime .ident))
      (.past 2 (.any [.op ">", .op ",", .opNot ":" ["::"], .op "="]))])

def isNamePath : Ty → Bool
  | .path _ segments => segments.all Segment.isPlain
  | _ => false

def macroCall : Peek := .opNot "!" ["!="]

def macroCallTrees : Grammar := seq [op "!", rawGroup]

def builtinStart : Peek := .and (.keyword "builtin") (.past 1 (.op "#"))

def builtin : Grammar := raw (seq [keyword "builtin", op "#", ident, one .paren])

end Stencil.Source.Grammar
