import Stencil.Source.Grammar.Nested

/-! The grammar of attributes. -/
namespace Stencil.Source.Grammar

open Stencil.Source.Parser

def namesAlong (name : Parser String) : Parser (List String) := do
  let first ← name
  let others ← collect do
    if ← peek (.op "::") then
      let _ ← op "::"
      return some (← name)
    else return none
  return first :: others

/-- A word that can be a step of a path of plain names. -/
def pathName : Parser String := do
  if ← peek (.or .ident (.keywordIn ["super", "self", "Self", "crate"])) then
    return (← Parser.anyWord).1
  else fail

def namePath : Parser NamePath := do
  let rooted := !(← op? "::").isEmpty
  return ⟨rooted, ← namesAlong pathName⟩

variable (n : Nested)

def attributeValue : Parser Expr := fun ts =>
  match literal ts with
  | some (trees, []) =>
    match trees with
    | [.literal text] =>
      some (.of (((Literal.text? text.toList).map .text).getD .other) trees, [])
    | _ => some (.of .other trees, [])
  | _ => if Peek.op "#" ts && Peek.past 1 .bracket ts then none else n.expr true ts

def attributeArgs : Parser AttributeArgs := fun ts =>
  match ts with
  | .group delim body :: rest => some (.list delim body, rest)
  | _ =>
    if Peek.opNot "=" ["==", "=>"] ts then
      (attributeValue n (ts.drop 1)).map fun (e, rest) => (.value e, rest)
    else some (.none, ts)

def attributeBody (inner : Bool) : Parser Attribute := do
  let path ←
    if ← peek (.keyword "unsafe") then
      let (name, _) ← Parser.anyWord
      pure ⟨false, [name]⟩
    else namePath
  return ⟨inner, path, ← attributeArgs n⟩

def outerAttributes : Parser (List Attribute) := collect do
  if ← peek (.op "#") then
    let _ ← op "#"
    return some (← inside .bracket (attributeBody n false))
  else return none

def innerAttributes : Parser (List Attribute) := collect do
  if ← peek (.and (.op "#") (.past 1 (.op "!"))) then
    let _ ← op "#"
    let _ ← op "!"
    return some (← inside .bracket (attributeBody n true))
  else return none

def outerTrees : Grammar := attributeTrees <$> outerAttributes n
def innerTrees : Grammar := attributeTrees <$> innerAttributes n

/-- A block in braces that may begin with attributes of its own. -/
def describedBlock : Grammar := wrap .brace (seq [innerTrees n, n.statements])

def block : Grammar := wrap .brace n.statements

end Stencil.Source.Grammar
