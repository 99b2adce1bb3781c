import Stencil.Source.Grammar.Item

/-! The grammar of impl blocks, modules and files. -/
namespace Stencil.Source.Grammar

open Stencil.Source.Parser

variable (n : Nested)

/-- An item of an impl block after its attributes, its visibility and the word `default`, which all
stand in `start`: a function without a body, or the trees of a complete item, or neither. -/
def implItemRest (start : List Tree) (isCallable : Bool) :
    Parser (Option Signature × Option (List Tree)) := do
  if ← peek signatureStart then
    let signature ← signature n
    if ← peek (.op ";") then
      let _ ← op ";"
      return (some signature, none)
    else return (none, some (start ++ signature.trees ++ (← describedBlock n)))
  else if ← peek (.keyword "const") then
    return (none, (← constant n true).map (start ++ ·))
  else if ← peek (.keyword "type") then
    return (none, ((← typeAlias n .afterValue).plain true).map (start ++ ·))
  else if isCallable && (← peek callStart) then
    return (none, some (start ++ (← callItem nothing)))
  else fail

/-- An item of an impl block. What is not complete is kept as it stands. -/
def implItem : Parser ImplItem := do
  let ((fn?, complete?), raw) ← verbatim do
    let attributes ← outerAttributes n
    let visibility ← visibility
    let byDefault ←
      when (.and (.keyword "default") (Peek.past 1 (.op "!")).not) (keyword "default")
    let (signature?, complete?) ←
      implItemRest n (attributeTrees attributes ++ visibility ++ byDefault)
        (visibility.isEmpty && byDefault.isEmpty)
    let fn? := if byDefault.isEmpty then signature?.map (BareFn.mk attributes visibility) else none
    return (fn?, complete?)
  match fn? with
  | some fn => return .bare fn raw
  | none => return .other (complete?.getD raw)

/-- The trait and the type of an impl block; no type if what stands for the trait is none. -/
def implHead (negative : List Tree) : Parser (List Tree × Option Ty) := do
  let first ← n.type true
  if ← peek (.keyword "for") then
    let word ← keyword "for"
    let selfType ← n.type true
    match first with
    | .path .. => return (negative ++ first.trees ++ word, some selfType)
    | _ => return ([], none)
  else if negative.isEmpty then return ([], some first)
  else fail

/-- An impl block after its attributes; none if its parts fit together only by their form. -/
def implRest (outer : List Attribute) : Parser (Option Impl) := do
  let qualifiers ← seq [keyword? "default", keyword? "unsafe"]
  let _ ← keyword "impl"
  let generics ← ifPeek genericsStart (generics n) (pure .empty)
  let constant ←
    when (.or (.keyword "const") (.and (.op "?") (.past 1 (.keyword "const"))))
      (seq [op? "?", keyword "const"])
  let negative ← when (.and (.op "!") (Peek.past 1 .brace).not) (op "!")
  let (traitTrees, selfType?) ← implHead n negative
  let whereClause ← whereClause n
  let (inner, items) ← inside .brace do
    let inner ← innerAttributes n
    let items ← collect (ifPeek .done (pure none) (some <$> implItem n))
    return (inner, items)
  if !constant.isEmpty then return none
  return selfType?.map fun selfType =>
    { attributes := outer ++ inner, qualifiers, generics, traitTrees, selfType, whereClause, items }

def implBlock : Parser Impl := do
  let outer ← outerAttributes n
  match ← implRest n outer with
  | some block => return block
  | none => fail

def items : Parser (List (Item × List Tree)) :=
  collect (ifPeek .done (pure none) (some <$> n.item))

def moduleRest : Parser (Item × List Tree) := do
  let head ← seq [keyword? "unsafe", keyword "mod"]
  let (name, _) ← ifPeek (.keyword "try") Parser.anyWord Parser.ident
  let head := head ++ [.ofName name]
  if ← peek (.op ";") then return (.other, head ++ (← op ";"))
  else
    let (attributes, found) ← inside .brace do
      let attributes ← innerTrees n
      let found ← items n
      return (attributes, found)
    return (.module name (found.map Prod.fst),
      head ++ [.braces (attributes ++ found.flatMap Prod.snd)])

def implStart : Peek := .any [
  .keyword "impl",
  .and (.keyword "unsafe") (.past 1 (.keyword "impl")),
  .and (.keyword "default") (Peek.past 1 (.op "!")).not]

def item : Parser (Item × List Tree) := do
  let ((item, shown?), raw) ← verbatim do
    let outer ← outerAttributes n
    let visibility ← visibility
    let start := attributeTrees outer ++ visibility
    if ← peek implStart then
      match ← implRest n outer with
      | some block =>
        if visibility.isEmpty then return (Item.impl block, some block.trees)
        else return (.other, none)
      | none => return (.other, none)
    else if ← peek (.or (.keyword "mod") (.and (.keyword "unsafe") (.past 1 (.keyword "mod")))) then
      let (item, trees) ← moduleRest n
      return (item, some (start ++ trees))
    else
      let found? ← choose (otherItems n !visibility.isEmpty)
      return (.other, found?.map (start ++ ·))
  return (item, shown?.getD raw)

end Stencil.Source.Grammar
