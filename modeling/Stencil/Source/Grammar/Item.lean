import Stencil.Source.Grammar.Function
import Stencil.Source.Grammar.Statement

/-! The grammar of the items that are passed through as they are. -/
namespace Stencil.Source.Grammar

open Stencil.Source.Parser

variable (n : Nested)

def signatureTrees : Grammar := Signature.trees <$> signature n
def genericsTrees : Grammar := Generics.trees <$> generics n

def nameOrBlank : Grammar := ifPeek (.keyword "_") (keyword "_") ident

def bodyOrNone : Grammar := ifPeek (.op ";") (op ";") (describedBlock n)

/-- What an item prints as, or nothing if it is kept as it stands. -/
abbrev Shown := Parser (Option (List Tree))

def boundsUntil (place : BoundPlace) (stop : Peek) : Grammar := do
  let step (state : Bool × List Tree) : Parser (Option (Bool × List Tree)) := do
    let (more, trees) := state
    if !more || (← peek stop) then return none
    let found ← Bound.trees <$> n.bound place
    if ← peek stop then return some (false, trees ++ found)
    else return some (true, trees ++ found ++ (← op "+"))
  return (← iterate step (true, [])).2

/-- A constant. It is kept as it stands if it has generics or a where clause, and if its value is
missing where there must be one. -/
def constant (valueNeeded : Bool) : Shown := do
  let head ← seq [keyword "const", nameOrBlank]
  let generic ← peek (.op "<")
  let _ ← generics n
  let type ← seq [op ":", n.typeTrees]
  let value ← valued n.exprTrees
  let constrained ← peek (.keyword "where")
  let _ ← whereClause n
  let stop ← op ";"
  if generic || constrained || valueNeeded && value.isEmpty then return none
  else return some (head ++ type ++ value ++ stop)

inductive AliasClause where
  | beforeValue
  | afterValue
  | either
  deriving DecidableEq, Repr

structure Alias where
  /-- The alias up to its generics. -/
  head : List Tree
  /-- A colon stands before the bounds, if there are any. -/
  isBounded : Bool
  bounds : List Tree
  clause : List Tree
  value : List Tree
  stop : List Tree

def typeAlias (place : AliasClause) : Parser Alias := do
  let head ← seq [keyword "type", ident, genericsTrees n]
  let colon ← op? ":"
  let bounds ←
    if colon.isEmpty then nothing
    else boundsUntil n .declared (.any [.keyword "where", .op "=", .op ";"])
  let constrained ← peek (.keyword "where")
  let before ← if place = .afterValue then nothing else whereClause n
  let value ← valued n.typeTrees
  let after ←
    if place = .beforeValue || place = .either && constrained then nothing else whereClause n
  let stop ← op ";"
  return {
    head, isBounded := !colon.isEmpty
    bounds := if bounds.isEmpty then [] else colon ++ bounds
    clause := before ++ after, value, stop }

namespace Alias

/-- An alias that stands for a type and has no bounds; `late` if its where clause comes last. -/
def plain (a : Alias) (late : Bool) : Option (List Tree) :=
  if a.isBounded || a.value.isEmpty then none
  else if late then some (a.head ++ a.value ++ a.clause ++ a.stop)
  else some (a.head ++ a.clause ++ a.value ++ a.stop)

def declared (a : Alias) : List Tree := a.head ++ a.bounds ++ a.value ++ a.clause ++ a.stop

/-- An alias that neither stands for a type nor has bounds. -/
def foreign (a : Alias) : Option (List Tree) :=
  if a.isBounded || !a.value.isEmpty then none else some (a.head ++ a.clause ++ a.stop)

end Alias

def callStart : Peek :=
  .any [.ident, .keywordIn ["self", "super", "crate"], .op "::"]

/-- A macro call as an item: a semicolon must follow unless it is in braces. -/
def callItem (name : Grammar) : Grammar := do
  let head ← seq [NamePath.trees <$> namePath, op "!", name]
  let braced ← peek .brace
  let body ← rawGroup
  return head ++ body ++ (← if braced then nothing else op ";")

def declarationCall : Grammar := callItem (ifPeek (.keyword "try") anyWord (when .ident ident))

/-- A field with its name. Without one, it may hold the fields of a struct or union that has no
name either. -/
def fieldDeclaration : Grammar := do
  let head ← seq [outerTrees n, visibility]
  let blank ← peek (.keyword "_")
  let name ← seq [nameOrBlank, op ":"]
  let nameless : Peek :=
    .or (.keyword "struct") (.and (.keyword "union") (.past 1 .brace))
  let type ←
    if blank && (← peek nameless) then raw (seq [anyWord, n.fields]) else n.typeTrees
  return head ++ name ++ type

def fieldDeclarations : Grammar := wrap .brace (listed "," (fieldDeclaration n))

def tupleDeclarations : Grammar :=
  wrap .paren (listed "," (seq [outerTrees n, visibility, n.typeTrees]))

def structItem : Grammar := do
  let head ← seq [keyword "struct", ident, genericsTrees n]
  let constrained ← peek (.keyword "where")
  let clause ← whereClause n
  let rest ←
    if !constrained && (← peek .paren) then seq [tupleDeclarations n, whereClause n, op ";"]
    else ifPeek .brace (fieldDeclarations n) (op ";")
  return head ++ clause ++ rest

def variant : Grammar := do
  let attributes ← outerTrees n
  let _ ← visibility
  let rest ← seq [ident,
    choose [(.brace, fieldDeclarations n), (.paren, tupleDeclarations n), (fun _ => true, nothing)],
    valued n.exprTrees]
  return attributes ++ rest

def enumItem : Grammar :=
  seq [keyword "enum", ident, genericsTrees n, whereClause n, wrap .brace (listed "," (variant n))]

def unionItem : Grammar :=
  seq [keyword "union", ident, genericsTrees n, whereClause n, fieldDeclarations n]

/-- A member of a trait. One with a visibility or the word `default` is kept as it stands. -/
def traitMember : Grammar := orVerbatim do
  let attributes ← outerTrees n
  let marks ← seq [visibility, keyword? "default"]
  let found? ← choose [
    (signatureStart, some <$> seq [signatureTrees n, bodyOrNone n]),
    (.keyword "const", constant n false),
    (.keyword "type", do return some (← typeAlias n .afterValue).declared),
    (fun ts => marks.isEmpty && callStart ts, some <$> callItem nothing)]
  return if marks.isEmpty then found?.map (attributes ++ ·) else none

def traitRest : Grammar :=
  let supertraits : Grammar := do
    let colon ← op? ":"
    if colon.isEmpty then nothing
    else
      let bounds ← boundsUntil n .declared (.or (.keyword "where") .brace)
      return if bounds.isEmpty then [] else colon ++ bounds
  seq [supertraits, whereClause n,
    wrap .brace (seq [innerTrees n, many Peek.done.not (traitMember n)])]

/-- A trait, or without words before it also a name for bounds. -/
def traitItem : Grammar := do
  let words ← seq [keyword? "unsafe", keyword? "auto"]
  let head ← seq [keyword "trait", ident, genericsTrees n]
  let stop : Peek := .or (.keyword "where") (.op ";")
  let rest ←
    ifPeek (fun ts => words.isEmpty && Peek.op "=" ts)
      (seq [op "=", boundsUntil n .object stop, whereClause n, op ";"])
      (traitRest n)
  return words ++ head ++ rest

/-- What a use declaration brings in: a path, names in braces, or everything. A path in braces that
begins at the root is reported. -/
def useTree (root : Bool) : Parser (Bool × List Tree) := do
  if ← peek (.or .ident (.keywordIn ["self", "super", "crate", "try"])) then
    let name ← anyWord
    let rest ← choose [
      (.op "::", seq [op "::", Prod.snd <$> n.useTree false]),
      (.keyword "as", seq [keyword "as", nameOrBlank]),
      (fun _ => true, nothing)]
    return (false, name ++ rest)
  else if ← peek (.op "*") then return (false, ← op "*")
  else
    let entry : Parser (Bool × List Tree) := do
      let rooted ← if root then op? "::" else nothing
      let (below, trees) ← n.useTree (root && rooted.isEmpty)
      return (!rooted.isEmpty || below, rooted ++ trees)
    let (entries, trailing) ← inside .brace (terminated "," entry)
    let comma := Tree.op ","
    return (entries.any Prod.fst, [.braces (separate comma (entries.map Prod.snd)
      ++ if trailing then comma else [])])

/-- A use declaration; with a path in braces that begins at the root it is kept as it stands. -/
def useItem : Shown := do
  let head ← seq [keyword "use", op? "::"]
  let (rooted, trees) ← n.useTree (head.length = 1)
  let stop ← op ";"
  return if rooted then none else some (head ++ trees ++ stop)

/-- A variable of the whole program. Without its type or its value it is kept as it stands. -/
def staticItem : Shown := do
  let head ← seq [keyword "static", keyword? "mut", ident]
  let type ← when (Peek.op "=").not (seq [op ":", n.typeTrees])
  let value ← valued n.exprTrees
  let stop ← op ";"
  return if type.isEmpty || value.isEmpty then none else some (head ++ type ++ value ++ stop)

/-- A variable of another library. With a word on its safety or a value it is kept as it stands. -/
def foreignStatic : Shown := do
  let safety ← ifPeek (.keyword "unsafe") (keyword "unsafe") (keyword? "safe")
  let head ← seq [keyword "static", keyword? "mut", ident, op ":", n.typeTrees]
  let value ← valued n.exprTrees
  let stop ← op ";"
  return if safety.isEmpty && value.isEmpty then some (head ++ stop) else none

def foreignQualifiers : Grammar :=
  seq [keyword? "const", keyword? "async",
    ifPeek (.keyword "unsafe") (keyword "unsafe") (keyword? "safe"), externAbi?]

/-- A function of another library. If it is said to be safe or has a body, it is kept as it
stands. -/
def foreignFn : Shown := do
  let words ← foreignQualifiers
  let isSafe := words.any fun t => Peek.keyword "safe" [t]
  let rest ← signatureTrees n
  let hasBody ← peek .brace
  let stop ← bodyOrNone n
  return if isSafe || hasBody then none else some (words ++ rest ++ stop)

def foreignMember : Grammar := orVerbatim do
  let attributes ← outerTrees n
  let visible ← visibility
  let isStatic : Peek :=
    .or (.keyword "static") (.and (.keywordIn ["unsafe", "safe"]) (.past 1 (.keyword "static")))
  let isFn : Peek := fun ts => (seq [foreignQualifiers, keyword "fn"] ts).isSome
  let found? ← choose [
    (isFn, foreignFn n),
    (isStatic, foreignStatic n),
    (.keyword "type", do return (← typeAlias n .either).foreign),
    (fun ts => visible.isEmpty && callStart ts, some <$> callItem nothing)]
  return found?.map (attributes ++ visible ++ ·)

def externBlock : Grammar :=
  seq [keyword? "unsafe", externAbi,
    wrap .brace (seq [innerTrees n, many Peek.done.not (foreignMember n)])]

def externCrate : Grammar :=
  seq [keyword "extern", keyword "crate", ifPeek (.keyword "self") anyWord ident,
    when (.keyword "as") (seq [keyword "as", nameOrBlank]), op ";"]

/-- A macro that is declared by its arguments and its body, kept as it stands. -/
def macroItem : Shown := do
  let _ ← seq [keyword "macro", ident, when .paren rawGroup, one .brace]
  return none

/-- A function, which is kept as it stands if it has no body. -/
def fnItem : Shown := do
  let signature ← signatureTrees n
  let isBare ← peek (.op ";")
  let body ← bodyOrNone n
  return if isBare then none else some (signature ++ body)

/-- Items that hold no items that anyone looks for. Only some of them can have a visibility, which
`visible` tells. -/
def otherItems (visible : Bool) : List (Peek × Shown) := [
  (signatureStart, fnItem n),
  (.and (.keyword "extern") (.past 1 (.keyword "crate")), some <$> externCrate),
  (fun ts => !visible && (Peek.or (.keyword "extern")
    (.and (.keyword "unsafe") (.past 1 (.keyword "extern")))) ts, some <$> externBlock n),
  (.keyword "use", useItem n),
  (.keyword "static", staticItem n),
  (.keyword "const", constant n true),
  (.keyword "type", do return (← typeAlias n .beforeValue).plain false),
  (.keyword "struct", some <$> structItem n),
  (.keyword "enum", some <$> enumItem n),
  (.and (.keyword "union") (.past 1 .ident), some <$> unionItem n),
  (.any [.keyword "trait", .and (.keywordIn ["unsafe", "auto"]) (.past 1 (.keyword "trait")),
    .and (.keyword "unsafe") (.past 1 (.keyword "auto"))], some <$> traitItem n),
  (.keyword "macro", macroItem),
  (fun ts => !visible && callStart ts, some <$> declarationCall)]

end Stencil.Source.Grammar
