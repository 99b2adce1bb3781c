import Stencil.Source.Grammar.Path

/-! The grammar of bounds and types. -/
namespace Stencil.Source.Grammar

open Stencil.Source.Parser

variable (n : Nested)

def captures : Grammar := do
  let start ← seq [keyword "use", op "<"]
  let param : Parser (Bool × List Tree) := do
    if ← peek .lifetime then return (true, ← lifetime)
    else return (false, ← ifPeek (.keyword "Self") (keyword "Self") ident)
  let (params, trailing) ← angled param
  let finish ← op ">"
  return start ++ markedFirst params trailing ++ finish

/-- The mark of a trait that holds for constants. -/
def constMark : Grammar := choose [
  (.bracket, wrap .bracket (keyword "const")),
  (.keyword "const", keyword "const"),
  (fun _ => true, nothing)]

def traitBound (place : BoundPlace) : Parser Bound := do
  let lifetimes ← binder? n
  let mark ← constMark
  if !mark.isEmpty && place = .object then fail
  let relaxed ← op? "?"
  let late ← if lifetimes.isEmpty && !relaxed.isEmpty then binder? n else nothing
  let (rooted, segments) ← path n false
  let called ← peek (.or .paren (.and (.op "::") (.past 2 .paren)))
  let shown ←
    if called && segments.getLast?.any Segment.isUnapplied then
      let last := segments.getLast?.map fun s => .plain s.name
      let _ ← op? "::"
      pure (pathTrees rooted (segments.dropLast ++ last.toList) ++ (← parenArguments n))
    else pure (pathTrees rooted segments)
  if !relaxed.isEmpty && !(lifetimes ++ late).isEmpty then fail
  let kind :=
    if mark.isEmpty then .trait ((segments.getLast?.map Segment.name).getD "") else .constTrait
  return ⟨kind, lifetimes ++ relaxed ++ shown⟩

/-- A bound; a trait that holds for constants is kept as it stands. -/
def bound (place : BoundPlace) : Parser Bound := do
  if ← peek .lifetime then return ⟨.lifetime, ← lifetime⟩
  else if ← peek (.keyword "use") then
    let trees ← captures
    if place = .implied then return ⟨.captures, trees⟩ else fail
  else
    let inBrackets : Parser Bound := do
      let inner ← inside .paren (traitBound n place)
      return { inner with trees := [.parens inner.trees] }
    let (found, raw) ← verbatim (ifPeek .paren inBrackets (traitBound n place))
    return if found.kind = .constTrait then ⟨.constTrait, raw⟩ else found

def boundStart (place : BoundPlace) : Peek :=
  .any [.anyWord, .op "::", .op "?", .lifetime, .paren,
    fun ts => place ≠ .object && Peek.bracket ts]

structure Sum where
  bounds : List Bound := []
  trees : List Tree := []

namespace Sum

def names (s : Sum) : List String := s.bounds.filterMap Bound.trait?

def push (s : Sum) (b : Bound) : Sum := ⟨s.bounds ++ [b], s.trees ++ b.trees⟩

def plus (s : Sum) (sign : List Tree) : Sum := { s with trees := s.trees ++ sign }

end Sum

def looseBounds (place : BoundPlace) (first : Sum) : Parser Sum := do
  let step (state : Bool × Sum) : Parser (Option (Bool × Sum)) := do
    if state.1 && (← peek (.op "+")) then
      let s := state.2.plus (← op "+")
      if ← peek (boundStart place) then return some (true, s.push (← n.bound place))
      else return some (false, s)
    else return none
  return (← iterate step (true, first)).2

def strictBounds : Sum → Parser Sum := iterate fun s => do
  if ← peek (.op "+") then
    let sign ← op "+"
    return some ((s.plus sign).push (← n.bound .object))
  else return none

/-- Bounds joined by plus signs, more than one only if `plus`. -/
def bounds (plus : Bool) (place : BoundPlace) : Parser Sum := do
  let first := Sum.push {} (← n.bound place)
  if plus then looseBounds n place first else return first

/-- The bounds of a trait object; lifetimes alone are none. -/
def traitObject (start : List Tree) (plus : Bool) : Parser Ty := do
  let found ← bounds n plus .object
  if found.names.isEmpty then fail else return .traitObject found.names none (start ++ found.trees)

/-- What round brackets hold where a type is expected. -/
inductive ParenType where
  | tuple (trees : List Tree)
  /-- A relaxed bound. -/
  | bound (bound : Bound)
  | single (type : Ty)
  /-- A trait object that a lifetime begins. -/
  | object (type : Ty)

def parenBody : Parser ParenType := do
  if ← peek .done then return .tuple []
  else if ← peek .lifetime then return .object (← traitObject n [] true)
  else if ← peek (.op "?") then return .bound (← traitBound n .object)
  else
    let first ← n.type true
    if ← peek (.op ",") then
      let comma ← op ","
      return .tuple (first.trees ++ comma ++ (← listed "," n.typeTrees))
    else return .single first

/-- A type that can stand as the first bound of a trait object once it is in brackets. -/
def asBound : Ty → Option Bound
  | .path rooted segments =>
    let name := (segments.getLast?.map Segment.name).getD ""
    some ⟨.trait name, [.parens (pathTrees rooted segments)]⟩
  | .traitObject [name] (some trees) _ => some ⟨.trait name, [.parens trees]⟩
  | _ => none

/-- A trait object whose first bound stands in brackets. -/
def afterBracketed (first : Bound) : Parser Ty := do
  let found ← strictBounds n (Sum.push {} first)
  return .traitObject found.names none found.trees

def parenType (plus : Bool) : Parser Ty := do
  match ← inside .paren (parenBody n) with
  | .tuple trees => return .other [.parens trees]
  | .bound b =>
    let first : Bound := { b with trees := [.parens b.trees] }
    ifPeek (.op "+") (afterBracketed n first)
      (pure (.traitObject b.trait?.toList (some b.trees) first.trees))
  | .object type => return .paren type
  | .single type =>
    match asBound type with
    | some first =>
      ifPeek (fun ts => plus && Peek.op "+" ts) (afterBracketed n first) (pure (.paren type))
    | none => return .paren type

def externAbi : Grammar :=
  seq [keyword "extern", when isString (one .literal)]
where
  isString : Peek
    | .literal text :: _ => (Literal.text? text.toList).isSome
    | _ => false

def externAbi? : Grammar := when (.keyword "extern") externAbi

/-- A parameter of a function type, which may have a name. The first may be the object that the
function is called on; if that is mutable, it is kept as it stands. -/
def fnTypeParam (first : Bool) : Grammar := orVerbatim do
  let name : Peek := .or .ident (if first then .keywordIn ["_", "self"] else .keyword "_")
  let named : Grammar := when (.and name (.past 1 (.opNot ":" ["::"]))) (seq [anyWord, op ":"])
  let mutableSelf : Peek := fun ts =>
    first && Peek.keyword "mut" ts && Peek.past 1 (.keyword "self") ts
  if ← peek mutableSelf then
    let _ ← keyword "mut"
    let _ ← if (← named).isEmpty then keyword "self" else n.typeTrees
    return none
  else
    let ofSelf ← peek (.keyword "self")
    let start ← named
    if !ofSelf && (← peek mutableSelf) then
      let _ ← seq [keyword "mut", keyword "self"]
      return none
    else return some (start ++ (← n.typeTrees))

/-- The parameters of a function type; dots may end them. -/
def fnTypeParams : Grammar := do
  let dots : Peek := .or (.op "...")
    (.and (.or .ident (.keyword "_")) (.and (.past 1 (.op ":")) (.past 2 (.op "..."))))
  let step (state : Bool × List Tree) : Parser (Option (Bool × List Tree)) := do
    let (more, trees) := state
    if ← peek .done then return none
    else if !more then fail
    else
      let attributes ← outerTrees n
      if ← peek dots then
        let name ← when (Peek.op "...").not (seq [anyWord, op ":"])
        let found ← seq [op "...", op? ","]
        return some (false, trees ++ attributes ++ name ++ found)
      let found ← fnTypeParam n trees.isEmpty
      let comma ← op? ","
      return some (!comma.isEmpty, trees ++ attributes ++ found ++ comma)
  return (← iterate step (true, [])).2

def fnType (lifetimes : List Tree) : Parser Ty := do
  let trees ← seq [keyword? "unsafe", externAbi?, keyword "fn", wrap .paren (fnTypeParams n),
    outputTrees n false]
  return .other (lifetimes ++ trees)

def arrayType : Grammar :=
  wrap .bracket (seq [n.typeTrees, when (.op ";") (seq [op ";", n.exprTrees])])

def pointerType : Grammar :=
  seq [op "*", choose [(.keyword "const", keyword "const"), (.keyword "mut", keyword "mut")],
    n.closedType]

def referenceType : Parser Ty := do
  let _ ← op "&"
  let lifetime ← (fun
    | .lifetime name :: rest => some (some name, rest)
    | ts => some (none, ts) : Parser (Option String))
  let mutable := !(← keyword? "mut").isEmpty
  return .reference lifetime mutable (← n.type false)

/-- A path, the call of a macro, or the first bound of a trait object. -/
def pathType (lifetimes : List Tree) (plus : Bool) : Parser Ty := do
  let type ← qualifiedPath n false
  match type with
  | .path _ segments =>
    if (← peek macroCall) && segments.all Segment.isPlain then
      return .other (type.trees ++ (← macroCallTrees))
    else
      let name := (segments.getLast?.map Segment.name).getD ""
      let first : Bound := ⟨.trait name, lifetimes ++ type.trees⟩
      if plus && (← peek (.op "+")) then
        let found ← looseBounds n .object (Sum.push {} first)
        return .traitObject found.names none found.trees
      else if lifetimes.isEmpty then return type
      else return .traitObject [name] (some first.trees) first.trees
  | _ => return type

/-- A trait object that the word `dyn` begins; nothing if a star follows it. -/
def dynType (plus : Bool) : Parser (Option Ty) := do
  let word ← keyword "dyn"
  let star ← op? "*"
  let type ← traitObject n word plus
  return if star.isEmpty then some type else none

def implType (plus : Bool) : Parser Ty := do
  let word ← keyword "impl"
  let found ← bounds n plus .implied
  if found.bounds.any Bound.isTrait then return .other (word ++ found.trees) else fail

def pathStart : Peek :=
  .any [.ident, .keywordIn ["super", "self", "Self", "crate"], .op "::", .op "<"]

def binderFollow : Peek :=
  .any [.ident, .keywordIn ["fn", "unsafe", "extern", "super", "self", "Self", "crate"]]

/-- A type; nothing if it is kept as it stands. -/
def typeOrNone (plus : Bool) : Parser (Option Ty) := do
  let lifetimes ← binder? n
  if !lifetimes.isEmpty && !(← peek binderFollow) then fail
  choose [
    (.paren, some <$> parenType n plus),
    (.keywordIn ["fn", "unsafe", "extern"], some <$> fnType n lifetimes),
    (builtinStart, do let _ ← builtin; return none),
    (pathStart, some <$> pathType n lifetimes plus),
    (.keyword "dyn", dynType n plus),
    (.bracket, some <$> Ty.other <$> arrayType n),
    (.op "*", some <$> Ty.other <$> pointerType n),
    (.op "&", some <$> referenceType n),
    (.op "!", some <$> Ty.other <$> op "!"),
    (.keyword "impl", some <$> implType n plus),
    (.keyword "_", some <$> Ty.other <$> keyword "_"),
    (.lifetime, some <$> traitObject n [] true)]

def type (plus : Bool) : Parser Ty := do
  let (type?, raw) ← verbatim (typeOrNone n plus)
  return type?.getD (.other raw)

end Stencil.Source.Grammar
