import Stencil.Source.Grammar.Type

/-! The grammar of patterns. -/
namespace Stencil.Source.Grammar

open Stencil.Source.Parser

variable (n : Nested)

def bar : Peek := .opNot "|" ["||", "|="]

def alternation : Parser Pattern := do
  let lead ← op? "|"
  let first ← n.pattern
  let others ← many bar (seq [op "|", Pattern.trees <$> n.pattern])
  if lead.isEmpty && others.isEmpty then return first
  else return ⟨.other, lead ++ first.trees ++ others⟩

def alternatives : Grammar := Pattern.trees <$> alternation n

def exprPathStart : Peek :=
  .any [.ident, .op "::", .op "<", .keywordIn ["self", "Self", "super", "crate"]]

/-- A block that is computed before the program runs. -/
def constBlock : Grammar := seq [keyword "const", describedBlock n]

/-- Where a range has no upper end. -/
def rangeStop : Peek :=
  .any [.done, .op "|", .op "=", .opNot ":" ["::"], .op ",", .op ";", .keyword "if"]

def rangeBound : Grammar := choose [
  (.literal, literal),
  (exprPathStart, Ty.trees <$> qualifiedPath n true),
  (.keyword "const", constBlock n)]

/-- A range after its lower end, if it has one. The upper end may be missing only after two dots;
three dots are an older form of two dots and an equals sign. -/
def range (lower : List Tree) : Parser Pattern := do
  let closed ← choose [
    (.op "..=", op "..="),
    (.op "...", do let _ ← op "..."; return Tree.op "..="),
    (.op "..", nothing)]
  if closed.isEmpty then
    let dots ← op ".."
    let upper ← ifPeek rangeStop nothing (rangeBound n)
    let form := if lower.isEmpty && upper.isEmpty then PatternForm.other
      else .range (lower.isEmpty || upper.isEmpty)
    return ⟨form, lower ++ dots ++ upper⟩
  else
    let upper ← rangeBound n
    return ⟨.range lower.isEmpty, lower ++ closed ++ upper⟩

/-- The position of a field in decimal digits, however it is written. -/
def index? (text : String) : Option Tree :=
  (Literal.index? text.toList).map fun position => .literal (toString position)

def position : Grammar := fun
  | .literal text :: rest => (index? text).map fun tree => ([tree], rest)
  | _ => none

def member : Grammar := ifPeek .ident ident position

/-- A field of a pattern, with a pattern of its own or bound to its name. -/
def fieldPattern : Grammar := do
  let marks ← seq [keyword? "box", keyword? "ref", keyword? "mut"]
  if marks.isEmpty then
    let named ← peek .ident
    let name ← member
    if !named || (← peek (.op ":")) then return name ++ (← seq [op ":", alternatives n])
    else return name
  else return marks ++ (← ident)

/-- The fields of a pattern; two dots stand for the others. -/
def fieldPatterns : Grammar := do
  let step (state : Bool × List Tree) : Parser (Option (Bool × List Tree)) := do
    let (more, trees) := state
    if ← peek .done then return none
    else if !more then fail
    else
      let attributes ← outerTrees n
      if ← peek (.op "..") then
        return some (false, trees ++ attributes ++ (← op ".."))
      let found ← fieldPattern n
      let comma ← op? ","
      return some (!comma.isEmpty, trees ++ attributes ++ found ++ comma)
  return (← iterate step (true, [])).2

/-- A pattern that a path begins: the call of a macro, fields, a range, or the path alone. -/
def pathPattern : Parser Pattern := do
  let type ← qualifiedPath n true
  let rest (g : Grammar) : Parser Pattern := do return ⟨.other, type.trees ++ (← g)⟩
  if isNamePath type && (← peek macroCall) then rest macroCallTrees
  else choose [
    (.brace, rest (wrap .brace (fieldPatterns n))),
    (.paren, rest (wrap .paren (listed "," (alternatives n)))),
    (.op "..", range n type.trees),
    (fun _ => true, rest nothing)]

def valuePattern : Parser Pattern := do
  let form := if ← peek (.keyword "const") then PatternForm.constant else .other
  let value ← rangeBound n
  ifPeek (.op "..") (range n value) (pure ⟨form, value⟩)

/-- A pattern within a slice, which is no range with one end unless it stands in brackets. -/
def slicePattern : Grammar := do
  let found ← alternation n
  if found.form = .range true then fail else return found.trees

/-- A name that is bound, perhaps to what another pattern matches. -/
def bindingPattern : Parser Pattern := do
  let marks ← seq [keyword? "ref", keyword? "mut"]
  let (name, _) ← ifPeek (.keyword "self") Parser.anyWord Parser.ident
  let rest ← when (.op "@") (seq [op "@", Pattern.trees <$> n.pattern])
  return ⟨.binding name, marks ++ [.ofName name] ++ rest⟩

def pattern : Parser Pattern :=
  let other (g : Grammar) : Parser Pattern := do return ⟨.other, ← g⟩
  let pathStart : Peek := .any [
    .and .ident (.past 1 (.any [.op "::", .op "!", .brace, .paren, .op ".."])),
    .and (.keyword "self") (.past 1 (.op "::")),
    .op "::", .op "<", .keywordIn ["Self", "super", "crate"]]
  choose [
    (pathStart, pathPattern n),
    (.keyword "_", other (keyword "_")),
    (.keyword "box", do return ⟨.fixed, ← raw (seq [keyword "box", Pattern.trees <$> n.pattern])⟩),
    (.or (.op "-") (.or .literal (.keyword "const")), valuePattern n),
    (.or .ident (.keywordIn ["ref", "mut", "self"]), bindingPattern n),
    (.op "&", other (seq [op "&", keyword? "mut", Pattern.trees <$> n.pattern])),
    (.paren, other (wrap .paren (listed "," (alternatives n)))),
    (.bracket, other (wrap .bracket (listed "," (slicePattern n)))),
    (.opNot ".." ["..."], range n [])]

end Stencil.Source.Grammar
