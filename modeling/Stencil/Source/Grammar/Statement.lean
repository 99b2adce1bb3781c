import Stencil.Source.Grammar.Expr

/-! The grammar of statements. -/
namespace Stencil.Source.Grammar

open Stencil.Source.Parser

variable (n : Nested)

/-- A macro call that declares something: a name follows the exclamation mark. -/
def declaringCall : Peek := fun ts =>
  match namePath ts with
  | some (_, rest) => Peek.op "!" rest && Peek.past 1 (.or .ident (.keyword "try")) rest
  | none => false

/-- A macro call in braces that is a statement of its own. -/
def bracedCall : Peek := fun ts =>
  match namePath ts with
  | some (_, rest) => Peek.op "!" rest && Peek.past 1 .brace rest
      && !Peek.past 2 (.or (.opNot "." [".."]) (.op "?")) rest
  | none => false

def bracedCallStatement : Grammar :=
  seq [NamePath.trees <$> namePath, op "!", rawGroup, op? ";"]

def itemStart : Peek := .any [
  .keywordIn ["pub", "extern", "use", "fn", "mod", "type", "struct", "enum", "trait", "impl",
    "macro"],
  .and (.keyword "crate") (Peek.past 1 (.op "::")).not,
  .and (.keyword "static") (.past 1 (.or (.keyword "mut") .ident)),
  .and (.keyword "const") (Peek.not (.any [
    .past 1 (.or .brace (.or (.keywordIn ["static", "move"]) (.op "|"))),
    .and (.past 1 (.keyword "async")) (Peek.past 2 (.keywordIn ["unsafe", "extern", "fn"])).not])),
  .and (.keyword "unsafe") (Peek.past 1 .brace).not,
  .and (.keyword "async") (.past 1 (.keywordIn ["unsafe", "extern", "fn"])),
  .and (.keyword "union") (.past 1 .ident),
  .and (.keyword "auto") (.past 1 (.keyword "trait")),
  .and (.keyword "default") (.past 1 (.keywordIn ["unsafe", "impl"])),
  declaringCall]

/-- A variable with its type and its value. What happens if the pattern does not match can only
stand after a value that does not end in a brace. -/
def localStatement : Grammar := do
  let head ← seq [keyword "let", Pattern.trees <$> n.pattern,
    when (.op ":") (seq [op ":", n.typeTrees])]
  let value ←
    if ← peek (.op "=") then
      let value ← seq [op "=", n.exprTrees]
      let open? := !value.getLast?.any fun t => Peek.brace [t]
      let otherwise ←
        when (fun ts => open? && Peek.keyword "else" ts) (seq [keyword "else", block n])
      pure (value ++ otherwise)
    else nothing
  return head ++ value ++ (← op ";")

/-- A statement, and whether another may follow it. -/
def statement : Parser (List Tree × Bool) := do
  let (attributes, hidden) ← verbatim (outerTrees n)
  let whole (g : Grammar) : Parser (List Tree × Bool) := do return (attributes ++ (← g), true)
  if ← peek bracedCall then whole bracedCallStatement
  else if ← peek (.keyword "let") then whole (localStatement n)
  else if ← peek itemStart then
    modify (hidden ++ ·)
    return ((← n.item).2, true)
  else
    let e ← earlyExpr n
    let semicolon ← op? ";"
    let closed := !semicolon.isEmpty || e.form = .block || e.form = .bracedCall
    return ((e.withAttributes attributes).trees ++ semicolon, closed)

def statements : Grammar := do
  let step (state : Bool × List Tree) : Parser (Option (Bool × List Tree)) := do
    let (open?, trees) := state
    if ← peek .done then return none
    else if !open? then fail
    else if ← peek (.op ";") then return some (true, trees ++ (← op ";"))
    else
      let (found, closed) ← statement n
      return some (closed, trees ++ found)
  return (← iterate step (true, [])).2

end Stencil.Source.Grammar
