import Stencil.Source.Grammar.Pattern

/-! The grammar of expressions. -/
namespace Stencil.Source.Grammar

open Stencil.Source.Parser

variable (n : Nested)

inductive Precedence where
  | lowest | assign | range | or | and | compare | bitOr | bitXor | bitAnd | shift | sum | product
  | cast
  deriving DecidableEq, Repr

def Precedence.rank (p : Precedence) : Nat := p.ctorIdx

/-- Operators between two operands; one comes before those that begin it. -/
def binaryOperators : List (String × Precedence) :=
  [("+=", .assign), ("-=", .assign), ("*=", .assign), ("/=", .assign), ("%=", .assign),
    ("^=", .assign), ("&=", .assign), ("|=", .assign), ("<<=", .assign), (">>=", .assign),
    ("&&", .and), ("||", .or), ("<<", .shift), (">>", .shift), ("==", .compare), ("<=", .compare),
    ("!=", .compare), (">=", .compare), ("+", .sum), ("-", .sum), ("*", .product), ("/", .product),
    ("%", .product), ("^", .bitXor), ("&", .bitAnd), ("|", .bitOr), ("<", .compare),
    (">", .compare)]

def nextOperator (ts : List Tree) : Option (String × Precedence) :=
  binaryOperators.find? fun (text, _) => Peek.op text ts

def assignSign : Peek := .opNot "=" ["=>"]

def nextPrecedence (ts : List Tree) : Precedence :=
  match nextOperator ts with
  | some (_, precedence) => precedence
  | none =>
    if assignSign ts then .assign
    else if Peek.op ".." ts then .range
    else if Peek.keyword "as" ts then .cast
    else .lowest

/-- The right side of an operator: an operand, and operators that bind more tightly. -/
def rightSide (structs : Bool) (precedence : Precedence) : Parser Expr := do
  let step (state : Bool × Expr) : Parser (Option (Bool × Expr)) := fun ts =>
    let next := nextPrecedence ts
    if state.1 && (next.rank > precedence.rank || next = precedence && precedence = .assign) then
      (n.operators structs next.rank state.2 ts).map fun (e, rest) =>
        (some (rest.length < ts.length, e), rest)
    else some (none, ts)
  return (← iterate step (true, ← n.operand structs)).2

def openRange (structs : Bool) : Peek :=
  .any [.done, .op ",", .op ";", .opNot "." [".."], .op "?", .op "=>",
    fun ts => !structs && Peek.brace ts, .op "=", .op "+", .op "/", .op "%", .op "^", .op ">",
    .op "<=", .op "!=", .op "-=", .op "*=", .op "&=", .op "|=", .op "<<=", .keyword "as"]

def rangeEnd (structs : Bool) : Grammar := do
  if ← peek (.op "..=") then seq [op "..=", Expr.trees <$> rightSide n structs .range]
  else if ← peek (.op "...") then fail
  else seq [op "..", ifPeek (openRange structs) nothing (Expr.trees <$> rightSide n structs .range)]

/-- What may not follow the type of a conversion. -/
def afterCast : Peek := .any [.opNot "." [".."], .op "?", .bracket, .paren]

/-- Operators after an operand, as long as they bind at least as tightly as `base`. -/
def operators (structs : Bool) (base : Nat) (left : Expr) : Parser Expr := do
  let step (left : Expr) : Parser (Option Expr) := fun ts =>
    if left.form = .range then some (none, ts)
    else match nextOperator ts with
      | some (text, precedence) =>
        if precedence.rank < base then some (none, ts)
        else if precedence = .compare && left.form = .comparison then none
        else
          (do
            let sign ← op text
            let right ← rightSide n structs precedence
            let form := if precedence = .compare then ExprForm.comparison else .other
            return some { left with form, trees := left.trees ++ sign ++ right.trees } :
              Parser (Option Expr)) ts
      | none =>
        (do
          if Precedence.assign.rank ≥ base && (← peek assignSign) then
            let sign ← op "="
            let right ← rightSide n structs .assign
            return some { left with form := .other, trees := left.trees ++ sign ++ right.trees }
          else if Precedence.range.rank ≥ base && (← peek (.op "..")) then
            return some (.of .range (left.trees ++ (← rangeEnd n structs)))
          else if Precedence.cast.rank ≥ base && (← peek (.keyword "as")) then
            let trees ← seq [keyword "as", n.closedType]
            if ← peek afterCast then fail
            return some { left with form := .other, trees := left.trees ++ trees }
          else return none : Parser (Option Expr)) ts
  iterate step left

def other (g : Grammar) : Parser Expr := do return .of .other (← g)
def blockLike (g : Grammar) : Parser Expr := do return .of .block (← g)

def fixed (g : Grammar) : Parser Expr := do
  return { form := .other, trees := ← raw g, fixed := true }

/-- Two positions of fields that are written together as one number. -/
def chainedIndex : Grammar := fun
  | .literal text :: rest =>
    match text.splitOn "." with
    | [first, second] => do
      let first ← index? first
      let second ← index? second
      return (first :: Tree.op "." ++ [second], rest)
    | _ => none
  | _ => none

/-- The position of a field that is written together with the point behind it. -/
def pointedIndex : Grammar := fun
  | .literal text :: rest =>
    match text.splitOn "." with
    | [first, ""] => (index? first).map fun first => (first :: Tree.op ".", rest)
    | _ => none
  | _ => none

def readable (g : Grammar) : Peek := fun ts => (g ts).isSome

def callArguments : Grammar := wrap .paren (listed "," n.exprTrees)

/-- What follows a point: a field, a call, or a wait. -/
def afterPoint : Grammar := do
  if ← peek (readable chainedIndex) then chainedIndex
  else
    let index ← when (readable pointedIndex) pointedIndex
    if ← peek (.keyword "await") then return index ++ (← keyword "await")
    let named ← peek .ident
    let name ← member
    if named && (← peek (.op "::")) then
      let (_, arguments) ← turbofish n
      return index ++ name ++ arguments ++ (← callArguments n)
    else return index ++ name

def trailers (left : Expr) : Parser Expr := do
  let step (left : Expr) : Parser (Option Expr) := do
    let extend (g : Grammar) : Parser (Option Expr) := do
      return some (.of .other (left.trees ++ (← g)))
    if ← peek .paren then extend (callArguments n)
    else if left.form ≠ .range && (← peek (.opNot "." [".."])) then
      extend (seq [op ".", afterPoint n])
    else if ← peek .bracket then extend (wrap .bracket n.exprTrees)
    else if left.form ≠ .range && (← peek (.op "?")) then extend (op "?")
    else return none
  iterate step left

def fieldValue : Grammar := do
  let attributes ← outerTrees n
  let named ← peek .ident
  let name ← member
  if !named || (← peek (.op ":")) then return attributes ++ name ++ (← seq [op ":", n.exprTrees])
  else return attributes ++ name

/-- The fields of a struct literal; others may be taken from the value after two dots. -/
def fieldValues : Grammar := do
  let step (state : Bool × List Tree) : Parser (Option (Bool × List Tree)) := do
    let (more, trees) := state
    if ← peek .done then return none
    else if !more then fail
    else if ← peek (.op "..") then
      let found ← seq [op "..", ifPeek .done nothing n.exprTrees]
      return some (false, trees ++ found)
    else
      let found ← fieldValue n
      let comma ← op? ","
      return some (!comma.isEmpty, trees ++ found ++ comma)
  return (← iterate step (true, [])).2

def pathExpr (structs : Bool) : Parser Expr := do
  let type ← qualifiedPath n true
  if isNamePath type && (← peek macroCall) then
    let braced ← peek (.past 1 .brace)
    return .of (if braced then .bracedCall else .other) (type.trees ++ (← macroCallTrees))
  else if structs && (← peek .brace) then
    other (do return type.trees ++ (← wrap .brace (fieldValues n)))
  else return .of .other type.trees

def arrayItems : Grammar := do
  if ← peek .done then nothing
  else
    let first ← n.exprTrees
    if ← peek (.op ";") then return first ++ (← seq [op ";", n.exprTrees])
    else if ← peek .done then return first
    else return first ++ (← seq [op ",", listed "," n.exprTrees])

/-- An expression before a block, where a brace begins the block. -/
def condition : Grammar := Expr.trees <$> n.expr false

def ifChain : Grammar := do
  let first ← seq [keyword "if", condition n, block n]
  let step (state : Bool × List Tree) : Parser (Option (Bool × List Tree)) := do
    let (more, trees) := state
    if more && (← peek (.keyword "else")) then
      let word ← keyword "else"
      if ← peek (.keyword "if") then
        let found ← seq [keyword "if", condition n, block n]
        return some (true, trees ++ word ++ found)
      else return some (false, trees ++ word ++ (← block n))
    else return none
  return (← iterate step (true, first)).2

def whileLoop : Grammar := seq [keyword "while", condition n, describedBlock n]

def forLoop : Grammar :=
  seq [keyword "for", alternatives n, keyword "in", condition n, describedBlock n]

def endlessLoop : Grammar := seq [keyword "loop", describedBlock n]

/-- A `for` that begins a loop and not a closure. -/
def forStart : Peek := .and (.keyword "for") (Peek.past 1 genericsStart).not

def labelled : Grammar :=
  seq [lifetime, op ":", choose [
    (.keyword "while", whileLoop n),
    (.keyword "for", forLoop n),
    (.keyword "loop", endlessLoop n),
    (.brace, describedBlock n)]]

/-- Expressions that end a statement without a semicolon. -/
def blockExprs : List (Peek × Grammar) := [
  (.keyword "if", ifChain n),
  (.keyword "while", whileLoop n),
  (forStart, forLoop n),
  (.keyword "loop", endlessLoop n),
  (.keyword "match", seq [keyword "match", condition n, wrap .brace (seq [innerTrees n, n.arms])]),
  (.and (.keyword "try") (.past 1 .brace), seq [keyword "try", block n]),
  (.keyword "unsafe", seq [keyword "unsafe", describedBlock n]),
  (.and (.keyword "const") (.past 1 .brace), constBlock n),
  (.brace, describedBlock n),
  (.lifetime, labelled n)]

/-- An expression at the beginning of a statement or after the arrow of an arm: a block ends it,
unless a point or a question mark follows. -/
def earlyExpr : Parser Expr := do
  let attributes ← outerTrees n
  let blocks := blockExprs n
  if ← peek (.any (blocks.map Prod.fst)) then
    let e ← blockLike (choose blocks)
    if ← peek (.or (.opNot "." [".."]) (.op "?")) then
      let e ← trailers n e
      n.operators true Precedence.lowest.rank (e.withAttributes attributes)
    else return e.withAttributes attributes
  else
    let e ← n.operand true
    n.operators true Precedence.lowest.rank (e.withAttributes attributes)

def exprStart : Peek :=
  .any [.and .anyWord (Peek.keyword "as").not, .paren, .bracket, .brace, .literal,
    .opNot "!" ["!="], .opNot "-" ["-=", "->"], .opNot "*" ["*="], .opNot "|" ["|="],
    .opNot "&" ["&="], .op "..", .opNot "<" ["<=", "<<="], .op "::", .lifetime, .op "#"]

def leaving : Grammar := when exprStart n.exprTrees

/-- The end of a loop, whose label may not begin another. A brace does not begin its value unless
`structs`. -/
def breaking (structs : Bool) : Grammar := do
  let word ← keyword "break"
  let label ← when .lifetime lifetime
  if !label.isEmpty && (← peek (.op ":")) then fail
  let start : Peek := fun ts => exprStart ts && (structs || !Peek.brace ts)
  return word ++ label ++ (← when start n.exprTrees)

/-- A parameter of a closure. Without a type, its attributes belong to the pattern. -/
def closureParam : Grammar := do
  let attributes ← outerTrees n
  let found ← n.pattern
  if ← peek (.op ":") then return attributes ++ found.trees ++ (← seq [op ":", n.typeTrees])
  else return found.withAttributes attributes

def closureParams : Grammar := do
  let step (state : Bool × List Tree) : Parser (Option (Bool × List Tree)) := do
    let (more, trees) := state
    if ← peek (.op "|") then return none
    else if !more then fail
    else
      let found ← closureParam n
      let comma ← op? ","
      return some (!comma.isEmpty, trees ++ found ++ comma)
  seq [op "|", Prod.snd <$> iterate step (true, []), op "|"]

def closure (structs : Bool) : Grammar :=
  seq [binder? n, keyword? "const", keyword? "static", keyword? "async", keyword? "move",
    closureParams n,
    ifPeek (.op "->") (seq [op "->", n.typeTrees, block n]) (Expr.trees <$> n.expr structs)]

def closureStart : Peek := .any [
  .op "|", .keyword "move", .keyword "static",
  .and (.keyword "for") (.past 1 genericsStart),
  .and (.keyword "const") (Peek.past 1 .brace).not,
  .and (.keyword "async") (.past 1 (.or (.op "|") (.keyword "move")))]

/-- A literal; a string literal is recognised by its text. -/
def literalExpr : Parser Expr := do
  let trees ← literal
  match trees with
  | [.literal text] => return .of (((Literal.text? text.toList).map .text).getD .other) trees
  | _ => return .of .other trees

def letExpr (structs : Bool) : Grammar := do
  let start ← seq [keyword "let", alternatives n, op "="]
  let left ← n.operand structs
  let value ← n.operators structs Precedence.compare.rank left
  return start ++ value.trees

def atom (structs : Bool) : Parser Expr :=
  let asyncBlock : Peek := .and (.keyword "async")
    (.or (.past 1 .brace) (.and (.past 1 (.keyword "move")) (.past 2 .brace)))
  let path : Peek := .or exprPathStart
    (.and (.keyword "try") (.past 1 (.or (.op "!") (.op "::"))))
  let leave (word : String) : Grammar := seq [keyword word, leaving n]
  choose ([
    (.literal, literalExpr),
    (asyncBlock, other (seq [keyword "async", keyword? "move", block n])),
    (closureStart, other (closure n structs)),
    (builtinStart, fixed builtin),
    (path, pathExpr n structs),
    (.paren, other (wrap .paren (listed "," n.exprTrees))),
    (.keyword "break", other (breaking n structs)),
    (.keyword "continue", other (seq [keyword "continue", when .lifetime lifetime])),
    (.keyword "return", other (leave "return")),
    (.keyword "become", fixed (seq [keyword "become", n.exprTrees])),
    (.keyword "yield", other (leave "yield")),
    (.bracket, other (wrap .bracket (arrayItems n))),
    (.keyword "let", other (letExpr n structs)),
    (.op "..", do return .of .range (← rangeEnd n structs)),
    (.keyword "_", other (keyword "_"))]
    ++ (blockExprs n).map fun (p, g) => (p, blockLike g))

def borrow : Grammar := do
  let sign ← op "&"
  if ← peek (.and (.keyword "raw") (.past 1 (.keywordIn ["mut", "const"]))) then
    return sign ++ (← seq [keyword "raw", one .anyWord])
  else return sign ++ (← keyword? "mut")

/-- An operand with its operators in front and behind. Attributes belong to the whole; before an
expression that is kept as it stands they are kept with it. -/
def operand (structs : Bool) : Parser Expr := do
  let (attributes, written) ← verbatim (outerTrees n)
  let under (sign : Grammar) : Parser Expr := do
    let sign ← sign
    return .of .other (attributes ++ sign ++ (← n.operand structs).trees)
  if ← peek (.op "&") then under borrow
  else if ← peek (.op "*") then under (op "*")
  else if ← peek (.op "!") then under (op "!")
  else if ← peek (.op "-") then under (op "-")
  else
    let e ← trailers n (← atom n structs)
    if e.fixed then return { e with trees := written ++ e.trees }
    else if e.form = .range && !attributes.isEmpty then fail
    else return e.withAttributes attributes

/-- An arm of a match: a pattern, perhaps a guard, and an expression. A comma must follow it unless
it is the last or ends in a block. -/
def arm : Grammar := do
  let head ← seq [outerTrees n, alternatives n,
    when (.keyword "if") (seq [keyword "if", n.exprTrees]), op "=>"]
  let e ← earlyExpr n
  let comma ←
    if e.form ≠ .block && !(← peek .done) then op ","
    else op? ","
  return head ++ e.trees ++ comma

def arms : Grammar := many Peek.done.not (arm n)

def expr (structs : Bool) : Parser Expr := do
  let left ← operand n structs
  operators n structs Precedence.lowest.rank left

end Stencil.Source.Grammar
