import Stencil.Source.Tree

/-! Parsers of token trees. -/
namespace Stencil.Source

/-- A parser takes trees from the front, or fails. -/
abbrev Parser (α : Type) := StateT (List Tree) Option α

/-- A parser whose result is what it has read, with the marks of each operator put together. -/
abbrev Grammar := Parser (List Tree)

/-- A look at the trees to come. -/
abbrev Peek := List Tree → Bool

namespace Peek

/-- The operator `text` begins here; what follows it does not matter. -/
def opChars : List Char → Peek
  | [], _ => true
  | [c], .mark d _ :: _ => c = d
  | c :: chars, .mark d joint :: rest => c = d && joint && opChars chars rest
  | _, _ => false

def op (text : String) : Peek := opChars text.toList

def keyword (name : String) : Peek
  | .word found _ :: _ => found = name
  | _ => false

def keywordIn (names : List String) : Peek
  | .word found _ :: _ => names.contains found
  | _ => false

/-- Words that name nothing of their own. -/
def keywords : List String :=
  ["_", "abstract", "as", "async", "await", "become", "box", "break", "const", "continue", "crate",
    "do", "dyn", "else", "enum", "extern", "false", "final", "fn", "for", "if", "impl", "in", "let",
    "loop", "macro", "match", "mod", "move", "mut", "override", "priv", "pub", "ref", "return",
    "Self", "self", "static", "struct", "super", "trait", "true", "try", "type", "typeof", "unsafe",
    "unsized", "use", "virtual", "where", "while", "yield"]

def ident : Peek
  | .word name _ :: _ => !keywords.contains name
  | _ => false

def anyWord : Peek
  | .word .. :: _ => true
  | _ => false

def lifetime : Peek
  | .lifetime _ :: _ => true
  | _ => false

def group (d : Delim) : Peek
  | .group e _ :: _ => d = e
  | _ => false

def paren : Peek := group .paren
def bracket : Peek := group .bracket
def brace : Peek := group .brace

def isNumber (text : String) : Bool := text.toList.head?.any fun c => '0' ≤ c && c ≤ '9'

def literal : Peek
  | .literal _ :: _ => true
  | .word name _ :: _ => name = "true" || name = "false"
  | .mark '-' _ :: .literal text :: _ => isNumber text
  | _ => false

def done : Peek := List.isEmpty

/-- Look past the next `n` trees. -/
def past (n : Nat) (p : Peek) : Peek := fun ts => n ≤ ts.length && p (ts.drop n)

def or (p q : Peek) : Peek := fun ts => p ts || q ts
def and (p q : Peek) : Peek := fun ts => p ts && q ts
def not (p : Peek) : Peek := fun ts => !p ts
def any (ps : List Peek) : Peek := fun ts => ps.any (· ts)

/-- The operator `text` that is not the beginning of one of the `longer`. -/
def opNot (text : String) (longer : List String) : Peek :=
  (op text).and (any (longer.map op)).not

end Peek

namespace Parser

variable {α β : Type}

def fail : Parser α := fun _ => none

def peek (p : Peek) : Parser Bool := fun ts => some (p ts, ts)

/-- The parser, if the look succeeds. -/
def ifPeek (p : Peek) (yes no : Parser α) : Parser α := fun ts => if p ts then yes ts else no ts

def choose : List (Peek × Parser α) → Parser α
  | [] => fail
  | (p, g) :: rest => ifPeek p g (choose rest)

def iterate (step : α → Parser (Option α)) (a : α) : Parser α := fun ts =>
  let rec go : Nat → α → Parser α
    | 0, a => pure a
    | fuel + 1, a => do
      match ← step a with
      | none => pure a
      | some b => go fuel b
  go (ts.length + 1) a ts

def collect (step : Parser (Option α)) : Parser (List α) := do
  let found ← iterate (fun found => do return (← step).map (· :: found)) []
  return found.reverse

/-- Items up to the end of the group, with a separator between them and perhaps after the last. The
second result tells whether one follows the last. -/
def terminated (separator : String) (item : Parser α) : Parser (List α × Bool) := do
  let step (state : List α × Bool) : Parser (Option (List α × Bool)) := do
    if ← peek .done then return none
    else if !state.2 then fail
    else
      let a ← item
      if ← peek (.op separator) then
        modify (List.drop separator.length)
        return some (a :: state.1, true)
      else return some (a :: state.1, false)
  let (found, expecting) ← iterate step ([], true)
  return (found.reverse, expecting && !found.isEmpty)

def inside (d : Delim) (p : Parser α) : Parser α := fun
  | .group e body :: rest =>
    if d = e then
      match p body with
      | some (a, []) => some (a, rest)
      | _ => none
    else none
  | _ => none

def all (p : Parser α) (ts : List Tree) : Option α :=
  match p ts with
  | some (a, []) => some a
  | _ => none

/-- The trees that a parser reads, as they stand. -/
def verbatim (p : Parser α) : Parser (α × List Tree) := fun ts =>
  (p ts).map fun (a, rest) =>
    let count := ts.length - rest.length
    ((a, ts.take count), ts.drop count)

/-- What a parser has read; where it gives nothing, the trees as they stand. -/
def orVerbatim (p : Parser (Option (List Tree))) : Grammar := do
  let (shown?, raw) ← verbatim p
  return shown?.getD raw

/-- The trees that a parser reads, as they stand, if it can read them. -/
def raw (p : Parser α) : Grammar := Prod.snd <$> verbatim p

def ident : Parser (String × Pos) := fun
  | .word name pos :: rest => if Peek.keywords.contains name then none else some ((name, pos), rest)
  | _ => none

def anyWord : Parser (String × Pos) := fun
  | .word name pos :: rest => some ((name, pos), rest)
  | _ => none

def literalText : Parser String := fun
  | .literal text :: rest => some (text, rest)
  | _ => none

end Parser

namespace Grammar

open Stencil.Source.Parser

def nothing : Grammar := pure []

def seq : List Grammar → Grammar
  | [] => nothing
  | g :: rest => do
    let first ← g
    let others ← seq rest
    return first ++ others

def op (text : String) : Grammar := fun ts =>
  if Peek.op text ts then some (Tree.op text, ts.drop text.length) else none

def keyword (name : String) : Grammar := fun ts =>
  if Peek.keyword name ts then some (ts.take 1, ts.drop 1) else none

def one (p : Peek) : Grammar := fun ts =>
  if p ts && !ts.isEmpty then some (ts.take 1, ts.drop 1) else none

def ident : Grammar := one Peek.ident
def anyWord : Grammar := one Peek.anyWord
def lifetime : Grammar := one Peek.lifetime

/-- The grammar where the look succeeds, and nothing elsewhere. -/
def when (p : Peek) (g : Grammar) : Grammar := ifPeek p g nothing

def op? (text : String) : Grammar := when (.op text) (op text)
def keyword? (name : String) : Grammar := when (.keyword name) (keyword name)

/-- A literal, or a number with the minus sign before it. -/
def literal : Grammar := fun ts =>
  if Peek.literal ts then
    match ts with
    | .mark .. :: .literal text :: rest => some ([.mark '-' false, .literal text], rest)
    | t :: rest => some ([t], rest)
    | [] => none
  else none

def wrap (d : Delim) (g : Grammar) : Grammar := do
  let body ← inside d g
  return [.group d body]

def rawGroup : Grammar := one fun
  | .group .. :: _ => true
  | _ => false

def listed (separator : String) (item : Grammar) : Grammar := do
  let (items, trailing) ← terminated separator item
  return separate (Tree.op separator) items ++ (if trailing then Tree.op separator else [])

def many (p : Peek) (g : Grammar) : Grammar := do
  let found ← collect (ifPeek p (some <$> g) (pure none))
  return found.flatten

end Grammar

end Stencil.Source
