import Stencil.Text.Quoted

/-! Token trees: the words, marks, literals and bracketed groups of a source text. -/
namespace Stencil.Source

/-- A place in a source text. Lines are counted from one, columns are characters counted from
zero. -/
structure Pos where
  line : Nat
  column : Nat
  deriving DecidableEq, Repr

def Pos.start : Pos := ⟨1, 0⟩

def Pos.next (p : Pos) (c : Char) : Pos :=
  if c = '\n' then ⟨p.line + 1, 0⟩ else ⟨p.line, p.column + 1⟩

def Pos.advance (p : Pos) (text : List Char) : Pos := text.foldl Pos.next p

inductive Delim where
  | paren
  | brace
  | bracket
  deriving DecidableEq, Repr

inductive Tree where
  /-- An identifier or keyword. -/
  | word (name : String) (pos : Pos)
  /-- A lifetime with its quote. -/
  | lifetime (name : String)
  /-- One punctuation character; `joint` when the next character is punctuation too. -/
  | mark (char : Char) (joint : Bool)
  /-- A literal as it is written. -/
  | literal (text : String)
  | group (delim : Delim) (body : List Tree)
  deriving Repr

namespace Tree

/-- A word that no source text holds. -/
def ofName (name : String) : Tree := .word name .start

/-- An operator of the grammar: its characters belong together and the last stands alone. -/
def ofOperator (chars : List Char) : List Tree :=
  match chars with
  | [] => []
  | [c] => [.mark c false]
  | c :: rest => .mark c true :: ofOperator rest

def op (text : String) : List Tree := ofOperator text.toList

def ofText (value : List Char) : Tree := .literal (String.ofList (Text.quoteLiteral value))

def parens (body : List Tree) : Tree := .group .paren body
def braces (body : List Tree) : Tree := .group .brace body
def brackets (body : List Tree) : Tree := .group .bracket body

def joint : Tree → Bool
  | .mark _ joint => joint
  | _ => false

end Tree

mutual

def Tree.render : Tree → String
  | .word name _ => name
  | .lifetime name => name
  | .mark c _ => String.singleton c
  | .literal text => text
  | .group .paren body => "(" ++ renderAfter false body ++ ")"
  | .group .bracket body => "[" ++ renderAfter false body ++ "]"
  | .group .brace body => "\x7b" ++ renderAfter true body ++ " \x7d"

/-- Trees in a row, with a blank before the first if `blank` says so. -/
def renderAfter (blank : Bool) : List Tree → String
  | [] => ""
  | t :: rest => (if blank then " " else "") ++ t.render ++ renderAfter (!t.joint) rest

end

/-- The text of trees: one blank between two of them, none after a joint mark, and none just inside
round and square brackets. -/
def render (trees : List Tree) : String := renderAfter false trees

mutual

def Tree.size : Tree → Nat
  | .group _ body => sizeOfAll body + 1
  | _ => 1

def sizeOfAll : List Tree → Nat
  | [] => 0
  | t :: rest => t.size + sizeOfAll rest

end

def separate (separator : List Tree) : List (List Tree) → List Tree
  | [] => []
  | [x] => x
  | x :: rest => x ++ separator ++ separate separator rest

end Stencil.Source
