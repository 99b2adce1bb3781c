import Stencil.Source.Lexeme.Comment
import Stencil.Source.Lexeme.Literal
import Stencil.Source.Tree

/-! From text to token trees. -/
namespace Stencil.Source

inductive Lexeme where
  | opening (delim : Delim)
  | closing (delim : Delim)
  | leaf (tree : Tree)

namespace Lexeme

def markChars : List Char := "~!@#$%^&*-=+|;:,<.>/?'".toList

/-- Whether a mark begins here; the slash of a comment is none. -/
def markAt : List Char → Bool
  | '/' :: '/' :: _ => false
  | '/' :: '*' :: _ => false
  | c :: _ => markChars.contains c
  | [] => false

def opening? (c : Char) : Option Delim :=
  if c = '(' then some .paren else if c = '[' then some .bracket
  else if c = '\x7b' then some .brace else none

def closing? (c : Char) : Option Delim :=
  if c = ')' then some .paren else if c = ']' then some .bracket
  else if c = '\x7d' then some .brace else none

/-- Beginnings that are reserved for quoted literals. -/
def reserved : List String :=
  ["r\"", "r#\"", "r##", "b\"", "b'", "br\"", "br#", "c\"", "cr\"", "cr#"]

def lifetimeName : Scan := fun cs => do
  let (name, rest) ← anyWord cs
  if rest.head? = some '\'' || (rest.head? = some '#' && !startsWith "r#" cs) then none
  else some (name, rest)

/-- A single tree that is no group, with the text that it takes. -/
def leafAt (pos : Pos) (cs : List Char) : Option (Tree × List Char × List Char) :=
  match literal cs with
  | some (taken, rest) => some (.literal (String.ofList taken), taken, rest)
  | none =>
    match cs with
    | [] => none
    | c :: rest =>
      if markAt cs then
        if c = '\'' then
          (lifetimeName rest).map fun (name, rest) =>
            (.lifetime (String.ofList ('\'' :: name)), '\'' :: name, rest)
        else some (.mark c (markAt rest), [c], rest)
      else if reserved.any (startsWith · cs) then none
      else (anyWord cs).map fun (name, rest) => (.word (String.ofList name) pos, name, rest)

/-- Documentation stands for an attribute that holds it. -/
def ofDoc (d : Doc) : List Lexeme :=
  let shown := Tree.brackets [.ofName "doc", .mark '=' false, .ofText d.text]
  if d.inner then [.leaf (.mark '#' false), .leaf (.mark '!' false), .leaf shown]
  else [.leaf (.mark '#' false), .leaf shown]

def next (pos : Pos) (cs : List Char) : Option (List Lexeme × List Char × List Char) :=
  match doc cs with
  | some (d, taken, rest) => some (ofDoc d, taken, rest)
  | none =>
    match cs with
    | [] => none
    | c :: rest =>
      match opening? c, closing? c with
      | some d, _ => some ([.opening d], [c], rest)
      | none, some d => some ([.closing d], [c], rest)
      | none, none => (leafAt pos cs).map fun (tree, taken, rest) => ([.leaf tree], taken, rest)

/-- All lexemes of a text; each takes at least one character. -/
def all (cs : List Char) : Option (List Lexeme) :=
  let rec go : Nat → Pos → List Char → Option (List Lexeme)
    | 0, _, cs => if cs.isEmpty then some [] else none
    | fuel + 1, pos, cs => do
      let (blank, cs) ← blanks cs
      if cs.isEmpty then some []
      else
        let pos := pos.advance blank
        let (found, taken, rest) ← next pos cs
        let more ← go fuel (pos.advance taken) rest
        some (found ++ more)
  -- A byte order mark takes a column and is skipped.
  match cs with
  | '\ufeff' :: rest => go rest.length ⟨1, 1⟩ rest
  | _ => go cs.length .start cs

/-- Close brackets: `open` holds the groups not yet closed, the innermost first, each with the
trees before it in reverse order. -/
def nest : List (Delim × List Tree) → List Tree → List Lexeme → Option (List Tree)
  | [], trees, [] => some trees.reverse
  | _ :: _, _, [] => none
  | stack, trees, .leaf t :: rest => nest stack (t :: trees) rest
  | stack, trees, .opening d :: rest => nest ((d, trees) :: stack) [] rest
  | (d, outer) :: stack, trees, .closing e :: rest =>
    if d = e then nest stack (.group d trees.reverse :: outer) rest else none
  | [], _, .closing _ :: _ => none

end Lexeme

/-- The token trees of a text, if it is well spelled and its brackets match. -/
def trees? (text : List Char) : Option (List Tree) := (Lexeme.all text).bind (Lexeme.nest [] [])

end Stencil.Source
