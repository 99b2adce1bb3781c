import Stencil.Source.Lexeme.Scan
import Stencil.Text.Blank

/-! Comments: plain ones count as blanks, documentation is kept. -/
namespace Stencil.Source.Lexeme

/-- The rest of a line, without the break that ends it; of a two-character break the first is taken
from the rest. -/
def lineRest : List Char → List Char × List Char
  | [] => ([], [])
  | '\n' :: rest => ([], '\n' :: rest)
  | '\r' :: '\n' :: rest => ([], '\n' :: rest)
  | c :: rest =>
    let (taken, rest) := lineRest rest
    (c :: taken, rest)

/-- The rest of a block comment `depth` levels deep, with what closes it. -/
def blockRest : Nat → Scan
  | depth, '/' :: '*' :: rest =>
    (blockRest (depth + 1) rest).map fun (taken, rest) => ('/' :: '*' :: taken, rest)
  | 0, '*' :: '/' :: rest => some (['*', '/'], rest)
  | depth + 1, '*' :: '/' :: rest =>
    (blockRest depth rest).map fun (taken, rest) => ('*' :: '/' :: taken, rest)
  | depth, c :: rest => (blockRest depth rest).map fun (taken, rest) => (c :: taken, rest)
  | _, [] => none

def block : Scan := (text "/*").andThen (blockRest 0)

def plainComment : Scan := fun cs =>
  if startsWith "//" cs && (!startsWith "///" cs || startsWith "////" cs)
      && !startsWith "//!" cs then
    let rest := (lineRest cs).2
    some (cs.take (cs.length - rest.length), rest)
  else if startsWith "/**/" cs then some (cs.take 4, cs.drop 4)
  else if startsWith "/*" cs && (!startsWith "/**" cs || startsWith "/***" cs)
      && !startsWith "/*!" cs then block cs
  else none

/-- The two direction marks count as blanks in source text. -/
def isSourceBlank (c : Char) : Bool := Text.isBlank c || c = '\u200e' || c = '\u200f'

/-- Blanks and plain comments; a comment that is not closed is left where it stands. -/
def blanks : Scan := fun cs =>
  let rec go : Nat → List Char → List Char × List Char
    | 0, cs => ([], cs)
    | fuel + 1, cs =>
      match (one isSourceBlank).orElse plainComment cs with
      | none => ([], cs)
      | some (taken, rest) =>
        let (more, rest) := go fuel rest
        (taken ++ more, rest)
  some (go cs.length cs)

/-- A carriage return that no line feed follows. -/
def hasBareReturn : List Char → Bool
  | [] => false
  | '\r' :: '\n' :: rest => hasBareReturn rest
  | '\r' :: _ => true
  | _ :: rest => hasBareReturn rest

/-- A piece of documentation: its text, and whether it documents what encloses it. -/
structure Doc where
  text : List Char
  inner : Bool

def doc (cs : List Char) : Option (Doc × List Char × List Char) :=
  let line (inner : Bool) :=
    let (text, rest) := lineRest (cs.drop 3)
    (⟨text, inner⟩, cs.take (cs.length - rest.length), rest)
  let blockOf (inner : Bool) := (block cs).map fun (taken, rest) =>
    (⟨(taken.drop 3).take (taken.length - 5), inner⟩, taken, rest)
  let found : Option (Doc × List Char × List Char) :=
    if startsWith "//!" cs then some (line true)
    else if startsWith "/*!" cs then blockOf true
    else if startsWith "///" cs then if startsWith "////" cs then none else some (line false)
    else if startsWith "/**" cs && !startsWith "/***" cs then blockOf false
    else none
  found.filter fun (doc, _, _) => !hasBareReturn doc.text

end Stencil.Source.Lexeme
