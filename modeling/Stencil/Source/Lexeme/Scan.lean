import Stencil.Text.Word

/-! Scanners: functions that split off a beginning of the text, or find none. -/
namespace Stencil.Source.Lexeme

/-- A scanner gives the text that it takes and the rest. -/
abbrev Scan := List Char → Option (List Char × List Char)

def Scan.nothing : Scan := fun cs => some ([], cs)

def Scan.andThen (p q : Scan) : Scan := fun cs =>
  (p cs).bind fun (taken, rest) => (q rest).map fun (more, rest) => (taken ++ more, rest)

def Scan.orElse (p q : Scan) : Scan := fun cs => (p cs).orElse fun _ => q cs

def Scan.optional (p : Scan) : Scan := p.orElse .nothing

def one (p : Char → Bool) : Scan
  | c :: rest => if p c then some ([c], rest) else none
  | [] => none

def many (p : Char → Bool) : Scan := fun cs => some (cs.takeWhile p, cs.dropWhile p)

def exactly (text : List Char) : Scan := fun cs =>
  if text.isPrefixOf cs then some (text, cs.drop text.length) else none

def text (s : String) : Scan := exactly s.toList

def startsWith (s : String) (cs : List Char) : Bool := s.toList.isPrefixOf cs

def word : Scan := (one Text.isWordStart).andThen (many Text.isWordRest)

/-- Words that cannot be written in raw form. -/
def unrawable : List String := ["_", "super", "self", "Self", "crate"]

def anyWord : Scan := fun cs =>
  if startsWith "r#" cs then
    match word (cs.drop 2) with
    | some (name, rest) =>
      if unrawable.contains (String.ofList name) then none else some ('r' :: '#' :: name, rest)
    | none => none
  else word cs

end Stencil.Source.Lexeme
