import Stencil.Source.Attribute

/-! Why a source text cannot be worked on at all. -/
namespace Stencil

inductive SourceError where
  /-- The text does not follow the grammar. -/
  | malformed
  /-- The attribute of a parameter that should name a way of formatting is not one word. -/
  | malformedMode (written : String)
  /-- An argument of the marker is not written as its name asks for. -/
  | malformedArgument (written : String)
  /-- A parameter asks for a way of formatting that does not exist. -/
  | unknownMode (name : String) (pos : Source.Pos)
  /-- The marker of an impl block has an argument that does not exist. -/
  | unknownArgument (name : String) (pos : Source.Pos)
  /-- The marker stands at the impl block of a trait. -/
  | traitImpl
  deriving DecidableEq, Repr

namespace SourceError

def ofMode (a : Source.Attribute) : SourceError := .malformedMode (Source.render a.trees)

def ofArgument (trees : List Source.Tree) : SourceError := .malformedArgument (Source.render trees)

/-- What is said of the error; of what is malformed only the parser can say it. -/
def message? : SourceError → Option String
  | .malformed | .malformedMode _ | .malformedArgument _ => none
  | .unknownMode name _ =>
    some ("unknown fmt mode: " ++ name ++ " (expected fast, display or debug)")
  | .unknownArgument name _ => some ("unknown named_formats argument: " ++ name)
  | .traitImpl => some "#[named_formats] applies to inherent impl blocks only"

def pos? : SourceError → Option Source.Pos
  | .unknownMode _ pos | .unknownArgument _ pos => some pos
  | .malformed | .malformedMode _ | .malformedArgument _ | .traitImpl => none

end SourceError

end Stencil
