import Stencil.Text.Blank
import Stencil.Text.Decimal

/-! The options of a generation pass, and how they are read from settings. -/
namespace Stencil

structure Options where
  /-- Generated code may write without bounds checks. -/
  unchecked : Bool := false
  /-- Generated code writes into a buffer instead of calling the formatter. -/
  optimize : Bool := false
  bufferSize : Option Nat := none
  /-- A placeholder must be named like the parameter that fills it. -/
  strictNames : Bool := false
  deriving DecidableEq, Repr

inductive Strategy where
  | formatCall
  | bufferWrites
  deriving DecidableEq, Repr

namespace Options

def stackLimit : Nat := 128

/-- A larger buffer is rented from the pool. -/
def pooled (o : Options) : Bool := o.bufferSize.any (stackLimit < ·)

def strategy (o : Options) : Strategy := if o.optimize then .bufferWrites else .formatCall

inductive Key where
  | optimize
  | bufferSize
  | strictNames
  deriving DecidableEq, Repr

def Key.all : List Key := [.optimize, .bufferSize, .strictNames]

def Key.name : Key → String
  | .optimize => "optimization-enabled"
  | .bufferSize => "optimization-buffer-size"
  | .strictNames => "strict-placeholder-names"

/-- The environment variable of a setting: upper case, with underscores for dashes. -/
def variableName (key : String) : String :=
  "NAMED_FORMAT_" ++ String.ofList (key.toList.map fun c => if c = '-' then '_' else c.toUpper)

/-- A flag is on when its text is the word true, in any case and with blanks around it. -/
def readFlag (value : String) : Bool :=
  (Text.trim value.toList).map Char.toLower = ['t', 'r', 'u', 'e']

/-- Read the options from settings; a size that cannot be read counts as unset. -/
def ofSettings (get : String → Option String) (unchecked : Bool) : Options where
  unchecked := unchecked
  optimize := (get Key.optimize.name).any readFlag
  bufferSize := (get Key.bufferSize.name).bind fun v => Text.readSize? (Text.trim v.toList)
  strictNames := (get Key.strictNames.name).any readFlag

def ofEnvironment (get : String → Option String) (unchecked : Bool) : Options :=
  ofSettings (fun key => get (variableName key)) unchecked

end Options

end Stencil
