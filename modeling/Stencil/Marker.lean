import Stencil.Options
import Stencil.Source.Literal
import Stencil.Source.Parser
import Stencil.SourceError
import Stencil.Source.Lexeme

/-! The arguments of the marker at an impl block. -/
namespace Stencil

open Source

inductive Setting where
  | optimize (on : Bool)
  | bufferSize (size : Nat)
  | strictNames (on : Bool)
  deriving DecidableEq, Repr

/-- The options that the marker sets; the others stay as they are. -/
structure Marker where
  optimize : Option Bool := none
  bufferSize : Option Nat := none
  strictNames : Option Bool := none
  deriving DecidableEq, Repr

namespace Marker

/-- A later argument replaces an earlier one. -/
def set (m : Marker) : Setting → Marker
  | .optimize on => { m with optimize := some on }
  | .bufferSize size => { m with bufferSize := some size }
  | .strictNames on => { m with strictNames := some on }

def ofSettings (settings : List Setting) : Marker := settings.foldl set {}

def apply (m : Marker) (o : Options) : Options :=
  { o with
    optimize := m.optimize.getD o.optimize
    bufferSize := m.bufferSize.orElse fun _ => o.bufferSize
    strictNames := m.strictNames.getD o.strictNames }

/-- The name of an argument: a path of any words, with the place of its first word. -/
structure ArgumentName where
  rooted : Bool
  names : List String
  pos : Pos

def ArgumentName.single (a : ArgumentName) : String :=
  match a.rooted, a.names with
  | false, [name] => name
  | _, _ => ""

def moreNames : List Tree → Option (List String × List Tree)
  | .mark ':' true :: .mark ':' _ :: .word name _ :: rest => do
    let (names, rest) ← moreNames rest
    some (name :: names, rest)
  | .mark ':' true :: .mark ':' _ :: _ => none
  | ts => some ([], ts)

def argumentName (ts : List Tree) : Option (ArgumentName × List Tree) :=
  let (rooted, ts) := if Peek.op "::" ts then (true, ts.drop 2) else (false, ts)
  match ts with
  | .word name pos :: rest => do
    let (names, rest) ← moreNames rest
    some (⟨rooted, name :: names, pos⟩, rest)
  | _ => none

/-- A flag alone means that it is on. -/
def flag : List Tree → Option (Bool × List Tree)
  | .mark '=' _ :: .word "true" _ :: rest => some (true, rest)
  | .mark '=' _ :: .word "false" _ :: rest => some (false, rest)
  | .mark '=' _ :: _ => none
  | ts => some (true, ts)

def size : List Tree → Option (Nat × List Tree)
  | .mark '=' _ :: .literal text :: rest =>
    match Literal.integer? text.toList with
    | some n => if n ≤ Text.maxSize then some (n, rest) else none
    | none => none
  | _ => none

def isComma : Tree → Bool
  | .mark c _ => c = ','
  | _ => false

/-- What has been read of the first argument, or that it is malformed. -/
def orMalformed {α : Type} (ts : List Tree) : Option α → Except SourceError α
  | some found => .ok found
  | none => .error (.ofArgument (ts.takeWhile (!isComma ·)))

def setting (ts : List Tree) : Except SourceError (Setting × List Tree) :=
  match argumentName ts with
  | none => orMalformed ts none
  | some (a, rest) =>
    if a.single = "optimize" then
      orMalformed ts ((flag rest).map fun (on, rest) => (.optimize on, rest))
    else if a.single = "strict_names" then
      orMalformed ts ((flag rest).map fun (on, rest) => (.strictNames on, rest))
    else if a.single = "buffer_size" then
      orMalformed ts ((size rest).map fun (n, rest) => (.bufferSize n, rest))
    else .error (.unknownArgument a.single a.pos)

/-- Arguments with commas between them and perhaps one at the end. Each takes at least one tree, so
`fuel` trees hold no more than `fuel` arguments. -/
def settingsFrom : Nat → List Tree → Except SourceError (List Setting)
  | _, [] => .ok []
  | 0, t :: ts => orMalformed (t :: ts) none
  | fuel + 1, ts => do
    let (first, rest) ← setting ts
    match rest with
    | [] => return [first]
    | .mark ',' _ :: rest => return first :: (← settingsFrom fuel rest)
    | _ => orMalformed ts none

def settings (ts : List Tree) : Except SourceError (List Setting) := settingsFrom ts.length ts

def read (text : List Char) : Except SourceError Marker :=
  match trees? text with
  | none => .error .malformed
  | some ts => ofSettings <$> settings ts

end Marker

end Stencil
