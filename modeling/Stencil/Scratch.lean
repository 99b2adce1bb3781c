import Stencil.Buffer.Cursor

/-! Formatting through a buffer of scratch space. -/
namespace Stencil

inductive ShowEnd where
  | done
  | failed
  | raised (message : String)
  deriving DecidableEq, Repr

/-- A value as it shows itself: the pieces of text that it writes, and how it ends. -/
structure Showing where
  pieces : List (List Char)
  ending : ShowEnd := .done
  deriving DecidableEq, Repr

namespace Showing

def ofText (text : List Char) : Showing := ⟨[text], .done⟩

def settle : ShowEnd → Except Panic Unit
  | .done => .ok ()
  | .failed => .error .displayFailed
  | .raised message => .error (.raised message)

/-- The whole text, unless the value breaks off. -/
def toText (s : Showing) : Except Panic (List Char) := do
  settle s.ending
  return s.pieces.flatten

end Showing

inductive Fragment where
  | literal (text : List Char)
  | value (showing : Showing)
  deriving DecidableEq, Repr

namespace Scratch

def constant? : List Fragment → Option (List Char)
  | [] => some []
  | .literal text :: rest => (constant? rest).map (text ++ ·)
  | .value _ :: _ => none

def write (c : Cursor) (text : List Char) : Except Panic Cursor := c.append (Text.encode text)

/-- Write fragments in order, up to the first value that breaks off. -/
def writeAll : Cursor → List Fragment → Except Panic Cursor
  | c, [] => .ok c
  | c, .literal text :: rest => do writeAll (← write c text) rest
  | c, .value showing :: rest => do
    let c ← showing.pieces.foldlM write c
    Showing.settle showing.ending
    writeAll c rest

/-- Write fragments into a new buffer that holds `size` bytes in place, and take the text. -/
def buffered (size : Nat) (fragments : List Fragment) : Except Panic (List Char) := do
  (← writeAll ⟨.ofSize size, 0⟩ fragments).text

/-- Format fragments through a buffer; what holds no value needs none. -/
def format (size : Nat) (fragments : List Fragment) : Except Panic (List Char) :=
  match constant? fragments with
  | some text => .ok text
  | none => buffered size fragments

end Scratch

end Stencil
