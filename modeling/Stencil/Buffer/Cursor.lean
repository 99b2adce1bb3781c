import Stencil.Buffer

/-! A buffer with a place at which it is written. -/
namespace Stencil

structure Cursor where
  buffer : Buffer
  pos : Nat := 0
  deriving DecidableEq, Repr

namespace Cursor

/-- Make room at the cursor, copy bytes there, and move on behind them. -/
def append (c : Cursor) (bytes : List UInt8) : Except Panic Cursor := do
  let buffer ← (← c.buffer.grow (c.pos + bytes.length)).store c.pos bytes
  return ⟨buffer, c.pos + bytes.length⟩

def format (c : Cursor) (value : Writable) : Except Panic (Nat × Cursor) := do
  let (written, buffer) ← c.buffer.writeAt c.pos value
  return (written, ⟨buffer, c.pos + written⟩)

def text (c : Cursor) : Except Panic (List Char) := c.buffer.text c.pos

inductive Action where
  | reserve (len : Nat)
  | seek (pos : Nat)
  | write (bytes : List UInt8)
  | format (value : Writable)
  /-- Take the text of the first bytes, or that before the cursor. -/
  | take (len : Option Nat)
  | peek (start count : Nat)

inductive Reply where
  | none
  | count (n : Nat)
  | text (text : List Char)
  | bytes (bytes : List UInt8)

def step (c : Cursor) : Action → Except Panic (Reply × Cursor)
  | .reserve len => do return (.none, { c with buffer := ← c.buffer.grow len })
  | .seek pos => .ok (.none, { c with pos })
  | .write bytes => do return (.none, ← c.append bytes)
  | .format value => do
    let (written, c) ← c.format value
    return (.count written, c)
  | .take len => do return (.text (← c.buffer.text (len.getD c.pos)), c)
  | .peek start count => do return (.bytes (← c.buffer.bytesAt start count), c)

/-- Do one thing after the other; one that breaks off leaves the cursor as it was. -/
def run (c : Cursor) : List Action → List (Except Panic Reply × Cursor)
  | [] => []
  | action :: rest =>
    match c.step action with
    | .ok (reply, next) => (.ok reply, next) :: next.run rest
    | .error panic => (.error panic, c) :: c.run rest

end Cursor

end Stencil
