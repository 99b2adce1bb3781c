import Stencil.Panic
import Stencil.Text.Decimal
import Stencil.Text.Utf8
import Stencil.Writable

/-! Byte buffers that grow as they are written. -/
namespace Stencil

inductive Buffer where
  /-- Bytes in place; once a write needs more, all bytes are in `spilled`. -/
  | stack (inline spilled : List UInt8)
  /-- A buffer rented from a pool. -/
  | rented (bytes : List UInt8)
  deriving DecidableEq, Repr

namespace Buffer

def zeros (n : Nat) : List UInt8 := List.replicate n 0

def ofSize (n : Nat) : Buffer := .stack (zeros n) []

def slice : Buffer → List UInt8
  | .stack inline spilled => if spilled.isEmpty then inline else spilled
  | .rented bytes => bytes

def size (b : Buffer) : Nat := b.slice.length

/-- The size to grow to: what is needed, but at least twice the size that there is. -/
def growthSize (current needed : Nat) : Nat := max needed (min (2 * current) Text.maxSize)

def extend (bytes : List UInt8) (needed : Nat) : List UInt8 :=
  bytes ++ zeros (growthSize bytes.length needed - bytes.length)

def reserve (len : Nat) : Buffer → Buffer
  | .stack inline spilled =>
    if spilled.isEmpty then
      if len ≤ inline.length then .stack inline spilled else .stack inline (extend inline len)
    else if spilled.length < len then .stack inline (extend spilled len)
    else .stack inline spilled
  | .rented bytes => if bytes.length < len then .rented (extend bytes len) else .rented bytes

def maxBytes : Nat := 1 <<< 63 - 1

/-- Grow until at least `len` bytes can be addressed, unless a buffer cannot hold that many. -/
def grow (len : Nat) (b : Buffer) : Except Panic Buffer :=
  if b.size < len ∧ maxBytes < growthSize b.size len then .error .tooLarge else .ok (b.reserve len)

def withSlice (bytes : List UInt8) : Buffer → Buffer
  | .stack inline spilled => if spilled.isEmpty then .stack bytes spilled else .stack inline bytes
  | .rented _ => .rented bytes

def store (pos : Nat) (bytes : List UInt8) (b : Buffer) : Except Panic Buffer :=
  if pos + bytes.length ≤ b.size then
    .ok (b.withSlice (b.slice.take pos ++ overwrite bytes (b.slice.drop pos)))
  else .error .outOfRange

def maxTail : Nat := 1 <<< 30

/-- Offer a value a tail of `room` bytes, and twice as many each time that they are too few. A value
that would need more than the largest tail counts as empty. -/
def writeWithin (pos : Nat) (value : Writable) (room : Nat) (hroom : 0 < room) (b : Buffer) :
    Except Panic (Nat × Buffer) := do
  let b ← b.grow (pos + room)
  let (written?, tail) := value.attempt (b.slice.drop pos)
  let b := b.withSlice (b.slice.take pos ++ tail)
  match written? with
  | some written => return (written, b)
  | none =>
    if _h : maxTail < 2 * room then return (0, b)
    else writeWithin pos value (2 * room) (by omega) b
termination_by maxTail - room

/-- Let a value write itself at a place: how many bytes it has written. It is offered one byte at
least, so the room does double. -/
def writeAt (pos : Nat) (value : Writable) (b : Buffer) : Except Panic (Nat × Buffer) :=
  writeWithin pos value (max value.lengthBound 1) (by omega) b

/-- The first bytes as text; what is not UTF-8 is replaced. -/
def text (len : Nat) (b : Buffer) : Except Panic (List Char) :=
  if len ≤ b.size then .ok (Text.decodeLossy (b.slice.take len)) else .error .outOfRange

def bytesAt (start count : Nat) (b : Buffer) : Except Panic (List UInt8) :=
  if start + count ≤ b.size then .ok ((b.slice.drop start).take count) else .error .outOfRange

end Buffer

end Stencil
