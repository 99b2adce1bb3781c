/-! UTF-8: encoding of text, and decoding that replaces what is not UTF-8. -/
namespace Stencil.Text

/-- The bytes of one character, one to four. -/
def encodeChar (c : Char) : List UInt8 :=
  let n := c.toNat
  if n < 0x80 then [n.toUInt8]
  else if n < 0x800 then [(0xc0 + n / 64).toUInt8, (0x80 + n % 64).toUInt8]
  else if n < 0x10000 then
    [(0xe0 + n / 4096).toUInt8, (0x80 + n / 64 % 64).toUInt8, (0x80 + n % 64).toUInt8]
  else
    [(0xf0 + n / 262144).toUInt8, (0x80 + n / 4096 % 64).toUInt8,
      (0x80 + n / 64 % 64).toUInt8, (0x80 + n % 64).toUInt8]

def encode (s : List Char) : List UInt8 := s.flatMap encodeChar

def byteLength (s : List Char) : Nat := (encode s).length

def replacement : Char := '\ufffd'

/-- A decoder between two bytes: either at the start of a character, or with `missing + 1` bytes to
come, the next of them between `low` and `high`, and the bits read so far in `value`. -/
inductive Decoder where
  | start
  | within (missing : Nat) (low high : UInt8) (value : Nat)
  deriving DecidableEq, Repr

def Decoder.first (b : UInt8) : List Char × Decoder :=
  let n := b.toNat
  if n < 0x80 then ([Char.ofNat n], .start)
  else if n < 0xc2 then ([replacement], .start)
  else if n < 0xe0 then ([], .within 0 0x80 0xbf (n % 32))
  else if n < 0xf0 then
    ([], .within 1 (if n = 0xe0 then 0xa0 else 0x80) (if n = 0xed then 0x9f else 0xbf) (n % 16))
  else if n < 0xf5 then
    ([], .within 2 (if n = 0xf0 then 0x90 else 0x80) (if n = 0xf4 then 0x8f else 0xbf) (n % 8))
  else ([replacement], .start)

/-- Read one byte. A byte that cannot go on ends the unfinished character, which is replaced as a
whole, and is read again as a first byte. -/
def Decoder.step : Decoder → UInt8 → List Char × Decoder
  | .start, b => first b
  | .within missing low high value, b =>
    if low ≤ b && b ≤ high then
      let value := value * 64 + b.toNat % 64
      match missing with
      | 0 => ([Char.ofNat value], .start)
      | missing + 1 => ([], .within missing 0x80 0xbf value)
    else
      let (out, next) := first b
      (replacement :: out, next)

def Decoder.run : Decoder → List UInt8 → List Char
  | .start, [] => []
  | .within .., [] => [replacement]
  | d, b :: bs => (d.step b).1 ++ (d.step b).2.run bs

/-- Decode, with one replacement character for each longest beginning of a character that breaks
off, and for each byte that begins none. -/
def decodeLossy (bs : List UInt8) : List Char := Decoder.start.run bs

end Stencil.Text
