import Stencil.Text.Visible

/-! Quoted text: the escapes of string, byte string and byte literals. -/
namespace Stencil.Text

def hexDigit (upper : Bool) (n : Nat) : Char :=
  if n < 10 then Char.ofNat (48 + n) else Char.ofNat ((if upper then 55 else 87) + n)

def hexDigits (n : Nat) : List Char := Nat.toDigits 16 n

def hexByte (b : UInt8) : List Char := [hexDigit true (b.toNat / 16), hexDigit true (b.toNat % 16)]

def escapeChar (c : Char) : List Char :=
  if c = '\x00' then ['\\', '0']
  else if c = '\t' then ['\\', 't']
  else if c = '\n' then ['\\', 'n']
  else if c = '\r' then ['\\', 'r']
  else if c = '"' then ['\\', '"']
  else if c = '\\' then ['\\', '\\']
  else if isVisible c then [c]
  else '\\' :: 'u' :: '\x7b' :: (hexDigits c.toNat ++ ['\x7d'])

def isOctal (c : Char) : Bool := '0' ≤ c && c ≤ '7'

/-- The inside of a string literal. A NUL before an octal digit is spelled in full, so that it does
not read as an octal escape. -/
def escapeLiteral : List Char → List Char
  | [] => []
  | c :: rest =>
    (if c = '\x00' && rest.head?.any isOctal then ['\\', 'x', '0', '0'] else escapeChar c)
      ++ escapeLiteral rest

def quoteLiteral (s : List Char) : List Char := '"' :: (escapeLiteral s ++ ['"'])

/-- A text as the debug view of it shows it. -/
def quoteDebug (s : List Char) : List Char := '"' :: (s.flatMap escapeChar ++ ['"'])

def escapeByte (quote : Char) (b : UInt8) : List Char :=
  let c := Char.ofNat b.toNat
  if c = '\x00' then ['\\', '0']
  else if c = '\t' then ['\\', 't']
  else if c = '\n' then ['\\', 'n']
  else if c = '\r' then ['\\', 'r']
  else if c = quote || c = '\\' then ['\\', c]
  else if 0x20 ≤ b && b ≤ 0x7e then [c]
  else '\\' :: 'x' :: hexByte b

def escapeBytes : List UInt8 → List Char
  | [] => []
  | b :: rest =>
    (if b = 0 && rest.head?.any (fun d => isOctal (Char.ofNat d.toNat)) then ['\\', 'x', '0', '0']
      else escapeByte '"' b) ++ escapeBytes rest

def quoteBytes (bs : List UInt8) : List Char := 'b' :: '"' :: (escapeBytes bs ++ ['"'])

def quoteByte (b : UInt8) : List Char := 'b' :: '\'' :: (escapeByte '\'' b ++ ['\''])

end Stencil.Text
