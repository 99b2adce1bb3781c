/-! Decimal numerals. -/
namespace Stencil.Text

def isDigit (c : Char) : Bool := '0' ≤ c && c ≤ '9'

def digitsValue (cs : List Char) : Nat := cs.foldl (fun n c => n * 10 + (c.toNat - 48)) 0

def maxSize : Nat := 1 <<< 64 - 1

/-- Read a size: decimal digits, which a plus sign may precede, of a value that fits 64 bits. -/
def readSize? (cs : List Char) : Option Nat :=
  let digits := if cs.head? = some '+' then cs.tail else cs
  if digits.isEmpty || !digits.all isDigit then none
  else if digitsValue digits ≤ maxSize then some (digitsValue digits)
  else none

/-- Read an integer: decimal digits, which a sign may precede. -/
def readInt? (cs : List Char) : Option Int :=
  let negative := cs.head? = some '-'
  let digits := if negative || cs.head? = some '+' then cs.tail else cs
  if digits.isEmpty || !digits.all isDigit then none
  else if negative then some (-digitsValue digits)
  else some (digitsValue digits)

/-- The decimal text of a number, with a minus sign for a negative one. -/
def decimal : Int → List Char
  | .ofNat n => Nat.toDigits 10 n
  | .negSucc n => '-' :: Nat.toDigits 10 (n + 1)

end Stencil.Text
