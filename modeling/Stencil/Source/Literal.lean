import Stencil.Source.Lexeme.Literal

/-! The values of literals. -/
namespace Stencil.Source.Literal

open Lexeme

def escaped (c : Char) : Char :=
  if c = 'n' then '\n' else if c = 'r' then '\r' else if c = 't' then '\t'
  else if c = '0' then '\x00' else c

/-- The character that is complete once `c` has been read. -/
def completed : Inside → Char → Char
  | .escape, c => escaped c
  | .hexLow high, c => Char.ofNat (high * 16 + (hexValue? c).getD 0)
  | .codeDigits _ value, _ => Char.ofNat value
  | _, c => c

/-- The value of a quoted text from the given place on; a line break of two characters counts as
one. -/
def quotedValue : Inside → List Char → List Char
  | _, [] => []
  | state, c :: rest =>
    match state.step .text c with
    | none | some .closed => []
    | some .plain => completed state c :: quotedValue .plain rest
    | some next => quotedValue next rest

def rawValue (cs : List Char) : List Char :=
  let body := (cs.dropWhile (· = '#')).drop 1
  ((body.reverse.dropWhile (· != '"')).drop 1).reverse

def text? : List Char → Option (List Char)
  | '"' :: rest => some (quotedValue .plain rest)
  | 'r' :: rest => some (rawValue rest)
  | _ => none

/-- Whether the letter of an exponent is followed by what makes the number a fraction. -/
def hasExponent (cs : List Char) : Bool :=
  let digits := cs.takeWhile fun c => Text.isDigit c || c = '_'
  digits.any Text.isDigit || (cs.drop digits.length).head?.any fun c => c = '+' || c = '-'

/-- The value of the digits in a base; what follows them is a suffix. -/
def digitsValue? (base : Nat) : Option Nat → List Char → Option Nat
  | value, [] => value
  | value, c :: rest =>
    if c = '_' then digitsValue? base value rest
    else if base = 10 && c = '.' then none
    else if base = 10 && (c = 'e' || c = 'E') then if hasExponent rest then none else value
    else
      match hexValue? c with
      | some d =>
        if d < base then digitsValue? base (some (value.getD 0 * base + d)) rest
        else if d < 10 then none
        else value
      | none => value

/-- The value of an integer literal, whatever its suffix. -/
def integer? : List Char → Option Nat
  | '0' :: 'x' :: rest => digitsValue? 16 none rest
  | '0' :: 'o' :: rest => digitsValue? 8 none rest
  | '0' :: 'b' :: rest => digitsValue? 2 none rest
  | c :: rest => if Text.isDigit c then digitsValue? 10 none (c :: rest) else none
  | [] => none

/-- The position that an integer literal gives: 32 bits, and no suffix. -/
def index? (cs : List Char) : Option Nat :=
  let isDigit : Char → Bool :=
    match cs with
    | '0' :: 'x' :: _ => fun c => (hexValue? c).isSome
    | _ => Text.isDigit
  let digits :=
    match cs with
    | '0' :: c :: rest => if ['x', 'o', 'b'].contains c then rest else cs
    | _ => cs
  if digits.all fun c => isDigit c || c = '_' then (integer? cs).filter (· < 1 <<< 32) else none

end Stencil.Source.Literal
