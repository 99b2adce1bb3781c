import Stencil.Source.Lexeme.Scan
import Stencil.Text.Decimal

/-! The spelling of literals: strings, bytes, characters and numbers. -/
namespace Stencil.Source.Lexeme

/-- The three kinds of quoted literals differ in the escapes that they take. -/
inductive Quoting where
  | text
  | bytes
  | cText
  deriving DecidableEq, Repr

inductive Inside where
  | plain
  /-- After a backslash. -/
  | escape
  /-- After a carriage return, which only a line feed may follow. -/
  | afterReturn
  /-- Before the first of two hexadecimal digits, and before the second. -/
  | hexHigh
  | hexLow (high : Nat)
  /-- Before the opening brace of a code point, and among its digits. -/
  | codeOpen
  | codeDigits (count value : Nat)
  /-- Among the blanks after a backslash at the end of a line. -/
  | fold
  | foldReturn
  | closed
  deriving DecidableEq, Repr

def hexValue? (c : Char) : Option Nat :=
  if '0' ≤ c && c ≤ '9' then some (c.toNat - 48)
  else if 'a' ≤ c && c ≤ 'f' then some (c.toNat - 87)
  else if 'A' ≤ c && c ≤ 'F' then some (c.toNat - 55)
  else none

def isScalar (n : Nat) : Bool := n < 0xd800 || (0xdfff < n && n < 0x110000)

namespace Inside

def plainStep (q : Quoting) (c : Char) : Option Inside :=
  if c = '"' then some .closed
  else if c = '\\' then some .escape
  else if c = '\r' then some .afterReturn
  else match q with
    | .text => some .plain
    | .bytes => if c.val < 0x80 then some .plain else none
    | .cText => if c = '\x00' then none else some .plain

def escapeStep (q : Quoting) (c : Char) : Option Inside :=
  if c = 'x' then some .hexHigh
  else if c = 'n' || c = 'r' || c = 't' || c = '\\' || c = '\'' || c = '"' then some .plain
  else if c = '0' then if q = .cText then none else some .plain
  else if c = 'u' then if q = .bytes then none else some .codeOpen
  else if c = '\n' then some .fold
  else if c = '\r' then some .foldReturn
  else none

/-- Read one character; `none` when the literal is misspelled. -/
def step (q : Quoting) : Inside → Char → Option Inside
  | .plain, c => plainStep q c
  | .escape, c => escapeStep q c
  | .afterReturn, c => if c = '\n' then some .plain else none
  | .hexHigh, c => do
    let high ← hexValue? c
    if q = .text && 7 < high then none else some (.hexLow high)
  | .hexLow high, c => do
    let low ← hexValue? c
    if q = .cText && high = 0 && low = 0 then none else some .plain
  | .codeOpen, c => if c = '\x7b' then some (.codeDigits 0 0) else none
  | .codeDigits count value, c =>
    if c = '_' && 0 < count then some (.codeDigits count value)
    else if c = '\x7d' && 0 < count then
      if isScalar value && !(q = .cText && value = 0) then some .plain else none
    else if count = 6 then none
    else (hexValue? c).map fun d => .codeDigits (count + 1) (value * 16 + d)
  | .fold, c =>
    if c = ' ' || c = '\t' || c = '\n' then some .fold
    else if c = '\r' then some .foldReturn
    else plainStep q c
  | .foldReturn, c => if c = '\n' then some .fold else none
  | .closed, _ => none

end Inside

def quotedRest (q : Quoting) : Inside → Scan
  | _, [] => none
  | state, c :: rest =>
    match state.step q c with
    | none => none
    | some .closed => some ([c], rest)
    | some state => (quotedRest q state rest).map fun (taken, rest) => (c :: taken, rest)

/-- The rest of an escape after its backslash; a line may not end there. -/
def escapeRest (q : Quoting) : Inside → Scan
  | _, [] => none
  | state, c :: rest =>
    match state.step q c with
    | some .plain => some ([c], rest)
    | some .fold | some .foldReturn | none => none
    | some state => (escapeRest q state rest).map fun (taken, rest) => (c :: taken, rest)

/-- The rest of a raw literal that `hashes` marks close after a quote. -/
def rawRest (q : Quoting) (hashes : List Char) : Scan
  | [] => none
  | c :: rest =>
    if c = '"' && hashes.isPrefixOf rest then some (c :: hashes, rest.drop hashes.length)
    else if c = '\r' && rest.head? != some '\n' then none
    else if q = .bytes && 0x80 ≤ c.val then none
    else if q = .cText && c = '\x00' then none
    else (rawRest q hashes rest).map fun (taken, rest) => (c :: taken, rest)

/-- A raw literal after its letters: marks, a quote, and all up to the same marks again. -/
def raw (q : Quoting) : Scan := fun cs =>
  let hashes := cs.takeWhile (· = '#')
  if 255 < hashes.length then none
  else ((exactly (hashes ++ ['"'])).andThen (rawRest q hashes)) cs

def quoted (q : Quoting) : Scan := (one (· = '"')).andThen (quotedRest q .plain)

def single (q : Quoting) : Scan :=
  let inner : Scan := fun cs =>
    match cs with
    | '\\' :: rest => (escapeRest q .escape rest).map fun (taken, rest) => ('\\' :: taken, rest)
    | c :: rest => if q = .bytes && 0x80 ≤ c.val then none else some ([c], rest)
    | [] => none
  ((one (· = '\'')).andThen inner).andThen (one (· = '\''))

/-- A word right behind a literal belongs to it. -/
def suffix : Scan := word.optional

def quotedLiteral : Scan :=
  let strings := ((quoted .text).orElse ((text "r").andThen (raw .text))).orElse
    (((text "b").andThen (quoted .bytes)).orElse ((text "br").andThen (raw .bytes)))
  let others :=
    (((text "c").andThen (quoted .cText)).orElse ((text "cr").andThen (raw .cText))).orElse
      (((text "b").andThen (single .bytes)).orElse (single .text))
  (strings.orElse others).andThen suffix

/-- The exponent of a decimal fraction after its letter: a sign at most, and digits. -/
def exponent : Scan := fun cs =>
  let rec go (signed valued : Bool) : Scan
    | [] => if valued then some ([], []) else none
    | c :: rest =>
      let more (signed valued : Bool) :=
        (go signed valued rest).map fun (taken, rest) => (c :: taken, rest)
      if c = '+' || c = '-' then
        if valued then some ([], c :: rest) else if signed then none else more true false
      else if Text.isDigit c then more signed true
      else if c = '_' then more signed valued
      else if valued then some ([], c :: rest) else none
  go false false cs

def fraction : Scan := fun cs =>
  let rec go (dotted : Bool) : Scan
    | [] => if dotted then some ([], []) else none
    | c :: rest =>
      let more (dotted : Bool) := (go dotted rest).map fun (taken, rest) => (c :: taken, rest)
      let stop := if dotted then some ([], c :: rest) else none
      if Text.isDigit c || c = '_' then more dotted
      else if c = '.' then
        if dotted then stop
        else if rest.head?.any (fun d => d = '.' || Text.isWordStart d) then none
        else more true
      else if c = 'e' || c = 'E' then
        match exponent rest with
        | some (taken, rest) => some (c :: taken, rest)
        | none => stop
      else stop
  ((one Text.isDigit).andThen (go false)) cs

/-- The digits of a whole number in the given base; a digit that is too large for base two or eight
is an error, a letter that is too large ends the number. -/
def digits (base : Nat) : Scan := fun cs =>
  let rec go (seen : Bool) : Scan
    | [] => if seen then some ([], []) else none
    | c :: rest =>
      let more (seen : Bool) := (go seen rest).map fun (taken, rest) => (c :: taken, rest)
      let stop := if seen then some ([], c :: rest) else none
      if c = '_' then if !seen && base = 10 then none else more seen
      else match hexValue? c with
        | some d => if d < base then more true else if d < 10 then none else stop
        | none => stop
  go false cs

def whole : Scan := fun cs =>
  if startsWith "0x" cs then ((text "0x").andThen (digits 16)) cs
  else if startsWith "0o" cs then ((text "0o").andThen (digits 8)) cs
  else if startsWith "0b" cs then ((text "0b").andThen (digits 2)) cs
  else digits 10 cs

/-- Take nothing, where no character of a word follows. -/
def wordEnd : Scan := fun cs => if cs.head?.any Text.isWordRest then none else some ([], cs)

def number : Scan :=
  ((fraction.andThen suffix).andThen wordEnd).orElse ((whole.andThen suffix).andThen wordEnd)

def literal : Scan := quotedLiteral.orElse number

end Stencil.Source.Lexeme
