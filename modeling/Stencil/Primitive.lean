import Stencil.Panic
import Stencil.Text.Decimal
import Stencil.Text.Utf8
import Stencil.Writable

/-! Numbers, truth values and characters, which write themselves. -/
namespace Stencil

inductive IntType where
  | i8 | i16 | i32 | i64 | i128 | isize | u8 | u16 | u32 | u64 | u128 | usize
  deriving DecidableEq, Repr

namespace IntType

def all : List IntType :=
  [.i8, .i16, .i32, .i64, .i128, .isize, .u8, .u16, .u32, .u64, .u128, .usize]

def name : IntType → String
  | .i8 => "i8" | .i16 => "i16" | .i32 => "i32" | .i64 => "i64" | .i128 => "i128"
  | .isize => "isize" | .u8 => "u8" | .u16 => "u16" | .u32 => "u32" | .u64 => "u64"
  | .u128 => "u128" | .usize => "usize"

def bits : IntType → Nat
  | .i8 | .u8 => 8
  | .i16 | .u16 => 16
  | .i32 | .u32 => 32
  | .i64 | .u64 | .isize | .usize => 64
  | .i128 | .u128 => 128

def signed : IntType → Bool
  | .i8 | .i16 | .i32 | .i64 | .i128 | .isize => true
  | .u8 | .u16 | .u32 | .u64 | .u128 | .usize => false

def min (t : IntType) : Int := if t.signed then -Int.ofNat (1 <<< (t.bits - 1)) else 0
def max (t : IntType) : Int :=
  Int.ofNat (1 <<< (if t.signed then t.bits - 1 else t.bits)) - 1

/-- The length of the longest numeral of the type. -/
def lengthBound : IntType → Nat
  | .u8 => 3
  | .i8 => 4
  | .u16 => 5
  | .i16 => 6
  | .u32 => 10
  | .i32 => 11
  | .u64 | .usize | .i64 | .isize => 20
  | .u128 => 39
  | .i128 => 40

/-- The bits of the word in which a numeral is computed. -/
def wordBits (t : IntType) : Nat := if t.bits ≤ 64 then 64 else 128

/-- The places that are set aside for a numeral: one more than the digits of the largest word. -/
def places (t : IntType) : Nat := if t.bits ≤ 64 then 21 else 40

structure Number (t : IntType) where
  value : Int
  min_le : t.min ≤ value
  le_max : value ≤ t.max
  deriving DecidableEq, Repr

end IntType

def digitByte (n : Nat) : UInt8 := (48 + n % 10).toUInt8

def setByte (place : Nat) (byte : UInt8) (bytes : List UInt8) : Except Panic (List UInt8) :=
  if place < bytes.length then .ok (bytes.set place byte) else .error .outOfRange

/-- Put the digits of a number into the places before the given one, the last digit first: the place
of the first digit, and all places. -/
def putDigits : Nat → Nat → List UInt8 → Except Panic (Nat × List UInt8)
  | 0, _, _ => .error .outOfRange
  | place + 1, n, bytes => do
    let bytes ← setByte place (digitByte n) bytes
    if n / 10 = 0 then return (place, bytes) else putDigits place (n / 10) bytes

def putSign : Nat → List UInt8 → Except Panic (Nat × List UInt8)
  | 0, _ => .error .outOfRange
  | place + 1, bytes => do return (place, ← setByte place 45 bytes)

namespace IntType.Number

variable {t : IntType}

/-- The number without its sign, cut to the word in which its numeral is computed. -/
def magnitude (n : t.Number) : Nat := n.value.natAbs % (1 <<< t.wordBits)

/-- The numeral: what stands in the places once the digits, and before them a minus sign if the
number is negative, have been put there. -/
def numeral (n : t.Number) : Except Panic (List UInt8) := do
  let (start, bytes) ← putDigits t.places n.magnitude (List.replicate t.places 0)
  if n.value < 0 then
    let (start, bytes) ← putSign start bytes
    return bytes.drop start
  else return bytes.drop start

end IntType.Number

inductive Primitive where
  | int (type : IntType) (number : type.Number)
  | bool (value : Bool)
  | char (value : Char)
  deriving DecidableEq, Repr

namespace Primitive

def display : Primitive → List Char
  | .int _ number => Text.decimal number.value
  | .bool true => "true".toList
  | .bool false => "false".toList
  | .char value => [value]

/-- The bytes that the value writes. The places of a numeral always suffice. -/
def bytes : Primitive → List UInt8
  | .int _ number =>
    match number.numeral with
    | .ok text => text
    | .error _ => []
  | .bool value => Text.encode (display (.bool value))
  | .char value => Text.encodeChar value

def lengthBound : Primitive → Nat
  | .int type _ => type.lengthBound
  | .bool _ => 5
  | .char value => (Text.encodeChar value).length

def writable (p : Primitive) : Writable := .ofBytes p.lengthBound p.bytes

def read? (type : String) (text : List Char) : Option Primitive :=
  if type = "bool" then
    if text = "true".toList then some (.bool true)
    else if text = "false".toList then some (.bool false)
    else none
  else if type = "char" then
    match text with
    | [c] => some (.char c)
    | _ => none
  else do
    let t ← IntType.all.find? (·.name == type)
    let value ← Text.readInt? text
    if h : t.min ≤ value ∧ value ≤ t.max then some (.int t ⟨value, h.1, h.2⟩) else none

end Primitive

end Stencil
