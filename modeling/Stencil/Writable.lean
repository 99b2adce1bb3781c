/-! Values that write themselves into a byte buffer. -/
namespace Stencil

def overwrite (bytes tail : List UInt8) : List UInt8 := bytes ++ tail.drop bytes.length

theorem length_overwrite {bytes tail : List UInt8} (h : bytes.length ≤ tail.length) :
    (overwrite bytes tail).length = tail.length := by
  simp only [overwrite, List.length_append, List.length_drop]
  omega

/-- A value that is tried on a tail of bytes: it either reports how many it has written at the
front, or none if they are too few. Of the tail after a failed attempt nothing is known but its
length. -/
structure Writable where
  /-- A bound on what it writes, which it need not keep. -/
  lengthBound : Nat
  attempt : List UInt8 → Option Nat × List UInt8
  /-- The tail is written in place. -/
  length_attempt (tail : List UInt8) : (attempt tail).2.length = tail.length

/-- A value of fixed text, which leaves a tail alone that is too short for it. -/
def Writable.ofBytes (lengthBound : Nat) (bytes : List UInt8) : Writable where
  lengthBound := lengthBound
  attempt tail :=
    if bytes.length ≤ tail.length then (some bytes.length, overwrite bytes tail) else (none, tail)
  length_attempt tail := by
    split
    next h => exact length_overwrite h
    next => rfl

inductive Reference where
  | shared
  | exclusive
  deriving DecidableEq, Repr

/-- A value behind references, the outermost first. A reference of either kind writes itself as what
it refers to. -/
def Writable.behind : List Reference → Writable → Writable
  | [], w => w
  | _ :: references, w =>
    { lengthBound := (w.behind references).lengthBound
      attempt := (w.behind references).attempt
      length_attempt := (w.behind references).length_attempt }

end Stencil
