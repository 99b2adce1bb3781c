/-! Sets of characters, given by the code points where membership changes. -/
namespace Stencil.Text

/-- Search between `lo` and `hi` for the number of bounds that are at most `n`. -/
def boundsUpTo (bounds : Array Nat) (n : Nat) : Nat → Nat → Nat → Nat
  | 0, lo, _ => lo
  | fuel + 1, lo, hi =>
    if lo < hi then
      let mid := (lo + hi) / 2
      if bounds[mid]?.getD 0 ≤ n then boundsUpTo bounds n fuel (mid + 1) hi
      else boundsUpTo bounds n fuel lo mid
    else lo

/-- A character is in the set when an odd number of bounds is at most its code point. -/
def inSet (bounds : Array Nat) (c : Char) : Bool :=
  boundsUpTo bounds c.toNat (bounds.size + 1) 0 bounds.size % 2 == 1

end Stencil.Text
