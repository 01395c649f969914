/-!
# Sets of characters given by their boundaries

* `CharSet`: the ascending code points at which membership flips, so a set of a few hundred
  ranges is one array of numbers.
* `CharSet.contains`: a character belongs to the set when an odd number of boundaries lie at
  or below it.
* `CharSet.position`: how many boundaries lie at or below a code point, by bisection.
* `CharSet.meets`: whether a member lies in a range of code points.
-/

namespace FunctionManual.Text

/-- A set of characters: the code points at which membership flips, in ascending order. -/
structure CharSet where
  bounds : Array Nat

namespace CharSet

/-- Bisects the slots `lo` to `hi` for the number of boundaries at or below `n`. -/
def bisect (bounds : Array Nat) (n lo hi : Nat) : Nat :=
  if h : lo < hi then
    let mid := (lo + hi) / 2
    if bounds.getD mid 0 ≤ n then bisect bounds n (mid + 1) hi else bisect bounds n lo mid
  else lo
termination_by hi - lo

/-- The number of boundaries at or below the code point `n`. -/
def position (s : CharSet) (n : Nat) : Nat := bisect s.bounds n 0 s.bounds.size

/-- Membership flips at every boundary, so an odd position is inside. -/
def contains (s : CharSet) (c : Char) : Bool := s.position c.toNat % 2 == 1

/-- Whether a member lies between two code points, both included. -/
def meets (s : CharSet) (low high : Nat) : Bool :=
  low ≤ high && (s.position low % 2 == 1 || s.position low < s.position high)

end CharSet

end FunctionManual.Text
