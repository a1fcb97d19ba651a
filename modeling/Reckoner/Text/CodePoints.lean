/-!
# Sets of code points

A Unicode property is given as an increasing list of closed ranges of code points. Membership
walks the list and stops at the first range that ends at or above the code point, so characters
of the first ranges are decided after a step or two.
-/

set_option autoImplicit false

namespace Reckoner.Text

/-- A set of code points as increasing, disjoint, closed ranges. -/
structure CodePoints where
  ranges : List (Nat × Nat)

/-- Membership of a number in increasing, disjoint, closed ranges. -/
def inRanges : List (Nat × Nat) → Nat → Bool
  | [], _ => false
  | (first, last) :: later, n => if n ≤ last then decide (first ≤ n) else inRanges later n

/-- Membership of a character. -/
def CodePoints.contains (set : CodePoints) (c : Char) : Bool :=
  inRanges set.ranges c.toNat

end Reckoner.Text
