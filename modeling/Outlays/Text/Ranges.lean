/-!
# Sets of characters as ranges

A property of characters is given by the ranges of code points that have it, both ends included.
-/

namespace Outlays.Text

/-- The code point lies in one of the ranges. -/
def inRanges (ranges : List (Nat × Nat)) (n : Nat) : Bool :=
  ranges.any fun r => r.1 ≤ n && n ≤ r.2

end Outlays.Text
