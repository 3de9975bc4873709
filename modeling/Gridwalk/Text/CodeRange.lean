/-!
# Ranges of code points

A property of characters is given as a list of ranges of code points in ascending order.
-/

namespace Gridwalk.Text

/-- The code point lies in one of the ranges, whose ends belong to them. -/
def inRanges (ranges : List (Nat × Nat)) (code : Nat) : Bool :=
  ranges.any fun r => r.1 ≤ code && code ≤ r.2

end Gridwalk.Text
