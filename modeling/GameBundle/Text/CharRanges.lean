/-!
# Ranges of code points

A class of characters is given by ascending, disjoint ranges of code points,
both ends included.
-/

namespace GameBundle.Text

/-- Whether a code point lies in one of the ranges. -/
def inRanges (ranges : List (Nat × Nat)) (c : Char) : Bool :=
  ranges.any fun range => range.1 ≤ c.toNat && c.toNat ≤ range.2

end GameBundle.Text
