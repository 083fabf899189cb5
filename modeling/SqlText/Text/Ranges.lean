/-!
# Ranges — classes of characters by code point

A class of characters that follows no rule is given by its members, as a list of ranges of
code points with both ends included.
-/

namespace SqlText.Text

/-- A code point within one of the ranges. -/
def inRanges (ranges : List (Nat × Nat)) (code : Nat) : Bool :=
  ranges.any fun range => range.1 ≤ code && code ≤ range.2

end SqlText.Text
