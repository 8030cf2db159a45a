/-!
# Ranges of characters

A property of characters is held as the list of the ranges that have it,
each by its first and last code point.
-/

namespace SearchQuery.Text

/-- The code points from the first to the last. -/
abbrev Range : Type := Nat × Nat

/-- A character lies in one of the ranges. -/
def inRanges (ranges : List Range) (c : Char) : Bool :=
  ranges.any fun range => range.1 ≤ c.toNat && c.toNat ≤ range.2

end SearchQuery.Text
