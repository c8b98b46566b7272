/-!
# Ranges of code points

A class of characters given as ascending inclusive ranges of code points.
-/

namespace SharedPages.Text

/-- Inclusive ranges of code points, first and last. -/
abbrev CodeRanges := List (Nat × Nat)

/-- The character lies in one of the ranges. -/
def CodeRanges.contains (ranges : CodeRanges) (c : Char) : Bool :=
  ranges.any fun r => r.1 ≤ c.toNat && c.toNat ≤ r.2

end SharedPages.Text
