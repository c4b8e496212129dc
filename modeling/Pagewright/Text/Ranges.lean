/-
Classes of characters kept as ranges of code points, both ends included.
-/

namespace Pagewright.Text

/-- is `n` inside one of the ranges -/
def inRanges (ranges : List (Nat × Nat)) (n : Nat) : Bool :=
  ranges.any fun r => r.1 ≤ n && n ≤ r.2

end Pagewright.Text
