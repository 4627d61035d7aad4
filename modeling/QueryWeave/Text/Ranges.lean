/-!
# Sets of code points

Classes of characters that come from a standard are given as ascending lists of inclusive ranges.
-/

namespace QueryWeave.Text

/-- Whether a code point lies in one of the ranges, which are in ascending order: only the first
range that ends at or after it can hold it. -/
def inRanges (n : Nat) : List (Nat × Nat) → Bool
  | [] => false
  | (low, high) :: rest => if n ≤ high then low ≤ n else inRanges n rest

end QueryWeave.Text
