import QueryWeave.Reformat.Error
import QueryWeave.Text.White

/-!
# Number ranges

A set of row or column numbers is written as numbers and inclusive ranges between commas, such as
`3,4 - 7,10-11`.
-/

namespace QueryWeave

open Text

/-- Inclusive ranges of numbers, in the order in which they were written. -/
abbrev Ranges := List (Nat × Nat)

namespace Ranges

/-- Whether a number lies in one of the ranges. -/
def covers (rs : Ranges) (n : Nat) : Bool := rs.any fun (low, high) => low ≤ n && n ≤ high

/-- The numbers of the ranges in ascending order, each once. -/
def toSorted (rs : Ranges) : List Nat :=
  let all := rs.flatMap fun (low, high) => (List.range (high + 1 - low)).map (low + ·)
  (all.mergeSort (· ≤ ·)).eraseDups

/-! ## Reading -/

/-- One number of 64 bits in a list `whole`. -/
def number (whole s : Text) : Except ClauseError Nat :=
  match digits? s with
  | none => .error (.badNumber s whole)
  | some n => if n < limit64 then .ok n else .error (.numberTooLarge whole)

/-- One number or range in a list `whole`. -/
def item (whole s : Text) : Except ClauseError (Nat × Nat) :=
  match cut? '-' s with
  | none => (number whole (trim s)).map fun n => (n, n)
  | some (first, second) => do
    let low ← number whole (trim first)
    let high ← number whole (trim second)
    if high < low then .error (.reversed low high whole) else .ok (low, high)

/-- Reads a list of numbers and ranges. -/
def read (s : Text) : Except ClauseError Ranges := (s.splitOn ',').mapM (item s)

/-! ## Writing -/

/-- A number or a range. -/
def writeItem : Nat × Nat → Text
  | (low, high) => if low = high then ofNat low else ofNat low ++ '-' :: ofNat high

/-- Writes a list of numbers and ranges. -/
def write (rs : Ranges) : Text := join [','] (rs.map writeItem)

end Ranges

end QueryWeave
