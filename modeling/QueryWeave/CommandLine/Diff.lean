import QueryWeave.Text.Basic

/-!
# Line differences

Two texts are compared line by line. A table holds the length of a longest common subsequence for
every pair of beginnings; walking back through it from the ends gives the common lines. What stands
between two common lines is removed from the first text and then added from the second one.

The walk ends early in the first column: there it compares with the end of the row above, as the
rows of the table follow each other without a gap.

Main statement: the common lines are a subsequence of the first text (`common_sublist`).
-/

namespace QueryWeave

/-- How a line of a comparison came about. -/
inductive DiffSign
  | same | removed | added
  deriving DecidableEq, Repr

namespace DiffSign

/-- The character before the line. -/
def char : DiffSign → Char
  | same => ' '
  | removed => '-'
  | added => '+'

end DiffSign

namespace Diff

/-! ## The table -/

/-- A row of the table from the row above it: for every beginning of the second text, given with the
entry above and the entry above to the left. -/
def row (a : Text) (left : Nat) : List (Text × Nat × Nat) → List Nat
  | [] => []
  | (b, above, corner) :: rest =>
    let n := if b = a then corner + 1 else max left above
    n :: row a n rest

/-- The rows of the table; the row above the first one holds nothing but zeros. -/
def table (as bs : List Text) : List (List Nat) :=
  (as.foldl (fun (rows, above) a =>
    let new := row a 0 (bs.zip (above.zip (0 :: above)))
    (rows ++ [new], new)) (([] : List (List Nat)), bs.map fun _ => 0)).1

/-- The table for look-ups. -/
def tableArray (as bs : List Text) : Array (Array Nat) :=
  ((table as bs).map List.toArray).toArray

/-- An entry of the table. -/
def entry (t : Array (Array Nat)) (i j : Nat) : Nat := (t[i]?.getD #[])[j]?.getD 0

/-! ## The walk -/

/-- Walks back through the beginnings of `i` and `j` lines, collecting common lines. -/
def walk (t : Array (Array Nat)) (as bs : Array Text) :
    (i j : Nat) → (common : List Text) → List Text
  | 0, _, common => common
  | _, 0, common => common
  | i + 1, j + 1, common =>
    if as[i]?.getD [] = bs[j]?.getD [] then walk t as bs i j (as[i]?.getD [] :: common)
    -- in the first row there is nothing above: the line belongs to the second text alone
    else if i = 0 then walk t as bs (i + 1) j common
    else if j = 0 then
      -- what stands to the left of a row is the last entry of the row above
      if entry t (i - 1) 0 < entry t (i - 1) (bs.size - 1) then common
      else walk t as bs i (j + 1) common
    else if entry t (i - 1) j < entry t i (j - 1) then walk t as bs (i + 1) j common
    else walk t as bs i (j + 1) common
termination_by i j => i + j

/-- The common lines of two texts, in order. -/
def common (as bs : List Text) : List Text :=
  walk (tableArray as bs) as.toArray bs.toArray as.length bs.length []

/-! ## The comparison -/

/-- Lines with the same sign. -/
def signed (sign : DiffSign) (lines : List Text) : List (DiffSign × Text) :=
  lines.map fun l => (sign, l)

/-- The lines of two texts around their common lines. -/
def merge : (common as bs : List Text) → List (DiffSign × Text)
  | [], as, bs => signed .removed as ++ signed .added bs
  | c :: cs, as, bs =>
    signed .removed (as.takeWhile (· ≠ c)) ++ signed .added (bs.takeWhile (· ≠ c)) ++
      (.same, c) :: merge cs ((as.dropWhile (· ≠ c)).drop 1) ((bs.dropWhile (· ≠ c)).drop 1)

/-- A list of lines that is one empty line counts as none. -/
def lineless (lines : List Text) : List Text := if lines = [[]] then [] else lines

/-- The comparison of an expected text with an actual one. What follows the last newline is a line,
even if it is empty. -/
def lines (expected actual : Text) : List (DiffSign × Text) :=
  let as := expected.splitOn '\n'
  let bs := actual.splitOn '\n'
  merge (lineless (common as bs)) (lineless as) (lineless bs)

/-! ## Laws -/

private theorem walk_sublist (t : Array (Array Nat)) (as bs : Array Text) (i j : Nat)
    (tail : List Text) (hi : i ≤ as.size) (ht : tail.Sublist (as.toList.drop i)) :
    (walk t as bs i j tail).Sublist as.toList := by
  fun_induction walk t as bs i j tail with
  | case1 => simpa using ht
  | case2 => exact ht.trans (List.drop_sublist _ _)
  | case3 i j tail _ ih =>
    have hi' : i < as.size := by omega
    refine ih (by omega) ?_
    rw [List.drop_eq_getElem_cons (by simpa using hi')]
    simpa [hi'] using ht
  | case4 _ _ _ ih => exact ih hi ht
  | case5 => exact ht.trans (List.drop_sublist _ _)
  | case6 _ _ _ _ _ ih =>
    exact ih (by omega) (ht.trans (List.drop_sublist_drop_left _ (by omega)))
  | case7 _ _ _ _ _ _ _ ih => exact ih hi ht
  | case8 _ _ _ _ _ _ _ ih =>
    exact ih (by omega) (ht.trans (List.drop_sublist_drop_left _ (by omega)))

/-- The common lines stand in the first text in this order. -/
theorem common_sublist (as bs : List Text) : (common as bs).Sublist as := by
  have h := walk_sublist (tableArray as bs) as.toArray bs.toArray as.length bs.length []
    (by simp) (by simp)
  simpa [common] using h

end Diff

end QueryWeave
