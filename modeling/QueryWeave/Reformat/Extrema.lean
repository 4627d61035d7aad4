import QueryWeave.Number.Numeral
import QueryWeave.Result.Table

/-!
# Extrema

The smallest and the largest number of a row or column are kept as they are written in the result,
so that every cell with the same text counts as one of them. Of equal numbers in different spellings
the first counts.
-/

namespace QueryWeave

/-- A number and how it is written. -/
abbrev WrittenNumber := Double × Text

/-- The numbers among the texts, in order. -/
def numbersOf (texts : List Text) : List WrittenNumber :=
  texts.filterMap fun s => (number? s).map fun x => (x, s)

/-- The first of the numbers that no other one beats. -/
def firstBest (beats : Double → Double → Bool) : List WrittenNumber → Option WrittenNumber
  | [] => none
  | x :: xs => some (xs.foldl (fun best y => if beats y.1 best.1 then y else best) x)

/-- The texts of the smallest and of the largest number of a line of cells, if it has a number. -/
structure Extrema where
  least : Option Text
  greatest : Option Text
  deriving DecidableEq, Repr, Inhabited

namespace Extrema

/-- The extrema of a line that has no number. -/
def none : Extrema := ⟨.none, .none⟩

/-- The extrema of the texts of a line. -/
def ofTexts (texts : List Text) : Extrema where
  least := (firstBest Double.lt (numbersOf texts)).map Prod.snd
  greatest := (firstBest (fun x y => y.lt x) (numbersOf texts)).map Prod.snd

end Extrema

/-- The extrema of every row and of every column of a table. -/
structure TableExtrema where
  rows : List Extrema
  columns : List Extrema
  deriving DecidableEq, Repr, Inhabited

namespace TableExtrema

/-- The extrema of a table. -/
def ofTable (t : ResultTable) : TableExtrema where
  rows := t.rows.map fun row => .ofTexts ((t.fitted row).map Cell.text)
  columns := (List.range t.columnCount).map fun j => .ofTexts ((t.column j).map Cell.text)

/-- No extrema, for cells that are formatted apart from a table. -/
def none : TableExtrema := ⟨[], []⟩

/-- The extrema of a row. -/
def row (e : TableExtrema) (i : Nat) : Extrema := e.rows[i]?.getD .none

/-- The extrema of a column. -/
def column (e : TableExtrema) (j : Nat) : Extrema := e.columns[j]?.getD .none

end TableExtrema

end QueryWeave
