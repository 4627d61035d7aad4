import QueryWeave.Text.Basic

/-!
# Result tables

A result that is in memory as a whole: named columns and rows of cells, each a text or NULL.
-/

namespace QueryWeave

/-- A cell of a result; `none` is NULL. -/
abbrev Cell := Option Text

/-- The text of a cell; NULL is empty. -/
def Cell.text (c : Cell) : Text := c.getD []

/-- A whole result. -/
structure ResultTable where
  query : Text
  columns : List Text
  rows : List (List Cell)
  deriving DecidableEq, Repr, Inhabited

namespace ResultTable

/-- The number of rows. -/
def rowCount (t : ResultTable) : Nat := t.rows.length

/-- The number of columns. -/
def columnCount (t : ResultTable) : Nat := t.columns.length

/-- The cell in a column of a row; outside the row it is NULL. -/
def cellOf (row : List Cell) (j : Nat) : Cell := row[j]?.join

/-- The cells of column `j`, from the first row to the last. -/
def column (t : ResultTable) (j : Nat) : List Cell := t.rows.map fun row => cellOf row j

/-- A row with exactly one cell for every column. -/
def fitted (t : ResultTable) (row : List Cell) : List Cell :=
  (List.range t.columnCount).map (cellOf row)

end ResultTable

end QueryWeave
