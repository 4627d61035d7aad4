import QueryWeave.Number.Numeral
import QueryWeave.Result.Table
import QueryWeave.Text.Width.Columns

/-!
# Box tables

A result is drawn as a table with a frame of `+`, `-` and `|`. Every column is as wide as its widest
text. Names are aligned to the right, and so are the cells of columns that hold numbers alone; other
cells are aligned to the left.
-/

namespace QueryWeave

open Text

/-- The number of display columns that a row of texts needs. -/
def widest (texts : List Text) : Nat := (texts.map Text.columns).foldl max 0

namespace ResultTable

/-- The width of column `j`, its name included. -/
def boxWidth (t : ResultTable) (j : Nat) : Nat :=
  widest ((t.columns[j]?.getD []) :: (t.column j).map Cell.text)

/-- Whether every cell of column `j` that is not NULL is a number. -/
def isNumeric (t : ResultTable) (j : Nat) : Bool :=
  (t.column j).all fun c => match c with
    | none => true
    | some s => isNumber s

/-- A line of the frame between columns of given widths. -/
def divider (widths : List Nat) : Text :=
  "+-".toList ++ join "+-" (widths.map fun w => fill (w + 1) '-') ++ ['+']

/-- A line of cells that are already padded. -/
def boxLine (cells : List Text) : Text :=
  "| ".toList ++ join "| " (cells.map (· ++ [' '])) ++ ['|']

/-- A cell padded to its column. -/
def boxCell (numeric : Bool) (width : Nat) (s : Text) : Text :=
  if numeric then padLeft s width else padRight s width

/-- The cells of a row, padded to the columns, which are given by width and alignment. -/
def boxCells (layout : List (Nat × Bool)) (row : List Cell) : List Text :=
  layout.mapIdx fun j (width, numeric) => boxCell numeric width (cellOf row j).text

/-- The lines of the box table of a result. -/
def box (t : ResultTable) : List Text :=
  let widths := (List.range t.columnCount).map t.boxWidth
  let layout := widths.mapIdx fun j width => (width, t.isNumeric j)
  let names := t.columns.zipWith (fun name width => padLeft name width) widths
  [divider widths, boxLine names, divider widths] ++
    t.rows.map (fun row => boxLine (boxCells layout row)) ++ [divider widths]

/-- The cells of a line of a box table are those that fit in the columns. -/
theorem boxCells_eq (t : ResultTable) (row : List Cell) :
    boxCells (((List.range t.columnCount).map t.boxWidth).mapIdx fun j width =>
      (width, t.isNumeric j)) row =
      (List.range t.columnCount).map fun j =>
        boxCell (t.isNumeric j) (t.boxWidth j) (cellOf row j).text := by
  apply List.ext_getElem?
  intro j
  simp only [boxCells, List.getElem?_mapIdx, List.getElem?_map]
  cases h : (List.range t.columnCount)[j]? with
  | none => rfl
  | some k =>
    obtain ⟨hj, hk⟩ := List.getElem?_eq_some_iff.1 h
    rw [List.getElem_range] at hk
    subst hk
    rfl

end ResultTable

end QueryWeave
