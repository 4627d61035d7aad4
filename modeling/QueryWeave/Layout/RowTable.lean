import QueryWeave.Fragment.Latex
import QueryWeave.Fragment.Pairing
import QueryWeave.Layout.BoxTable
import QueryWeave.Layout.EndMarker
import QueryWeave.Reformat.Cell

/-!
# Row tables

A result is written as one line a row, with separators between the cells and a terminator after the
last one. What the author wrote after the terminator of an old row is kept on the new row at its
place.
-/

namespace QueryWeave

open Text

/-- How the rows of a table are written. -/
inductive RowStyle
  /-- Rows of a LaTeX table. -/
  | tabular
  /-- Cells between tabs. -/
  | tabTable
  deriving DecidableEq, Repr

namespace RowStyle

/-- The directive that writes rows of a style. -/
def keyword : RowStyle → Keyword
  | tabular => .tabular
  | tabTable => .tabTable

/-- What stands between two cells. -/
def separator : RowStyle → Text
  | tabular => " & "
  | tabTable => "\t"

/-- What stands after the last cell. -/
def terminator : RowStyle → Text
  | tabular => " \\\\"
  | tabTable => ""

/-- What is kept of an old row. -/
def kept? : RowStyle → Text → Option Text
  | tabular, line => Fragment.rowSuffix? line
  | tabTable, _ => some []

/-- The formatted cells of a table. -/
def cells (t : ResultTable) (r : Reformat) : List (List Text) :=
  t.rows.mapIdx fun i row => (t.fitted row).mapIdx fun j c => r.cell i j c.text

/-- A row of formatted cells, padded to the widths of their columns. -/
def line (style : RowStyle) (widths : List Nat) (row : List Text) : Text :=
  join style.separator (row.zipWith padLeft widths) ++ style.terminator

/-- The rows of a table under a clause. -/
def render (style : RowStyle) (t : ResultTable) (r : Reformat) : List Text :=
  let rows := cells t r
  let widths := (List.range t.columnCount).map fun j =>
    widest (rows.map fun row => row[j]?.getD [])
  rows.map (style.line widths)

/-- New rows with what is kept of the old lines of their block. -/
def carryOver (style : RowStyle) (old new : List Text) : List Text :=
  (Fragment.paired (Fragment.run style.kept? old) new).map fun (row, kept) => row ++ kept.getD []

/-- The change that writes the rows of a table after its directive. -/
def splice (style : RowStyle) (comments : CommentStyle) (query : Text) (lines : List Text)
    (t : ResultTable) (r : Reformat) : Splice :=
  let old := lines.take ((comments.blockSize? style.keyword lines).getD 0)
  comments.closedBlock style.keyword query lines (style.carryOver old (style.render t r))

end RowStyle

end QueryWeave
