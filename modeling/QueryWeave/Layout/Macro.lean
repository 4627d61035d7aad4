import QueryWeave.Reformat.Cell
import QueryWeave.Result.Fault

/-!
# Macros

A result of one row defines a macro for each of its columns.
-/

namespace QueryWeave

/-- A macro by the name of its column, and its value. -/
structure Macro where
  column : Text
  value : Text
  deriving DecidableEq, Repr

namespace Macro

/-- The macros of the only row of a table. -/
def ofTable (t : ResultTable) (r : Reformat) : Except ShapeFault (List Macro) :=
  match t.rows with
  | [row] => .ok (t.columns.mapIdx fun j name => ⟨name, r.cell 0 j (ResultTable.cellOf row j).text⟩)
  | rows => .error (.rowCount rows.length)

end Macro

end QueryWeave
