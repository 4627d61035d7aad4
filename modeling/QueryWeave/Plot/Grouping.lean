import QueryWeave.Plot.Header
import QueryWeave.Plot.Series
import QueryWeave.Result.Cursor

/-!
# Curves of a result

The rows of a result become points in order. Adjacent points with the same values in the columns of
the header belong to one curve, and the first of them gives the curve its legend. Rows without both
coordinates are left out; they do not separate the rows around them.

Main statement: the points of the curves, one after the other, are the points of the rows
(`points_gather`).
-/

namespace QueryWeave

open Text

/-- Where a plot finds its values in a row. -/
structure PlotColumns where
  x : Nat
  y : Nat
  xError : Option Nat
  yError : Option Nat
  groups : List Nat
  legend : Option Nat
  deriving DecidableEq, Repr

/-- A row of a result as a plot sees it. -/
structure PlotRow where
  key : List Text
  legend : Text
  point : Point
  deriving DecidableEq, Repr

namespace MultiPlotHeader

/-! ## Columns -/

/-- A column that must be there. -/
def need (c : Cursor) (name : Text) (role : ColumnRole) : Except ShapeFault Nat :=
  match c.findColumn? name with
  | some j => .ok j
  | none => .error (.missingColumn name role)

/-- The columns of a result that the plot needs or can use. -/
def columns (h : MultiPlotHeader) (c : Cursor) : Except ShapeFault PlotColumns := do
  let x ← need c "x" .coordinate
  let y ← need c "y" .coordinate
  let groups ← h.groups.mapM fun name => need c name .group
  let legend ← match h.legend.column? with
    | some name => some <$> need c name .legend
    | none => .ok none
  .ok ⟨x, y, c.findColumn? "xerr", c.findColumn? "yerr", groups, legend⟩

/-! ## Rows -/

/-- The text of a cell in a row. -/
def textAt (row : List Cell) (column : Nat) : Text := Cell.text (ResultTable.cellOf row column)

/-- The legend that is made from the values of the columns of the header. -/
def groupLegend (names values : List Text) : Text :=
  join [','] (names.zipWith (fun name value => name ++ '=' :: value) values)

/-- A row as the plot sees it, unless a coordinate is NULL. -/
def plotRow? (h : MultiPlotHeader) (cols : PlotColumns) (row : List Cell) : Option PlotRow :=
  if ResultTable.cellOf row cols.x = none ∨ ResultTable.cellOf row cols.y = none then none
  else
    let key := cols.groups.map (textAt row)
    some {
      key
      legend := match cols.legend with
        | some j => textAt row j
        | none => groupLegend h.groups key
      point := {
        x := textAt row cols.x
        y := textAt row cols.y
        xError := cols.xError.map (textAt row)
        yError := cols.yError.map (textAt row) } }

/-- The indices of the rows that are left out, where the first row has index `first`. -/
def skipped (h : MultiPlotHeader) (cols : PlotColumns) (first : Nat) :
    List (List Cell) → List Nat
  | [] => []
  | row :: rows =>
    let later := h.skipped cols (first + 1) rows
    if (h.plotRow? cols row).isNone then first :: later else later

/-! ## Curves -/

/-- The curves of the rows with the values that tell them apart. -/
def gather (isPlain : Bool) : List PlotRow → List (List Text × Series)
  | [] => []
  | row :: rows =>
    match gather isPlain rows with
    | [] => [(row.key, ⟨row.legend, isPlain, [row.point]⟩)]
    | (key, series) :: rest =>
      if key = row.key then (key, ⟨row.legend, isPlain, row.point :: series.points⟩) :: rest
      else (row.key, ⟨row.legend, isPlain, [row.point]⟩) :: (key, series) :: rest

/-- The plot of the rows. -/
def plotOf (h : MultiPlotHeader) (cols : PlotColumns) (rows : List (List Cell)) : MultiPlot where
  series := (gather (h.legend == .plainTitle) (rows.filterMap (h.plotRow? cols))).map Prod.snd
  hasErrors := cols.xError.isSome || cols.yError.isSome

/-- Curves lose no point and keep the order. -/
theorem points_gather (isPlain : Bool) (rows : List PlotRow) :
    ((gather isPlain rows).map fun s => s.2.points).flatten = rows.map PlotRow.point := by
  induction rows with
  | nil => rfl
  | cons row rows ih =>
    simp only [gather, List.map_cons, ← ih]
    split
    · simp [*]
    · split <;> simp [*]

end MultiPlotHeader

end QueryWeave
