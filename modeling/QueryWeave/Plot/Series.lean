import QueryWeave.Text.Basic

/-!
# Plots

A plot of several curves, independent of the kind of document that it is written into.
-/

namespace QueryWeave

/-- One point of a curve, with error terms where the result has columns for them. -/
structure Point where
  x : Text
  y : Text
  xError : Option Text := none
  yError : Option Text := none
  deriving DecidableEq, Repr, Inhabited

/-- One curve. -/
structure Series where
  legend : Text
  /-- The legend is plain text and not markup. -/
  isPlain : Bool := false
  points : List Point
  deriving DecidableEq, Repr, Inhabited

/-- Several curves. -/
structure MultiPlot where
  series : List Series
  /-- The result has a column of error terms. -/
  hasErrors : Bool
  deriving DecidableEq, Repr, Inhabited

end QueryWeave
