import QueryWeave.Fragment.Latex
import QueryWeave.Fragment.Pairing
import QueryWeave.Layout.Macro
import QueryWeave.Plot.Series
import QueryWeave.Text.Integer
import QueryWeave.Weave.Splice

/-!
# Weaving into LaTeX documents

Points become the coordinates of `\addplot` lines, curves become pairs of such a line and a legend,
and macros become definitions. What the author wrote around the old coordinates and legends is kept.
-/

namespace QueryWeave

open Text

namespace Latex

/-! ## Lines -/

/-- A row of a result as one coordinate. -/
def coordinate (row : List Text) : Text := " (".toList ++ join [','] (row.map collapse) ++ [')']

/-- An error term that is not given is zero. -/
def errorTerm (e : Option Text) : Text := e.getD ['0']

/-- A point of a curve. -/
def point (withErrors : Bool) (p : Point) : Text :=
  let errors :=
    if withErrors then ") +- (".toList ++ errorTerm p.xError ++ ',' :: errorTerm p.yError else []
  " (".toList ++ p.x ++ ',' :: p.y ++ errors ++ [')']

/-- What surrounds the coordinates of a new plot. -/
def newPlot : Wrap := ⟨"\\addplot coordinates \x7b", "\x7d;"⟩

/-- What surrounds a new legend. -/
def newLegend : Wrap := ⟨Fragment.legendWord, "\x7d;"⟩

/-- A line of coordinates. -/
def plotLine (w : Wrap) (coordinates : Text) : Text := w.head ++ coordinates ++ ' ' :: w.tail

/-- A line with a legend. -/
def legendLine (w : Wrap) (legend : Text) : Text := w.head ++ legend ++ w.tail

/-- The markup of the legend of a curve. -/
def legendOf (s : Series) : Text := if s.isPlain then latexEscape s.legend else s.legend

/-! ## Old lines -/

/-- What is kept of an old curve: what surrounds its coordinates and, if it has one, its legend. -/
abbrev KeptCurve := Wrap × Option Wrap

/-- The old curves at the beginning of the lines. -/
def keptCurves : List Text → List KeptCurve
  | [] => []
  | [line] =>
    match Fragment.plot? line with
    | some w => [(w, none)]
    | none => []
  | line :: second :: rest =>
    match Fragment.plot? line with
    | none => []
    | some w =>
      match Fragment.legend? second with
      | some legend => (w, some legend) :: keptCurves rest
      | none => (w, none) :: keptCurves (second :: rest)

/-- The number of lines that old curves take. -/
def lineCount : List KeptCurve → Nat
  | [] => 0
  | c :: old => (if c.2.isSome then 2 else 1) + lineCount old

/-! ## Changes -/

/-- The change that writes rows as one plot. -/
def plot (rows : List (List Text)) (lines : List Text) : Splice :=
  let coordinates := rows.flatMap coordinate
  match lines.head?.bind Fragment.plot? with
  | some w => ⟨1, [plotLine w coordinates]⟩
  | none => ⟨0, [plotLine newPlot coordinates]⟩

/-- The two lines of a curve. -/
def curveLines (withErrors : Bool) (s : Series) (kept : Option KeptCurve) : List Text :=
  let coordinates := s.points.flatMap (point withErrors)
  let (w, legend) := kept.getD (newPlot, none)
  [plotLine w coordinates, legendLine (legend.getD newLegend) (legendOf s)]

/-- The change that writes the curves of a plot. -/
def multiPlot (p : MultiPlot) (lines : List Text) : Splice :=
  let old := keptCurves lines
  ⟨lineCount old, (Fragment.paired old p.series).flatMap fun (s, kept) =>
    curveLines p.hasErrors s kept⟩

/-- The name of a macro: the ASCII letters of its column, of which there must be one. -/
def macroName (column : Text) : Except ShapeFault Text :=
  match column.filter isLetter with
  | [] => .error (.noMacroName column .latex)
  | name => .ok name

/-- A definition. -/
def macroLine (m : Macro) : Except ShapeFault Text :=
  (macroName m.column).map fun name =>
    "\\def\\".toList ++ name ++ '\x7b' :: m.value ++ ['\x7d']

/-- The change that writes definitions in the place of the old ones. -/
def defMacro (ms : List Macro) (lines : List Text) : Except ShapeFault Splice :=
  (ms.mapM macroLine).map fun new => ⟨(lines.takeWhile Fragment.isMacro).length, new⟩

end Latex

end QueryWeave
