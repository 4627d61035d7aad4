import QueryWeave.Fragment.Gnuplot
import QueryWeave.Fragment.Pairing
import QueryWeave.Layout.Macro
import QueryWeave.Plot.Series
import QueryWeave.Text.Escape
import QueryWeave.Weave.DataFile
import QueryWeave.Weave.Splice

/-!
# Weaving into gnuplot documents

Data go into the data file of the document, and a plot statement refers to them by their positions.
The styling of the entries of an old statement is kept. Macros become assignments.
-/

namespace QueryWeave

open Text

namespace Gnuplot

/-! ## Plot statements -/

/-- A data set that a plot statement refers to. -/
structure DataSet where
  index : Nat
  title : Option Text
  deriving DecidableEq, Repr

/-- The styling of a new entry. -/
def usualStyle : Text := " with linespoints"

/-- The title of an entry. -/
def titlePart : Option Text → Text
  | some t => " title \"".toList ++ gnuplotEscape t ++ ['"']
  | none => []

/-- An entry of a plot statement. -/
def entry (file : Text) (d : DataSet) (style : Text) : Text :=
  "    '".toList ++ file ++ "' index ".toList ++ ofNat d.index ++ titlePart d.title ++ style

/-- What continues a plot statement in the next line. -/
def continuationMark : Text := ", \\"

/-- Entries of which all but the last continue the statement. -/
def continued : List Text → List Text
  | [] => []
  | [line] => [line]
  | line :: next :: rest => (line ++ continuationMark) :: continued (next :: rest)

/-- The first line of a plot statement. -/
def plotHeader : Text := "plot \\"

/-- The styles of the entries of an old statement, and the number of its lines. -/
def oldStatement : List Text → List Text × Nat
  | [] => ([], 0)
  | line :: rest =>
    if Fragment.isPlotHeader line then
      let entries := Fragment.plotEntries rest
      (entries.map PlotEntry.style, entries.length + 1)
    else ([], 0)

/-- The lines of a statement, given data sets with their styles; none without data sets. -/
def statement (file : Text) : List (DataSet × Option Text) → List Text
  | [] => []
  | sets =>
    plotHeader :: continued (sets.map fun (d, style) => entry file d (style.getD usualStyle))

/-- The change that writes a plot statement. -/
def plotStatement (file : Text) (sets : List DataSet) (lines : List Text) : Splice :=
  let (styles, count) := oldStatement lines
  ⟨count, statement file (Fragment.paired styles sets)⟩

/-! ## Data -/

/-- Writes rows as one data set. -/
def addRows (f : DataFile) (body : Text) (rows : List (List Text)) : DataFile :=
  (rows.foldl DataFile.row (f.header ("PLOT ".toList ++ body))).finish

/-- The cells of a point. -/
def pointCells (p : Point) : List Text := [p.x, p.y] ++ p.xError.toList ++ p.yError.toList

/-- Writes a curve as one data set. -/
def addSeries (f : DataFile) (s : Series) : DataFile :=
  ((s.points.map pointCells).foldl DataFile.row
    (f.comment ("index ".toList ++ ofNat f.nextIndex ++ ' ' :: s.legend))).finish

/-- The data sets of curves that are written from position `first` on. -/
def dataSets (first : Nat) (series : List Series) : List DataSet :=
  series.mapIdx fun i s => ⟨first + i, some s.legend⟩

/-! ## Changes -/

/-- Writes rows as one plot. -/
def plot (f : DataFile) (body : Text) (rows : List (List Text)) (lines : List Text) :
    Splice × DataFile :=
  (plotStatement f.name [⟨f.nextIndex, none⟩] lines, addRows f body rows)

/-- Writes the curves of a plot. -/
def multiPlot (f : DataFile) (command : Text) (p : MultiPlot) (lines : List Text) :
    Splice × DataFile :=
  (plotStatement f.name (dataSets f.nextIndex p.series) lines,
    p.series.foldl addSeries (f.header command))

/-- A character that the name of a variable can have. -/
def isNameChar (c : Char) : Bool := isLetter c || isDigit c || c == '_'

/-- The name of a variable: the characters of its column that a name can have, of which there must
be one, and an underscore before a digit at the beginning. -/
def macroName (column : Text) : Except ShapeFault Text :=
  match column.filter isNameChar with
  | [] => .error (.noMacroName column .gnuplot)
  | c :: name => .ok (if isDigit c then '_' :: c :: name else c :: name)

/-- A number as it is, and any other text between quotes. -/
def macroValue (value : Text) : Text := if isNumber value then value else quoted '\'' value

/-- An assignment. -/
def macroLine (m : Macro) : Except ShapeFault Text :=
  (macroName m.column).map fun name => name ++ " = ".toList ++ macroValue m.value

/-- The change that writes assignments in the place of the old ones. -/
def defMacro (ms : List Macro) (lines : List Text) : Except ShapeFault Splice :=
  (ms.mapM macroLine).map fun new => ⟨(lines.takeWhile Fragment.isAssignment).length, new⟩

end Gnuplot

end QueryWeave
