import QueryWeave.Directive.Basic
import QueryWeave.Layout.RowTable
import QueryWeave.Weave.Gnuplot
import QueryWeave.Weave.Latex

/-!
# Weaving

What a directive has fetched is written after it, in the way of the document's kind. Tables look the
same in every kind of document.
-/

namespace QueryWeave

open Text

/-- What a directive has fetched. -/
inductive Material
  /-- The directive writes nothing. -/
  | nothing
  /-- A table in a box. -/
  | box (t : ResultTable)
  /-- Rows of formatted cells. -/
  | rows (style : RowStyle) (t : ResultTable) (r : Reformat)
  /-- The points of one curve. -/
  | points (rows : List (List Text))
  | curves (p : MultiPlot)
  | macros (ms : List Macro)
  deriving Repr

/-- Where the results of a document go: a gnuplot document has a data file besides its lines. -/
inductive Output
  | latex
  | gnuplot (data : DataFile)
  deriving DecidableEq, Repr

namespace Output

/-- The output of a document before its first directive. The name of a data file is made from the
name of the document unless another one is given. -/
def start (kind : DocumentKind) (document : Text) (dataFile : Option Text) : Output :=
  match kind with
  | .latex => latex
  | .gnuplot => gnuplot { name := dataFile.getD (DataFile.nameFor document) }

/-- The kind of the document. -/
def kind : Output → DocumentKind
  | latex => .latex
  | gnuplot _ => .gnuplot

/-- The comments of the document. -/
def comments (o : Output) : CommentStyle := ⟨o.kind.marker⟩

/-- The data file, if there is one. -/
def dataFile? : Output → Option DataFile
  | latex => none
  | gnuplot f => some f

/-- The change of the lines after a directive that writes what it has fetched, and the output after
it. -/
def weave (o : Output) (d : Directive) (m : Material) (lines : List Text) :
    Except ShapeFault (Splice × Output) :=
  match m, o with
  | .nothing, _ => .ok (.none, o)
  | .box t, _ => .ok (o.comments.closedBlock .textTable d.body lines t.box, o)
  | .rows style t r, _ => .ok (style.splice o.comments d.body lines t r, o)
  | .points rows, latex => .ok (Latex.plot rows lines, latex)
  | .points rows, gnuplot f =>
    let (s, f) := Gnuplot.plot f d.body rows lines
    .ok (s, gnuplot f)
  | .curves p, latex => .ok (Latex.multiPlot p lines, latex)
  | .curves p, gnuplot f =>
    let (s, f) := Gnuplot.multiPlot f d.command p lines
    .ok (s, gnuplot f)
  | .macros ms, latex => (Latex.defMacro ms lines).map fun s => (s, latex)
  | .macros ms, gnuplot f => (Gnuplot.defMacro ms lines).map fun s => (s, gnuplot f)

end Output

end QueryWeave
