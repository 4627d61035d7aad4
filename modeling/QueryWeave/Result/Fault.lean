import QueryWeave.Directive.Keyword
import QueryWeave.Document.Kind

/-!
# Faults of shape

What is wrong with a result, or with the description of it, that a directive cannot lay out.
-/

namespace QueryWeave

open Text

/-- What a column is needed for. -/
inductive ColumnRole
  | coordinate | group | legend
  deriving DecidableEq, Repr

/-- Why a directive cannot lay out a result. -/
inductive ShapeFault
  /-- The columns that tell the curves of a plot apart are not listed. -/
  | noGroups
  /-- Legends cannot come from a column of this name. -/
  | unknownLegend (name : Text)
  /-- No query follows the list of columns. -/
  | noQuery
  | missingColumn (name : Text) (role : ColumnRole)
  /-- Macros need exactly one row. -/
  | rowCount (n : Nat)
  /-- No name of a macro can be made from the name of a column. -/
  | noMacroName (column : Text) (kind : DocumentKind)
  deriving DecidableEq, Repr

/-- What a column is needed for, as the end of a message. -/
def ColumnRole.reason : ColumnRole → String
  | coordinate => ""
  | group => ", which is a MULTIPLOT group field"
  | legend => ", which is the MULTIPLOT legend"

/-- What the name of a macro is called in a kind of document. -/
def DocumentKind.macroNoun : DocumentKind → String
  | latex => "LaTeX macro name"
  | gnuplot => "gnuplot variable name"

namespace ShapeFault

/-- The directive that has the fault. -/
def keyword : ShapeFault → Keyword
  | noGroups | unknownLegend _ | noQuery | missingColumn .. => .multiPlot
  | rowCount _ | noMacroName .. => .defMacro

/-- The fault in words. -/
def message : ShapeFault → String
  | noGroups => "requires a group column list: MULTIPLOT(col,...) SELECT ..."
  | unknownLegend name => s!"unknown legend column '{shown name}', use title or ptitle"
  | noQuery => "requires a query after the group column list"
  | missingColumn name role => s!"result contains no '{shown name}' column{role.reason}."
  | rowCount n => s!"query returned {shown (ofNat n)} rows, expected exactly one"
  | noMacroName column kind => s!"column '{shown column}' does not yield a {kind.macroNoun}"

end ShapeFault

end QueryWeave
