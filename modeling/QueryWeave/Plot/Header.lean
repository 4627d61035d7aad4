import QueryWeave.Result.Fault

/-!
# Headers of plots

A plot of several curves begins with a list in parentheses of the columns that tell the curves apart
and, after a bar, where the legends come from: `(algo, n | title) SELECT …`. In the query that
follows, the word `MULTIPLOT` stands for the listed columns.
-/

namespace QueryWeave

open Text

/-- Where the legends of the curves come from. -/
inductive LegendSource
  /-- From the values of the columns that tell the curves apart. -/
  | groups
  /-- From a column of markup. -/
  | title
  /-- From a column of plain text. -/
  | plainTitle
  deriving DecidableEq, Repr

namespace LegendSource

/-- The column that holds the legends. -/
def column? : LegendSource → Option Text
  | groups => none
  | title => some "title"
  | plainTitle => some "ptitle"

/-- The source that is chosen by the name of its column. -/
def ofColumn? (name : Text) : Option LegendSource :=
  [title, plainTitle].find? fun s => s.column? == some name

end LegendSource

/-- The header of a plot and the query after it. -/
structure MultiPlotHeader where
  groups : List Text
  legend : LegendSource
  /-- The query with the columns in the place of the word that stands for them. -/
  query : Text
  deriving DecidableEq, Repr

namespace MultiPlotHeader

/-- The columns in the place of every `MULTIPLOT`. -/
def fillIn (groups : List Text) (query : Text) : Text :=
  replaceWord 'M' "ULTIPLOT" (join [','] groups) query

/-- The list of columns and the source of the legends, from the text between the parentheses. -/
def splitLegend (list : Text) : Except ShapeFault (Text × LegendSource) :=
  match cut? '|' list with
  | none => .ok (list, .groups)
  | some (columns, name) =>
    match LegendSource.ofColumn? (trim name) with
    | some source => .ok (columns, source)
    | none => .error (.unknownLegend (trim name))

/-- The text between the parentheses, and the text after them. -/
def splitList? (body : Text) : Option (Text × Text) :=
  match trimStart body with
  | '(' :: rest => cut? ')' rest
  | _ => none

/-- Reads a header and its query. -/
def read (body : Text) : Except ShapeFault MultiPlotHeader :=
  match splitList? body with
  | none => .error .noGroups
  | some (list, query) =>
    match splitLegend list with
    | .error e => .error e
    | .ok (columns, legend) =>
      let groups := (columns.splitOn ',').map trim
      if groups.contains [] then .error .noGroups
      else if trim query = [] then .error .noQuery
      else .ok ⟨groups, legend, fillIn groups (trim query)⟩

end MultiPlotHeader

end QueryWeave
