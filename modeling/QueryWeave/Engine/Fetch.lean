import QueryWeave.Import.Load
import QueryWeave.Plot.Grouping
import QueryWeave.Reformat.Reader
import QueryWeave.Weave.Output

/-!
# Fetching

A directive is carried out in two steps. First it asks the database, which gives the material that
is to be written; then the material is written, which needs no database. This module is the first
step.
-/

namespace QueryWeave

open Text

variable {ω κ : Type}

namespace Action

/-- The clause and the query of a directive. -/
def splitClause (body : Text) : Action ω κ (Clause × Text) :=
  ofExcept ((Clause.ofQuery body).mapError .reformat)

/-- The table of a query after its clause, with the clause applied to it. -/
def queryFormatted (b : Backend ω κ) (body : Text) : Action ω κ (ResultTable × Reformat) := do
  let (clause, sql) ← splitClause body
  let t ← queryTable b sql
  return (t, .ofTable clause t)

/-- The texts of all rows; a row that cannot be read is a failure. -/
def queryRows (b : Backend ω κ) (sql : Text) : Action ω κ (List (List Text)) := do
  let t ← queryTable b sql
  return t.rows.map (·.map Cell.text)

/-- The curves of a result. Rows that are left out are told, also when a later row cannot be
read. -/
def gatherCurves (h : MultiPlotHeader) (c : Cursor) : Action ω κ MultiPlot := do
  let cols ← ofExcept ((h.columns c).mapError .shape)
  let (rows, fault) := c.read
  (h.skipped cols c.next rows).forM fun i => warn (.skippedRow i)
  match fault with
  | some message => throw (.query c.query message)
  | none => return h.plotOf cols rows

/-- Loads the files of an import directive into a temporary table. -/
def importFiles (b : Backend ω κ) (importer : Importer ω κ) (body : Text) : Action ω κ Unit := do
  let options ← ofExcept ((ImportOptions.ofDirective body).mapError .usage)
  if options.files.isEmpty then throw (.usage .noInputFile)
  let lines ← ofExcept ((readFiles b options.files (← get).world).mapError .importing)
  let _ ← importer lines options true

/-- Carries out what a directive asks of the database. -/
def fetch (b : Backend ω κ) (importer : Importer ω κ) (d : Directive) : Action ω κ Material := do
  match d.keyword with
  | .range => return .nothing
  | .sql =>
    execute b d.body
    return .nothing
  | .importData =>
    importFiles b importer d.body
    return .nothing
  | .connect =>
    connect b d.body
    return .nothing
  | .textTable => return .box (← queryTable b d.body)
  | .tabular =>
    let (t, r) ← queryFormatted b d.body
    return .rows .tabular t r
  | .tabTable =>
    let (t, r) ← queryFormatted b d.body
    return .rows .tabTable t r
  | .plot => return .points (← queryRows b d.body)
  | .multiPlot =>
    let h ← ofExcept ((MultiPlotHeader.read d.body).mapError .shape)
    return .curves (← gatherCurves h (← query b h.query []))
  | .defMacro =>
    let (t, r) ← queryFormatted b d.body
    return .macros (← ofExcept ((Macro.ofTable t r).mapError .shape))

end Action

end QueryWeave
