import QueryWeave.Import.Statement

/-!
# Loading result lines

Result lines are loaded into a table, which takes the place of an old table of the same name. How
lines are loaded is a parameter of a run; this module holds the usual way.
-/

namespace QueryWeave

open Text

variable {ω κ : Type}

/-- A way to load lines into a table, which is temporary or not; it gives the number of rows. -/
abbrev Importer (ω κ : Type) := List Text → ImportOptions → Bool → Action ω κ Nat

namespace Importer

/-- Removes the table if it exists. -/
def dropOld (b : Backend ω κ) (table : Text) : Action ω κ Unit := do
  if ← Action.hasTable b table then Action.execute b (Statement.drop b.toDialect table)

/-- Inserts one row. -/
def insertRow (b : Backend ω κ) (table : Text) (row : ResultRow) : Action ω κ Unit := do
  let _ ← Action.query b (Statement.insert b.toDialect table row) (row.map Prod.snd)

/-- Replaces the table by one with the rows of the lines. Nothing is sent to the database if the
lines give the table no column. -/
def resultLines (b : Backend ω κ) : Importer ω κ := fun lines options temporary => do
  let rows := ResultRow.ofLines options lines
  let columns := ResultRow.columns options rows
  if columns.isEmpty then throw (.importing (.noLines options.table))
  dropOld b options.table
  Action.execute b (Statement.create b.toDialect temporary options.table columns)
  rows.forM (insertRow b options.table)
  return rows.length

end Importer

/-! ## Reading lines -/

/-- The lines of the named files, one file after the other. -/
def readFiles (b : Backend ω κ) (paths : List Text) (world : ω) : Except ImportFault (List Text) :=
  match paths with
  | [] => .ok []
  | path :: paths =>
    match b.readText path world with
    | .error e => .error (.unreadableFile path e)
    | .ok s => (readFiles b paths world).map (Text.lines s ++ ·)

/-- The lines of bytes that come from no file. -/
def readBytes (bytes : ByteArray) : Except ImportFault (List Text) :=
  match ofUtf8? bytes with
  | some s => .ok (Text.lines s)
  | none => .error (.unreadableInput .notText)

end QueryWeave
