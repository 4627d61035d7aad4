import QueryWeave.Engine.Session
import QueryWeave.Import.ResultLine

/-!
# Statements of an import

An import replaces a table: it drops the old one, creates a new one and inserts the rows. Names are
quoted, and values are never part of a statement but bound to its placeholders. How both are written
depends on the kind of database.
-/

namespace QueryWeave

open Text

namespace Statement

variable (d : Dialect)

/-- Removes a table. -/
def drop (table : Text) : Text := "DROP TABLE ".toList ++ d.quote table

/-- A column in the creation of a table. -/
def column (c : Text × ColumnType) : Text := d.quote c.1 ++ ' ' :: c.2.name

/-- Creates a table. -/
def create (temporary : Bool) (table : Text) (columns : List (Text × ColumnType)) : Text :=
  "CREATE ".toList ++ (if temporary then "TEMPORARY ".toList else []) ++ "TABLE ".toList ++
    d.quote table ++ " (".toList ++ join ", " (columns.map (column d)) ++ [')']

/-- Inserts a row. -/
def insert (table : Text) (row : ResultRow) : Text :=
  "INSERT INTO ".toList ++ d.quote table ++ " (".toList ++
    join [','] (row.map fun a => d.quote a.1) ++ ") VALUES (".toList ++
    join [','] ((List.range row.length).map d.placeholder) ++ [')']

end Statement

end QueryWeave
