import QueryWeave.Database.Value

/-!
# Tables

The tables of a database, in the order of their creation. Names of tables and columns are compared
without regard to the case of ASCII letters. Every row has a number of its own, by which the rows
of a table are ordered and which can be asked for like a column.

Main statement: the rows of a table after one more row is put among them (`mem_insertRow`).
-/

namespace QueryWeave

open Text

/-- A row of a table with its number. -/
structure TableRow where
  number : Int
  values : List Value
  deriving DecidableEq, Repr

/-- The value of a column. -/
def TableRow.value (row : TableRow) (column : Nat) : Value := row.values[column]?.getD .null

/-- A table with its rows, in the order of their numbers. -/
structure TableData where
  name : Text
  columns : List (Text × Affinity)
  rows : List TableRow := []
  deriving DecidableEq, Repr

/-- The tables of a database. -/
abbrev Schema := List TableData

/-- Whether two names are the same. -/
def sameName (a b : Text) : Bool := a.map lower == b.map lower

namespace TableData

/-- The position of a column. -/
def column? (t : TableData) (name : Text) : Option Nat :=
  t.columns.findIdx? fun c => sameName c.1 name

/-- The names of the number of a row. -/
def numberNames : List Text := ["rowid", "_rowid_", "oid"].map String.toList

/-- Whether a name means the number of a row, as no column has that name. -/
def namesNumber (t : TableData) (name : Text) : Bool :=
  (t.column? name).isNone && !t.columns.isEmpty && numberNames.any (sameName name)

/-! ## New rows -/

/-- A value for every column: that of the first place where the column is named, or else NULL. -/
def fill (t : TableData) (places : List (Option Nat)) (values : List Value) : List Value :=
  t.columns.mapIdx fun j c =>
    match places.idxOf? (some j) with
    | some k => c.2.store (values[k]?.getD .null)
    | none => .null

/-- The first number from `n` down that no row has, of which `fuel` are tried. -/
def unusedFrom (t : TableData) : (fuel : Nat) → (n : Int) → Int
  | 0, n => n
  | fuel + 1, n => if t.rows.any fun row => row.number = n then unusedFrom t fuel (n - 1) else n

/-- The number of a row that is given none: one more than the largest number, or some number that is
not in use where the largest one cannot be exceeded. -/
def nextNumber (t : TableData) : Int :=
  match t.rows.getLast? with
  | none => 1
  | some row =>
    if row.number + 1 < Value.integerLimit then row.number + 1
    else t.unusedFrom t.rows.length (Value.integerLimit / 2 : Nat)

/-- Rows with one more row at the place of its number. -/
def insertRow (new : TableRow) : List TableRow → List TableRow
  | [] => [new]
  | row :: rows =>
    if new.number < row.number then new :: row :: rows else row :: insertRow new rows

/-- The table with one more row, unless its number is in use. -/
def insert? (t : TableData) (new : TableRow) : Option TableData :=
  if t.rows.any fun row => row.number = new.number then none
  else some { t with rows := insertRow new t.rows }

/-- A row is put among others without any change to them. -/
theorem mem_insertRow (new row : TableRow) (rows : List TableRow) :
    row ∈ insertRow new rows ↔ row = new ∨ row ∈ rows := by
  induction rows with
  | nil => simp [insertRow]
  | cons r rs ih =>
    simp only [insertRow]
    split
    · simp
    · simp only [List.mem_cons, ih]
      exact or_left_comm

end TableData

namespace Schema

/-- The table with a given name. -/
def find? (s : Schema) (name : Text) : Option TableData :=
  List.find? (fun t => sameName t.name name) s

/-- Whether a table has exactly this name. -/
def has (s : Schema) (name : Text) : Bool := s.any fun t => t.name == name

/-- The tables without the one of a given name. -/
def remove (s : Schema) (name : Text) : Schema := s.filter fun t => !sameName t.name name

/-- The tables with one of them in a new state. -/
def put (s : Schema) (new : TableData) : Schema :=
  s.map fun t => if sameName t.name new.name then new else t

end Schema

end QueryWeave
