import QueryWeave.Import.ColumnType
import QueryWeave.Import.Options
import QueryWeave.Text.White

/-!
# Result lines

Programs print their measurements as lines such as `RESULT algo=quicksort size=1024 ok`. After the
marker, fields stand between tabs or, if the line has no tab, between spaces. A field is a key and a
value with an equals sign between them, or else a key that is set.
-/

namespace QueryWeave

open Text

/-- The assignments of one line, in order. -/
abbrev ResultRow := List (Text × Text)

namespace ResultRow

/-! ## Reading a line -/

/-- The words that mark a result line; a blank must follow. -/
def markers : List Text := ["RESULT", "// RESULT", "# RESULT"].map String.toList

/-- What follows a marker and its blank. -/
def afterMarker? (line marker : Text) : Option Text :=
  match after? marker line with
  | some (c :: rest) => if isBlank c then some rest else none
  | _ => none

/-- The part of a line that holds fields, if the line counts. -/
def payload? (options : ImportOptions) (line : Text) : Option Text :=
  match markers.findSome? (afterMarker? line) with
  | some rest => some rest
  | none => if options.allLines then some line else none

/-- The fields of a text, the empty ones included. -/
def fields (s : Text) : List Text := s.splitOn (if s.contains '\t' then '\t' else ' ')

/-- The value of a key that is set. -/
def setValue : Text := ['1']

/-- The assignment of the field at position `i`. -/
def assignment (options : ImportOptions) (i : Nat) (field : Text) : Text × Text :=
  match cut? '=' field with
  | some (key, value) => (key, value)
  | none => if options.columnNumbers then ("col".toList ++ ofNat i, field) else (field, setValue)

/-- The assignments of a line, if it counts; empty fields have none, but they have a position. -/
def ofLine? (options : ImportOptions) (line : Text) : Option ResultRow :=
  (payload? options line).map fun s =>
    (fields s).zipIdx.filterMap fun (field, i) =>
      if field.isEmpty then none else some (assignment options i field)

/-! ## Reading all lines -/

/-- The lines that count, with their assignments. -/
def counting (options : ImportOptions) (lines : List Text) : List (Text × ResultRow) :=
  lines.filterMap fun line => (ofLine? options line).map fun row => (line, row)

/-- The lines without those that occurred before. -/
def distinct (seen : List Text) : List (Text × ResultRow) → List (Text × ResultRow)
  | [] => []
  | (line, row) :: rest =>
    if seen.contains line then distinct seen rest
    else (line, row) :: distinct (line :: seen) rest

/-- The rows that are loaded. -/
def ofLines (options : ImportOptions) (lines : List Text) : List ResultRow :=
  let kept := counting options lines
  (if options.noDuplicates then distinct [] kept else kept).map Prod.snd

/-! ## Columns -/

/-- The columns with one more assignment: a new column at the end, or the type of a known one made
wide enough. -/
def addColumn (columns : List (Text × ColumnType)) (a : Text × Text) : List (Text × ColumnType) :=
  match columns with
  | [] => [(a.1, .ofValue a.2)]
  | (key, t) :: rest =>
    if key = a.1 then (key, t.wider (.ofValue a.2)) :: rest else (key, t) :: addColumn rest a

/-- The columns of a table that holds the rows. -/
def columns (options : ImportOptions) (rows : List ResultRow) : List (Text × ColumnType) :=
  (if options.firstLine then rows.take 1 else rows).flatten.foldl addColumn []

end ResultRow

end QueryWeave
