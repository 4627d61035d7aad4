import QueryWeave.Database.Connection
import QueryWeave.Text.Lines

/-!
# Stored databases

A database is kept in a file as the statements that create and fill its tables, after a first line
that tells such files from others.
-/

namespace QueryWeave

open Text

namespace Stored

/-- The first line of the file of a database. -/
def header : Text := "-- QueryWeave database"

/-- The type by which a column is created that has an affinity. -/
def typeName : Affinity → Text
  | .text => "VARCHAR"
  | .integer => "BIGINT"
  | .real => "DOUBLE PRECISION"
  | .none => "BLOB"

/-- The two hexadecimal digits of a byte. -/
def hexByte (b : UInt8) : Text :=
  let digits := Nat.toDigits 16 b.toNat
  fill (2 - digits.length) '0' ++ digits

/-- A binary64 number in a statement: nineteen digits, which read back as the same number, and an
exponent. An infinite number is a numeral that is too large. -/
def real : Double → Text
  | .finite negative m =>
    let e := if m = 0 then 0 else Double.decimalExponent m - 19
    let digits := Double.roundHalfEven (m * Nat.pow 10 (-e).toNat) (Double.one * Nat.pow 10 e.toNat)
    Double.signedText negative (ofNat digits ++ 'e' :: ofInt e)
  | .infinite negative => Double.signedText negative "1e999"
  | .nan => "NULL"

/-- A value in a statement. -/
def value : Value → Text
  | .null => "NULL"
  | .integer i => ofInt i
  | .real x => real x
  | .text s => quoted '\'' s
  | .blob bytes => "X'".toList ++ bytes.flatMap hexByte ++ ['\'']

/-- A list of items in parentheses. -/
def parenthesized (items : List Text) : Text := '(' :: (join ", " items ++ [')'])

/-- The names that a row of a table is inserted with. The number of the row comes first, if there
is a name for it that no column has. -/
def insertedNames (t : TableData) : List Text :=
  ((TableData.numberNames.find? t.namesNumber).toList ++ t.columns.map Prod.fst).map (quoted '"')

/-- The values that a row of a table is inserted with. -/
def insertedValues (t : TableData) (row : TableRow) : List Text :=
  (if TableData.numberNames.any t.namesNumber then [ofInt row.number] else []) ++
    row.values.map value

/-- The statements that create and fill a table. -/
def table (t : TableData) : List Text :=
  ("CREATE TABLE ".toList ++ quoted '"' t.name ++ ' ' ::
    parenthesized (t.columns.map fun c => quoted '"' c.1 ++ ' ' :: typeName c.2) ++ [';']) ::
  t.rows.map fun row =>
    "INSERT INTO ".toList ++ quoted '"' t.name ++ ' ' :: parenthesized (insertedNames t) ++
      " VALUES ".toList ++ parenthesized (insertedValues t row) ++ [';']

/-- The text of a database file. -/
def ofSchema (s : Schema) : Text := unlines (header :: s.flatMap table)

/-- The tables of a database file, if the text is one. -/
def toSchema? (text : Text) : Option Schema :=
  match after? header text with
  | none => none
  | some statements =>
    match Reach.execute statements ({}, ⟨[], []⟩) with
    | (.ok _, c, _) => some c.tables
    | (.error _, _) => none

/-- The node of a file with given contents: a database if it can be read as one. -/
def node (bytes : ByteArray) : Node :=
  match (ofUtf8? bytes).bind toSchema? with
  | some s => .database s
  | none => .file bytes

/-- The contents of the file of a node. -/
def bytes? : Node → Option ByteArray
  | .directory => none
  | .file bytes => some bytes
  | .database s => some (toUtf8 (ofSchema s))
  | .shared .. => none

end Stored

end QueryWeave
