import QueryWeave.Database.Location
import QueryWeave.Database.Statement
import QueryWeave.Database.Target
import QueryWeave.Engine.Session
import QueryWeave.Files.Tree

/-!
# Connections

A connection sees the tables of its database, which live in memory or in a file, and temporary
tables of its own, which come first. A transaction remembers the state at its beginning; giving the
connection up goes back to that state.

Main statements: undoing a transaction restores the tables that were there at its beginning
(`undo_start`).
-/

namespace QueryWeave

open Text

/-- What a transaction goes back to. -/
structure Snapshot where
  tables : Schema
  temporary : Schema
  /-- What stands at the place of the database file. -/
  file : Option Node

/-- A connection to a database. -/
structure Connection where
  /-- The place of the database, if it is a file or shared with other connections. -/
  place : Option Place := none
  /-- The database can only be read; temporary tables can still be made and filled. -/
  readOnly : Bool := false
  /-- The tables of a database of the connection's own. -/
  tables : Schema := []
  temporary : Schema := []
  /-- The state at the beginning of the transaction that is under way. -/
  saved : Option Snapshot := none

/-- A connection with the files that it can reach. -/
abbrev Reach := Connection × Tree

namespace Reach

/-! ## Tables -/

/-- The tables of the database. A file that is gone, or holds no more than one byte, is a database
without tables. -/
def tables (r : Reach) : Except SqlFault Schema :=
  match r.1.place with
  | none => .ok r.1.tables
  | some place =>
    match r.2.node? place with
    | some (.database s) | some (.shared _ s) => .ok s
    | some (.file bytes) => if bytes.size ≤ 1 then .ok [] else .error .notDatabase
    | _ => .ok []

/-- The state with other tables in the database. -/
def setTables (r : Reach) (s : Schema) : Reach :=
  match r.1.place with
  | none => ({ r.1 with tables := s }, r.2)
  | some place => (r.1, r.2.putTables place s)

/-- The state with other temporary tables. -/
def setTemporary (r : Reach) (s : Schema) : Reach := ({ r.1 with temporary := s }, r.2)

/-- A table by its name, and whether it is temporary. -/
def find? (r : Reach) (name : Text) : Except SqlFault (Option (TableData × Bool)) :=
  match r.tables with
  | .error e => .error e
  | .ok s =>
    .ok (match r.1.temporary.find? name with
      | some t => some (t, true)
      | none => (s.find? name).map fun t => (t, false))

/-- The state after a change of the tables among which a known table stands. -/
def change (r : Reach) (isTemporary : Bool) (f : Schema → Schema) : Except SqlFault Reach :=
  if isTemporary then .ok (r.setTemporary (f r.1.temporary))
  else if r.1.readOnly then .error .readOnly
  else r.tables.map fun s => r.setTables (f s)

/-! ## Transactions -/

/-- The state with a transaction under way. -/
def start (r : Reach) : Reach :=
  ({ r.1 with saved := some ⟨r.1.tables, r.1.temporary, r.1.place.bind r.2.node?⟩ }, r.2)

/-- The state that a transaction began with. -/
def undo (r : Reach) : Reach :=
  match r.1.saved with
  | none => r
  | some s =>
    ({ r.1 with tables := s.tables, temporary := s.temporary, saved := none },
      match r.1.place, s.file with
      | some place, some (.shared _ tables) => r.2.putTables place tables
      | some place, some node => r.2.put place node
      | _, _ => r.2)

/-! ## Queries -/

/-- The value of an expression in a row of a table. -/
def evaluate (values : List Text) (t : TableData) (row : TableRow) :
    Expression → Except SqlFault Value
  | .value v => .ok v
  | .parameter i =>
    .ok (match values[i]? with
      | some s => .text s
      | none => .null)
  | .column name offset isQuoted =>
    match t.column? name with
    | some j => .ok (row.value j)
    | none =>
      if t.namesNumber name then .ok (.integer row.number)
      else if isQuoted then .ok (.text name) else .error (.noColumn name offset)

/-- The name of a column of a result. -/
def resultName (t : TableData) (e : Expression) (given : Option Text) (spelling : Text) : Text :=
  match given, e with
  | some name, _ => name
  | none, .column name _ _ =>
    match t.columns.find? fun c => sameName c.1 name with
    | some c => c.1
    | none => if t.namesNumber name then "rowid" else spelling
  | none, _ => spelling

/-- The table of a query; a query without a table has one row without columns. -/
def source (r : Reach) (table : Option Text) : Except SqlFault TableData :=
  match table with
  | none => .ok ⟨[], [], [⟨0, []⟩]⟩
  | some name =>
    match r.find? name with
    | .error e => .error e
    | .ok none => .error (.noTable name)
    | .ok (some (t, _)) => .ok t

/-- The number of columns that a table or a result can have. -/
def columnLimit : Nat := 2000

/-- The number of parts that a union can have. -/
def termLimit : Nat := 500

/-- One part of a union with its table, and with its columns one by one. -/
structure Part where
  table : TableData
  columns : List (Expression × Option Text × Text)

/-- A part of a union with its table. -/
def locate (r : Reach) (p : SelectPart) : Except SqlFault Part := do
  let t ← r.source p.table
  let columns ← match p.columns with
    | some columns => .ok columns
    | none =>
      if p.table.isNone then .error .noTables
      else .ok (t.columns.map fun c => (.column c.1 0 true, some c.1, c.1))
  if columnLimit < columns.length then .error .tooManyResultColumns else .ok ⟨t, columns⟩

namespace Part

/-- The names of the columns. -/
def names (p : Part) : List Text :=
  p.columns.map fun (e, given, spelling) => resultName p.table e given spelling

/-- The values of a row. -/
def row (values : List Text) (p : Part) (row : TableRow) : Except SqlFault (List Value) :=
  p.columns.mapM fun c => evaluate values p.table row c.1

/-- The position of the first column that has a name, by which it is called or which it has in its
table. -/
def position? (p : Part) (name : Text) : Option Nat :=
  p.columns.findIdx? fun (e, given, _) =>
    match given, e with
    | some given, .column own _ _ => sameName given name || sameName own name
    | some given, _ => sameName given name
    | none, .column own _ _ =>
      sameName own name || (p.table.namesNumber own && p.table.namesNumber name)
    | none, _ => false

end Part

/-- Refuses a part of a union with a column that does not exist, or with another count of columns
than the part after it. -/
def checkPart (values : List Text) (p : Part) (next : Option Part) :
    Except SqlFault (Option Part) := do
  let _ ← p.row values ⟨0, []⟩
  match next with
  | some q => if p.columns.length = q.columns.length then .ok (some p) else .error .unevenUnion
  | none => .ok (some p)

/-- The value by which a row of a single part is sorted, as an expression: a column by the name that
it is given, or else a column of the table. -/
def orderKey (p : Part) (order : WrittenName) : Expression :=
  if order.spelling.head? = some '\'' then .value .null
  else
    match p.columns.find? fun c => c.2.1.any (sameName order.name) with
    | some c => c.1
    | none => .column order.name order.offset (order.spelling.head? = some '"')

/-- Rows in the order of their first values. -/
def sorted (rows : List (Value × List Value)) : List (List Value) :=
  (rows.mergeSort fun a b => a.1.le b.1).map Prod.snd

/-- All rows of a part. -/
def Part.allRows (values : List Text) (p : Part) : Except SqlFault (List (List Value)) :=
  p.table.rows.mapM (p.row values)

/-- The rows of a union of at least one part. -/
def unionRows (values : List Text) (order : Option WrittenName) (parts : List Part) :
    Except SqlFault (List (List Value)) :=
  match order, parts with
  | none, parts => (parts.mapM (Part.allRows values)).map List.flatten
  | some order, [p] => do
    let key := orderKey p order
    let _ ← evaluate values p.table ⟨0, []⟩ key
    let keyed ← p.table.rows.mapM fun row => do
      return (← evaluate values p.table row key, ← p.row values row)
    return sorted keyed
  | some order, parts =>
    match parts.findSome? fun (p : Part) => p.position? order.name with
    | none => .error .noOrderColumn
    | some j => do
      let rows ← parts.mapM (Part.allRows values)
      return sorted (rows.flatten.map fun row => (row[j]?.getD .null, row))

/-- The names and rows of a union. Of faults in several parts the one in the last of them is told,
but tables are looked up before columns. -/
def select (r : Reach) (values : List Text) (first : SelectPart) (more : List SelectPart)
    (order : Option WrittenName) : Except SqlFault (List Text × List (List Value)) := do
  if termLimit < more.length + 1 then throw .tooManyTerms
  let parts ← (first :: more).foldrM (fun p located => return (← r.locate p) :: located) []
  let _ ← parts.foldrM (checkPart values) none
  let rows ← unionRows values order parts
  .ok (match parts with
    | p :: _ => p.names
    | [] => [], rows)

/-! ## Statements -/

/-- Names of tables that begin with this word are reserved. -/
def reservedStart : Text := "sqlite_"

/-- The first name that is the same as one before it; `seen` holds names from further ahead. -/
def repeated? (seen : List Text) : List Text → Option Text
  | [] => none
  | name :: names => if seen.any (sameName name) then some name else repeated? (name :: seen) names

/-- Creates a table. -/
def create (r : Reach) (temporary : Bool) (table : WrittenName)
    (columns : List (Text × Affinity)) : Except SqlFault Reach := do
  if startsWith reservedStart (table.name.map lower) then throw (.reservedName table.name)
  let s ← r.tables
  if ((if temporary then r.1.temporary else s).find? table.name).isSome then
    .error (.tableExists table.spelling table.offset)
  else match repeated? [] ((columns.take columnLimit).map Prod.fst) with
    | some name => .error (.repeatedColumn name)
    | none =>
      if columnLimit < columns.length then .error (.tooManyColumns table.name)
      else r.change temporary (· ++ [⟨table.name, columns, []⟩])

/-- Where the values of a new row go: the position of a column, or nothing for the number of the
row. -/
def placesOf (t : TableData) (table : Text) (columns : Option (List Text)) :
    Except SqlFault (List (Option Nat)) :=
  match columns with
  | none => .ok ((List.range t.columns.length).map some)
  | some names => names.mapM fun name =>
    match t.column? name with
    | some j => .ok (some j)
    | none => if t.namesNumber name then .ok none else .error (.noColumnIn table name)

/-- The number of a new row: the last value that is given for it, as a whole number. -/
def numberOf (t : TableData) (places : List (Option Nat)) (values : List Value) :
    Except SqlFault Int :=
  match ((places.zip values).filter fun p => p.1.isNone).getLast? with
  | none | some (_, .null) => .ok t.nextNumber
  | some (_, v) =>
    match Affinity.integer.store v with
    | .integer i => .ok i
    | _ => .error .mismatch

/-- A table with one more row. -/
def insertValues (t : TableData) (places : List (Option Nat)) (values : List Value) :
    Except SqlFault TableData := do
  let number ← numberOf t places values
  match t.insert? ⟨number, t.fill places values⟩ with
  | some t => .ok t
  | none => .error (.usedNumber t.name)

/-- Inserts rows. -/
def insert (r : Reach) (values : List Text) (table : Text) (columns : Option (List Text))
    (rows : List (List Expression)) : Except SqlFault Reach := do
  match ← r.find? table with
  | none => .error (.noTable table)
  | some (t, isTemporary) =>
    let places ← placesOf t table columns
    -- the first row of another length is the one that is told
    let uneven := rows.find? fun row => row.length ≠ places.length
    match uneven, columns with
    | some row, none => .error (.suppliedCount table places.length row.length)
    | some row, some _ => .error (.valueCount row.length places.length)
    | none, _ =>
      let rows ← rows.mapM fun row => row.mapM (evaluate values ⟨[], [], []⟩ ⟨0, []⟩)
      if r.1.readOnly && !isTemporary then throw .readOnly
      let new ← rows.foldlM (insertValues · places) t
      r.change isTemporary (·.put new)

/-- Carries a statement out: the names and rows of its result, and the state after it. -/
def run (r : Reach) (values : List Text) :
    SqlStatement → Except SqlFault ((List Text × List (List Value)) × Reach)
  | .startTransaction =>
    if r.1.saved.isSome then .error .nestedTransaction else .ok (([], []), r.start)
  | .commit =>
    if r.1.saved.isNone then .error .noTransactionToCommit
    else .ok (([], []), ({ r.1 with saved := none }, r.2))
  | .rollBack =>
    if r.1.saved.isNone then .error .noTransactionToRollBack else .ok (([], []), r.undo)
  | .createTable temporary table columns =>
    (r.create temporary table columns).map fun r => (([], []), r)
  | .dropTable table =>
    match r.find? table with
    | .error e => .error e
    | .ok none => .error (.noTable table)
    | .ok (some (_, isTemporary)) =>
      (r.change isTemporary (·.remove table)).map fun r => (([], []), r)
  | .insert table columns rows => (r.insert values table columns rows).map fun r => (([], []), r)
  | .select first more order => (r.select values first more order).map fun rows => (rows, r)

/-- The number of values that a statement needs. -/
def valuesNeeded : SqlStatement → Nat
  | .insert _ _ rows => needed rows.flatten
  | .select first more _ => needed ((first :: more).flatMap fun p =>
      (p.columns.getD []).map Prod.fst)
  | _ => 0
where
  /-- One more than the largest index of a placeholder. -/
  needed (es : List Expression) : Nat :=
    (es.map fun e => match e with
      | .parameter i => i + 1
      | _ => 0).foldl max 0

/-- Runs the statements of a text, of which at most `fuel` are left, up to one that fails. -/
def batch (sql : Text) (r : Reach) : (fuel : Nat) → (rest : Text) → Except Failure Unit × Reach
  | 0, _ => (.ok (), r)
  | fuel + 1, rest =>
    match SqlStatement.read rest with
    | .error e => (.error (.query sql (e.message rest)), r)
    | .ok none => (.ok (), r)
    | .ok (some (s, rest')) =>
      match r.run [] s with
      | .error e => (.error (.query sql (e.message rest)), r)
      | .ok (_, r) => batch sql r fuel rest'

/-- Runs the statements of a text. -/
def execute (sql : Text) (r : Reach) : Except Failure Unit × Reach :=
  batch sql r (sql.length + 1) sql

/-- Runs the first statement of a text and gives its result. -/
def query (sql : Text) (values : List Text) (r : Reach) : Except Failure Cursor × Reach :=
  match SqlStatement.read sql with
  | .error e => (.error (.query sql (e.message sql)), r)
  | .ok none => (.error (.query sql (SqlFault.empty.message sql)), r)
  | .ok (some (s, _)) =>
    match r.run values s with
    | .error e => (.error (.query sql (e.message sql)), r)
    | .ok ((names, rows), r') =>
      -- the values are counted only for a statement that is otherwise sound
      if values.length = valuesNeeded s then
        (.ok { query := sql, columns := names, rows := rows.map (·.map Value.toCell) }, r')
      else
        (.error (.query sql ((SqlFault.parameterCount values.length (valuesNeeded s)).message sql)),
          r)

/-- The query that tells whether a table of a given name exists. -/
def tableQuery : Text :=
  ("SELECT COUNT(*) FROM (SELECT name FROM sqlite_master WHERE type = 'table' " ++
    "UNION ALL SELECT name FROM sqlite_temp_master WHERE type = 'table') WHERE name = ?1")

/-- Whether there is a table of exactly this name. -/
def hasTable (name : Text) (r : Reach) : Except Failure Bool × Reach :=
  match r.tables with
  | .error e => (.error (.query tableQuery (e.message tableQuery)), r)
  | .ok s => (.ok (s.has name || r.1.temporary.has name), r)

/-! ## Laws -/

/-- Undoing a transaction right after its beginning changes no table. -/
theorem undo_start (r : Reach) : (r.start.undo).1 = { r.1 with saved := none } := by
  obtain ⟨c, t⟩ := r
  simp [start, undo]

end Reach

namespace Connection

/-- Opens the database file of a path. -/
def openFile (path : Path) (l : Location) (access : Access) (t : Tree) :
    Except ConnectFault (Connection × Tree) := do
  let refused := ConnectFault.cannotOpen path
  let place? ← match t.descend [] (t.settled l.path) with
    | .ok [] | .error .notDirectory => throw refused
    | .ok place => pure (some place)
    | .error _ => pure none
  -- another file whose permissions are taken over must exist
  if let some model := l.value? "modeof" then
    if (t.nodeAt model).toOption.isNone then throw .unreadable
  let some place := place? | throw refused
  let readOnly := access = .read || l.holds "immutable"
  match t.node? place with
  | some .directory => throw (if access = .read then .unreadable else refused)
  -- whether a file holds a database shows only when it is read
  | some _ => return ({ place := some place, readOnly }, t)
  | none =>
    if access = .create then
      return ({ place := some place, readOnly }, t.put place (.file .empty))
    else throw refused

/-- The place of a database in memory that is shared under a name. No path leads there, as paths
have no empty components. -/
def sharedPlace (name : Text) : Place := [[], name]

/-- Opens the database of a path, which can be a location. -/
def openPath (path : Path) (t : Tree) : Except ConnectFault (Connection × Tree) := do
  let before := path.takeWhile (· ≠ Char.ofNat 0)
  if before.length < path.length then throw (.holdsNul (utf8Size before))
  let l ← Location.ofPath path
  let access ← l.access
  let readOnly := access = .read
  match l.memoryKind? access (← l.fileSystem) with
  | some .own => return ({ readOnly }, t)
  | some (.shared name) =>
    return ({ place := some (sharedPlace name), readOnly }, t.share (sharedPlace name))
  | none => openFile path l access t

/-- Opens the database of a connection string. A file that does not exist is created, unless the
string asks otherwise. -/
def connect (text : Text) (t : Tree) : Except Failure Connection × Tree :=
  match Target.ofText text with
  | .error e => (.error (.connect (trim text) e), t)
  | .ok .memory => (.ok {}, t)
  | .ok (.file path) =>
    match openPath path t with
    | .error e => (.error (.connect path e), t)
    | .ok (c, t) => (.ok c, t)

/-- Gives a connection up; a transaction under way is undone. -/
def close (c : Connection) (t : Tree) : Tree :=
  let t := (Reach.undo (c, t)).2
  match c.place with
  | some place => t.release place
  | none => t

/-- What this kind of database is called. -/
def backendName : Text := "SQLite"

/-- Names stand between double quotes, and placeholders have numbers. -/
def dialect : Dialect where
  placeholder := Statement.placeholder

/-- The database as a backend. -/
def backend : Backend Tree Connection where
  toDialect := dialect
  name _ := backendName
  connect := connect
  close := close
  execute sql r := Reach.execute sql r
  query sql values r := Reach.query sql values r
  hasTable name r := Reach.hasTable name r
  readText path t := t.readText path

end Connection

end QueryWeave
