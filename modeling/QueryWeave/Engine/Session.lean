import QueryWeave.Directive.Basic
import QueryWeave.Directive.Range
import QueryWeave.Failure
import QueryWeave.Result.Cursor
import QueryWeave.Text.Escape

/-!
# Sessions

A session is a connection to a database, the files around it, and a transcript of everything that
was done through it. The kind of database is a parameter. What a run does with a session is an
action: it gives a result or fails, and keeps the changes of the session in both cases.
-/

namespace QueryWeave

open Text

/-! ## Databases -/

namespace Statement

/-- A name between double quotes, where a quote inside is written twice. -/
def name (s : Text) : Text := quoted '"' s

/-- A placeholder with the number of its value, where `i` is the index of the value. -/
def placeholder (i : Nat) : Text := '?' :: ofNat (i + 1)

end Statement

/-- How a kind of database writes what can stand in a statement. -/
structure Dialect where
  /-- The name of a table or of a column. -/
  quote : Text → Text := Statement.name
  /-- The placeholder of the value with index `i`. -/
  placeholder (i : Nat) : Text

/-- A kind of database, with connections `κ`, and the files `ω` that it and a run can reach. -/
structure Backend (ω κ : Type) extends Dialect where
  /-- What the kind of database of a connection is called. -/
  name : κ → Text
  /-- Opens the database that a connection string names. -/
  connect : Text → ω → Except Failure κ × ω
  /-- Gives a connection up; what is not committed is lost. -/
  close : κ → ω → ω
  /-- Runs statements that have no result. -/
  execute : Text → κ × ω → Except Failure Unit × κ × ω
  /-- Runs a query with values for its placeholders. -/
  query : Text → List Text → κ × ω → Except Failure Cursor × κ × ω
  /-- Whether there is a table of a given name. -/
  hasTable : Text → κ × ω → Except Failure Bool × κ × ω
  /-- The text of a file. -/
  readText : Path → ω → Except FileFault Text

/-! ## Transcripts -/

/-- What is worth telling and does not end a run. -/
inductive Warning
  /-- The comment at a line begins with a word that might be meant as a keyword. -/
  | unknownKeyword (line : Nat) (word : Text)
  /-- A row of a plot has no coordinates. -/
  | skippedRow (index : Nat)
  | range (warning : RangeWarning)
  /-- The transaction of a failed run could not be undone. -/
  | rollBackFailed (failure : Failure)
  /-- The table of an import is lost at the end of the run. -/
  | importIntoMemory
  deriving DecidableEq, Repr

/-- The warning in words. -/
def RangeWarning.message : RangeWarning → String
  | incomplete body => s!"RANGE needs BEGIN or END and a name: {shown body}"
  | unknownOperation word => s!"unknown RANGE operation {shown word}"

@[inherit_doc RangeWarning.message]
def Warning.message : Warning → String
  | unknownKeyword line word =>
    s!"line {shown (ofNat line)}: maybe unknown keyword {shown word}"
  | skippedRow index => s!"MULTIPLOT: skipping row {shown (ofNat index)} with NULL x or y"
  | range warning => warning.message
  | rollBackFailed failure => s!"rollback failed: {failure.message}"
  | importIntoMemory => "importing into an in-memory database, use -D to keep the data"

/-- One entry of a transcript. -/
inductive Event
  /-- Statements were sent; whether they succeeded. -/
  | executed (sql : Text) (succeeded : Bool)
  /-- A query was sent with its values; whether it succeeded. -/
  | queried (sql : Text) (values : List Text) (succeeded : Bool)
  /-- The database was asked for a table. -/
  | soughtTable (name : Text)
  /-- A new connection took the place of the old one. -/
  | connected (target : Text)
  /-- A directive was begun. -/
  | began (d : Directive)
  | warned (w : Warning)
  deriving DecidableEq, Repr

/-! ## Sessions -/

/-- A connection with the files around it and the transcript. -/
structure Session (ω κ : Type) where
  connection : κ
  world : ω
  transcript : List Event := []

/-- What is done in a session: it gives a result or fails, and changes the session in both cases. -/
abbrev Action (ω κ : Type) := EStateM Failure (Session ω κ)

namespace Session

variable {ω κ : Type}

/-- The session with one more entry in its transcript. -/
def note (s : Session ω κ) (e : Event) : Session ω κ :=
  { s with transcript := s.transcript ++ [e] }

end Session

namespace Action

variable {ω κ α β : Type}

/-- Adds an entry to the transcript. -/
def note (e : Event) : Action ω κ Unit := modify fun s => s.note e

/-- Adds a warning to the transcript. -/
def warn (w : Warning) : Action ω κ Unit := note (.warned w)

/-- Whether an outcome is a success. -/
def succeeded : Except Failure α → Bool
  | .ok _ => true
  | .error _ => false

/-- Lets the database work, and notes what was asked of it. -/
def ask (work : κ × ω → Except Failure α × κ × ω) (event : Bool → Event) : Action ω κ α :=
  fun s =>
    let (outcome, connection, world) := work (s.connection, s.world)
    let s := { s with connection, world }.note (event (succeeded outcome))
    match outcome with
    | .ok a => .ok a s
    | .error e => .error e s

/-- Runs statements that have no result. -/
def execute (b : Backend ω κ) (sql : Text) : Action ω κ Unit := ask (b.execute sql) (.executed sql)

/-- Runs a query with values for its placeholders. -/
def query (b : Backend ω κ) (sql : Text) (values : List Text) : Action ω κ Cursor :=
  ask (b.query sql values) (.queried sql values)

/-- Whether there is a table of a given name. -/
def hasTable (b : Backend ω κ) (name : Text) : Action ω κ Bool :=
  ask (b.hasTable name) fun _ => .soughtTable name

/-- Goes on with a success and fails with a failure. -/
def ofExcept : Except Failure α → Action ω κ α
  | .ok a => pure a
  | .error e => throw e

/-- Runs a query and reads its whole result. -/
def queryTable (b : Backend ω κ) (sql : Text) : Action ω κ ResultTable := do
  let c ← query b sql []
  ofExcept (c.toTable.mapError (.query c.query))

/-! ## Transactions -/

/-- Opens a transaction. -/
def startTransaction (b : Backend ω κ) : Action ω κ Unit := execute b "BEGIN TRANSACTION"

/-- Makes the changes of a transaction last. -/
def commit (b : Backend ω κ) : Action ω κ Unit := execute b "COMMIT TRANSACTION"

/-- Undoes the changes of a transaction. -/
def rollBack (b : Backend ω κ) : Action ω κ Unit := execute b "ROLLBACK TRANSACTION"

/-- Undoes the changes of a transaction after a failure; when that fails as well, it is only
told. -/
def abandon (b : Backend ω κ) : Action ω κ Unit := fun s =>
  match rollBack b s with
  | .ok _ s => .ok () s
  | .error e s => .ok () (s.note (.warned (.rollBackFailed e)))

/-- Runs an action as one transaction. -/
def inTransaction (b : Backend ω κ) (body : Action ω κ α) : Action ω κ α := do
  startTransaction b
  fun s =>
    match body s with
    | .ok a s => (do commit b; return a : Action ω κ α) s
    | .error e s => (do abandon b; throw e : Action ω κ α) s

/-- Goes over to another database: the new one is opened before the changes of the old one are made
to last. -/
def connect (b : Backend ω κ) (target : Text) : Action ω κ Unit := do
  -- a target that cannot be opened leaves the old connection and its transaction as they are
  let new ← fun s =>
    match b.connect target s.world with
    | (.ok new, world) => .ok new { s with world }
    | (.error e, world) => .error e { s with world }
  commit b
  -- the old connection has nothing left to lose, so that giving it up undoes no change
  modify fun s =>
    { s with connection := new, world := b.close s.connection s.world }.note (.connected target)
  startTransaction b

end Action

end QueryWeave
