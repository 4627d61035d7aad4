import QueryWeave.Database.Connection
import QueryWeave.Import.Load

/-!
# Rehearsals

A document can be tried out without a database: queries get answers that are given in advance, in
their order, and chosen statements are refused. A document that connects to a database leaves the
rehearsal for it.
-/

namespace QueryWeave

open Text

/-- The answer to a query. -/
inductive Answer
  /-- A result, which can break off before a row. -/
  | result (columns : List Text) (rows : List (List Cell)) (breaksAt : Option (Nat × Text))
  | refusal (message : Text)
  deriving DecidableEq, Repr

/-- The answers of a rehearsal that are still to be given. -/
structure Script where
  /-- Statements that are refused, with what is said about them. -/
  refused : List (Text × Text) := []
  tables : List Text := []
  answers : List Answer := []
  deriving DecidableEq, Repr

namespace Script

/-- What is said about a query without an answer. -/
def noAnswer : Text := "no scripted result"

/-- Queries that begin with this word need no answer. -/
def insertWord : Text := "INSERT "

/-- What is said about a statement that is refused. -/
def refusal? (s : Script) (sql : Text) : Option Text :=
  (s.refused.find? fun r => r.1 == sql).map Prod.snd

/-- Accepts statements that are not refused. -/
def execute (s : Script) (sql : Text) : Except Failure Unit :=
  match s.refusal? sql with
  | some message => .error (.query sql message)
  | none => .ok ()

/-- The next answer, and the script after it. -/
def query (s : Script) (sql : Text) : Except Failure Cursor × Script :=
  match s.refusal? sql with
  | some message => (.error (.query sql message), s)
  | none =>
    if startsWith insertWord sql then (.ok { query := sql, columns := [], rows := [] }, s)
    else match s.answers with
      | [] => (.error (.query sql noAnswer), s)
      | .refusal message :: rest => (.error (.query sql message), { s with answers := rest })
      | .result columns rows breaksAt :: rest =>
        (.ok { query := sql, columns, rows, breaksAt }, { s with answers := rest })

end Script

/-- A connection that is rehearsed, or one to a database. -/
inductive Rehearsal
  | scripted (s : Script)
  | database (c : Connection)

namespace Rehearsal

/-- Whether the rehearsal goes on. -/
def isScripted : Rehearsal → Bool
  | scripted _ => true
  | database _ => false

/-- What a rehearsal is called. -/
def scriptName : Text := "scripted"

/-- Lets a database work, and keeps the connection to it. -/
def inDatabase {α : Type} (r : Except Failure α × Connection × Tree) :
    Except Failure α × Rehearsal × Tree :=
  (r.1, database r.2.1, r.2.2)

/-- Rehearsals as a backend. -/
def backend : Backend Tree Rehearsal where
  toDialect := Connection.dialect
  name
    | scripted _ => scriptName
    | database c => Connection.backend.name c
  connect text t :=
    let (c, t) := Connection.connect text t
    (c.map database, t)
  close
    | scripted _, t => t
    | database c, t => Connection.close c t
  execute sql
    | (scripted s, t) => (s.execute sql, scripted s, t)
    | (database c, t) => inDatabase (Reach.execute sql (c, t))
  query sql values
    | (scripted s, t) =>
      let (answer, s) := s.query sql
      (answer, scripted s, t)
    | (database c, t) => inDatabase (Reach.query sql values (c, t))
  hasTable name
    | (scripted s, t) => (.ok (s.tables.contains name), scripted s, t)
    | (database c, t) => inDatabase (Reach.hasTable name (c, t))
  readText path t := t.readText path

end Rehearsal

/-- A way to load lines that only tells the database how many there are. -/
def Importer.counting {ω κ : Type} (b : Backend ω κ) : Importer ω κ :=
  fun lines options temporary => do
    Action.execute b ("COUNT ".toList ++ options.table ++ ' ' :: ofNat lines.length ++
      (if temporary then " true".toList else " false".toList))
    return lines.length

end QueryWeave
