import QueryWeave.CommandLine.Arguments
import QueryWeave.Database.Connection
import QueryWeave.Engine.Run

/-!
# Running the command

The command goes over documents and writes the results in place, to one target, or nowhere when it
only checks. All documents share one connection. The first failure ends the command; what was
written before it stays. The kind of database is a parameter, as it is for a run; the program has
databases in memory and in files (`Invocation.run`).
-/

namespace QueryWeave

open Text

/-- What a command finds when it starts. -/
structure Invocation where
  words : List Text
  /-- The bytes of the standard input. -/
  input : ByteArray
  /-- The database that is used if the words name none. -/
  database : Option Text
  tree : Tree

/-- What a command leaves behind. -/
structure Report where
  exitCode : Nat
  /-- What was written to the standard output. -/
  output : Text
  failure : Option Failure
  transcript : List Event
  tree : Tree

namespace Report

/-- The exit code of words that cannot be used. -/
def refusedCode : Nat := 2

/-- The exit code of a failure. -/
def failureCode : Nat := 1

end Report

/-- The state of a running command. -/
structure Desk (κ : Type) where
  session : Session Tree κ
  /-- What was written to the standard output. -/
  output : Text := []

/-- A step of a command. -/
abbrev Step (κ : Type) := EStateM Failure (Desk κ)

namespace Step

variable {κ α : Type}

/-- Does something in the session. -/
def inSession (a : Action Tree κ α) : Step κ α := fun desk =>
  match a desk.session with
  | .ok x session => .ok x { desk with session }
  | .error e session => .error e { desk with session }

/-- Goes on with a success and fails with a failure. -/
def ofExcept : Except Failure α → Step κ α
  | .ok a => pure a
  | .error e => throw e

/-- The directory tree as it is now. -/
def tree : Step κ Tree := return (← get).session.world

/-! ## Writing and checking -/

/-- Whether a path is a single dash, which stands for the standard output. -/
def isDash (p : Path) : Bool :=
  p.components == [['-']] && !p.isAbsolute && p.head? == some '-'

/-- Writes a text to a file, or to the standard output. -/
def write (target : Path) (s : Text) : Step κ Unit := do
  if isDash target then modify fun desk => { desk with output := desk.output ++ s }
  else match (← tree).writeText target s with
    | .ok t => modify fun desk => { desk with session := { desk.session with world := t } }
    | .error e => throw (.access target e)

/-- Compares a text with the contents of a file. -/
def check (target : Path) (s : Text) : Step κ Unit := do
  match (← tree).readText target with
  | .error e => throw (.access target e)
  | .ok expected => if expected ≠ s then throw (.mismatch target expected s)

/-- Writes a text, or only checks it. -/
def emit (a : Arguments) (target : Path) (s : Text) : Step κ Unit :=
  if a.check then check target s else write target s

/-- Writes or checks the data file of a document, if anything is in it. -/
def emitData (a : Arguments) (directory : Path) (o : Output) : Step κ Unit := do
  match o.dataFile? with
  | some f => if ¬ f.isEmpty then emit a (directory.below f.name) f.contents
  | none => return

/-! ## Documents -/

/-- The files that the words name; a directory stands for the documents below it. -/
def inputs (t : Tree) (paths : List Path) : List Path :=
  paths.flatMap fun p =>
    if t.isDirectory p then (t.filesBelow p).filter fun q => (DocumentKind.ofPath? q).isSome
    else [p]

/-- Runs one document. -/
def process (b : Backend Tree κ) (a : Arguments) (kind : DocumentKind) (name : Text)
    (d : Document) : Step κ (Document × Output) := fun desk =>
  let settings := { ranges := if a.ranges.isEmpty then none else some a.ranges }
  let (o, session) := Run.process b (Importer.resultLines b) settings kind name d desk.session
  match o.failure with
  | none => .ok (o.position.document, o.position.output) { desk with session }
  | some e => .error e { desk with session }

/-- The name of the document from the standard input. -/
def inputName : Text := "stdin"

/-- Runs the document from the standard input. -/
def processInput (b : Backend Tree κ) (a : Arguments) (input : ByteArray) : Step κ Unit := do
  match a.kind with
  | none => throw (.usage .noKind)
  | some kind =>
    match Document.ofUtf8? input with
    | none => throw (.access inputName .notText)
    | some d =>
      let (d, o) ← process b a kind inputName d
      emit a (a.output.getD ['-']) d.toText
      emitData a [] o

/-- The kind of a document that is given by its path. -/
def kindOf (a : Arguments) (path : Path) : Except Failure DocumentKind :=
  match a.kind, DocumentKind.ofPath? path with
  | some kind, _ => .ok kind
  | none, some kind => .ok kind
  | none, none => .error (.unknownKind path)

/-- Runs the document of a file; its text, if it is collected for a common target. -/
def processFile (b : Backend Tree κ) (a : Arguments) (path : Path) : Step κ Text := do
  let kind ← ofExcept (kindOf a path)
  let s ← ofExcept (((← tree).readText path).mapError (.access path))
  let (d, o) ← process b a kind path (.ofText s)
  match a.output with
  | some target =>
    emitData a (if isDash target then path.parent else Path.parent target) o
    return d.toText
  | none =>
    emit a path d.toText
    emitData a path.parent o
    return []

/-- Runs all documents. With a target, nothing is written to it before the last one is run. -/
def processAll (b : Backend Tree κ) (a : Arguments) (input : ByteArray) : Step κ Unit := do
  if a.files.isEmpty then processInput b a input
  else
    let texts ← (inputs (← tree) a.files).mapM (processFile b a)
    match a.output with
    | some target => emit a target texts.flatten
    | none => return

/-! ## Imports -/

/-- Loads result lines from the named files, or from the standard input. -/
def importInto (b : Backend Tree κ) (a : Arguments) (options : ImportOptions)
    (input : ByteArray) : Step κ Unit := do
  if trim (a.database.getD []) = [] then inSession (Action.warn .importIntoMemory)
  let t ← tree
  let lines ← ofExcept ((if options.files.isEmpty then readBytes input
    else readFiles b options.files t).mapError .importing)
  let _ ← inSession (Run.importLines b (Importer.resultLines b) lines options)

/-- What the command does once it is connected. -/
def perform (b : Backend Tree κ) (a : Arguments) (input : ByteArray) : Step κ Unit :=
  match a.command with
  | some options => importInto b a options input
  | none => processAll b a input

end Step

namespace Invocation

/-- A command that stops before it is connected. -/
def stopped (i : Invocation) (exitCode : Nat) (failure : Option Failure) (t : Tree) : Report :=
  ⟨exitCode, [], failure, [], { t with current := i.tree.current }⟩

variable {κ : Type}

/-- Runs a command with arguments that can be used: it goes to its working directory, connects, and
gives the connection up in the end. -/
def runWith (b : Backend Tree κ) (i : Invocation) (a : Arguments) : Report :=
  let entered : Except Failure Tree := match a.workDirectory with
    | none => .ok i.tree
    | some path => (i.tree.enter path).mapError (Failure.access path)
  match entered with
  | .error e => i.stopped Report.failureCode e i.tree
  | .ok t =>
    match b.connect (a.database.getD []) t with
    | (.error e, t) => i.stopped Report.failureCode e t
    | (.ok c, t) =>
      let (exitCode, failure, desk) := match Step.perform b a i.input ⟨⟨c, t, []⟩, []⟩ with
        | .ok _ desk => (0, none, desk)
        | .error e desk => (Report.failureCode, some e, desk)
      let t := b.close desk.session.connection desk.session.world
      ⟨exitCode, desk.output, failure, desk.session.transcript,
        { t with current := i.tree.current }⟩

/-- Runs a command with a kind of database. -/
def runOn (b : Backend Tree κ) (i : Invocation) : Report :=
  match Arguments.ofWords i.words with
  | .error .asksForHelp => i.stopped 0 none i.tree
  | .error .refused => i.stopped Report.refusedCode none i.tree
  | .ok a => i.runWith b { a with database := a.database <|> i.database }

/-- Runs a command with the databases of the program. -/
def run (i : Invocation) : Report := i.runOn Connection.backend

end Invocation

end QueryWeave
