import QueryWeave.Failure

/-!
# Options of an import

The words of an import name a table and files, in this order, with flags in any place among them.
Flags are single letters after a dash and can be joined; only the flag for messages can be repeated.
A word of two dashes ends the flags, and a single dash is no flag.
-/

namespace QueryWeave

open Text

/-- How result lines are loaded, and from where. -/
structure ImportOptions where
  /-- Column types come from the first line alone. -/
  firstLine : Bool := false
  /-- Lines without a marker count as well. -/
  allLines : Bool := false
  /-- Fields without a key are values of numbered columns. -/
  columnNumbers : Bool := false
  /-- Repeated lines are dropped. -/
  noDuplicates : Bool := false
  /-- How much is told about the statements. -/
  verbosity : Nat := 0
  table : Text
  files : List Text := []
  deriving DecidableEq, Repr, Inhabited

/-- Why words do not give a command that can be carried out. -/
inductive WordFault
  /-- They do not follow the rules. -/
  | refused
  /-- They ask for an explanation, or for the version of the program. -/
  | asksForHelp
  deriving DecidableEq, Repr

namespace ImportOptions

/-- One level of messages more; from the highest level it goes no further. -/
def louder (verbosity : Nat) : Nat := min 255 (verbosity + 1)

/-- What the words up to some point say. -/
structure Draft where
  firstLine : Bool := false
  allLines : Bool := false
  columnNumbers : Bool := false
  noDuplicates : Bool := false
  verbosity : Nat := 0
  positionals : List Text := []
  deriving DecidableEq, Repr

/-- A flag that is set at most once. -/
def setOnce (before : Bool) (after : Draft) : Except WordFault Draft :=
  if before then .error .refused else .ok after

/-- One flag. -/
def flag (p : Draft) (c : Char) : Except WordFault Draft :=
  if c = '1' then setOnce p.firstLine { p with firstLine := true }
  else if c = 'a' then setOnce p.allLines { p with allLines := true }
  else if c = 'C' then setOnce p.columnNumbers { p with columnNumbers := true }
  else if c = 'D' then setOnce p.noDuplicates { p with noDuplicates := true }
  else if c = 'v' then .ok { p with verbosity := louder p.verbosity }
  else if c = 'h' then .error .asksForHelp
  else .error .refused

/-- One word that is no flag. -/
def positional (p : Draft) (w : Text) : Draft :=
  { p with positionals := p.positionals ++ [w] }

/-- All words, from left to right. -/
def scan (p : Draft) : List Text → Except WordFault Draft
  | [] => .ok p
  | w :: ws =>
    match w with
    | ['-', '-'] => .ok (ws.foldl positional p)
    | '-' :: '-' :: name =>
      .error (if name = "help".toList then .asksForHelp else .refused)
    | '-' :: c :: cs =>
      match (c :: cs).foldlM flag p with
      | .ok p => scan p ws
      | .error e => .error e
    | w => scan (positional p w) ws

/-- Reads the words of an import. -/
def ofWords (ws : List Text) : Except WordFault ImportOptions :=
  match scan {} ws with
  | .error e => .error e
  | .ok p =>
    match p.positionals with
    | [] => .error .refused
    | table :: files =>
      .ok ⟨p.firstLine, p.allLines, p.columnNumbers, p.noDuplicates, p.verbosity, table, files⟩

/-- Reads the text of an import directive. -/
def ofDirective (body : Text) : Except UsageFault ImportOptions :=
  match ofWords (words body) with
  | .ok o => .ok o
  | .error _ => .error .refused

end ImportOptions

end QueryWeave
