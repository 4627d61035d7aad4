import QueryWeave.Document.Kind
import QueryWeave.Import.Options

/-!
# Arguments

The words of the command line: options with and without a value, documents and directories, and
after them possibly the word that begins an import. Short options can be joined, and a value can be
attached to its option or follow it.

Values are looked at from left to right, each when the next word is known to be something else. A
word that asks for help therefore wins over all faults that come after it.
-/

namespace QueryWeave

open Text

/-- What the command line asks for. -/
structure Arguments where
  verbosity : Nat := 0
  database : Option Text := none
  workDirectory : Option Path := none
  kind : Option DocumentKind := none
  output : Option Path := none
  check : Bool := false
  ranges : List Text := []
  files : List Path := []
  command : Option ImportOptions := none
  deriving DecidableEq, Repr

/-- An option that has a value. -/
inductive ValueOption
  | database | workDirectory | kind | output | range
  deriving DecidableEq, Repr

/-- An option. -/
inductive CommandOption
  | valued (o : ValueOption)
  | verbose | check
  | help | version
  deriving DecidableEq, Repr

namespace CommandOption

/-- The option of a letter. -/
def ofLetter? (c : Char) : Option CommandOption :=
  match c with
  | 'v' => some verbose
  | 'D' => some (valued .database)
  | 'W' => some (valued .workDirectory)
  | 'f' => some (valued .kind)
  | 'o' => some (valued .output)
  | 'C' => some check
  | 'R' => some (valued .range)
  | 'h' => some help
  | 'V' => some version
  | _ => none

/-- The options by their long names. -/
def names : List (Text × CommandOption) :=
  [("verbose", verbose), ("database", valued .database), ("work-dir", valued .workDirectory),
    ("filetype", valued .kind), ("output", valued .output), ("check", check),
    ("range", valued .range), ("help", help), ("version", version)].map fun (s, o) => (s.toList, o)

/-- The option of a long name. -/
def ofName? (name : Text) : Option CommandOption := (names.find? fun n => n.1 == name).map Prod.snd

end CommandOption

namespace Arguments

/-- The arguments up to some word. -/
structure Draft where
  arguments : Arguments := {}
  /-- The last word was an option whose value is the next word. -/
  waiting : Option ValueOption := none
  /-- A value that is not looked at yet. -/
  held : Option (ValueOption × Text) := none
  /-- The last word was a document, so that no word begins an import. -/
  amongFiles : Bool := false

namespace Draft

/-! ## Values -/

/-- Gives an option its value; only ranges can be given more than once. -/
def give (d : Draft) (o : ValueOption) (value : Text) : Except WordFault Draft :=
  let a := d.arguments
  let once (given : Bool) (valid : Bool) (a : Arguments) : Except WordFault Draft :=
    if given ∨ ¬ valid then .error .refused else .ok { d with arguments := a }
  match o with
  | .database => once a.database.isSome true { a with database := some value }
  | .workDirectory =>
    once a.workDirectory.isSome (value ≠ []) { a with workDirectory := some value }
  | .kind =>
    let kind := DocumentKind.ofName? value
    once a.kind.isSome kind.isSome { a with kind }
  | .output => once a.output.isSome (value ≠ []) { a with output := some value }
  | .range => .ok { d with arguments := { a with ranges := a.ranges ++ [value] } }

/-- Looks at the value that is held. -/
def settle (d : Draft) : Except WordFault Draft :=
  match d.held with
  | none => .ok d
  | some (o, value) => { d with held := none }.give o value

/-! ## Words -/

/-- An option without a value. -/
def flag (d : Draft) (o : CommandOption) : Except WordFault Draft :=
  match d.settle with
  | .error e => .error e
  | .ok d =>
    match o with
    | .verbose =>
      let verbosity := ImportOptions.louder d.arguments.verbosity
      .ok { d with arguments := { d.arguments with verbosity } }
    | .check =>
      if d.arguments.check then .error .refused
      else .ok { d with arguments := { d.arguments with check := true } }
    | .help | .version => .error .asksForHelp
    | .valued _ => .error .refused

/-- An option that has a value, which is attached to it or follows. -/
def valued (d : Draft) (o : ValueOption) (attached : Option Text) : Except WordFault Draft :=
  match d.settle with
  | .error e => .error e
  | .ok d =>
    match attached with
    | some value => d.give o value
    | none => .ok { d with waiting := some o }

/-- The value attached to a letter: the rest of the word, after an equals sign if there is one. -/
def attachedValue : Text → Option Text
  | [] => none
  | '=' :: value => some value
  | value => some value

/-- The letters of a word, from left to right. -/
def letters (d : Draft) : Text → Except WordFault Draft
  | [] => .ok d
  | c :: cs =>
    match CommandOption.ofLetter? c with
    | none => .error .refused
    | some (.valued o) => d.valued o (attachedValue cs)
    | some o =>
      match d.flag o with
      | .ok d => letters d cs
      | .error e => .error e

/-- A long option, with what is attached to it. -/
def long (d : Draft) (name : Text) (attached : Option Text) : Except WordFault Draft :=
  match CommandOption.ofName? name with
  | none => .error .refused
  | some (.valued o) => d.valued o attached
  | some o => if attached.isSome then .error .refused else d.flag o

/-- A document or directory. -/
def file (d : Draft) (path : Path) : Except WordFault Draft :=
  match d.settle with
  | .error e => .error e
  | .ok d =>
    if path = [] then .error .refused
    else .ok { d with
      arguments := { d.arguments with files := d.arguments.files ++ [path] }
      amongFiles := true }

/-- The end of the words: no option waits for a value, and a check needs an output. -/
def finish (d : Draft) : Except WordFault Arguments :=
  match d.settle with
  | .error e => .error e
  | .ok d =>
    if d.waiting.isSome ∨ (d.arguments.check ∧ d.arguments.output.isNone) then .error .refused
    else .ok d.arguments

/-! ## Commands -/

/-- The words that begin an import. -/
def importWords : List Text := ["import", "import-data"].map String.toList

/-- The word that asks for help on a command. -/
def helpWord : Text := "help"

/-- What the words after a request for help lead to: they may name a command, or help itself. -/
def helpFault (ws : List Text) : WordFault :=
  match ws with
  | [] => .asksForHelp
  | [w] => if importWords.contains w ∨ w = helpWord then .asksForHelp else .refused
  | _ => .refused

/-- A word that is an option or a document, and no value. -/
def word (d : Draft) (w : Text) : Except WordFault Draft :=
  match w with
  | '-' :: '-' :: rest =>
    match cut? '=' rest with
    | some (name, value) => { d with amongFiles := false }.long name (some value)
    | none => { d with amongFiles := false }.long rest none
  | '-' :: c :: rest => { d with amongFiles := false }.letters (c :: rest)
  | w => d.file w

/-- Whether a word can be the value of an option that waits for it. -/
def canBeValue : Text → Bool
  | ['-'] => true
  | '-' :: _ => false
  | _ => true

/-- All words, from left to right. -/
def scan (d : Draft) : List Text → Except WordFault Arguments
  | [] => d.finish
  | w :: ws =>
    match d.waiting with
    | some o =>
      if canBeValue w then
        scan { d with waiting := none, held := some (o, w), amongFiles := false } ws
      else .error .refused
    | none =>
      if ¬ d.amongFiles ∧ w = helpWord then .error (helpFault ws)
      else if ¬ d.amongFiles ∧ importWords.contains w then
        match ImportOptions.ofWords ws with
        | .error e => .error e
        | .ok options =>
          { d with arguments := { d.arguments with command := some options } }.finish
      else if w = "--".toList then
        match ws.foldlM file d with
        | .error e => .error e
        | .ok d => d.finish
      else match d.word w with
        | .error e => .error e
        | .ok d => scan d ws

end Draft

/-- Reads the words of the command line. -/
def ofWords (ws : List Text) : Except WordFault Arguments := ({} : Draft).scan ws

/-- Whether a command with these words reads the standard input: neither it nor its import names a
file. -/
def readsInput (ws : List Text) : Bool :=
  match ofWords ws with
  | .error _ => false
  | .ok a =>
    match a.command with
    | some options => options.files.isEmpty
    | none => a.files.isEmpty

end Arguments

end QueryWeave
