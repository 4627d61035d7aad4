import QueryWeave.Database.Target
import QueryWeave.Import.Fault
import QueryWeave.Reformat.Error
import QueryWeave.Result.Fault

/-!
# Failures

Everything that ends a run. A failure that happens while a directive is carried out is located at
that directive.
-/

namespace QueryWeave

open Text

/-- Why the words of a command cannot be used. -/
inductive UsageFault
  /-- The words do not follow the rules of the command. -/
  | refused
  /-- An import directive names no file. -/
  | noInputFile
  /-- The kind of a document from the standard input is not given. -/
  | noKind
  deriving DecidableEq, Repr

/-- Why a run ends early. -/
inductive Failure
  /-- The database refuses a statement. -/
  | query (sql message : Text)
  | shape (fault : ShapeFault)
  | reformat (fault : ClauseError)
  | connect (target : Text) (fault : ConnectFault)
  | importing (fault : ImportFault)
  | access (path : Text) (fault : FileFault)
  | unknownKind (path : Text)
  /-- A checked text differs from the contents of its file. -/
  | mismatch (path expected actual : Text)
  | usage (fault : UsageFault)
  /-- A failure of a directive, with its line number, the whole comment, and the position and size
  of its first line in the bytes of the document. -/
  | directive (keyword : Keyword) (line : Nat) (command : Text) (offset size : Nat)
      (cause : Failure)
  deriving DecidableEq, Repr

/-- The fault in words; refused words are explained elsewhere. -/
def UsageFault.message : UsageFault → String
  | refused => "invalid arguments"
  | noInputFile => "IMPORT-DATA requires at least one input file"
  | noKind => "reading from stdin requires --filetype"

namespace Failure

/-- The failure in words. -/
def message : Failure → String
  | query _ message => s!"SQL failed: {shown message}"
  | shape fault => s!"{shown fault.keyword.word} failed: {fault.message}"
  | reformat fault => s!"invalid REFORMAT clause: {fault.message}"
  | connect target fault =>
    s!"could not connect to database '{shown target}': {fault.message}"
  | importing fault => s!"IMPORT-DATA failed: {fault.message}"
  | access path fault => s!"error accessing {shown path}: {fault.message}"
  | unknownKind path => s!"unknown file type of {shown path}"
  | mismatch path _ _ => s!"mismatch to expected output file {shown path}"
  | usage fault => fault.message
  | directive keyword line _ _ _ _ =>
    s!"{shown keyword.word} directive at line {shown (ofNat line)} failed"

/-- The failure behind all locations. -/
def rootCause : Failure → Failure
  | directive _ _ _ _ _ cause => cause.rootCause
  | failure => failure

end Failure

end QueryWeave
