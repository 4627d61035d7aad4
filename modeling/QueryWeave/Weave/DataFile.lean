import QueryWeave.Files.Path
import QueryWeave.Text.Integer

/-!
# Data files

A gnuplot document keeps its data in a file of its own. Every data set is a block of lines, followed
by two empty lines, and is addressed by its position in the file.
-/

namespace QueryWeave

open Text

/-- A data file as far as it is written. -/
structure DataFile where
  name : Text
  contents : Text := []
  /-- The position of the next data set. -/
  nextIndex : Nat := 0
  deriving DecidableEq, Repr

namespace DataFile

/-! ## Names -/

/-- What follows the last separator of a path, whichever of the two slashes it is. -/
def lastName (s : Text) : Text :=
  (s.reverse.takeWhile fun c => c ≠ '/' ∧ c ≠ '\\').reverse

/-- A file name without its suffix; a dot at the beginning starts no suffix. -/
def stem (s : Text) : Text :=
  match Path.cutLastDot? s with
  | none | some ([], _) => s
  | some (before, _) => before

/-- The name of the data file of a document, which is made from the name of the document; a
document without a name is the standard input. -/
def nameFor (document : Text) : Text :=
  let s := stem (lastName document)
  (if s = [] ∨ s = ['-'] then "stdin".toList else s) ++ "-data.txt".toList

/-! ## Contents -/

/-- The file with one more line. -/
def line (f : DataFile) (s : Text) : DataFile := { f with contents := f.contents ++ s ++ ['\n'] }

/-- The file with a comment that begins the data of a directive. -/
def header (f : DataFile) (s : Text) : DataFile :=
  ((f.line (fill 80 '#')).line ('#' :: ' ' :: s)).line ['#']

/-- The file with one more comment. -/
def comment (f : DataFile) (s : Text) : DataFile := f.line ('#' :: ' ' :: s)

/-- The file with one more row of data. -/
def row (f : DataFile) (cells : List Text) : DataFile := f.line (join ['\t'] cells)

/-- The file after the end of a data set. -/
def finish (f : DataFile) : DataFile :=
  { (f.line []).line [] with nextIndex := f.nextIndex + 1 }

/-- Whether nothing is written. -/
def isEmpty (f : DataFile) : Bool := f.contents.isEmpty

end DataFile

end QueryWeave
