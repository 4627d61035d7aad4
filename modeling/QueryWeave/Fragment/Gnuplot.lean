import QueryWeave.Fragment.Latex
import QueryWeave.Text.Integer

/-!
# Written gnuplot lines

How lines that an earlier run wrote into a gnuplot document are recognised: assignments, the first
line of a plot statement that goes on in the next line, and the entries of such a statement. Of an
entry the author may have changed the styling after its data set and title.
-/

namespace QueryWeave

open Text

/-- What is kept of an entry of a plot statement. -/
structure PlotEntry where
  /-- The styling after the index and the title. -/
  style : Text
  /-- The statement goes on in the next line. -/
  continued : Bool
  deriving DecidableEq, Repr

namespace Fragment

/-! ## Assignments -/

/-- An assignment: before the first equals sign stand a space and, before that, something; a space
and the rest of the line follow it. -/
def isAssignment (line : Text) : Bool :=
  match cut? '=' line with
  | some (before, ' ' :: rest) =>
    before.getLast? = some ' ' && 2 ≤ before.length && isOneLine rest
  | _ => false

/-! ## Plot statements -/

/-- The first line of a plot statement that ends in a backslash. -/
def isPlotHeader (line : Text) : Bool :=
  match after? "plot" (dropBlanks line) with
  | some r =>
    match r.reverse.dropWhile isBlank with
    | '\\' :: before => isOneLine before
    | _ => false
  | none => false

/-- The closing quote of a string and what follows it, after its opening quote: the first quote
that no backslash stands before. A backslash takes one character of its line with it. -/
def afterString? : Text → Option Text
  | [] => none
  | ['"'] => some []
  | [_] => none
  | c :: d :: s =>
    if c = '"' then some (d :: s)
    else if c = '\\' then (if d = '\n' then none else afterString? s)
    else afterString? (d :: s)

/-- The end of an entry: blanks, or a comma and a backslash that continue the statement and then
blanks. -/
def entryEnd? (s : Text) : Option Bool :=
  if s.all isBlank then some false
  else match after? ", \\" s with
    | some r => if r.all isBlank then some true else none
    | none => none

/-- The styling is what comes before the first place where the entry can end. -/
def styling? (s : Text) : Option PlotEntry :=
  match entryEnd? s with
  | some continued => some ⟨[], continued⟩
  | none =>
    match s with
    | [] => none
    | c :: r =>
      if c = '\n' then none
      else match styling? r with
        | some e => some ⟨c :: e.style, e.continued⟩
        | none => none

/-- The styling starts with a space. -/
def spacedStyling? : Text → Option PlotEntry
  | ' ' :: r =>
    match styling? r with
    | some e => some ⟨' ' :: e.style, e.continued⟩
    | none => none
  | _ => none

/-- What follows the data file and the index of an entry. -/
def afterIndex? (line : Text) : Option Text :=
  match dropBlanks line with
  | '\'' :: r =>
    match cut? '\'' r with
    | some (_ :: _, r) =>
      match after? " index " r with
      | some r => if (r.takeWhile isDigit).isEmpty then none else some (r.dropWhile isDigit)
      | none => none
    | _ => none
  | _ => none

/-- An entry of a plot statement. Its title is dropped where styling can follow; else it belongs to
the styling. -/
def plotEntry? (line : Text) : Option PlotEntry :=
  match afterIndex? line with
  | some r =>
    match ((after? " title \"" r).bind afterString?).bind spacedStyling? with
    | some e => some e
    | none => spacedStyling? r
  | none => none

/-- The entries at the beginning of the lines, up to the first that ends the statement. -/
def plotEntries : List Text → List PlotEntry
  | [] => []
  | line :: rest =>
    match plotEntry? line with
    | some e => e :: if e.continued then plotEntries rest else []
    | none => []

end Fragment

end QueryWeave
