import QueryWeave.Text.White

/-!
# Written LaTeX lines

How lines that an earlier run wrote into a LaTeX document are recognised, and what of them the
author may have changed: everything around the coordinates of a plot, around the text of a legend,
and after the terminator of a table row. The values themselves are never read.
-/

namespace QueryWeave

open Text

/-- What stands around a value in a line. -/
structure Wrap where
  head : Text
  tail : Text
  deriving DecidableEq, Repr

namespace Fragment

/-- Whether the text has no newline, and so is the rest of one line. -/
def isOneLine (s : Text) : Bool := ¬ s.contains '\n'

/-! ## Plots -/

/-- The words that begin a plot and its coordinates. -/
def plotWord : Text := "\\addplot"

@[inherit_doc plotWord]
def coordinatesWord : Text := "coordinates \x7b"

/-- What follows the coordinates: from the first closing brace on, which must come after at least
one character and be followed by a semicolon in the same line. -/
def closing? (s : Text) : Option Text :=
  match s with
  | [] => none
  | c :: r =>
    if c = '}' then none
    else match r.dropWhile (· ≠ '}') with
      | '}' :: ';' :: tail => if isOneLine tail then some ('}' :: ';' :: tail) else none
      | _ => none

/-- The last place of the opening of the coordinates, after which they are closed: the text up to
it, and the text after the coordinates. -/
def coordinates? (s : Text) : Option Wrap :=
  match s with
  | [] => none
  | c :: r =>
    match if c = '\n' then none else coordinates? r with
    | some w => some ⟨c :: w.head, w.tail⟩
    | none =>
      match (after? coordinatesWord (c :: r)).bind closing? with
      | some tail => some ⟨coordinatesWord, tail⟩
      | none => none

/-- A plot with coordinates in one line. -/
def plot? (line : Text) : Option Wrap :=
  match (after? plotWord (dropBlanks line)).bind coordinates? with
  | some w => some ⟨plotWord ++ w.head, w.tail⟩
  | none => none

/-! ## Legends -/

/-- The word that begins a legend. -/
def legendWord : Text := "\\addlegendentry\x7b"

/-- The text from the last closing brace with a semicolon after it. -/
def lastClosing? : Text → Option Text
  | [] => none
  | c :: r =>
    match lastClosing? r with
    | some t => some t
    | none => if c = '}' ∧ r.head? = some ';' then some (c :: r) else none

/-- A legend in one line. -/
def legend? (line : Text) : Option Wrap :=
  match after? legendWord (dropBlanks line) with
  | some r => if isOneLine r then (lastClosing? r).map fun tail => ⟨legendWord, tail⟩ else none
  | none => none

/-! ## Table rows -/

/-- The text after the last two adjacent backslashes. -/
def afterTerminator? : Text → Option Text
  | [] => none
  | c :: r =>
    match afterTerminator? r with
    | some t => some t
    | none => (after? "\\\\" (c :: r))

/-- What follows the terminator of a table row. -/
def rowSuffix? (line : Text) : Option Text :=
  if isOneLine line then afterTerminator? line else none

/-! ## Macros -/

/-- A definition of a macro. -/
def isMacro (line : Text) : Bool := startsWith "\\def\\" (dropBlanks line)

end Fragment

end QueryWeave
