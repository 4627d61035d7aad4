import QueryWeave.Reformat.Ranges

/-!
# REFORMAT clauses

A clause is a list of settings for all cells and of settings for chosen rows or columns. Later
settings win over earlier ones.
-/

namespace QueryWeave

open Text

/-- How numbers are rounded. -/
inductive Rounding
  | floor | ceil
  /-- To a count of decimals; a negative count rounds to tens, hundreds and so on. -/
  | places (n : Int)
  deriving DecidableEq, Repr

/-- How the smallest or largest number of a row or column is marked. -/
inductive Highlight
  | none | bold | emph
  deriving DecidableEq, Repr

/-- One setting. -/
inductive Setting
  /-- Text cells are plain text and not markup. -/
  | escape
  | rounding (r : Rounding)
  /-- A count of decimals. -/
  | precision (places : Nat)
  /-- A least width. -/
  | width (n : Nat)
  /-- A count of significant digits. -/
  | digits (n : Nat)
  /-- A separator between groups of three digits, a comma if it is not given. -/
  | group (separator : Option Text)
  | least (h : Highlight)
  | greatest (h : Highlight)
  deriving DecidableEq, Repr

/-- Rows or columns. -/
inductive Axis
  | row | column
  deriving DecidableEq, Repr

/-- One item of a clause. -/
inductive ClauseItem
  | overall (s : Setting)
  | lines (axis : Axis) (ranges : Ranges) (settings : List Setting)
  deriving DecidableEq, Repr

/-- A REFORMAT clause. -/
abbrev Clause := List ClauseItem

/-! ## Writing -/

/-- A style by its name. -/
def Highlight.name : Highlight → Text
  | .none => "none"
  | .bold => "bold"
  | .emph => "emph"

/-- A setting in its canonical form. -/
def Setting.write : Setting → Text
  | .escape => "escape"
  | .rounding .floor => "floor"
  | .rounding .ceil => "ceil"
  | .rounding (.places n) => "round=".toList ++ ofInt n
  | .precision n => "precision=".toList ++ ofNat n
  | .width n => "width=".toList ++ ofNat n
  | .digits n => "digits=".toList ++ ofNat n
  | .group none => "group"
  | .group (some separator) => "group=(".toList ++ separator ++ [')']
  | .least h => "min=".toList ++ h.name
  | .greatest h => "max=".toList ++ h.name

/-- The word that selects rows or columns. -/
def Axis.word : Axis → Text
  | .row => "row"
  | .column => "col"

/-- An item in its canonical form. -/
def ClauseItem.write : ClauseItem → Text
  | .overall s => s.write
  | .lines axis ranges settings =>
    axis.word ++ ' ' :: ranges.write ++ "=(".toList ++ join [' '] (settings.map Setting.write) ++
      [')']

/-- A clause in its canonical form, without the outer parentheses. -/
def Clause.write (c : Clause) : Text := join [' '] (c.map ClauseItem.write)

end QueryWeave
