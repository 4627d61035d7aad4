import QueryWeave.Text.Integer

/-!
# Faults of a REFORMAT clause

Why a clause cannot be read.
-/

namespace QueryWeave

open Text

/-- What is wrong with a REFORMAT clause. -/
inductive ClauseError
  /-- The clause does not start with a parenthesis. -/
  | noParentheses
  /-- A parenthesis is not closed. -/
  | unbalanced
  /-- A key is expected, and something else stands there. -/
  | unexpected (c : Char) (clause : Text)
  /-- A key that the clause does not know. -/
  | unknownKey (key : Text)
  /-- A key that a row or column does not know. -/
  | unknownLineKey (key : Text)
  | badValue (key value : Text)
  | badDigits (digits : Nat)
  | badStyle (key value : Text)
  /-- Faults of a list of numbers and ranges. -/
  | badNumber (number ranges : Text)
  | numberTooLarge (ranges : Text)
  | reversed (low high : Nat) (ranges : Text)
  deriving DecidableEq, Repr

namespace ClauseError

/-- Says where in a list of ranges a fault lies. -/
def inRanges (what : String) (ranges : Text) : String :=
  s!"{what} in number range \"{shown ranges}\""

/-- The fault in words. -/
def message : ClauseError → String
  | noParentheses => "REFORMAT clause needs parentheses"
  | unbalanced => "unbalanced parentheses in REFORMAT() clause"
  | unexpected c clause => s!"unexpected character '{shown [c]}' in \"{shown clause}\""
  | unknownKey key => s!"invalid top-level key: {shown key}"
  | unknownLineKey key => s!"invalid row/column-level key: {shown key}"
  | badValue key value => s!"invalid value {shown key}={shown value}"
  | badDigits n => s!"digits={shown (ofNat n)} is not supported, use digits=2, 3 or 4"
  | badStyle key value =>
    s!"invalid style for {shown key}: {shown value} (use none, bold or emph)"
  | badNumber number ranges => inRanges s!"invalid number '{shown number}'" ranges
  | numberTooLarge ranges => inRanges "number too large" ranges
  | reversed low high ranges =>
    inRanges s!"reversed range {shown (ofNat low)}-{shown (ofNat high)}" ranges

end ClauseError

end QueryWeave
