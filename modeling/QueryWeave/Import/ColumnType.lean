import QueryWeave.Text.Integer

/-!
# Column types

The type of an imported column is the narrowest that holds all of its values: whole numbers, decimal
numbers, or any text.

Main statements: `wider` is the least upper bound of the order of the types.
-/

namespace QueryWeave

open Text

/-- The type of an imported column. -/
inductive ColumnType
  | integer | decimal | text
  deriving DecidableEq, Repr

namespace ColumnType

/-- The name of the type in a statement. -/
def name : ColumnType → Text
  | integer => "BIGINT"
  | decimal => "DOUBLE PRECISION"
  | text => "VARCHAR"

/-- The position of the type from the narrowest to the widest. -/
def rank : ColumnType → Nat
  | integer => 0
  | decimal => 1
  | text => 2

/-- The wider of two types, which holds the values of both. -/
def wider (s t : ColumnType) : ColumnType := if s.rank ≤ t.rank then t else s

/-- A text without a sign at its beginning. -/
def unsigned : Text → Text
  | '+' :: s => s
  | '-' :: s => s
  | s => s

/-- Whether the text after the letter of an exponent completes a number. -/
def isExponent (s : Text) : Bool :=
  let digits := unsigned s
  !digits.isEmpty && digits.all isDigit

/-- The type of a number whose whole part is read, by what follows it. -/
def afterWhole (whole : Text) : Text → ColumnType
  | [] => if whole.isEmpty then text else integer
  | '.' :: rest =>
    if (whole ++ rest.takeWhile isDigit).isEmpty then text
    else match rest.dropWhile isDigit with
      | [] => decimal
      | c :: e => if (c = 'e' ∨ c = 'E') ∧ isExponent e then decimal else text
  | _ :: _ => text

/-- The narrowest type that holds a value. -/
def ofValue (s : Text) : ColumnType :=
  let s := unsigned s
  afterWhole (s.takeWhile isDigit) (s.dropWhile isDigit)

/-! ## Order -/

theorem wider_comm (s t : ColumnType) : wider s t = wider t s := by
  cases s <;> cases t <;> rfl

theorem wider_assoc (s t u : ColumnType) : wider (wider s t) u = wider s (wider t u) := by
  cases s <;> cases t <;> cases u <;> rfl

@[simp] theorem wider_self (s : ColumnType) : wider s s = s := by
  cases s <;> rfl

end ColumnType

end QueryWeave
