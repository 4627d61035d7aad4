import QueryWeave.Text.Basic

/-!
# Integers

Reading accepts a sign and ASCII digits and checks the range of the result; printing gives the
canonical decimal digits.
-/

namespace QueryWeave.Text

/-- An ASCII digit. -/
def isDigit (c : Char) : Bool := '0' ≤ c && c ≤ '9'

/-- An ASCII letter. -/
def isLetter (c : Char) : Bool := ('a' ≤ c && c ≤ 'z') || ('A' ≤ c && c ≤ 'Z')

/-- The lower case of an ASCII letter. -/
def lower (c : Char) : Char := if 'A' ≤ c && c ≤ 'Z' then Char.ofNat (c.toNat + 32) else c

/-- The value of one digit. -/
def digitValue (c : Char) : Nat := c.toNat - '0'.toNat

/-- The value of a hexadecimal digit. -/
def hexValue? (c : Char) : Option Nat :=
  if isDigit c then some (digitValue c)
  else if 'a' ≤ c ∧ c ≤ 'f' then some (c.toNat - 'a'.toNat + 10)
  else if 'A' ≤ c ∧ c ≤ 'F' then some (c.toNat - 'A'.toNat + 10)
  else none

/-- The value of a row of digits, the most significant first. -/
def digitsValue (s : Text) : Nat := s.foldl (fun n c => 10 * n + digitValue c) 0

/-- The value of a text that is one or more digits. -/
def digits? (s : Text) : Option Nat :=
  if s ≠ [] ∧ s.all isDigit then some (digitsValue s) else none

/-- The decimal digits of a number. -/
def ofNat (n : Nat) : Text := Nat.toDigits 10 n

/-- The decimal digits of a number after its sign, if it is negative. -/
def ofInt (i : Int) : Text := if i < 0 then '-' :: ofNat i.natAbs else ofNat i.natAbs

/-- A number below `limit`, written with digits after an optional plus sign. -/
def nat? (limit : Nat) (s : Text) : Option Nat :=
  match s with
  | '+' :: s => (digits? s).filter (· < limit)
  | s => (digits? s).filter (· < limit)

/-- A number between `-limit` and `limit - 1`, written with digits after an optional sign. -/
def int? (limit : Nat) (s : Text) : Option Int :=
  match s with
  | '-' :: s => ((digits? s).filter (· ≤ limit)).map fun n => -(n : Int)
  | '+' :: s => ((digits? s).filter (· < limit)).map fun n => (n : Int)
  | s => ((digits? s).filter (· < limit)).map fun n => (n : Int)

/-- Numbers of 64 bits are below this limit. -/
def limit64 : Nat := Nat.pow 2 64

end QueryWeave.Text
