import QueryWeave.Database.RealNumeral
import QueryWeave.Number.Decimal
import QueryWeave.Result.Table
import QueryWeave.Text.Utf8

/-!
# Values

A database stores NULL, whole numbers of 64 bits, binary64 numbers, texts and bytes. A column has an
affinity, by which texts that are stored in it become numbers where they are numerals.
-/

namespace QueryWeave

open Text

/-- A stored value. -/
inductive Value
  | null
  | integer (i : Int)
  | real (x : Double)
  | text (s : Text)
  | blob (bytes : List UInt8)
  deriving DecidableEq, Repr, Inhabited

namespace Value

/-- Whole numbers of 64 bits are below this limit. -/
def integerLimit : Nat := Nat.pow 2 63

/-- The difference of zero and a number. -/
def negated : Value → Value
  | integer i =>
    if i = -integerLimit then real (.ofNat false integerLimit) else integer (-i)
  | real (.finite negative m) => real (.finite (!negative && m ≠ 0) m)
  | real (.infinite negative) => real (.infinite !negative)
  | v => v

/-! ## Texts of values -/

/-- From this magnitude on, whole numbers are written without a point. -/
def largeReal : Nat := Nat.pow 10 15 * Double.one

/-- A whole number of moderate size keeps one decimal; all others have the fewest digits. -/
def realText : Double → Text
  | .finite negative m =>
    let x := Double.finite negative m
    if m % Double.one = 0 ∧ m < largeReal then x.fixed 1 else x.plain
  | x => x.plain

/-- The cell that shows a value; bytes are read as text as far as they can be. -/
def toCell : Value → Cell
  | null => none
  | integer i => some (ofInt i)
  | real x => some (realText x)
  | text s => some s
  | blob bytes => some (ofUtf8Lenient bytes)

/-! ## Order -/

/-- Classes of values in ascending order. -/
def rank : Value → Nat
  | null => 0
  | integer _ | real _ => 1
  | text _ => 2
  | blob _ => 3

/-- A number in units of the smallest binary64 number; infinities lie beyond all others. -/
def units : Value → Int
  | integer i => i * Double.one
  | real (.finite negative m) => Double.signed negative m
  | real (.infinite negative) => Double.signed negative Double.overflow
  | _ => 0

/-- The characters or bytes of a value as numbers. -/
def codes : Value → List Nat
  | text s => s.map Char.toNat
  | blob bytes => bytes.map UInt8.toNat
  | _ => []

/-- Lexicographic order of rows of numbers. -/
def codesLe : List Nat → List Nat → Bool
  | [], _ => true
  | _ :: _, [] => false
  | a :: as, b :: bs => a < b || (a == b && codesLe as bs)

/-- The order in which a query sorts: by class, numbers by size, and others by their codes. -/
def le (v w : Value) : Bool :=
  if v.rank = w.rank then
    (if v.rank = 1 then decide (v.units ≤ w.units) else codesLe v.codes w.codes)
  else decide (v.rank < w.rank)

end Value

/-! ## Affinities -/

/-- What a column makes of the values that are stored in it. -/
inductive Affinity
  /-- Numbers become texts. -/
  | text
  /-- Numerals become whole numbers if they can. -/
  | integer
  /-- Numerals become binary64 numbers. -/
  | real
  /-- Values stay as they are. -/
  | none
  deriving DecidableEq, Repr

namespace Affinity

/-- Whether a word occurs in a text. -/
def occursIn (w : Text) : Text → Bool
  | [] => w.isEmpty
  | c :: s => startsWith w (c :: s) || occursIn w s

/-- The upper case of an ASCII letter. -/
def upper (c : Char) : Char := if 'a' ≤ c && c ≤ 'z' then Char.ofNat (c.toNat - 32) else c

/-- The affinity of a declared type, told by the words that occur in its name. -/
def ofType (name : Text) : Affinity :=
  let name := name.map upper
  let has (w : String) : Bool := occursIn w.toList name
  if has "INT" then integer
  else if has "CHAR" || has "CLOB" || has "TEXT" then text
  else if has "BLOB" || name.isEmpty then none
  else if has "REAL" || has "FLOA" || has "DOUB" then real
  else integer

/-- Space around a numeral that does not count. -/
def isPadding (c : Char) : Bool :=
  c == ' ' || ('\t' ≤ c && c ≤ '\r')

/-- The numeral that a text is, padding apart. -/
def numeral? (s : Text) : Option Text :=
  let s := dropEndWhile isPadding (s.dropWhile isPadding)
  if (Numeral.read? s).isSome then some s else Option.none

/-- A binary64 number as a whole number, if it is one that is not at the limit. -/
def toInteger (x : Double) : Value :=
  match x with
  | .finite negative m =>
    if m % Double.one = 0 ∧ m / Double.one < Value.integerLimit then
      .integer (Double.signed negative (m / Double.one))
    else .real x
  | x => .real x

/-- The number that a numeral stands for. -/
def toNumber (s : Text) : Value :=
  match int? Value.integerLimit s with
  | some i => .integer i
  | Option.none => toInteger (RealNumeral.read s)

/-- A whole number as a binary64 number; other values stay as they are. -/
def toReal : Value → Value
  | .integer i => .real (.ofNat (i < 0) i.natAbs)
  | v => v

/-- The value that a column with this affinity stores. Numerals are whole numbers first wherever
they can be, so that a zero has no sign. -/
def store : Affinity → Value → Value
  | text, .integer i => .text (ofInt i)
  | text, .real x => .text (Value.realText x)
  | integer, .text s =>
    match numeral? s with
    | some n => toNumber n
    | Option.none => .text s
  | integer, .real x => toInteger x
  | real, .text s =>
    match numeral? s with
    | some n => toReal (toNumber n)
    | Option.none => .text s
  | real, .integer i => toReal (.integer i)
  | _, v => v

example : ofType "DOUBLE PRECISION".toList = real ∧ ofType "bigint".toList = integer := by decide
example : store integer (.text "2.50".toList) = .real (.finite false (5 * Nat.pow 2 1073)) := by
  decide +kernel
example : store integer (.text " 3.0 ".toList) = .integer 3 := by decide +kernel
example : store real (.text "-0.0".toList) = .real (.finite false 0) := by decide +kernel

end Affinity

end QueryWeave
