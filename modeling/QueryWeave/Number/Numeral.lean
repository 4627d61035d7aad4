import QueryWeave.Number.Double
import QueryWeave.Text.White

/-!
# Numerals

A numeral is an optional sign, decimal digits with at most one point among them, and an optional
exponent. It is read as the binary64 number nearest to the decimal fraction it writes. A cell of a
result is a *number* if it is a numeral of a finite value; the words for infinities are not.
-/

namespace QueryWeave

open Text

/-- A decimal fraction `coefficient * 10 ^ exponent` with a sign. -/
structure Numeral where
  negative : Bool
  coefficient : Nat
  exponent : Int
  deriving DecidableEq, Repr

namespace Numeral

/-! ## Value -/

/-- Decimal exponents from here on make every coefficient infinite. -/
def largeExponent : Nat := 400

/-- The nearest binary64 number. A coefficient of `k` digits is below `10 ^ k`, so exponents far
outside the range of the format are decided without computing their power of ten. -/
def toDouble (x : Numeral) : Double :=
  if x.coefficient = 0 then .finite x.negative 0
  else
    let size := (Nat.toDigits 10 x.coefficient).length
    if x.exponent + size > largeExponent then .infinite x.negative
    else if x.exponent + size < -(largeExponent : Int) then .finite x.negative 0
    else if x.exponent < 0 then .ofRatio x.negative x.coefficient (Nat.pow 10 x.exponent.natAbs)
    else .ofNat x.negative (x.coefficient * Nat.pow 10 x.exponent.natAbs)

/-! ## Reading -/

/-- A sign, if there is one, and the rest. -/
def sign : Text → Bool × Text
  | '-' :: s => (true, s)
  | '+' :: s => (false, s)
  | s => (false, s)

/-- The exponent after the coefficient: nothing, or a letter `e`, a sign and digits. -/
def exponent? : Text → Option Int
  | [] => some 0
  | c :: s =>
    if c = 'e' ∨ c = 'E' then
      let (negative, s) := sign s
      (digits? s).map fun n => if negative then -(n : Int) else n
    else none

/-- A numeral without its sign. -/
def unsigned? (negative : Bool) (s : Text) : Option Numeral :=
  let whole := s.takeWhile isDigit
  let rest := s.dropWhile isDigit
  let (part, rest) := match rest with
    | '.' :: r => (r.takeWhile isDigit, r.dropWhile isDigit)
    | r => ([], r)
  if whole ++ part = [] then none
  else (exponent? rest).map fun e =>
    ⟨negative, digitsValue (whole ++ part), e - part.length⟩

/-- Reads a whole text as a numeral. -/
def read? (s : Text) : Option Numeral :=
  let (negative, s) := sign s
  unsigned? negative s

end Numeral

/-- Reads a numeral, or the name of an infinity or of what is not a number, after a sign and in any
case. -/
def Double.read? (s : Text) : Option Double :=
  let (negative, r) := Numeral.sign s
  let word := r.map lower
  if word = "inf".toList ∨ word = "infinity".toList then some (.infinite negative)
  else if word = "nan".toList then some .nan
  else (Numeral.read? s).map Numeral.toDouble

/-! ## Cells -/

/-- The value of a cell that is a number: trimmed, it begins like a numeral, has no letter but `e`,
and is finite. -/
def number? (s : Text) : Option Double :=
  let s := trim s
  match s with
  | [] => none
  | c :: _ =>
    if !(isDigit c || c == '-' || c == '+' || c == '.') then none
    else if s.any fun c => isLetter c && c != 'e' && c != 'E' then none
    else (Double.read? s).filter Double.isFinite

/-- A cell that is a number is, trimmed, a numeral of a finite value: the names of infinities and
the like are read as well, but their values are not finite. -/
theorem number?_eq_some {s : Text} {x : Double} (h : number? s = some x) :
    x.isFinite = true ∧ ∃ n, Numeral.read? (trim s) = some n := by
  unfold number? at h
  dsimp only at h
  split at h
  · cases h
  · split at h
    · cases h
    · split at h
      · cases h
      · obtain ⟨hread, hfinite⟩ := Option.filter_eq_some_iff.1 h
        refine ⟨hfinite, ?_⟩
        unfold Double.read? at hread
        dsimp only at hread
        split at hread
        · cases hread
          cases hfinite
        · split at hread
          · cases hread
            cases hfinite
          · obtain ⟨n, hn, -⟩ := Option.map_eq_some_iff.1 hread
            exact ⟨n, hn⟩

/-- Whether a cell is a number. -/
def isNumber (s : Text) : Bool := (number? s).isSome

end QueryWeave
