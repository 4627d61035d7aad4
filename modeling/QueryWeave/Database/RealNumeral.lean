import QueryWeave.Number.Extended
import QueryWeave.Number.Numeral

/-!
# Numerals of real numbers

A database reads the numeral of a real number step by step: the first digits, about nineteen, give a
whole number, which is multiplied by powers of ten until the exponent is used up. All steps are
taken in numbers of 64 significant bits, so that most numerals become the nearest binary64 number,
and some a neighbour of it.
-/

namespace QueryWeave

open Text

namespace RealNumeral

/-! ## Coefficient and exponent -/

/-- A coefficient below this limit takes one more digit. -/
def coefficientLimit : Nat := (Nat.pow 2 64 - 10) / 10

/-- The coefficient `c` after the digits that it still takes, and the digits that are left. -/
def takeDigits (c : Nat) : Text → Nat × Text
  | [] => (c, [])
  | d :: ds =>
    if c < coefficientLimit then takeDigits (c * 10 + digitValue d) ds else (c, d :: ds)

/-- Exponents do not grow beyond this. -/
def exponentLimit : Nat := 10000

/-- The size of an exponent; a digit after the limit is reached takes it back to the limit. -/
def exponentSize (digits : Text) : Nat :=
  digits.foldl (fun e d => if e < exponentLimit then e * 10 + digitValue d else exponentLimit) 0

/-- The exponent after the digits of a numeral. -/
def exponent (s : Text) : Int :=
  let (negative, digits) := Numeral.sign (s.drop 1)
  if negative then -exponentSize digits else exponentSize digits

/-- A coefficient that grows as long as it can while a positive exponent shrinks. -/
def raise : (fuel : Nat) → Nat × Int → Nat × Int
  | 0, x => x
  | fuel + 1, (c, e) =>
    if 0 < e ∧ c < (Nat.pow 2 64 - 1) / 10 then raise fuel (c * 10, e - 1) else (c, e)

/-- A coefficient that loses zeros at its end while a negative exponent grows. -/
def lower : (fuel : Nat) → Nat × Int → Nat × Int
  | 0, x => x
  | fuel + 1, (c, e) => if e < 0 ∧ c % 10 = 0 then lower fuel (c / 10, e + 1) else (c, e)

/-! ## Value -/

/-- The product of a coefficient and a power of ten: first by hundreds of the exponent, then by
tens, then by ones. -/
def scaled (negative : Bool) (c : Nat) (e : Int) : Double :=
  let step (n : Nat) : Extended :=
    if 0 ≤ e then .ofNat (Nat.pow 10 n) else .inverse (Nat.pow 10 n)
  let n := e.natAbs
  let hundreds := (step 100).timesPower (n / 100) (.ofNat c)
  let tens := (step 10).timesPower (n % 100 / 10) hundreds
  ((step 1).timesPower (n % 10) tens).toDouble negative

/-- The value of a numeral. -/
def read (s : Text) : Double :=
  let (negative, s) := Numeral.sign s
  let (c, left) := takeDigits 0 (s.takeWhile isDigit)
  let rest := s.dropWhile isDigit
  let part := match rest with
    | '.' :: r => r.takeWhile isDigit
    | _ => []
  let (c, unused) := takeDigits c part
  let tail := match rest with
    | '.' :: r => r.dropWhile isDigit
    | r => r
  let e := exponent tail + left.length - (part.length - unused.length : Nat)
  if c = 0 then .finite negative 0
  else
    -- no coefficient has more than twenty digits
    let (c, e) := lower 20 (raise 20 (c, e))
    if e = 0 then .ofNat negative c else scaled negative c e

/-- Half a unit in the last place is lost on the way. -/
example : read "161.7403537".toList ≠ .ofRatio false 1617403537 (Nat.pow 10 7) := by decide +kernel

example : read "0.4975".toList = .ofRatio false 4975 (Nat.pow 10 4) := by decide +kernel

end RealNumeral

end QueryWeave
