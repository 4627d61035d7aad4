import QueryWeave.Number.Numeral

/-!
# Decimal forms

A binary64 number is printed either with a fixed count of decimals, as its exact value rounded half
to even, or with the fewest digits that read back as the same number. Both forms are positional:
there is never an exponent.
-/

namespace QueryWeave

open Text

namespace Double

/-- Digits with a point before the last `places` of them; there is always one digit before it. -/
def withPoint (digits : Text) (places : Nat) : Text :=
  let padded := fill (places + 1 - digits.length) '0' ++ digits
  let whole := padded.length - places
  if places = 0 then padded else padded.take whole ++ '.' :: padded.drop whole

/-- A text after a minus sign, if there is one to write. -/
def signedText (negative : Bool) (s : Text) : Text := if negative then '-' :: s else s

/-- The number with `places` decimals. -/
def fixed (places : Nat) : Double → Text
  | finite a m =>
    signedText a (withPoint (Text.ofNat (roundHalfEven (m * Nat.pow 10 places) one)) places)
  | infinite a => signedText a "inf"
  | nan => "NaN"

/-! ## Fewest digits -/

/-- Twice the distances to the ends of the interval of reals that read as `m` units, below and
above. Just above a power of two the lower neighbour is half as far away as the upper one. -/
def halfGaps (m : Nat) : Nat × Nat :=
  let grain := Nat.pow 2 (m.log2 - 52)
  (if m.log2 > 52 ∧ m = Nat.pow 2 m.log2 then grain / 2 else grain, grain)

/-- The last unit of `m` in its own precision is even, so that the ends of the interval belong to
it. -/
def endsIncluded (m : Nat) : Bool := m / Nat.pow 2 (m.log2 - 52) % 2 == 0

/-- Whether the decimal `n * 10 ^ e`, scaled so that everything is whole, reads as `m` units. -/
def readsAs (m : Nat) (n : Nat) (e : Int) : Bool :=
  let (below, above) := halfGaps m
  let up := Nat.pow 10 e.toNat
  let down := Nat.pow 10 (-e).toNat
  -- compare twice the decimal, in units, with twice the ends of the interval
  let x := 2 * n * up * one
  let low := (2 * m - below) * down
  let high := (2 * m + above) * down
  if endsIncluded m then low ≤ x && x ≤ high else low < x && x < high

/-- The decimal on the grid of `10 ^ e` that reads as `m` units: the nearer of the two neighbours
of `m`, and of two equally near ones the upper. -/
def onGrid? (m : Nat) (e : Int) : Option (Nat × Int) :=
  let num := m * Nat.pow 10 (-e).toNat
  let den := one * Nat.pow 10 e.toNat
  let n := num / den
  let r := num % den
  match readsAs m n e, readsAs m (n + 1) e with
  | true, true => some (if 2 * r < den then n else n + 1, e)
  | true, false => some (n, e)
  | false, true => some (n + 1, e)
  | false, false => none

/-- The least `e` with the magnitude of `m` units below `10 ^ e`, for a positive `m`. -/
def decimalExponent (m : Nat) : Int :=
  ((Nat.toDigits 10 (m * Nat.pow 10 330 / one)).length : Int) - 330

/-- The decimal `n * 10 ^ e` with the fewest digits that reads as `m` units: the first hit on the
grid of the next power of ten and on those of one, two and up to seventeen digits. -/
def shortest (m : Nat) : Nat × Int :=
  let e := decimalExponent m
  match (List.range 18).findSome? fun (k : Nat) => onGrid? m (e - k) with
  | some d => d
  | none => (m, 0)

/-- The digits of `n * 10 ^ e` in positional form. -/
def positional (n : Nat) (e : Int) : Text :=
  if 0 ≤ e then Text.ofNat (n * Nat.pow 10 e.toNat) else withPoint (Text.ofNat n) e.natAbs

/-- The number with the fewest digits that read back; a whole number has no point. -/
def plain : Double → Text
  | finite a m =>
    if m = 0 then signedText a "0"
    else
      let (n, e) := shortest m
      signedText a (positional n e)
  | infinite a => signedText a "inf"
  | nan => "NaN"

/-- The binary64 number next to `10 ^ -7` lies below it. -/
example : plain (Double.ofRatio false 1 (Nat.pow 10 7)) = "0.0000001".toList := by decide +kernel

end Double

end QueryWeave
