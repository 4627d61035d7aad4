import QueryWeave.Number.Double

/-!
# Numbers of 64 significant bits

Positive numbers with eleven bits more than a binary64 number has, and with an exponent that is not
bounded. A computation in them is rounded once more when its result becomes a binary64 number.
-/

namespace QueryWeave

/-- The number `mantissa * 2 ^ exponent`. -/
structure Extended where
  mantissa : Nat
  exponent : Int
  deriving DecidableEq, Repr

namespace Extended

/-- The nearest number to `n / d * 2 ^ e` for `n / d` at least one, a half to the even neighbour. -/
def nearest (n d : Nat) (e : Int) : Extended :=
  let excess := (n / d).log2 - 63
  ⟨Double.roundHalfEven n (d * Nat.pow 2 excess), e + excess⟩

/-- The nearest number to a positive whole number. -/
def ofNat (n : Nat) : Extended := nearest n 1 0

/-- The nearest number to the inverse of a positive whole number. -/
def inverse (n : Nat) : Extended :=
  let shift := 65 + n.log2
  nearest (Nat.pow 2 shift) n (-shift)

/-- The nearest number to the product. -/
def mul (a b : Extended) : Extended :=
  nearest (a.mantissa * b.mantissa) 1 (a.exponent + b.exponent)

/-- The product with the `n`-th power of `a`, multiplied one by one. -/
def timesPower (a : Extended) : (n : Nat) → Extended → Extended
  | 0, r => r
  | n + 1, r => timesPower a n (r.mul a)

/-- The nearest binary64 number, with a sign. What exceeds all finite numbers, if only by the bits
that they lack, is infinite. -/
def toDouble (negative : Bool) (x : Extended) : Double :=
  let e := x.exponent + 1074
  let n := x.mantissa * Nat.pow 2 e.toNat
  let d := Nat.pow 2 (-e).toNat
  if (Double.overflow - Nat.pow 2 2045) * d < n then .infinite negative
  else Double.nearest negative n d

end Extended

end QueryWeave
