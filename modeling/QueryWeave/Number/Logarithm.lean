import QueryWeave.Number.Double

/-!
# Base-ten logarithms

A number is `t * 2 ^ k` with `t` at least one and below two, and its base-ten logarithm is
`k * log10 2 + ln t / ln 10`. It is computed in this form, with every product and every sum rounded
to a binary64 number, so that its last bit can differ from that of the nearest number. The logarithm
of two is the sum of two numbers, the larger of which has so few bits that its product with `k` is
exact.
-/

namespace QueryWeave

namespace Double

/-! ## Natural logarithms -/

/-- The unit in which natural logarithms are summed up. -/
def lnOne : Nat := Nat.pow 2 192

/-- The first `fuel` terms of `u + u ^ 3 / 3 + u ^ 5 / 5 + …`, given `u ^ 2`, the power of `u` in
the first term, and its divisor. -/
def oddPowers (square : Nat) : (fuel : Nat) → (power divisor : Nat) → Nat
  | 0, _, _ => 0
  | fuel + 1, power, divisor =>
    power / divisor + oddPowers square fuel (power * square / lnOne) (divisor + 2)

/-- The natural logarithm of `n / d`, which is at least one and below two: twice the inverse
hyperbolic tangent of `u = (n - d) / (n + d)`, which is below one third. -/
def ln (n d : Nat) : Double :=
  let u := (n - d) * lnOne / (n + d)
  ofRatio false (2 * oddPowers (u * u / lnOne) 64 u 1) lnOne

/-! ## Base ten -/

/-- The base-ten logarithm of two, cut off after 41 binary places. -/
def logTwoLeading : Double := ofRatio false 661971961083 (Nat.pow 2 41)

/-- What is left of the base-ten logarithm of two. -/
def logTwoTrailing : Double := ofRatio false 3658597174646171 (Nat.pow 2 93)

/-- The base-ten logarithm of Euler's number. -/
def logEuler : Double := ofRatio false 3911776933737095 (Nat.pow 2 53)

/-- The base-ten logarithm of `m` units, which are at least one. -/
def log10 (m : Nat) : Double :=
  let k := ofNat false (m.log2 - 1074)
  let trailing := (k.mul logTwoTrailing).add (logEuler.mul (ln m (Nat.pow 2 m.log2)))
  trailing.add (k.mul logTwoLeading)

/-- The logarithm of a thousand is exact, and so is that of the fifth number below it. -/
example : log10 (1000 * one) = ofNat false 3 ∧
    log10 (1000 * one - 5 * Nat.pow 2 (9 + 1074 - 52)) = ofNat false 3 := by
  decide +kernel

end Double

end QueryWeave
