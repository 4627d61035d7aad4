import QueryWeave.Text.Integer

/-!
# Binary64 numbers

Every finite binary64 number is a whole multiple of the smallest positive one, `2 ^ -1074`. A
number is therefore a sign and a natural number of these units, and comparison, arithmetic and
printing are exact computations on natural numbers, rounded once where the format demands it.
-/

namespace QueryWeave

/-- A binary64 number: finite with a magnitude in units of `2 ^ -1074`, infinite, or not a
number. -/
inductive Double
  | finite (negative : Bool) (units : Nat)
  | infinite (negative : Bool)
  | nan
  deriving DecidableEq, Repr, Inhabited

namespace Double

/-- The number of units in `1`. -/
def one : Nat := Nat.pow 2 1074

/-- The first magnitude that is too large to be finite, in units. -/
def overflow : Nat := Nat.pow 2 2098

/-- The quotient `n / d` rounded to the nearest whole number, a half to the even neighbour. -/
def roundHalfEven (n d : Nat) : Nat :=
  let q := n / d
  let r := n % d
  if 2 * r < d then q else if d < 2 * r then q + 1 else if q % 2 = 0 then q else q + 1

/-- The finite number or infinity nearest to `n / d` units. A magnitude of `53` bits or less is kept
to the unit; above that the last of `53` significant bits is the unit of rounding. -/
def nearest (negative : Bool) (n d : Nat) : Double :=
  let bits := (n / d).log2
  let grain := Nat.pow 2 (bits - 52)
  let units := roundHalfEven n (d * grain) * grain
  if overflow ≤ units then infinite negative else finite negative units

/-- The number nearest to the quotient `n / d`. -/
def ofRatio (negative : Bool) (n d : Nat) : Double := nearest negative (n * one) d

/-- The number nearest to a whole number. -/
def ofNat (negative : Bool) (n : Nat) : Double := nearest negative (n * one) 1

/-! ## Order -/

/-- The units of a finite number with their sign. -/
def signed (negative : Bool) (units : Nat) : Int := if negative then -(units : Int) else units

/-- Whether one number is smaller than another; nothing is comparable with what is not a number. -/
def lt : Double → Double → Bool
  | finite a m, finite b n => decide (signed a m < signed b n)
  | finite .., infinite b => !b
  | infinite a, finite .. => a
  | infinite a, infinite b => a && !b
  | nan, _ => false
  | _, nan => false

/-- Whether the number is finite. -/
def isFinite : Double → Bool
  | finite .. => true
  | _ => false

/-- Whether the number is zero, of either sign. -/
def isZero : Double → Bool
  | finite _ 0 => true
  | _ => false

/-! ## Arithmetic -/

/-- The correctly rounded sum. -/
def add : Double → Double → Double
  | nan, _ => nan
  | _, nan => nan
  | infinite a, infinite b => if a = b then infinite a else nan
  | infinite a, finite .. => infinite a
  | finite .., infinite b => infinite b
  | finite a m, finite b n =>
    let sum := signed a m + signed b n
    if sum = 0 then finite (a && b) 0 else nearest (decide (sum < 0)) sum.natAbs 1

/-- The correctly rounded product. -/
def mul : Double → Double → Double
  | nan, _ => nan
  | _, nan => nan
  | infinite a, infinite b => infinite (a != b)
  | infinite a, finite b n => if n = 0 then nan else infinite (a != b)
  | finite a m, infinite b => if m = 0 then nan else infinite (a != b)
  | finite a m, finite b n => nearest (a != b) (m * n) one

/-- The correctly rounded quotient. -/
def div : Double → Double → Double
  | nan, _ => nan
  | _, nan => nan
  | infinite _, infinite _ => nan
  | infinite a, finite b _ => infinite (a != b)
  | finite a _, infinite b => finite (a != b) 0
  | finite a m, finite b n =>
    if n = 0 then (if m = 0 then nan else infinite (a != b)) else nearest (a != b) (m * one) n

/-- The whole number `f whole fraction` of a finite number, where the fraction is in units. -/
def integral (f : Bool → Nat → Nat → Nat) : Double → Double
  | finite a m => ofNat a (f a (m / one) (m % one))
  | x => x

/-- The largest whole number that is not larger. -/
def floor : Double → Double :=
  integral fun negative whole part => if negative && part ≠ 0 then whole + 1 else whole

/-- The smallest whole number that is not smaller. -/
def ceil : Double → Double :=
  integral fun negative whole part => if !negative && part ≠ 0 then whole + 1 else whole

/-- The nearest whole number, a half away from zero. -/
def round : Double → Double :=
  integral fun _ whole part => if one ≤ 2 * part then whole + 1 else whole

/-- Powers by squaring: `r` times `a ^ n`, every product rounded. -/
def powerBy (r a : Double) (n : Nat) : Double :=
  let r := if n % 2 = 1 then r.mul a else r
  if n / 2 = 0 then r else powerBy r (a.mul a) (n / 2)
termination_by n
decreasing_by omega

/-- The power of ten with a whole exponent; a negative exponent is the inverse of its opposite. -/
def powerOfTen (n : Int) : Double :=
  let p := powerBy (ofNat false 1) (ofNat false 10) n.natAbs
  if n < 0 then (ofNat false 1).div p else p

/-! ## Bits -/

/-- The pattern of sign, exponent and fraction bits. -/
def toBits : Double → Nat
  | finite a m =>
    let sign := if a then Nat.pow 2 63 else 0
    if m < Nat.pow 2 52 then sign + m
    else
      let shift := m.log2 - 52
      sign + (shift + 1) * Nat.pow 2 52 + (m / Nat.pow 2 shift - Nat.pow 2 52)
  | infinite a => (if a then Nat.pow 2 63 else 0) + 0x7FF * Nat.pow 2 52
  | nan => 0x7FF * Nat.pow 2 52 + Nat.pow 2 51

end Double

end QueryWeave
