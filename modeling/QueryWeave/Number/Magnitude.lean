import QueryWeave.Number.Decimal
import QueryWeave.Number.Logarithm

/-!
# Order of magnitude

The order of magnitude of a number is the whole part of its base-ten logarithm. The logarithm is
itself a binary64 number, so a value just below a power of ten whose logarithm rounds to the
exponent of that power already has its magnitude.
-/

namespace QueryWeave

open Text

namespace Double

/-- The whole part of the base-ten logarithm of `m` units, which are at least one. -/
def magnitude (m : Nat) : Nat :=
  match (log10 m).floor with
  | finite _ n => n / one
  | _ => 0

/-- The largest magnitude that a logarithm can be converted to. -/
def largestMagnitude : Int := Nat.pow 2 63 - 1

/-- The number of decimals that show `digits` significant digits. A number below one shows that many
decimals, so that its leading zero does not count as a digit. -/
def significantPlaces (x : Double) (digits : Nat) : Nat :=
  match x with
  | nan => ((digits : Int) - 1).toNat
  | infinite _ => ((digits : Int) - 1 - largestMagnitude).toNat
  | finite _ m => if m < one then digits else ((digits : Int) - 1 - magnitude m).toNat

end Double

/-- A numeral with `separator` between groups of three digits of its whole part. The whole part ends
at the first point, and a leading minus sign does not belong to it. -/
def groupThousands (separator s : Text) : Text :=
  let (sign, rest) : Text × Text := match s with
    | '-' :: r => (['-'], r)
    | r => ([], r)
  let whole := rest.takeWhile (· != '.')
  sign ++ grouped whole ++ rest.dropWhile (· != '.')
where
  /-- A separator stands before every digit but the first whose distance from the end is a multiple
  of three. -/
  grouped : Text → Text
    | [] => []
    | [c] => [c]
    | c :: d :: s =>
      if (d :: s).length % 3 = 0 then c :: (separator ++ grouped (d :: s))
      else c :: grouped (d :: s)

theorem groupThousands_minus (separator s : Text) :
    groupThousands separator ('-' :: s) = '-' ::
      (groupThousands.grouped separator (s.takeWhile (· != '.')) ++ s.dropWhile (· != '.')) := rfl

theorem groupThousands_of_head?_ne (separator : Text) {s : Text} (h : s.head? ≠ some '-') :
    groupThousands separator s =
      groupThousands.grouped separator (s.takeWhile (· != '.')) ++ s.dropWhile (· != '.') := by
  unfold groupThousands
  split
  next sign rest hsplit =>
  split at hsplit
  · exact absurd rfl h
  · cases hsplit
    rfl

end QueryWeave
