import QueryWeave.Number.Decimal
import QueryWeave.Number.Magnitude
import QueryWeave.Reformat.Extrema
import QueryWeave.Reformat.Format
import QueryWeave.Text.Escape

/-!
# Formatted cells

How the text of a cell is written under a clause: numbers are rounded, cut to a precision, grouped
and padded, extrema are marked up, and other texts are escaped where the clause asks for it.
-/

namespace QueryWeave

open Text

namespace CellFormat

/-! ## Numbers -/

/-- The rounded value. -/
def round (f : CellFormat) (x : Double) : Double :=
  match f.rounding with
  | none => x
  | some .floor => x.floor
  | some .ceil => x.ceil
  | some (.places n) => (x.mul (.powerOfTen n)).round.div (.powerOfTen n)

/-- The number of decimals, which a rounding sets if nothing else does. -/
def places? (f : CellFormat) : Option Nat :=
  f.precision <|>
    match f.rounding with
    | none => none
    | some .floor | some .ceil => some 0
    | some (.places n) => some n.toNat

/-- Whether the format says anything about the digits of a number. -/
def changesDigits (f : CellFormat) : Bool :=
  f.places?.isSome || f.width.isSome || f.digits.isSome || f.group.isSome

/-- The number without the sign of a zero. -/
def unsignedZero (x : Double) : Double := if x.isZero then .finite false 0 else x

/-- The digits of a number that is already rounded. -/
def digitsOf (f : CellFormat) (x : Double) : Text :=
  match f.digits, f.places? with
  | some n, _ => x.fixed (x.significantPlaces n)
  | none, some p => x.fixed p
  | none, none => x.plain

/-- The text after spaces up to the least width; a count of significant digits stands alone. -/
def fill (f : CellFormat) (s : Text) : Text :=
  match f.digits, f.width with
  | none, some w => Text.fill (w - s.length) ' ' ++ s
  | _, _ => s

/-- A number with the value `x`, written as `s` in the result. -/
def number (f : CellFormat) (s : Text) (x : Double) : Text :=
  if f.changesDigits then
    let digits := f.digitsOf (unsignedZero (f.round x))
    f.fill (match f.group with
      | some separator => groupThousands separator digits
      | none => digits)
  else s

end CellFormat

/-! ## Extrema -/

/-- The text in the markup of a style. -/
def Highlight.wrap : Highlight → Text → Text
  | .none, s => s
  | .bold, s => "\\textbf\x7b".toList ++ s ++ ['}']
  | .emph, s => "\\emph\x7b".toList ++ s ++ ['}']

/-! ## Cells -/

/-- A clause with the extrema of the table that it is applied to. -/
structure Reformat where
  clause : Clause
  extrema : TableExtrema
  deriving DecidableEq, Repr

namespace Reformat

/-- A clause that is applied to a table. -/
def ofTable (c : Clause) (t : ResultTable) : Reformat := ⟨c, .ofTable t⟩

/-- The extrema along one axis of a cell. -/
def along (r : Reformat) (row column : Nat) : Axis → Extrema
  | .row => r.extrema.row row
  | .column => r.extrema.column column

/-- The style in which the number written as `s` is marked: that of the smallest number wins over
that of the largest one unless it is no style at all. -/
def style (r : Reformat) (row column : Nat) (s : Text) : Highlight :=
  let f := r.clause.format row column
  let least := if (r.along row column (r.clause.leastAxis row)).least = some s
    then f.least.getD .none else .none
  let greatest := if (r.along row column (r.clause.greatestAxis row)).greatest = some s
    then f.greatest.getD .none else .none
  if least = .none then greatest else least

/-- The text `s` of a cell as it is written. -/
def cell (r : Reformat) (row column : Nat) (s : Text) : Text :=
  let f := r.clause.format row column
  match number? s with
  | some x => (r.style row column s).wrap (f.number s x)
  | none => if f.escape then latexEscape s else s

end Reformat

end QueryWeave
