import QueryWeave.Reformat.Clause

/-!
# Cell formats

A clause gives every cell a format. The settings of the rows that cover the cell win over those of
its column, and these win over the settings for all cells, each field on its own. Within one level
the last setting of a field wins.

Main statements: a field of the combined format is that of the stronger format where this sets it
(`withDefaults`), and a level in which a field is set twice keeps the last one
(`ofSettings_append`).
-/

namespace QueryWeave

open Text

/-- The format of a cell; a field that is not set falls back to a weaker format. -/
structure CellFormat where
  /-- Text cells are plain text and not markup. -/
  escape : Bool := false
  rounding : Option Rounding := none
  precision : Option Nat := none
  width : Option Nat := none
  digits : Option Nat := none
  /-- The separator between groups of three digits. -/
  group : Option Text := none
  least : Option Highlight := none
  greatest : Option Highlight := none
  deriving DecidableEq, Repr, Inhabited

namespace CellFormat

/-- The separator of a group setting that names none. -/
def usualSeparator : Text := [',']

/-- The format after one more setting. -/
def set (f : CellFormat) : Setting → CellFormat
  | .escape => { f with escape := true }
  | .rounding r => { f with rounding := some r }
  | .precision n => { f with precision := some n }
  | .width n => { f with width := some n }
  | .digits n => { f with digits := some n }
  | .group separator => { f with group := some (separator.getD usualSeparator) }
  | .least h => { f with least := some h }
  | .greatest h => { f with greatest := some h }

/-- The format of one level, from its settings in order. -/
def ofSettings (settings : List Setting) : CellFormat := settings.foldl set {}

/-- The fields of `f`, and those of `g` where `f` sets none. -/
def withDefaults (f g : CellFormat) : CellFormat where
  escape := f.escape || g.escape
  rounding := f.rounding <|> g.rounding
  precision := f.precision <|> g.precision
  width := f.width <|> g.width
  digits := f.digits <|> g.digits
  group := f.group <|> g.group
  least := f.least <|> g.least
  greatest := f.greatest <|> g.greatest

/-! ## Laws of levels -/

@[simp] theorem empty_withDefaults (f : CellFormat) : withDefaults {} f = f := by
  cases f
  simp [withDefaults]

@[simp] theorem withDefaults_empty (f : CellFormat) : withDefaults f {} = f := by
  cases f
  simp [withDefaults]

/-- A setting wins over everything before it. -/
theorem set_eq_withDefaults (f : CellFormat) (s : Setting) :
    f.set s = withDefaults (set {} s) f := by
  cases s <;> simp [set, withDefaults]

theorem withDefaults_assoc (f g h : CellFormat) :
    withDefaults (withDefaults f g) h = withDefaults f (withDefaults g h) := by
  simp only [withDefaults, Bool.or_assoc, mk.injEq, true_and]
  refine ⟨?_, ?_, ?_, ?_, ?_, ?_, ?_⟩
  · cases f.rounding <;> rfl
  · cases f.precision <;> rfl
  · cases f.width <;> rfl
  · cases f.digits <;> rfl
  · cases f.group <;> rfl
  · cases f.least <;> rfl
  · cases f.greatest <;> rfl

theorem foldl_set (f : CellFormat) (settings : List Setting) :
    settings.foldl set f = withDefaults (ofSettings settings) f := by
  induction settings generalizing f with
  | nil => simp [ofSettings]
  | cons s ss ih =>
    simp only [ofSettings, List.foldl_cons]
    rw [ih (f.set s), ih (set {} s), set_eq_withDefaults f s, withDefaults_assoc]

/-- Later settings of a level win over earlier ones. -/
theorem ofSettings_append (xs ys : List Setting) :
    ofSettings (xs ++ ys) = withDefaults (ofSettings ys) (ofSettings xs) := by
  rw [ofSettings, List.foldl_append, foldl_set]
  rfl

end CellFormat

/-! ## Levels of a clause -/

/-- The settings of an item that hold for all cells. -/
def ClauseItem.overallSettings : ClauseItem → List Setting
  | .overall s => [s]
  | .lines .. => []

/-- The settings of an item that hold for line `i` of an axis. -/
def ClauseItem.lineSettings (axis : Axis) (i : Nat) : ClauseItem → List Setting
  | .overall _ => []
  | .lines a ranges settings => if a = axis ∧ ranges.covers i then settings else []

namespace Clause

/-- The format for all cells. -/
def overallFormat (c : Clause) : CellFormat :=
  .ofSettings (c.flatMap ClauseItem.overallSettings)

/-- The format of row or column `i`. -/
def lineFormat (c : Clause) (axis : Axis) (i : Nat) : CellFormat :=
  .ofSettings (c.flatMap (ClauseItem.lineSettings axis i))

/-- The format of a cell. -/
def format (c : Clause) (row column : Nat) : CellFormat :=
  (c.lineFormat .row row).withDefaults ((c.lineFormat .column column).withDefaults c.overallFormat)

/-- Whether the smallest number is sought along the row of a cell, and not along its column. -/
def leastAxis (c : Clause) (row : Nat) : Axis :=
  if (c.lineFormat .row row).least.isSome then .row else .column

/-- Whether the largest number is sought along the row of a cell, and not along its column. -/
def greatestAxis (c : Clause) (row : Nat) : Axis :=
  if (c.lineFormat .row row).greatest.isSome then .row else .column

end Clause

end QueryWeave
