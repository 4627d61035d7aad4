import Mathlib.Data.List.Induction
import QueryWeave.Proofs.ClauseReading
import QueryWeave.Proofs.NumberRanges
import QueryWeave.Reformat.Cell

/-!
# Formats of written clauses

A clause that is written and read again gives every cell the format that one reads off the clause:
a field is the last one that the selectors of the row of the cell set, else the last one that the
selectors of its column set, else the last one that is set for all cells. Fields do not look at each
other, so one argument serves all of them (`CellFormat.Field`).

Main statement: `Clause.read_write_resolves`.
-/

namespace QueryWeave

open Text

/-! ## What a setting says -/

namespace Setting

/-- Whether the setting asks for plain text. -/
def escape? : Setting → Option Unit
  | .escape => some ()
  | _ => none

/-- The rounding that the setting asks for. -/
def rounding? : Setting → Option Rounding
  | .rounding r => some r
  | _ => none

/-- The count of decimals that the setting asks for. -/
def precision? : Setting → Option Nat
  | .precision n => some n
  | _ => none

/-- The width that the setting asks for. -/
def width? : Setting → Option Nat
  | .width n => some n
  | _ => none

/-- The count of significant digits that the setting asks for. -/
def digits? : Setting → Option Nat
  | .digits n => some n
  | _ => none

/-- The separator of groups that the setting asks for, a comma if it names none. -/
def group? : Setting → Option Text
  | .group separator => some (separator.getD [','])
  | _ => none

/-- The style of the smallest number that the setting asks for. -/
def least? : Setting → Option Highlight
  | .least h => some h
  | _ => none

/-- The style of the largest number that the setting asks for. -/
def greatest? : Setting → Option Highlight
  | .greatest h => some h
  | _ => none

end Setting

/-- What the last of the settings says that says anything. -/
def lastGiven {α : Type} (given : Setting → Option α) (settings : List Setting) : Option α :=
  (settings.filterMap given).getLast?

theorem exists_of_lastGiven {α : Type} {given : Setting → Option α} {settings : List Setting}
    {a : α} (h : lastGiven given settings = some a) : ∃ s ∈ settings, given s = some a :=
  List.mem_filterMap.1 (List.mem_of_getLast? h)

theorem isSome_lastGiven_iff {α : Type} {given : Setting → Option α} {settings : List Setting} :
    (lastGiven given settings).isSome = true ↔ ∃ s ∈ settings, (given s).isSome := by
  rw [lastGiven, List.getLast?_isSome]
  constructor
  · intro hne
    obtain ⟨a, ha⟩ := List.exists_mem_of_ne_nil _ hne
    obtain ⟨s, hs, hgiven⟩ := List.mem_filterMap.1 ha
    exact ⟨s, hs, by rw [hgiven]; rfl⟩
  · rintro ⟨s, hs, hgiven⟩
    obtain ⟨a, ha⟩ := Option.isSome_iff_exists.1 hgiven
    exact List.ne_nil_of_mem (List.mem_filterMap.2 ⟨s, hs, ha⟩)

/-! ## Fields -/

/-- A field of a format, with what a setting says about it. -/
structure CellFormat.Field (α : Type) where
  get : CellFormat → Option α
  given : Setting → Option α
  get_empty : get {} = none
  /-- A setting that says something about the field sets it, and any other one keeps it. -/
  get_set : ∀ (f : CellFormat) (s : Setting), get (f.set s) = (given s <|> get f)
  get_withDefaults : ∀ f g : CellFormat, get (f.withDefaults g) = (get f <|> get g)

namespace CellFormat.Field

variable {α : Type} (field : CellFormat.Field α)

/-- A level keeps the last setting of a field. -/
theorem get_ofSettings (settings : List Setting) :
    field.get (.ofSettings settings) = lastGiven field.given settings := by
  -- the last setting is the one that is set last, so the list is taken apart at its end
  induction settings using List.reverseRecOn with
  | nil => exact field.get_empty
  | append_singleton settings s ih =>
    have hlevel : ofSettings (settings ++ [s]) = (ofSettings settings).set s := by
      simp [ofSettings]
    rw [hlevel, field.get_set, ih, lastGiven, lastGiven, List.filterMap_append]
    cases hs : field.given s <;> simp [hs]

end CellFormat.Field

/-! ## What a clause says -/

namespace Clause

/-- The settings of the selectors that cover line `i` of an axis, in order. -/
def saidOf (axis : Axis) (i : Nat) (c : Clause) : List Setting :=
  c.flatMap fun
    | .overall _ => []
    | .lines a ranges settings =>
      if a = axis ∧ ∃ r ∈ ranges, r.1 ≤ i ∧ i ≤ r.2 then settings else []

/-- The settings for all cells, in order. -/
def saidOfAll (c : Clause) : List Setting :=
  c.filterMap fun
    | .overall s => some s
    | .lines .. => none

/-- What the clause says about a field of a cell: the last setting for its row wins over the last
one for its column, and this over the last one for all cells. -/
def strongest {α : Type} (c : Clause) (row column : Nat) (given : Setting → Option α) : Option α :=
  lastGiven given (c.saidOf .row row) <|> lastGiven given (c.saidOf .column column) <|>
    lastGiven given c.saidOfAll

/-- The setting stands somewhere in the clause, for all cells or behind a selector. -/
def Mentions (c : Clause) (s : Setting) : Prop :=
  .overall s ∈ c ∨ ∃ axis ranges settings, .lines axis ranges settings ∈ c ∧ s ∈ settings

theorem mentions_of_mem_saidOf {axis : Axis} {i : Nat} {c : Clause} {s : Setting}
    (h : s ∈ c.saidOf axis i) : c.Mentions s := by
  obtain ⟨item, hitem, hs⟩ := List.mem_flatMap.1 h
  cases item with
  | overall x => exact absurd hs List.not_mem_nil
  | lines a ranges settings =>
    dsimp only at hs
    split at hs
    · exact .inr ⟨a, ranges, settings, hitem, hs⟩
    · exact absurd hs List.not_mem_nil

theorem mem_saidOfAll_iff {c : Clause} {s : Setting} : s ∈ c.saidOfAll ↔ .overall s ∈ c := by
  rw [saidOfAll, List.mem_filterMap]
  constructor
  · rintro ⟨item, hitem, hs⟩
    cases item with
    | overall x =>
      cases hs
      exact hitem
    | lines a ranges settings => cases hs
  · intro h
    exact ⟨.overall s, h, rfl⟩

/-- What a clause says about a field is said by one of its settings. -/
theorem exists_of_strongest {α : Type} {c : Clause} {row column : Nat} {given : Setting → Option α}
    {a : α} (h : c.strongest row column given = some a) : ∃ s, c.Mentions s ∧ given s = some a := by
  rcases (Option.orElse_eq_some _ _ _).1 h with hrow | ⟨-, h⟩
  · obtain ⟨s, hs, hgiven⟩ := exists_of_lastGiven hrow
    exact ⟨s, mentions_of_mem_saidOf hs, hgiven⟩
  · rcases (Option.orElse_eq_some _ _ _).1 h with hcolumn | ⟨-, hall⟩
    · obtain ⟨s, hs, hgiven⟩ := exists_of_lastGiven hcolumn
      exact ⟨s, mentions_of_mem_saidOf hs, hgiven⟩
    · obtain ⟨s, hs, hgiven⟩ := exists_of_lastGiven hall
      exact ⟨s, .inl (mem_saidOfAll_iff.1 hs), hgiven⟩

/-- A field that is set for all cells is set for every one of them. -/
theorem isSome_strongest {α : Type} {c : Clause} {s : Setting} {given : Setting → Option α}
    (hs : .overall s ∈ c) (hgiven : (given s).isSome = true) (row column : Nat) :
    (c.strongest row column given).isSome = true := by
  have hall : (lastGiven given c.saidOfAll).isSome = true :=
    isSome_lastGiven_iff.2 ⟨s, mem_saidOfAll_iff.2 hs, hgiven⟩
  unfold strongest
  cases lastGiven given (c.saidOf .row row) with
  | some a => rfl
  | none =>
    cases lastGiven given (c.saidOf .column column) with
    | some a => rfl
    | none => exact hall

theorem lineFormat_eq (c : Clause) (axis : Axis) (i : Nat) :
    c.lineFormat axis i = .ofSettings (c.saidOf axis i) := by
  have hitem : ∀ item : ClauseItem, item.lineSettings axis i = saidOf axis i [item] := by
    intro item
    cases item with
    | overall s => rfl
    | lines a ranges settings =>
      simp only [ClauseItem.lineSettings, Ranges.covers_iff, saidOf, List.flatMap_cons,
        List.flatMap_nil, List.append_nil]
  have hall : c.flatMap (ClauseItem.lineSettings axis i) = c.saidOf axis i := by
    induction c with
    | nil => rfl
    | cons item c ih =>
      rw [List.flatMap_cons, ih, hitem]
      simp [saidOf]
  rw [lineFormat, hall]

theorem overallFormat_eq (c : Clause) : c.overallFormat = .ofSettings c.saidOfAll := by
  have hall : c.flatMap ClauseItem.overallSettings = c.saidOfAll := by
    induction c with
    | nil => rfl
    | cons item c ih =>
      rw [List.flatMap_cons, ih]
      cases item <;> rfl
  rw [overallFormat, hall]

/-- Every field of the format of a cell is what the clause says about it. -/
theorem get_format {α : Type} (field : CellFormat.Field α) (c : Clause) (row column : Nat) :
    field.get (c.format row column) = c.strongest row column field.given := by
  simp only [format, lineFormat_eq, overallFormat_eq, field.get_withDefaults, field.get_ofSettings,
    strongest]

end Clause

/-! ## The fields of a format -/

namespace CellFormat

def escapeField : Field Unit where
  get f := bif f.escape then some () else none
  given := Setting.escape?
  get_empty := rfl
  get_set f s := by cases s <;> rfl
  get_withDefaults f g := by
    simp only [withDefaults]
    cases f.escape <;> cases g.escape <;> rfl

def roundingField : Field Rounding where
  get := rounding
  given := Setting.rounding?
  get_empty := rfl
  get_set f s := by cases s <;> rfl
  get_withDefaults _ _ := rfl

def precisionField : Field Nat where
  get := precision
  given := Setting.precision?
  get_empty := rfl
  get_set f s := by cases s <;> rfl
  get_withDefaults _ _ := rfl

def widthField : Field Nat where
  get := width
  given := Setting.width?
  get_empty := rfl
  get_set f s := by cases s <;> rfl
  get_withDefaults _ _ := rfl

def digitsField : Field Nat where
  get := digits
  given := Setting.digits?
  get_empty := rfl
  get_set f s := by cases s <;> rfl
  get_withDefaults _ _ := rfl

def groupField : Field Text where
  get := group
  given := Setting.group?
  get_empty := rfl
  get_set f s := by cases s <;> rfl
  get_withDefaults _ _ := rfl

def leastField : Field Highlight where
  get := least
  given := Setting.least?
  get_empty := rfl
  get_set f s := by cases s <;> rfl
  get_withDefaults _ _ := rfl

def greatestField : Field Highlight where
  get := greatest
  given := Setting.greatest?
  get_empty := rfl
  get_set f s := by cases s <;> rfl
  get_withDefaults _ _ := rfl

end CellFormat

/-! ## Extrema -/

namespace Clause

/-- A selector that covers the row says something. -/
def SaidOfRow {α : Type} (c : Clause) (row : Nat) (given : Setting → Option α) : Prop :=
  ∃ ranges settings, .lines .row ranges settings ∈ c ∧
    (∃ r ∈ ranges, r.1 ≤ row ∧ row ≤ r.2) ∧ ∃ s ∈ settings, (given s).isSome

theorem isSome_lineFormat_iff {α : Type} (field : CellFormat.Field α) (c : Clause) (row : Nat) :
    (field.get (c.lineFormat .row row)).isSome = true ↔ c.SaidOfRow row field.given := by
  rw [lineFormat_eq, field.get_ofSettings, isSome_lastGiven_iff]
  constructor
  · rintro ⟨s, hs, hgiven⟩
    obtain ⟨item, hitem, hs⟩ := List.mem_flatMap.1 hs
    cases item with
    | overall x => exact absurd hs List.not_mem_nil
    | lines axis ranges settings =>
      dsimp only at hs
      split at hs
      · next hcovers =>
        obtain ⟨rfl, hcovers⟩ := hcovers
        exact ⟨ranges, settings, hitem, hcovers, s, hs, hgiven⟩
      · exact absurd hs List.not_mem_nil
  · rintro ⟨ranges, settings, hitem, hcovers, s, hs, hgiven⟩
    refine ⟨s, List.mem_flatMap.2 ⟨_, hitem, ?_⟩, hgiven⟩
    simpa only [hcovers, and_self, if_true] using hs

/-- The smallest number is sought along the row exactly if the row says how it is marked. -/
theorem leastAxis_eq_row_iff (c : Clause) (row : Nat) :
    c.leastAxis row = .row ↔ c.SaidOfRow row Setting.least? := by
  have hline := isSome_lineFormat_iff CellFormat.leastField c row
  have haxis : c.leastAxis row = .row ↔ (c.lineFormat .row row).least.isSome = true := by
    rw [leastAxis]
    cases (c.lineFormat .row row).least <;> simp
  exact haxis.trans hline

theorem greatestAxis_eq_row_iff (c : Clause) (row : Nat) :
    c.greatestAxis row = .row ↔ c.SaidOfRow row Setting.greatest? := by
  have hline := isSome_lineFormat_iff CellFormat.greatestField c row
  have haxis : c.greatestAxis row = .row ↔ (c.lineFormat .row row).greatest.isSome = true := by
    rw [greatestAxis]
    cases (c.lineFormat .row row).greatest <;> simp
  exact haxis.trans hline

/-! ## Cells under a written clause -/

/-- The formats of the cells are what the clause says, and so are the extrema that they are
compared with. -/
structure Resolves (c : Clause) (row column : Nat) : Prop where
  escape : (c.format row column).escape = (c.strongest row column Setting.escape?).isSome
  rounding : (c.format row column).rounding = c.strongest row column Setting.rounding?
  precision : (c.format row column).precision = c.strongest row column Setting.precision?
  width : (c.format row column).width = c.strongest row column Setting.width?
  digits : (c.format row column).digits = c.strongest row column Setting.digits?
  group : (c.format row column).group = c.strongest row column Setting.group?
  least : (c.format row column).least = c.strongest row column Setting.least?
  greatest : (c.format row column).greatest = c.strongest row column Setting.greatest?
  /-- The smallest number is that of the row if a selector that covers the row marks it. -/
  leastOfRow : ∀ e : TableExtrema, c.SaidOfRow row Setting.least? →
    (Reformat.mk c e).along row column (c.leastAxis row) = e.row row
  /-- And it is that of the column otherwise. -/
  leastOfColumn : ∀ e : TableExtrema, ¬ c.SaidOfRow row Setting.least? →
    (Reformat.mk c e).along row column (c.leastAxis row) = e.column column
  greatestOfRow : ∀ e : TableExtrema, c.SaidOfRow row Setting.greatest? →
    (Reformat.mk c e).along row column (c.greatestAxis row) = e.row row
  greatestOfColumn : ∀ e : TableExtrema, ¬ c.SaidOfRow row Setting.greatest? →
    (Reformat.mk c e).along row column (c.greatestAxis row) = e.column column

theorem resolves (c : Clause) (row column : Nat) : c.Resolves row column := by
  have hcolumn : ∀ {axis : Axis}, axis ≠ .row → axis = .column := by
    intro axis h
    cases axis with
    | row => exact absurd rfl h
    | column => rfl
  have hescape := c.get_format CellFormat.escapeField row column
  constructor
  case escape =>
    rw [show c.strongest row column Setting.escape? = _ from hescape.symm]
    show (c.format row column).escape =
      (bif (c.format row column).escape then some () else none).isSome
    cases (c.format row column).escape <;> rfl
  case rounding => exact c.get_format CellFormat.roundingField row column
  case precision => exact c.get_format CellFormat.precisionField row column
  case width => exact c.get_format CellFormat.widthField row column
  case digits => exact c.get_format CellFormat.digitsField row column
  case group => exact c.get_format CellFormat.groupField row column
  case least => exact c.get_format CellFormat.leastField row column
  case greatest => exact c.get_format CellFormat.greatestField row column
  case leastOfRow =>
    intro e h
    rw [(c.leastAxis_eq_row_iff row).2 h]
    rfl
  case leastOfColumn =>
    intro e h
    rw [hcolumn fun hrow => h ((c.leastAxis_eq_row_iff row).1 hrow)]
    rfl
  case greatestOfRow =>
    intro e h
    rw [(c.greatestAxis_eq_row_iff row).2 h]
    rfl
  case greatestOfColumn =>
    intro e h
    rw [hcolumn fun hrow => h ((c.greatestAxis_eq_row_iff row).1 hrow)]
    rfl

/-- A clause that is written is read back, and the cells are formatted as it says. -/
theorem read_write_resolves {c : Clause} (h : c.IsWritable) :
    read c.write = .ok c ∧ ∀ row column, c.Resolves row column :=
  ⟨read_write h, c.resolves⟩

/-- A clause in which selectors overlap and a separator has parentheses of its own. -/
theorem read_write_resolves_overlapping :
    let c : Clause := [.overall (.rounding (.places (-2))), .overall (.least .bold),
      .lines .column [(0, 3), (2, 5)] [.precision 2, .group (some "(a) b".toList)],
      .lines .row [(1, 1), (0, 2)] [.least .emph, .escape], .lines .row [(2, 4)] [.digits 3]]
    c.IsWritable ∧ read c.write = .ok c ∧ ∀ row column, c.Resolves row column := by
  intro c
  have hseparator : Balanced "(a) b".toList :=
    .nested (s := ['a']) (.of_all (by decide)) (.of_all (by decide))
  have hranges : ∀ rs : Ranges, rs ≠ [] → (rs.all fun r => r.1 ≤ r.2 && r.2 < limit64) = true →
      rs.IsWritable := fun rs hne hall => ⟨hne, by simpa using hall⟩
  have hcolumns : ∀ s ∈ [Setting.precision 2, .group (some "(a) b".toList)], s.IsWritable := by
    intro s hs
    simp only [List.mem_cons, List.not_mem_nil, or_false] at hs
    rcases hs with rfl | rfl
    · exact (by decide : 2 < limit64)
    · exact hseparator
  have hrows : ∀ s ∈ [Setting.least .emph, .escape], s.IsWritable := by
    intro s hs
    simp only [List.mem_cons, List.not_mem_nil, or_false] at hs
    rcases hs with rfl | rfl <;> trivial
  have hdigits : ∀ s ∈ [Setting.digits 3], s.IsWritable := by
    intro s hs
    rw [List.mem_singleton.1 hs]
    exact (by decide : 2 ≤ 3 ∧ 3 ≤ 4)
  have h : c.IsWritable := by
    intro x hx
    simp only [c, List.mem_cons, List.not_mem_nil, or_false] at hx
    rcases hx with rfl | rfl | rfl | rfl | rfl
    · exact (by decide : -Nat.pow 2 31 ≤ (-2 : Int) ∧ (-2 : Int) < Nat.pow 2 31)
    · trivial
    · exact ⟨hranges _ (by simp) (by decide), hcolumns⟩
    · exact ⟨hranges _ (by simp) (by decide), hrows⟩
    · exact ⟨hranges _ (by simp) (by decide), hdigits⟩
  exact ⟨h, read_write_resolves h⟩

end Clause

end QueryWeave
