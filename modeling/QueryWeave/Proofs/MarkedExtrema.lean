import Mathlib.Data.List.Induction
import QueryWeave.Layout.RowTable
import QueryWeave.Proofs.ClauseFormats

/-!
# Marked extrema

A clause can ask for a markup of the smallest and of the largest number of every row or column. The
extrema are found in one pass over the table and compared with the cells by their texts, so this
module says what the pass finds (`Extremum.ofTexts_iff`) without the pass, and from that which cells
are marked. Smallest and largest are one notion, with the order turned around (`Extremum.rank`).

Main statement: `Clause.marks_ofTable`.
-/

namespace QueryWeave

open Text

/-! ## Finite numbers -/

namespace Double

/-- The units of a finite number with their sign. -/
def value : Double → Int
  | finite negative units => signed negative units
  | _ => 0

/-- Finite numbers are compared as whole numbers are. -/
theorem lt_iff_value {x y : Double} (hx : x.isFinite = true) (hy : y.isFinite = true) :
    x.lt y = true ↔ x.value < y.value := by
  cases x with
  | finite a m =>
    cases y with
    | finite b n => exact decide_eq_true_iff
    | infinite b => cases hy
    | nan => cases hy
  | infinite a => cases hx
  | nan => cases hx

end Double

/-! ## Extrema of texts -/

/-- One of the two extrema. -/
inductive Extremum
  | least | greatest
  deriving DecidableEq, Repr

namespace Extremum

/-- The order in which numbers are sought, the smallest rank first. -/
def rank : Extremum → Double → Int
  | least, x => x.value
  | greatest, x => -x.value

/-- Whether one number takes the place of another one. -/
def beats : Extremum → Double → Double → Bool
  | least, x, y => x.lt y
  | greatest, x, y => y.lt x

/-- The text that is kept. -/
def kept : Extremum → Extrema → Option Text
  | least, e => e.least
  | greatest, e => e.greatest

/-- What a setting says about the markup. -/
def given : Extremum → Setting → Option Highlight
  | least => Setting.least?
  | greatest => Setting.greatest?

theorem beats_iff (e : Extremum) {x y : Double} (hx : x.isFinite = true)
    (hy : y.isFinite = true) : e.beats x y = true ↔ e.rank x < e.rank y := by
  cases e with
  | least => exact Double.lt_iff_value hx hy
  | greatest =>
    rw [beats, Double.lt_iff_value hy hx, rank, rank]
    omega

/-- The text `s` with the number `x` is the first one of the smallest rank: every number before it
has a larger rank, and no number after it has a smaller one. -/
structure IsFirst (e : Extremum) (texts : List Text) (s : Text) (x : Double) : Prop where
  number : number? s = some x
  split : ∃ before after, texts = before ++ s :: after ∧
    (∀ u ∈ before, ∀ y, number? u = some y → e.rank x < e.rank y) ∧
    ∀ u ∈ after, ∀ y, number? u = some y → e.rank x ≤ e.rank y

namespace IsFirst

variable {e : Extremum} {texts : List Text} {s s' u : Text} {x x' y : Double}

theorem mem (h : e.IsFirst texts s x) : s ∈ texts := by
  obtain ⟨before, after, rfl, -, -⟩ := h.split
  exact List.mem_append_right _ (List.mem_cons_self ..)

/-- No number has a smaller rank. -/
theorem le (h : e.IsFirst texts s x) (hu : u ∈ texts) (hy : number? u = some y) :
    e.rank x ≤ e.rank y := by
  obtain ⟨before, after, rfl, hbefore, hafter⟩ := h.split
  rcases List.mem_append.1 hu with hu | hu
  · exact Int.le_of_lt (hbefore u hu y hy)
  · rcases List.mem_cons.1 hu with rfl | hu
    · rw [h.number] at hy
      cases hy
      exact Int.le_refl _
    · exact hafter u hu y hy

/-- The first place decides, so that there is one such text only. -/
theorem unique (h : e.IsFirst texts s x) (h' : e.IsFirst texts s' x') : s = s' := by
  obtain ⟨before, after, rfl, hbefore, -⟩ := h.split
  obtain ⟨before', after', htexts, hbefore', -⟩ := h'.split
  rcases List.append_eq_append_iff.1 htexts with ⟨l, rfl, hl⟩ | ⟨l, rfl, hl⟩
  · cases l with
    | nil => exact (List.cons.inj hl).1
    | cons v l =>
      -- the first text stands before the second one, which is then larger
      obtain ⟨rfl, -⟩ := List.cons.inj hl
      have hlt := hbefore' s (by simp) x h.number
      have hle := h.le (htexts ▸ h'.mem) h'.number
      omega
  · cases l with
    | nil => exact (List.cons.inj hl).1.symm
    | cons v l =>
      obtain ⟨rfl, -⟩ := List.cons.inj hl
      have hlt := hbefore s' (by simp) x' h'.number
      have hle := h'.le h.mem h.number
      omega

/-- A text behind the others that is no number with a smaller rank. -/
theorem concat (h : e.IsFirst texts s x) (hu : ∀ y, number? u = some y → e.rank x ≤ e.rank y) :
    e.IsFirst (texts ++ [u]) s x := by
  obtain ⟨before, after, rfl, hbefore, hafter⟩ := h.split
  refine ⟨h.number, before, after ++ [u], by simp, hbefore, fun v hv => ?_⟩
  rcases List.mem_append.1 hv with hv | hv
  · exact hafter v hv
  · rw [List.mem_singleton.1 hv]
    exact hu

/-- A text behind the others that is smaller than all of them. -/
theorem last (hu : number? u = some y)
    (h : ∀ v ∈ texts, ∀ z, number? v = some z → e.rank y < e.rank z) :
    e.IsFirst (texts ++ [u]) u y :=
  ⟨hu, texts, [], rfl, h, by simp⟩

end IsFirst

theorem firstBest_concat (beats : Double → Double → Bool) (xs : List WrittenNumber)
    (y : WrittenNumber) :
    firstBest beats (xs ++ [y]) =
      match firstBest beats xs with
      | none => some y
      | some best => some (if beats y.1 best.1 then y else best) := by
  cases xs with
  | nil => rfl
  | cons x xs => simp [firstBest, List.foldl_append]

/-- The pass over the texts keeps the first number of the smallest rank, if there is a number. -/
theorem isFirst_firstBest (e : Extremum) (texts : List Text) :
    match firstBest e.beats (numbersOf texts) with
    | none => ∀ u ∈ texts, number? u = none
    | some best => e.IsFirst texts best.2 best.1 := by
  induction texts using List.reverseRecOn with
  | nil => simp [numbersOf, firstBest]
  | append_singleton texts u ih =>
    cases hu : number? u with
    | none =>
      -- what is no number does not enter the pass
      have hsame : numbersOf (texts ++ [u]) = numbersOf texts := by simp [numbersOf, hu]
      rw [hsame]
      cases hbest : firstBest e.beats (numbersOf texts) with
      | none =>
        rw [hbest] at ih
        simpa [or_imp, forall_and, hu] using ih
      | some best =>
        rw [hbest] at ih
        exact ih.concat fun y hy => by rw [hu] at hy; cases hy
    | some y =>
      have hmore : numbersOf (texts ++ [u]) = numbersOf texts ++ [(y, u)] := by
        simp [numbersOf, hu]
      rw [hmore, firstBest_concat]
      cases hbest : firstBest e.beats (numbersOf texts) with
      | none =>
        rw [hbest] at ih
        exact .last hu fun v hv z hz => by rw [ih v hv] at hz; cases hz
      | some best =>
        rw [hbest] at ih
        have hbeats := e.beats_iff (number?_eq_some hu).1 (number?_eq_some ih.number).1
        dsimp only
        split
        · next hlt =>
          exact .last hu fun v hv z hz => Int.lt_of_lt_of_le (hbeats.1 hlt) (ih.le hv hz)
        · next hge =>
          refine ih.concat fun z hz => ?_
          rw [hu] at hz
          cases hz
          exact Int.not_lt.1 fun hlt => hge (hbeats.2 hlt)

theorem kept_ofTexts (e : Extremum) (texts : List Text) :
    e.kept (.ofTexts texts) = (firstBest e.beats (numbersOf texts)).map Prod.snd := by
  cases e <;> rfl

/-- What is kept of a line of cells is the text of its first extremum. -/
theorem ofTexts_iff (e : Extremum) (texts : List Text) (s : Text) :
    e.kept (.ofTexts texts) = some s ↔ ∃ x, e.IsFirst texts s x := by
  have hfirst := e.isFirst_firstBest texts
  rw [kept_ofTexts]
  cases hbest : firstBest e.beats (numbersOf texts) with
  | none =>
    rw [hbest] at hfirst
    constructor
    · intro h
      cases h
    · rintro ⟨x, h⟩
      have hnumber := h.number
      rw [hfirst s h.mem] at hnumber
      cases hnumber
  | some best =>
    rw [hbest] at hfirst
    constructor
    · intro h
      cases h
      exact ⟨best.1, hfirst⟩
    · rintro ⟨x, h⟩
      rw [Option.map_some, hfirst.unique h]

/-- A line with a number has a first extremum. -/
theorem exists_isFirst (e : Extremum) {texts : List Text} {u : Text} (hu : u ∈ texts)
    (hnumber : (number? u).isSome = true) : ∃ s x, e.IsFirst texts s x := by
  have hfirst := e.isFirst_firstBest texts
  cases hbest : firstBest e.beats (numbersOf texts) with
  | none =>
    rw [hbest] at hfirst
    rw [hfirst u hu] at hnumber
    cases hnumber
  | some best =>
    rw [hbest] at hfirst
    exact ⟨best.2, best.1, hfirst⟩

end Extremum

/-! ## Tables -/

namespace ResultTable

/-- The text of a cell. -/
def text (t : ResultTable) (i j : Nat) : Text := (cellOf (t.rows[i]?.getD []) j).text

/-- The texts of the cells along one axis of a cell. -/
def textsAlong (t : ResultTable) (i j : Nat) : Axis → List Text
  | .row => (List.range t.columnCount).map fun k => t.text i k
  | .column => (List.range t.rowCount).map fun k => t.text k j

end ResultTable

/-- A cell is compared with the extrema of its own row or column. -/
theorem Reformat.along_ofTable (c : Clause) (t : ResultTable) {i j : Nat} (hi : i < t.rowCount)
    (hj : j < t.columnCount) (axis : Axis) :
    (ofTable c t).along i j axis = .ofTexts (t.textsAlong i j axis) := by
  cases axis with
  | row =>
    have hrow : t.rows[i]? = some t.rows[i] := List.getElem?_eq_getElem hi
    simp [along, ofTable, TableExtrema.row, TableExtrema.ofTable, ResultTable.textsAlong,
      ResultTable.fitted, ResultTable.text, hrow, Function.comp_def]
  | column =>
    have hcolumn : (List.range t.columnCount)[j]? = some j := List.getElem?_range hj
    have htexts : (t.column j).map Cell.text = t.textsAlong i j .column := by
      apply List.ext_getElem
      · simp [ResultTable.column, ResultTable.textsAlong, ResultTable.rowCount]
      · intro k h₁ h₂
        have hk : k < t.rows.length := by simpa [ResultTable.column] using h₁
        simp [ResultTable.column, ResultTable.textsAlong, ResultTable.text, hk]
    simp [along, ofTable, TableExtrema.column, TableExtrema.ofTable, hcolumn, htexts]

/-! ## Marks -/

namespace Highlight

/-- The number of characters around a marked text. -/
def size : Highlight → Nat
  | none => 0
  | bold => 9
  | emph => 7

theorem length_wrap (h : Highlight) (s : Text) : (h.wrap s).length = s.length + h.size := by
  have hbold : "\\textbf\x7b".toList.length = 8 := by decide
  have hemph : "\\emph\x7b".toList.length = 6 := by decide
  cases h with
  | none => exact (Nat.add_zero _).symm
  | bold =>
    show ("\\textbf\x7b".toList ++ s ++ ['}']).length = s.length + 9
    rw [List.length_append, List.length_append, hbold, List.length_singleton]
    omega
  | emph =>
    show ("\\emph\x7b".toList ++ s ++ ['}']).length = s.length + 7
    rw [List.length_append, List.length_append, hemph, List.length_singleton]
    omega

theorem eq_of_size_eq {h h' : Highlight} (heq : h.size = h'.size) : h = h' := by
  revert heq
  cases h <;> cases h' <;> decide

/-- Different styles look different. -/
theorem wrap_inj {h h' : Highlight} {s : Text} : h.wrap s = h'.wrap s ↔ h = h' := by
  constructor
  · intro heq
    have hlength := congrArg List.length heq
    rw [length_wrap, length_wrap] at hlength
    exact eq_of_size_eq (Nat.add_left_cancel hlength)
  · rintro rfl
    rfl

end Highlight

namespace Clause

variable {c : Clause} {t : ResultTable} {e : Extremum} {i j : Nat} {h h' : Highlight}

/-- A cell qualifies for a style: the style is what the clause says about the cell, and the text of
the cell is that of the first extremum of its row, if a selector that covers the row says something,
and of its column otherwise. -/
structure Qualifies (c : Clause) (t : ResultTable) (e : Extremum) (i j : Nat) (h : Highlight) :
    Prop where
  active : h ≠ .none
  said : c.strongest i j e.given = some h
  first : ∃ axis x, (axis = .row ↔ c.SaidOfRow i e.given) ∧
    e.IsFirst (t.textsAlong i j axis) (t.text i j) x

/-- A cell qualifies for no style of an extremum. -/
def QualifiesNot (c : Clause) (t : ResultTable) (e : Extremum) (i j : Nat) : Prop :=
  ∀ h, ¬ c.Qualifies t e i j h

/-- A cell of a table as it is written under a clause. -/
def written (c : Clause) (t : ResultTable) (i j : Nat) : Text :=
  (Reformat.ofTable c t).cell i j (t.text i j)

/-- The same cell where no extrema are known. -/
def unmarked (c : Clause) (t : ResultTable) (i j : Nat) : Text :=
  (Reformat.mk c .none).cell i j (t.text i j)

/-- The marks of a cell are what the clause says and the numbers of the table demand. -/
structure Marks (c : Clause) (t : ResultTable) (i j : Nat) : Prop where
  /-- The cell stands at its place in the table that is written. -/
  shown : ((RowStyle.cells t (.ofTable c t))[i]?.bind fun row => row[j]?) = some (c.written t i j)
  /-- A cell is marked as the smallest number if it qualifies for that, or else as the largest
  one. -/
  marked : ∀ h, h ≠ .none → (c.written t i j = h.wrap (c.unmarked t i j) ↔
    c.Qualifies t .least i j h ∨ c.QualifiesNot t .least i j ∧ c.Qualifies t .greatest i j h)
  unmarked : c.written t i j = c.unmarked t i j ↔
    c.QualifiesNot t .least i j ∧ c.QualifiesNot t .greatest i j
  /-- What is no number, such as an empty text or NULL, is not marked. -/
  text : number? (t.text i j) = none → c.written t i j = c.unmarked t i j
  /-- What is marked is extreme among the numbers that it is compared with. -/
  attained : ∀ e h, c.Qualifies t e i j h → ∃ axis x, (axis = .row ↔ c.SaidOfRow i e.given) ∧
    number? (t.text i j) = some x ∧
    ∀ u ∈ t.textsAlong i j axis, ∀ y, number? u = some y → e.rank x ≤ e.rank y
  /-- A row or column with a number has a cell with the text that is sought. -/
  found : ∀ (e : Extremum) axis, (∃ u ∈ t.textsAlong i j axis, (number? u).isSome = true) →
    ∃ u ∈ t.textsAlong i j axis, ∃ x, e.IsFirst (t.textsAlong i j axis) u x
  /-- Numbers are compared as whole numbers are. -/
  ordered : ∀ u v x y, number? u = some x → number? v = some y →
    (x.lt y = true ↔ x.value < y.value)

/-! ### Which style is chosen -/

/-- The axis along which an extremum of a cell is sought. -/
def axis (c : Clause) (i : Nat) : Extremum → Axis
  | .least => c.leastAxis i
  | .greatest => c.greatestAxis i

theorem axis_eq_row_iff (c : Clause) (e : Extremum) (i : Nat) :
    c.axis i e = .row ↔ c.SaidOfRow i e.given := by
  cases e with
  | least => exact c.leastAxis_eq_row_iff i
  | greatest => exact c.greatestAxis_eq_row_iff i

/-- The style of an extremum, for a cell with the text `s`. -/
def styleOf (c : Clause) (t : ResultTable) (e : Extremum) (i j : Nat) (s : Text) : Highlight :=
  if e.kept (.ofTexts (t.textsAlong i j (c.axis i e))) = some s
  then (c.strongest i j e.given).getD .none else .none

/-- The style of the smallest number wins over that of the largest one. -/
theorem style_ofTable (c : Clause) {t : ResultTable} (hi : i < t.rowCount)
    (hj : j < t.columnCount) (s : Text) :
    (Reformat.ofTable c t).style i j s =
      if c.styleOf t .least i j s = .none then c.styleOf t .greatest i j s
      else c.styleOf t .least i j s := by
  have hleast : (c.format i j).least = c.strongest i j Setting.least? :=
    c.get_format CellFormat.leastField i j
  have hgreatest : (c.format i j).greatest = c.strongest i j Setting.greatest? :=
    c.get_format CellFormat.greatestField i j
  have hclause : (Reformat.ofTable c t).clause = c := rfl
  simp only [Reformat.style, hclause, Reformat.along_ofTable c t hi hj, hleast, hgreatest]
  rfl

/-- A style is chosen for the cells that qualify for it. -/
theorem styleOf_eq_iff (hne : h ≠ .none) :
    c.styleOf t e i j (t.text i j) = h ↔ c.Qualifies t e i j h := by
  have haxis := c.axis_eq_row_iff e i
  constructor
  · intro hstyle
    rw [styleOf] at hstyle
    split at hstyle
    · next hkept =>
      obtain ⟨x, hfirst⟩ := (e.ofTexts_iff _ _).1 hkept
      refine ⟨hne, ?_, c.axis i e, x, haxis, hfirst⟩
      cases hsaid : c.strongest i j e.given with
      | none =>
        rw [hsaid] at hstyle
        exact absurd hstyle.symm hne
      | some h' =>
        rw [hsaid] at hstyle
        exact congrArg some hstyle
    · exact absurd hstyle.symm hne
  · rintro ⟨-, hsaid, axis, x, hrow, hfirst⟩
    -- there are two axes, so that the one that is meant is the one that is looked along
    have hsame : axis = c.axis i e := by
      have hiff : axis = .row ↔ c.axis i e = .row := hrow.trans haxis.symm
      cases axis <;> cases hc : c.axis i e <;> simp_all
    have hkept : e.kept (.ofTexts (t.textsAlong i j (c.axis i e))) = some (t.text i j) :=
      (e.ofTexts_iff _ _).2 ⟨x, hsame ▸ hfirst⟩
    rw [styleOf, if_pos hkept, hsaid, Option.getD_some]

theorem styleOf_eq_none_iff :
    c.styleOf t e i j (t.text i j) = .none ↔ c.QualifiesNot t e i j := by
  constructor
  · intro hstyle h hq
    have hh := (styleOf_eq_iff hq.active).2 hq
    exact hq.active (hh.symm.trans hstyle)
  · intro hnot
    by_contra hne
    exact hnot _ ((styleOf_eq_iff hne).1 rfl)

/-- A cell is written in the style that is chosen for it, if it is a number. -/
theorem written_eq (c : Clause) (t : ResultTable) (i j : Nat) {x : Double}
    (hx : number? (t.text i j) = some x) :
    c.written t i j =
      ((Reformat.ofTable c t).style i j (t.text i j)).wrap (c.unmarked t i j) := by
  have hnone : (Reformat.mk c .none).style i j (t.text i j) = .none := by
    have halong : ∀ a, (Reformat.mk c .none).along i j a = .none := by
      intro a
      cases a <;> rfl
    simp [Reformat.style, halong, Extrema.none]
  simp only [written, unmarked, Reformat.cell, hx, hnone]
  rfl

theorem written_of_text (c : Clause) (t : ResultTable) (i j : Nat)
    (hx : number? (t.text i j) = none) : c.written t i j = c.unmarked t i j := by
  simp only [written, unmarked, Reformat.cell, hx]
  rfl

theorem Qualifies.exists_number (hq : c.Qualifies t e i j h) :
    ∃ x, number? (t.text i j) = some x := by
  obtain ⟨-, -, axis, x, -, hfirst⟩ := hq
  exact ⟨x, hfirst.number⟩

/-- What the style of a cell says about its marks. -/
theorem style_eq_iff (hi : i < t.rowCount) (hj : j < t.columnCount) (hne : h ≠ .none) :
    (Reformat.ofTable c t).style i j (t.text i j) = h ↔
      c.Qualifies t .least i j h ∨
        c.QualifiesNot t .least i j ∧ c.Qualifies t .greatest i j h := by
  rw [style_ofTable c hi hj, ← styleOf_eq_iff hne, ← styleOf_eq_iff hne, ← styleOf_eq_none_iff]
  by_cases hleast : c.styleOf t .least i j (t.text i j) = .none
  · simp [hleast, hne.symm]
  · simp [hleast]

theorem style_eq_none_iff (hi : i < t.rowCount) (hj : j < t.columnCount) :
    (Reformat.ofTable c t).style i j (t.text i j) = .none ↔
      c.QualifiesNot t .least i j ∧ c.QualifiesNot t .greatest i j := by
  rw [style_ofTable c hi hj, ← styleOf_eq_none_iff, ← styleOf_eq_none_iff]
  by_cases hleast : c.styleOf t .least i j (t.text i j) = .none <;> simp [hleast]

/-- The cells of a row table are the written cells. -/
theorem getElem?_cells (c : Clause) {t : ResultTable} (hi : i < t.rowCount)
    (hj : j < t.columnCount) :
    ((RowStyle.cells t (.ofTable c t))[i]?.bind fun row => row[j]?) = some (c.written t i j) := by
  have hrow : t.rows[i]? = some t.rows[i] := List.getElem?_eq_getElem hi
  have hcell : (t.fitted t.rows[i])[j]? = some (ResultTable.cellOf t.rows[i] j) := by
    rw [ResultTable.fitted, List.getElem?_map, List.getElem?_range hj]
    rfl
  simp [RowStyle.cells, hrow, hcell, written, ResultTable.text]

/-! ### The marks of a table -/

/-- The cells of a table are marked as its numbers and the clause demand. -/
theorem marks_ofTable (c : Clause) (t : ResultTable) {i j : Nat} (hi : i < t.rowCount)
    (hj : j < t.columnCount) : c.Marks t i j where
  shown := getElem?_cells c hi hj
  marked h hne := by
    rw [← style_eq_iff hi hj hne]
    cases hx : number? (t.text i j) with
    | some x => rw [written_eq c t i j hx, Highlight.wrap_inj]
    | none =>
      -- only numbers qualify, and a text without a mark is different from a marked one
      rw [written_of_text c t i j hx, style_eq_iff hi hj hne]
      constructor
      · intro heq
        exact absurd (Highlight.wrap_inj (h := .none).1 heq) hne.symm
      · rintro (hq | ⟨-, hq⟩)
        all_goals
          obtain ⟨x, hnumber⟩ := hq.exists_number
          rw [hx] at hnumber
          cases hnumber
  unmarked := by
    rw [← style_eq_none_iff hi hj]
    cases hx : number? (t.text i j) with
    | some x =>
      rw [written_eq c t i j hx]
      show _ = Highlight.none.wrap (c.unmarked t i j) ↔ _
      exact Highlight.wrap_inj
    | none =>
      rw [written_of_text c t i j hx, style_eq_none_iff hi hj]
      refine iff_of_true rfl ⟨fun h hq => ?_, fun h hq => ?_⟩
      all_goals
        obtain ⟨x, hnumber⟩ := hq.exists_number
        rw [hx] at hnumber
        cases hnumber
  text := written_of_text c t i j
  attained := by
    rintro e h ⟨-, -, axis, x, haxis, hfirst⟩
    exact ⟨axis, x, haxis, hfirst.number, fun u hu y hy => hfirst.le hu hy⟩
  found := by
    rintro e axis ⟨u, hu, hnumber⟩
    obtain ⟨s, x, hfirst⟩ := e.exists_isFirst hu hnumber
    exact ⟨s, hfirst.mem, x, hfirst⟩
  ordered u v x y hx hy := Double.lt_iff_value (number?_eq_some hx).1 (number?_eq_some hy).1

/-- Of equal numbers in different spellings the first counts, and with it every cell with its
text. -/
theorem marks_ofTable_spellings :
    let c : Clause := [.overall (.least .bold), .lines .row [(1, 2)] [.greatest .emph],
      .lines .column [(1, 1)] [.least .none]]
    let t : ResultTable := ⟨"SELECT n, x FROM t".toList, ["n".toList, "x".toList],
      [[some "2".toList, some "9".toList], [some "2.0".toList, none],
        [some "2".toList, some "7e0".toList]]⟩
    2 < t.rowCount ∧ 0 < t.columnCount ∧ c.Marks t 2 0 ∧ c.Qualifies t .least 2 0 .bold ∧
      c.QualifiesNot t .least 1 0 := by
  intro c t
  have hmarks : c.Marks t 2 0 := marks_ofTable c t (by decide) (by decide)
  have hother : c.Marks t 1 0 := marks_ofTable c t (by decide) (by decide)
  have hbold : c.written t 2 0 = Highlight.bold.wrap (c.unmarked t 2 0) := by decide +kernel
  have hplain : c.strongest 2 0 Setting.greatest? = some .emph := by decide +kernel
  refine ⟨by decide, by decide, hmarks, ?_, ?_⟩
  · rcases (hmarks.marked .bold (by decide)).1 hbold with hq | ⟨-, hq⟩
    · exact hq
    · -- the largest number of the row would be marked in another way
      have hsaid := hq.said
      rw [show Extremum.greatest.given = Setting.greatest? from rfl, hplain] at hsaid
      cases hsaid
  · intro h hq
    have hemph : c.written t 1 0 = Highlight.emph.wrap (c.unmarked t 1 0) := by decide +kernel
    rcases (hother.marked .emph (by decide)).1 hemph with hq' | ⟨hnot, -⟩
    · have hsaid : c.strongest 1 0 Setting.least? = some .emph := hq'.said
      exact absurd hsaid (by decide +kernel)
    · exact hnot h hq

end Clause

end QueryWeave
