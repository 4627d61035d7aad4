import QueryWeave.Layout.BoxTable
import QueryWeave.Proofs.WrittenNumbers

/-!
# Geometry of box tables

The lines of a box table are made in three ways: lines of the frame, the names, and the rows. If all
texts are of printable ASCII characters, which take one column each, they agree on where the columns
begin and end. A line is read here as pieces between characters of the frame (`framed`), with the
index of each of these characters told by the lengths of the pieces before it (`offset`).

A cell is read back from its place in the line by taking off the spaces that it was padded with. If
it has such spaces itself at that end, they are not told apart from the padding.

Main statements: `ResultTable.box_geometry`, and `ResultTable.box_cells_confused` for two cells that
are written alike.
-/

namespace QueryWeave

open Text

/-! ## Printable text -/

namespace Text

/-- Every character is of ASCII and visible, or a space. -/
def IsPrintable (s : Text) : Prop := ∀ c ∈ s, ' ' ≤ c ∧ c ≤ '~'

instance (s : Text) : Decidable s.IsPrintable :=
  List.decidableBAll (fun c => ' ' ≤ c ∧ c ≤ '~') s

/-- A printable character takes one column, and nothing is remembered of it. -/
theorem step_of_isPrintable {c : Char} (hlow : ' ' ≤ c) (hhigh : c ≤ '~') :
    Width.step c {} = (1, {}) := by
  have hlow : 32 ≤ c.toNat := by simpa [Char.le_def, UInt32.le_iff_toNat_le] using hlow
  have hhigh : c.toNat ≤ 126 := by simpa [Char.le_def, UInt32.le_iff_toNat_le] using hhigh
  have hnewline : c ≠ '\n' := by
    rintro rfl
    exact absurd hlow (by decide)
  have hsmall : c.toNat ≤ 0xA0 := by omega
  simp [Width.step, hsmall, hnewline]

/-- Printable text takes as many columns as it has characters. -/
theorem columns_of_isPrintable {s : Text} (h : s.IsPrintable) : columns s = s.length := by
  have hfold : s.foldr (fun c p => (p.1 + (Width.step c p.2).1, (Width.step c p.2).2))
      ((0 : Int), ({} : Width.Memory)) = ((s.length : Int), {}) := by
    induction s with
    | nil => rfl
    | cons c s ih =>
      obtain ⟨hlow, hhigh⟩ := h c (List.mem_cons_self ..)
      rw [List.foldr_cons, ih fun d hd => h d (List.mem_cons_of_mem _ hd)]
      simp only [step_of_isPrintable hlow hhigh]
      rfl
  exact congrArg (fun p => p.1.toNat) hfold

end Text

/-! ## Framed lines -/

/-- Pieces with a character of the frame before, between and behind them. -/
def framed (e : Char) (pieces : List Text) : Text := pieces.flatMap (e :: ·) ++ [e]

/-- The index of the character of the frame before piece `j`. -/
def offset (pieces : List Text) (j : Nat) : Nat :=
  (pieces.take j).foldr (fun p n => p.length + 1 + n) 0

section Framed

variable {e : Char} {pieces : List Text}

theorem offset_cons_succ (p : Text) (j : Nat) :
    offset (p :: pieces) (j + 1) = p.length + 1 + offset pieces j := by
  simp [offset]

theorem framed_cons (p : Text) : framed e (p :: pieces) = e :: p ++ framed e pieces := by
  simp [framed]

/-- Offsets are sums of widths, each with a character of the frame and two more. -/
theorem offset_map_range {piece : Nat → Text} {width : Nat → Nat} {n j : Nat}
    (h : ∀ k < n, (piece k).length = width k + 2) (hj : j ≤ n) :
    offset ((List.range n).map piece) j = (List.range j).foldr (fun k n => width k + 3 + n) 0 := by
  rw [offset, ← List.map_take, List.take_range, Nat.min_eq_left hj, List.foldr_map]
  apply List.foldr_ext
  intro k hk m
  rw [h k (Nat.lt_of_lt_of_le (List.mem_range.1 hk) hj)]

theorem head?_framed (e : Char) (pieces : List Text) : (framed e pieces).head? = some e := by
  cases pieces <;> rfl

/-- From a character of the frame on, a line is framed as well. -/
theorem drop_framed {j : Nat} (hj : j ≤ pieces.length) :
    (framed e pieces).drop (offset pieces j) = framed e (pieces.drop j) := by
  induction pieces generalizing j with
  | nil =>
    rw [Nat.le_zero.1 hj]
    rfl
  | cons p pieces ih =>
    cases j with
    | zero => rfl
    | succ j =>
      have hlength : p.length + 1 = (e :: p).length := rfl
      rw [offset_cons_succ, ← List.drop_drop, framed_cons, hlength, List.drop_left,
        ih (Nat.le_of_succ_le_succ hj), List.drop_succ_cons]

theorem getElem?_framed_offset {j : Nat} (hj : j ≤ pieces.length) :
    (framed e pieces)[offset pieces j]? = some e := by
  rw [← List.head?_drop, drop_framed hj, head?_framed]

theorem length_framed : (framed e pieces).length = offset pieces pieces.length + 1 := by
  induction pieces with
  | nil => rfl
  | cons p pieces ih =>
    rw [framed_cons, List.length_append, ih, List.length_cons, List.length_cons, offset_cons_succ]
    omega

/-- Characters of the frame stand nowhere else if the pieces have none. -/
theorem getElem?_framed_iff (h : ∀ p ∈ pieces, e ∉ p) {i : Nat} :
    (framed e pieces)[i]? = some e ↔ ∃ j ≤ pieces.length, i = offset pieces j := by
  refine ⟨fun hi => ?_, ?_⟩
  · induction pieces generalizing i with
    | nil =>
      obtain ⟨hlt, -⟩ := List.getElem?_eq_some_iff.1 hi
      exact ⟨0, Nat.le_refl 0, Nat.lt_one_iff.1 hlt⟩
    | cons p pieces ih =>
      rw [framed_cons] at hi
      -- the character stands before the first piece, or it is one of those behind that piece
      by_cases hlt : i < (e :: p).length
      · rw [List.getElem?_append_left hlt] at hi
        cases i with
        | zero => exact ⟨0, Nat.zero_le _, rfl⟩
        | succ i =>
          rw [List.getElem?_cons_succ] at hi
          exact absurd (List.mem_of_getElem? hi) (h p (List.mem_cons_self ..))
      · have hle := Nat.le_of_not_lt hlt
        rw [List.getElem?_append_right hle] at hi
        obtain ⟨j, hj, hoffset⟩ := ih (fun q hq => h q (List.mem_cons_of_mem _ hq)) hi
        refine ⟨j + 1, Nat.succ_le_succ hj, ?_⟩
        rw [offset_cons_succ, ← hoffset]
        simp only [List.length_cons] at hle ⊢
        omega
  · rintro ⟨j, hj, rfl⟩
    exact getElem?_framed_offset hj

/-- A cell with a space on each side is found behind its character of the frame. -/
theorem take_drop_framed {j : Nat} {cell : Text} (hj : pieces[j]? = some (' ' :: cell ++ [' '])) :
    ((framed e pieces).drop (offset pieces j + 2)).take cell.length = cell := by
  obtain ⟨hlt, hpiece⟩ := List.getElem?_eq_some_iff.1 hj
  rw [← List.drop_drop, drop_framed (Nat.le_of_lt hlt), List.drop_eq_getElem_cons hlt, hpiece,
    framed_cons]
  simp

end Framed

namespace ResultTable

/-! ## Lines of the frame and lines of cells -/

/-- A line of the frame has its crosses where the columns meet. -/
theorem divider_eq_framed {widths : List Nat} (hne : widths ≠ []) :
    divider widths = framed '+' (widths.map fun w => fill (w + 2) '-') := by
  obtain ⟨w, more, rfl⟩ := List.exists_cons_of_ne_nil hne
  show ['+', '-'] ++ join ['+', '-'] ((w :: more).map fun w => fill (w + 1) '-') ++ ['+'] = _
  rw [List.map_cons, join_cons]
  simp [framed, List.flatMap_map, fill, List.replicate_succ]

/-- A line of cells has a bar where the columns meet. -/
theorem boxLine_eq_framed {cells : List Text} (hne : cells ≠ []) :
    boxLine cells = framed '|' (cells.map fun cell => ' ' :: cell ++ [' ']) := by
  obtain ⟨cell, more, rfl⟩ := List.exists_cons_of_ne_nil hne
  show ['|', ' '] ++ join ['|', ' '] ((cell :: more).map (· ++ [' '])) ++ ['|'] = _
  rw [List.map_cons, join_cons]
  simp [framed, List.flatMap_map]

/-! ## Columns -/

section Columns

variable (t : ResultTable)

/-- The texts that stand in column `j`, its name first. -/
def texts (j : Nat) : List Text := t.columns[j]?.getD [] :: (t.column j).map Cell.text

/-- The length of the longest text of column `j`. -/
def longest (j : Nat) : Nat := ((t.texts j).map List.length).max?.getD 0

/-- The index of the left edge of column `j` in every line. -/
def edge (j : Nat) : Nat := (List.range j).foldr (fun k n => t.longest k + 3 + n) 0

/-- The place of column `j` in a line, without the space on each side. -/
def slot (line : Text) (j : Nat) : Text := (line.drop (t.edge j + 2)).take (t.longest j)

/-- All names and all cells are of printable characters. -/
def IsPrintable : Prop :=
  (∀ name ∈ t.columns, Text.IsPrintable name) ∧
    ∀ row ∈ t.rows, ∀ cell ∈ row, Text.IsPrintable (Cell.text cell)

instance : Decidable t.IsPrintable :=
  inferInstanceAs (Decidable ((∀ name ∈ t.columns, Text.IsPrintable name) ∧
    ∀ row ∈ t.rows, ∀ cell ∈ row, Text.IsPrintable (Cell.text cell)))

/-- A name in its column. -/
def nameCell (j : Nat) : Text :=
  let name := t.columns[j]?.getD []
  fill (t.longest j - name.length) ' ' ++ name

/-- A cell of a row in its column. -/
def rowCell (row : List Cell) (j : Nat) : Text :=
  let s := (cellOf row j).text
  if t.isNumeric j then fill (t.longest j - s.length) ' ' ++ s
  else s ++ fill (t.longest j - s.length) ' '

/-- The line of the frame. -/
def rule : Text := framed '+' ((List.range t.columnCount).map fun j => fill (t.longest j + 2) '-')

/-- The line with given cells. -/
def cellLine (cell : Nat → Text) : Text :=
  framed '|' ((List.range t.columnCount).map fun j => ' ' :: cell j ++ [' '])

variable {t}

/-- Numbers fill a column if nothing else does but NULL. -/
theorem isNumeric_iff {j : Nat} :
    t.isNumeric j = true ↔ ∀ s, some s ∈ t.column j → isNumber s = true := by
  rw [isNumeric, List.all_eq_true]
  refine ⟨fun h s hs => h (some s) hs, fun h c hc => ?_⟩
  cases c with
  | none => rfl
  | some s => exact h s hc

theorem length_le_longest {s : Text} {j : Nat} (h : s ∈ t.texts j) : s.length ≤ t.longest j :=
  List.le_max?_getD_of_mem (List.mem_map_of_mem h)

theorem name_mem_texts (j : Nat) : t.columns[j]?.getD [] ∈ t.texts j := List.mem_cons_self ..

theorem cell_mem_texts {row : List Cell} (h : row ∈ t.rows) (j : Nat) :
    (cellOf row j).text ∈ t.texts j :=
  List.mem_cons_of_mem _ (List.mem_map_of_mem (List.mem_map_of_mem h))

theorem IsPrintable.texts (h : t.IsPrintable) {s : Text} {j : Nat} (hs : s ∈ t.texts j) :
    s.IsPrintable := by
  rcases List.mem_cons.1 hs with rfl | hs
  · cases hname : t.columns[j]? with
    | none => exact nofun
    | some name => exact h.1 name (List.mem_of_getElem? hname)
  · obtain ⟨c, hc, rfl⟩ := List.mem_map.1 hs
    obtain ⟨row, hrow, rfl⟩ := List.mem_map.1 hc
    cases hcell : row[j]? with
    | none =>
      rw [cellOf, hcell]
      exact nofun
    | some cell =>
      rw [cellOf, hcell]
      exact h.2 row hrow cell (List.mem_of_getElem? hcell)

/-- A column of printable texts is as wide as its longest text is long. -/
theorem boxWidth_eq_longest (h : t.IsPrintable) (j : Nat) : t.boxWidth j = t.longest j := by
  have hcolumns : (t.texts j).map Text.columns = (t.texts j).map List.length :=
    List.map_congr_left fun s hs => columns_of_isPrintable (h.texts hs)
  show ((t.texts j).map Text.columns).foldl max 0 = _
  rw [hcolumns, List.foldl_max, Nat.zero_max]
  rfl

end Columns

/-! ## The lines of a box table -/

section Lines

variable {t : ResultTable}

/-- The names of a box table are those of its columns. -/
theorem boxNames_eq : t.columns.zipWith (fun name width => padLeft name width)
    ((List.range t.columnCount).map t.boxWidth) =
      (List.range t.columnCount).map fun j => padLeft (t.columns[j]?.getD []) (t.boxWidth j) := by
  apply List.ext_getElem?
  intro j
  simp only [List.getElem?_zipWith, List.getElem?_map]
  by_cases hj : j < t.columnCount
  · simp [List.getElem?_range hj, List.getElem?_eq_getElem (show j < t.columns.length from hj)]
  · have hcolumn : t.columns[j]? = none := List.getElem?_eq_none (Nat.le_of_not_lt hj)
    have hrange : (List.range t.columnCount)[j]? = none :=
      List.getElem?_eq_none (by simpa using Nat.le_of_not_lt hj)
    rw [hcolumn, hrange]
    rfl

/-- The lines of a box table of printable texts. -/
theorem box_eq (hne : t.columns ≠ []) (h : t.IsPrintable) :
    t.box = [t.rule, t.cellLine t.nameCell, t.rule] ++
      t.rows.map (fun row => t.cellLine (t.rowCell row)) ++ [t.rule] := by
  have hrange : List.range t.columnCount ≠ [] := by
    simpa [columnCount] using hne
  have hrule : divider ((List.range t.columnCount).map t.boxWidth) = t.rule := by
    rw [divider_eq_framed (by simpa using hrange), List.map_map, rule]
    congr 1
    apply List.map_congr_left
    intro j _
    rw [Function.comp_apply, boxWidth_eq_longest h]
  have hnames : boxLine (t.columns.zipWith (fun name width => padLeft name width)
      ((List.range t.columnCount).map t.boxWidth)) = t.cellLine t.nameCell := by
    rw [boxNames_eq, boxLine_eq_framed (by simpa using hrange), List.map_map, cellLine]
    congr 1
    apply List.map_congr_left
    intro j _
    rw [Function.comp_apply, padLeft, boxWidth_eq_longest h,
      columns_of_isPrintable (h.texts (name_mem_texts j))]
    rfl
  have hrow : ∀ row ∈ t.rows, boxLine (boxCells
      (((List.range t.columnCount).map t.boxWidth).mapIdx fun j width => (width, t.isNumeric j))
      row) = t.cellLine (t.rowCell row) := by
    intro row hrow
    rw [boxCells_eq, boxLine_eq_framed (by simpa using hrange), List.map_map, cellLine]
    congr 1
    apply List.map_congr_left
    intro j _
    rw [Function.comp_apply, boxCell, padLeft, padRight, boxWidth_eq_longest h,
      columns_of_isPrintable (h.texts (cell_mem_texts hrow j))]
    rfl
  unfold box
  simp only [hrule, hnames]
  rw [List.map_congr_left hrow]

section CellLine

variable {cell : Nat → Text} (hcell : ∀ j < t.columnCount, (cell j).length = t.longest j)

include hcell

/-- The cells of a line have the width of their columns with the space on each side. -/
theorem offset_cellLine {j : Nat} (hj : j ≤ t.columnCount) :
    offset ((List.range t.columnCount).map fun j => ' ' :: cell j ++ [' ']) j = t.edge j := by
  apply offset_map_range _ hj
  intro k hk
  simp [hcell k hk]

theorem length_cellLine : (t.cellLine cell).length = 1 + t.edge t.columnCount := by
  have hoffset := offset_cellLine hcell (Nat.le_refl _)
  rw [cellLine, length_framed, List.length_map, List.length_range, hoffset, Nat.add_comm]

theorem getElem?_cellLine_edge {j : Nat} (hj : j ≤ t.columnCount) :
    (t.cellLine cell)[t.edge j]? = some '|' := by
  rw [cellLine, ← offset_cellLine hcell hj]
  exact getElem?_framed_offset (by simpa using hj)

/-- A cell is found again in its slot. -/
theorem slot_cellLine {j : Nat} (hj : j < t.columnCount) : t.slot (t.cellLine cell) j = cell j := by
  rw [slot, cellLine, ← offset_cellLine hcell (Nat.le_of_lt hj), ← hcell j hj]
  apply take_drop_framed
  simp [hj]

end CellLine

theorem offset_rule {j : Nat} (hj : j ≤ t.columnCount) :
    offset ((List.range t.columnCount).map fun j => fill (t.longest j + 2) '-') j = t.edge j := by
  apply offset_map_range _ hj
  intro k hk
  simp [fill]

theorem length_rule : t.rule.length = 1 + t.edge t.columnCount := by
  rw [rule, length_framed, List.length_map, List.length_range, offset_rule (Nat.le_refl _),
    Nat.add_comm]

/-- The crosses of the frame stand at the edges of the columns and nowhere else. -/
theorem getElem?_rule_iff {i : Nat} :
    t.rule[i]? = some '+' ↔ ∃ j ≤ t.columnCount, i = t.edge j := by
  rw [rule, getElem?_framed_iff (by simp [fill]), List.length_map, List.length_range]
  constructor
  · rintro ⟨j, hj, rfl⟩
    exact ⟨j, hj, offset_rule hj⟩
  · rintro ⟨j, hj, rfl⟩
    exact ⟨j, hj, (offset_rule hj).symm⟩

theorem length_nameCell (j : Nat) : (t.nameCell j).length = t.longest j := by
  have hle := length_le_longest (name_mem_texts (t := t) j)
  simp [nameCell, fill, hle]

theorem length_rowCell {row : List Cell} (h : row ∈ t.rows) (j : Nat) :
    (t.rowCell row j).length = t.longest j := by
  have hle := length_le_longest (cell_mem_texts h j)
  unfold rowCell
  split <;> simp [fill, hle]

/-- Spaces in front of a text are taken off with its own. -/
theorem dropWhile_fill (n : Nat) (s : Text) :
    (fill n ' ' ++ s).dropWhile (· == ' ') = s.dropWhile (· == ' ') :=
  List.dropWhile_append_of_pos fun c hc => by simp [List.eq_of_mem_replicate hc]

theorem dropEndWhile_fill (n : Nat) (s : Text) :
    dropEndWhile (· == ' ') (s ++ fill n ' ') = dropEndWhile (· == ' ') s := by
  have hreverse : (fill n ' ').reverse = fill n ' ' := List.reverse_replicate
  rw [dropEndWhile, List.reverse_append, hreverse, dropWhile_fill]
  rfl

theorem dropWhile_eq_self {s : Text} (h : s.head? ≠ some ' ') : s.dropWhile (· == ' ') = s := by
  cases s with
  | nil => rfl
  | cons c s => exact List.dropWhile_cons_of_neg (by simpa using h)

theorem dropEndWhile_eq_self {s : Text} (h : s.getLast? ≠ some ' ') :
    dropEndWhile (· == ' ') s = s := by
  rw [dropEndWhile, dropWhile_eq_self (by rwa [List.head?_reverse]), List.reverse_reverse]

end Lines

/-! ## Main statement -/

/-- All lines of a box table have one length. The crosses of its frame are at the edges of the
columns, where the other lines have bars. Every cell is in its slot, padded to the left in a column
that has no other cells than numbers and NULL, and to the right in others, and is read back from it
by taking off the spaces at that end. -/
theorem box_geometry {t : ResultTable} (hne : t.columns ≠ []) (h : t.IsPrintable) :
    (∀ line ∈ t.box, line.length = 1 + t.edge t.columnCount) ∧
    ∃ divider names rows, t.box = [divider, names, divider] ++ rows ++ [divider] ∧
      (∀ i, divider[i]? = some '+' ↔ ∃ j ≤ t.columnCount, i = t.edge j) ∧
      (∀ l ∈ names :: rows, ∀ j ≤ t.columnCount, l[t.edge j]? = some '|') ∧
      List.Forall₂ (fun row line => ∀ j < t.columnCount,
        let s := (cellOf row j).text
        let blanks := fill (t.longest j - s.length) ' '
        let slot := t.slot line j
        ((∀ s, some s ∈ t.column j → isNumber s = true) → slot = blanks ++ s ∧
          slot.dropWhile (· == ' ') = s.dropWhile (· == ' ') ∧
          (s.head? ≠ some ' ' → slot.dropWhile (· == ' ') = s)) ∧
        ((∃ s, some s ∈ t.column j ∧ isNumber s = false) → slot = s ++ blanks ∧
          dropEndWhile (· == ' ') slot = dropEndWhile (· == ' ') s ∧
          (s.getLast? ≠ some ' ' → dropEndWhile (· == ' ') slot = s))) t.rows rows := by
  have hbox := box_eq hne h
  -- the three kinds of lines have pieces of the same lengths, so one table of edges does for all
  refine ⟨fun line hline => ?_, t.rule, t.cellLine t.nameCell,
    t.rows.map fun row => t.cellLine (t.rowCell row), hbox, fun i => getElem?_rule_iff, ?_, ?_⟩
  · rw [hbox] at hline
    simp only [List.mem_append, List.mem_cons, List.not_mem_nil, or_false, List.mem_map] at hline
    rcases hline with ((rfl | rfl | rfl) | ⟨row, hrow, rfl⟩) | rfl
    · exact length_rule
    · exact length_cellLine fun j _ => length_nameCell j
    · exact length_rule
    · exact length_cellLine fun j _ => length_rowCell hrow j
    · exact length_rule
  · intro line hline j hj
    rcases List.mem_cons.1 hline with rfl | hline
    · exact getElem?_cellLine_edge (fun j _ => length_nameCell j) hj
    · obtain ⟨row, hrow, rfl⟩ := List.mem_map.1 hline
      exact getElem?_cellLine_edge (fun j _ => length_rowCell hrow j) hj
  · rw [List.forall₂_map_right_iff, List.forall₂_same]
    intro row hrow j hj s blanks slot
    have hslot : slot = t.rowCell row j := slot_cellLine (fun j _ => length_rowCell hrow j) hj
    constructor
    · intro hnumbers
      have hleft : slot = blanks ++ s := by
        rw [hslot, rowCell, if_pos (isNumeric_iff.2 hnumbers)]
      have hback : slot.dropWhile (· == ' ') = s.dropWhile (· == ' ') := by
        rw [hleft, dropWhile_fill]
      exact ⟨hleft, hback, fun hs => hback.trans (dropWhile_eq_self hs)⟩
    · rintro ⟨other, hmem, hother⟩
      have hright : slot = s ++ blanks := by
        rw [hslot, rowCell, if_neg]
        intro hnumeric
        rw [isNumeric_iff.1 hnumeric other hmem] at hother
        cases hother
      have hback : dropEndWhile (· == ' ') slot = dropEndWhile (· == ' ') s := by
        rw [hright, dropEndWhile_fill]
      exact ⟨hright, hback, fun hs => hback.trans (dropEndWhile_eq_self hs)⟩

/-- A column of texts beside a column of numbers with a NULL. -/
theorem box_geometry_two_columns :
    let t : ResultTable := ⟨[], ["algo".toList, "n".toList],
      [[some "quick".toList, some "10".toList], [some "merge".toList, none]]⟩
    t.columns ≠ [] ∧ t.IsPrintable ∧ ∀ line ∈ t.box, line.length = 14 := by
  intro t
  have hne : t.columns ≠ [] := List.cons_ne_nil _ _
  have hprintable : t.IsPrintable := by decide
  have hedge : 1 + t.edge t.columnCount = 14 := by decide
  refine ⟨hne, hprintable, ?_⟩
  rw [← hedge]
  exact (box_geometry hne hprintable).1

/-- A number and the same number with a space before it are written alike, so there is no way to
tell from a slot which of them it holds. -/
theorem box_cells_confused :
    let t : ResultTable := ⟨[], ["abc".toList], [[some "5".toList], [some " 5".toList]]⟩
    t.columns ≠ [] ∧ t.IsPrintable ∧
      t.box = ["+-----+", "| abc |", "+-----+", "|   5 |", "|   5 |", "+-----+"].map String.toList ∧
      ¬ ∃ read : Text → Text, ∀ i row line, t.rows[i]? = some row → t.box[3 + i]? = some line →
        read (t.slot line 0) = (cellOf row 0).text := by
  intro t
  have hbox : t.box =
      ["+-----+", "| abc |", "+-----+", "|   5 |", "|   5 |", "+-----+"].map String.toList := by
    decide +kernel
  refine ⟨List.cons_ne_nil _ _, by decide, hbox, ?_⟩
  rintro ⟨read, hread⟩
  have hfirst := hread 0 _ "|   5 |".toList rfl (by rw [hbox]; rfl)
  have hsecond := hread 1 _ "|   5 |".toList rfl (by rw [hbox]; rfl)
  rw [hfirst] at hsecond
  exact absurd hsecond (by decide)

end ResultTable

end QueryWeave
