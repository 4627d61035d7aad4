import QueryWeave.Proofs.GnuplotWeave
import QueryWeave.Proofs.LineEnds
import QueryWeave.Proofs.TableLines

/-!
# Lines that are written

What a change writes is meant to be lines, but nothing cuts it at newlines: a text of a result that
has a newline brings it into the document. Whether all that is written are lines can be told from
the texts that go into it, and is told here for every kind of it.
-/

namespace QueryWeave

open Text

/-! ## Characters of written texts -/

namespace Text

theorem newline_mem_join_iff {separator : Text} {xs : List Text} (h : '\n' ∉ separator) :
    '\n' ∈ join separator xs ↔ HasNewline xs := by
  fun_induction join separator xs with
  | case1 => simp
  | case2 s => simp
  | case3 s t r ih => simp [h, ih]

/-- What is joined ends as the last text does, or as the separator. -/
theorem getLast?_join_iff {separator : Text} {xs : List Text} {c d : Char}
    (h : separator.getLast? = some d) (hd : d ≠ c) :
    (join separator xs).getLast? = some c ↔ ∃ x, xs.getLast? = some x ∧ x.getLast? = some c := by
  fun_induction join separator xs with
  | case1 => simp
  | case2 s => simp
  | case3 s t r ih =>
    rw [List.getLast?_cons_cons, ← ih, List.getLast?_append, List.getLast?_append, h]
    cases (join separator (t :: r)).getLast? <;> simp [hd]

theorem newline_mem_latexEscape_iff {s : Text} : '\n' ∈ latexEscape s ↔ '\n' ∈ s :=
  ⟨newline_mem_latexEscape, fun h => List.mem_flatMap.2 ⟨'\n', h, by decide⟩⟩

theorem newline_mem_gnuplotEscape_iff {s : Text} : '\n' ∈ gnuplotEscape s ↔ '\n' ∈ s := by
  simp only [gnuplotEscape, backslashed, List.mem_flatMap]
  constructor
  · rintro ⟨c, hc, hmem⟩
    split at hmem
    · next hescaped =>
      have hsame : c = '\n' := by simpa [eq_comm] using hmem
      exact hsame ▸ hc
    · rw [List.mem_singleton.1 hmem]
      exact hc
  · intro h
    exact ⟨'\n', h, by decide⟩

theorem newline_mem_quoted_iff {s : Text} : '\n' ∈ quoted '\'' s ↔ '\n' ∈ s := by
  simp only [quoted, doubled, List.mem_cons, List.mem_append, List.mem_flatMap, List.not_mem_nil,
    or_false]
  constructor
  · rintro (heq | ⟨c, hc, hmem⟩ | heq)
    · cases heq
    · split at hmem
      · simp at hmem
      · rw [List.mem_singleton.1 hmem]
        exact hc
    · cases heq
  · intro h
    exact .inr (.inl ⟨'\n', h, by decide⟩)

@[simp] theorem newline_mem_padLeft {s : Text} {width : Nat} :
    '\n' ∈ padLeft s width ↔ '\n' ∈ s := by
  simp [padLeft, fill]

@[simp] theorem newline_mem_padRight {s : Text} {width : Nat} :
    '\n' ∈ padRight s width ↔ '\n' ∈ s := by
  simp [padRight, fill]

/-- Texts are padded in pairs with their widths. -/
private theorem zipWith_padLeft (xs : List Text) (widths : List Nat) :
    xs.zipWith padLeft widths = (xs.zip widths).map fun p => padLeft p.1 p.2 :=
  (List.map_zip_eq_zipWith (f := fun p : Text × Nat => padLeft p.1 p.2)).symm

/-- Padded texts have the newlines of the texts. -/
theorem hasNewline_zipWith_padLeft {xs : List Text} {widths : List Nat}
    (h : xs.length = widths.length) :
    HasNewline (xs.zipWith padLeft widths) ↔ HasNewline xs := by
  have hfst := List.map_fst_zip (Nat.le_of_eq h)
  rw [zipWith_padLeft]
  conv => rhs; rw [← hfst]
  simp only [hasNewline_map, newline_mem_padLeft]

/-- Padding to the left does not change how the last text ends. -/
theorem getLast?_zipWith_padLeft_iff {xs : List Text} {widths : List Nat}
    (h : xs.length = widths.length) :
    (∃ x, (xs.zipWith padLeft widths).getLast? = some x ∧ x.getLast? = some '\r') ↔
      ∃ x, xs.getLast? = some x ∧ x.getLast? = some '\r' := by
  have hfst := List.map_fst_zip (Nat.le_of_eq h)
  rw [zipWith_padLeft]
  conv => rhs; rw [← hfst]
  rw [List.getLast?_map, List.getLast?_map]
  cases (xs.zip widths).getLast? with
  | none => simp
  | some p => simp [padLeft, fill, List.getLast?_append, List.getLast?_replicate]

/-- A shortened text of one line ends in three dots or as it is. -/
theorem IsLine.shorten {s : Text} (h : IsLine s) (width : Nat) : IsLine (Text.shorten width s) := by
  unfold Text.shorten
  dsimp only
  split
  · exact h
  · constructor
    · intro hmem
      rcases List.mem_append.1 hmem with hmem | hmem
      · obtain ⟨cluster, hcluster, hmem⟩ := List.mem_flatten.1 hmem
        apply h.newline
        rw [← flatten_clusters s]
        exact List.mem_flatten.2 ⟨cluster, List.mem_of_mem_take hcluster, hmem⟩
      · exact absurd hmem (by decide)
    · simp [List.getLast?_append]

end Text

/-! ## Tables -/

theorem CommentStyle.isLine_endMarker {style : CommentStyle} (hm : style.marker ≠ '\n')
    (keyword : Keyword) {query : Text} (h : IsLine query) :
    IsLine (style.endMarker keyword query) := by
  have hword : '\n' ∉ endWord keyword := by cases keyword <;> decide
  have hquery := h.shorten endMarkerWidth
  constructor
  · simp [endMarker, hm.symm, hword, hquery.newline]
  · -- behind the keyword stand a blank and the query, which may be empty
    have happend : style.endMarker keyword query = (style.marker :: ' ' :: endWord keyword) ++
        ' ' :: shorten endMarkerWidth query := rfl
    have hlast := hquery.ending
    rw [happend, List.getLast?_append, List.getLast?_cons]
    cases hl : (shorten endMarkerWidth query).getLast? with
    | none => simp
    | some c => simpa [hl] using hlast

namespace ResultTable

variable {t : ResultTable}

private theorem newline_mem_divider (widths : List Nat) : '\n' ∉ divider widths := by
  simp [divider, newline_mem_join_iff, fill]

private theorem newline_mem_boxLine {cells : List Text} :
    '\n' ∈ boxLine cells ↔ HasNewline cells := by
  simp only [boxLine, List.mem_append, newline_mem_join_iff (by decide : '\n' ∉ "| ".toList),
    hasNewline_map]
  simp [HasNewline]

/-- The newlines of a box table are those of its names and cells. -/
theorem hasNewline_box : HasNewline t.box ↔
    HasNewline (t.columns ++ t.rows.flatMap fun row => (t.fitted row).map Cell.text) := by
  have hcell : ∀ numeric width (s : Text), '\n' ∈ boxCell numeric width s ↔ '\n' ∈ s := by
    intro numeric width s
    cases numeric <;> simp [boxCell]
  have hnames : HasNewline (t.columns.zipWith (fun name width => padLeft name width)
      ((List.range t.columnCount).map t.boxWidth)) ↔ HasNewline t.columns :=
    hasNewline_zipWith_padLeft (by simp [columnCount])
  have hrow : ∀ row, '\n' ∈ boxLine (boxCells (((List.range t.columnCount).map t.boxWidth).mapIdx
      fun j width => (width, t.isNumeric j)) row) ↔ HasNewline ((t.fitted row).map Cell.text) := by
    intro row
    rw [newline_mem_boxLine, boxCells_eq]
    simp only [hasNewline_map, hcell, fitted, List.map_map, Function.comp_apply]
  simp only [box, hasNewline_append, hasNewline_cons, hasNewline_nil, newline_mem_divider,
    hasNewline_map, newline_mem_boxLine, hnames, hrow, hasNewline_flatMap, or_false, false_or]

/-- A box table ends its lines with its frame. -/
theorem not_hasReturn_box : ¬ HasReturn t.box := by
  have hdivider : ∀ widths, (divider widths).getLast? = some '+' := fun widths =>
    List.getLast?_concat
  have hline : ∀ cells, (boxLine cells).getLast? = some '|' := fun cells => List.getLast?_concat
  rintro ⟨line, hmem, hlast⟩
  simp only [box, List.mem_append, List.mem_cons, List.not_mem_nil, or_false, List.mem_map] at hmem
  rcases hmem with ((rfl | rfl | rfl) | ⟨row, -, rfl⟩) | rfl <;> simp [hdivider, hline] at hlast

end ResultTable

namespace Fragment

variable {α β : Type}

/-- Entries keep what some line of the run was read as. -/
theorem exists_of_mem_run {recognise : Text → Option α} {lines : List Text} {a : α}
    (h : a ∈ run recognise lines) : ∃ line ∈ lines, recognise line = some a := by
  induction lines with
  | nil => cases h
  | cons line rest ih =>
    rw [run] at h
    split at h
    · next a' ha' =>
      rcases List.mem_cons.1 h with rfl | h
      · exact ⟨line, List.mem_cons_self .., ha'⟩
      · obtain ⟨l, hl, hr⟩ := ih h
        exact ⟨l, List.mem_cons_of_mem _ hl, hr⟩
    · cases h

/-- The new entries that are paired are all new entries. -/
theorem exists_mem_paired (old : List α) (new : List β) {p : β → Prop} :
    (∃ c ∈ paired old new, p c.1) ↔ ∃ b ∈ new, p b := by
  constructor
  · rintro ⟨⟨b, kept⟩, hc, hp⟩
    exact ⟨b, (mem_of_mem_paired hc).1, hp⟩
  · rintro ⟨b, hb, hp⟩
    rw [← map_fst_paired old new] at hb
    obtain ⟨c, hc, rfl⟩ := List.mem_map.1 hb
    exact ⟨c, hc, hp⟩

end Fragment

namespace RowStyle

open Fragment

variable {style : RowStyle} {t : ResultTable} {r : Reformat} {old : List Text}

/-- A row has as many cells as the table has columns. -/
private theorem length_of_mem_cells {row : List Text} (h : row ∈ cells t r) :
    row.length = t.columnCount := by
  obtain ⟨i, hi, rfl⟩ := List.mem_mapIdx.1 h
  simp [ResultTable.fitted]

theorem hasNewline_render : HasNewline (style.render t r) ↔ HasNewline (cells t r).flatten := by
  have hseparator : '\n' ∉ style.separator := by cases style <;> decide
  have hterminator : '\n' ∉ style.terminator := by cases style <;> decide
  have hflatten : (cells t r).flatten = (cells t r).flatMap id := List.flatMap_id.symm
  rw [render, hasNewline_map, hflatten, hasNewline_flatMap]
  refine exists_congr fun row => and_congr_right fun hrow => ?_
  simp only [line, List.mem_append, newline_mem_join_iff hseparator, hterminator, or_false, id_eq]
  exact hasNewline_zipWith_padLeft (by simp [length_of_mem_cells hrow])

/-- What is kept of old rows has no newline. -/
theorem hasNewline_carryOver {new : List Text} :
    HasNewline (style.carryOver old new) ↔ HasNewline new := by
  have hnew : HasNewline new ↔ ∃ c ∈ paired (run style.kept? old) new, '\n' ∈ c.1 :=
    (exists_mem_paired ..).symm
  rw [carryOver, hasNewline_map, hnew]
  refine exists_congr fun c => and_congr_right fun hc => ?_
  have hkept : '\n' ∉ c.2.getD [] := by
    have hkept := isKept_of_mem_paired hc
    cases style with
    | tabular => exact hkept.line
    | tabTable =>
      rw [show c.2.getD [] = [] from hkept]
      exact List.not_mem_nil
  simp [hkept]

/-- Rows of a LaTeX table end in their terminators, or as the old rows do. -/
theorem not_hasReturn_tabular (hold : ∀ line ∈ old, line.getLast? ≠ some '\r') :
    ¬ HasReturn (tabular.carryOver old (tabular.render t r)) := by
  rw [carryOver, hasReturn_map]
  rintro ⟨⟨row, kept⟩, hc, hlast⟩
  obtain ⟨cells, rfl⟩ := terminated_of_mem_render (mem_of_mem_paired hc).1
  rw [List.getLast?_append] at hlast
  cases hend : (kept.getD []).getLast? with
  | none =>
    rw [hend, List.getLast?_append] at hlast
    simp [terminator] at hlast
  | some d =>
    rw [hend] at hlast
    -- what is kept is the end of an old row
    obtain ⟨s, rfl⟩ : ∃ s, kept = some s := by
      cases kept with
      | none => cases hend
      | some s => exact ⟨s, rfl⟩
    obtain ⟨line, hline, hs⟩ := exists_of_mem_run ((mem_of_mem_paired hc).2 s rfl)
    obtain ⟨pre, rfl⟩ := suffix_of_rowSuffix? hs
    apply hold _ hline
    rw [List.getLast?_append]
    rw [Option.getD_some] at hend
    rw [hend]
    exact hlast

/-- Rows between tabs end as their last cells do. -/
theorem hasReturn_tabTable : HasReturn (tabTable.carryOver old (tabTable.render t r)) ↔
    HasReturn ((cells t r).filterMap List.getLast?) := by
  have hkept : tabTable.carryOver old (tabTable.render t r) = tabTable.render t r := by
    have hmap : tabTable.carryOver old (tabTable.render t r) =
        (paired (run (kept? tabTable) old) (tabTable.render t r)).map Prod.fst := by
      apply List.map_congr_left
      intro c hc
      have hnothing : c.2.getD [] = [] := isKept_of_mem_paired hc
      simp [hnothing]
    rw [hmap, map_fst_paired]
  rw [hkept, render, hasReturn_map, hasReturn_filterMap]
  refine exists_congr fun row => and_congr_right fun hrow => ?_
  have hseparator : (separator tabTable).getLast? = some '\t' := rfl
  rw [line, show terminator tabTable = [] from rfl, List.append_nil,
    getLast?_join_iff hseparator (by decide)]
  exact getLast?_zipWith_padLeft_iff (by simp [length_of_mem_cells hrow])

end RowStyle

/-! ## LaTeX plots -/

/-- What stands around a value in a line that is one. -/
structure Wrap.IsInLine (w : Wrap) : Prop where
  head : '\n' ∉ w.head
  tail : IsLine w.tail
  tail_ne : w.tail ≠ []

namespace Wrap.IsInLine

variable {w : Wrap}

/-- A value brings its newlines into the line. -/
theorem newline_mem (hw : w.IsInLine) {value : Text} :
    '\n' ∈ w.head ++ value ++ w.tail ↔ '\n' ∈ value := by
  simp [hw.head, hw.tail.newline]

/-- But the line ends as it did. -/
theorem getLast?_ne (hw : w.IsInLine) (front : Text) : (front ++ w.tail).getLast? ≠ some '\r' := by
  have hlast := hw.tail.ending
  rw [List.getLast?_append]
  cases hl : w.tail.getLast? with
  | none => exact absurd (List.getLast?_eq_none_iff.1 hl) hw.tail_ne
  | some c => rwa [hl] at hlast

theorem of_plot? {line : Text} (hline : IsLine line) (h : Fragment.plot? line = some w) :
    w.IsInLine := by
  have hwrap := Fragment.isPlotWrap_of_plot? hline.newline h
  obtain ⟨pre, hpre, hhead⟩ := hwrap.head
  obtain ⟨t, -, htail⟩ := hwrap.tail
  refine ⟨?_, hline.of_suffix (Fragment.tail_suffix_of_plot? h), by simp [htail]⟩
  have hwords : '\n' ∉ Fragment.plotWord ∧ '\n' ∉ Fragment.coordinatesWord := by decide
  simp [hhead, hpre, hwords]

theorem of_legend? {line : Text} (hline : IsLine line) (h : Fragment.legend? line = some w) :
    w.IsInLine := by
  have hwrap := Fragment.isLegendWrap_of_legend? h
  refine ⟨?_, hline.of_suffix (Fragment.tail_suffix_of_legend? h), fun hnil => ?_⟩
  · rw [hwrap.head]
    decide
  · have hlast := hwrap.last
    rw [hnil] at hlast
    cases hlast

end Wrap.IsInLine

/-- The texts of a point, with its error terms if these are written. -/
def Point.texts (withErrors : Bool) (p : Point) : List Text :=
  p.x :: p.y :: if withErrors then p.xError.toList ++ p.yError.toList else []

/-- The texts of a curve. -/
def Series.texts (withErrors : Bool) (s : Series) : List Text :=
  s.legend :: s.points.flatMap (Point.texts withErrors)

namespace Latex

open Fragment

variable {lines : List Text}

theorem isInLine_newPlot : newPlot.IsInLine := ⟨by decide, by decide, by decide⟩

theorem isInLine_newLegend : newLegend.IsInLine := ⟨by decide, by decide, by decide⟩

theorem newline_mem_plotLine {w : Wrap} (hw : w.IsInLine) {coordinates : Text} :
    '\n' ∈ plotLine w coordinates ↔ '\n' ∈ coordinates := by
  have hline : plotLine w coordinates = w.head ++ (coordinates ++ [' ']) ++ w.tail := by
    simp [plotLine]
  rw [hline, hw.newline_mem]
  simp

theorem getLast?_plotLine_ne {w : Wrap} (hw : w.IsInLine) (coordinates : Text) :
    (plotLine w coordinates).getLast? ≠ some '\r' := by
  have hline : plotLine w coordinates = (w.head ++ coordinates ++ [' ']) ++ w.tail := by
    simp [plotLine]
  rw [hline]
  exact hw.getLast?_ne _

/-- The values of a plot of rows lose their newlines, as all their white space is collapsed. -/
theorem isLine_of_mem_plot (rows : List (List Text)) (hlines : ∀ line ∈ lines, IsLine line) :
    ∀ line ∈ (plot rows lines).content, IsLine line := by
  have hrows : '\n' ∉ rows.flatMap coordinate := by
    intro hmem
    obtain ⟨row, -, hmem⟩ := List.mem_flatMap.1 hmem
    have hcells : ¬ HasNewline (row.map collapse) := by
      rw [hasNewline_map]
      rintro ⟨cell, -, hmem⟩
      rcases mem_collapse hmem with heq | ⟨-, hwhite⟩
      · cases heq
      · cases hwhite
    simp [coordinate, newline_mem_join_iff, hcells] at hmem
  have hnew : ∀ w : Wrap, w.IsInLine → IsLine (plotLine w (rows.flatMap coordinate)) := fun w hw =>
    ⟨fun hmem => hrows ((newline_mem_plotLine hw).1 hmem), getLast?_plotLine_ne hw _⟩
  unfold plot
  dsimp only
  split
  · next w hw =>
    obtain ⟨line, hline, hplot⟩ := Option.bind_eq_some_iff.1 hw
    have hin := Wrap.IsInLine.of_plot? (hlines line (List.mem_of_mem_head? hline)) hplot
    simpa using hnew w hin
  · simpa using hnew newPlot isInLine_newPlot

/-! ## LaTeX curves -/

theorem newline_mem_point {withErrors : Bool} {p : Point} :
    '\n' ∈ point withErrors p ↔ HasNewline (p.texts withErrors) := by
  obtain ⟨x, y, xError, yError⟩ := p
  cases withErrors with
  | false => simp [point, Point.texts]
  | true => cases xError <;> cases yError <;> simp [point, Point.texts, errorTerm]

theorem newline_mem_legendOf_iff {s : Series} : '\n' ∈ legendOf s ↔ '\n' ∈ s.legend := by
  unfold legendOf
  split
  · exact newline_mem_latexEscape_iff
  · exact Iff.rfl

/-- What is kept of a curve stands around values in lines. -/
def IsKeptInLine (k : KeptCurve) : Prop := k.1.IsInLine ∧ ∀ w, k.2 = some w → w.IsInLine

theorem isKeptInLine_of_mem (hlines : ∀ line ∈ lines, IsLine line) :
    ∀ k ∈ keptCurves lines, IsKeptInLine k := by
  intro k hk
  obtain ⟨⟨line, hline, hplot⟩, hlegend⟩ := exists_of_mem_keptCurves hk
  refine ⟨.of_plot? (hlines line hline) hplot, fun w hw => ?_⟩
  obtain ⟨line', hline', hlegend'⟩ := hlegend w hw
  exact .of_legend? (hlines line' hline') hlegend'

/-- The lines of a curve have the newlines of its texts, and end as the old lines did. -/
theorem hasNewline_curveLines {withErrors : Bool} {s : Series} {kept : Option KeptCurve}
    (hkept : ∀ k, kept = some k → IsKeptInLine k) :
    (HasNewline (curveLines withErrors s kept) ↔ HasNewline (s.texts withErrors)) ∧
      ¬ HasReturn (curveLines withErrors s kept) := by
  have hin : IsKeptInLine (kept.getD (newPlot, none)) := by
    cases kept with
    | none => exact ⟨isInLine_newPlot, fun w hw => by cases hw⟩
    | some k => exact hkept k rfl
  have hlegend : ((kept.getD (newPlot, none)).2.getD newLegend).IsInLine := by
    cases hl : (kept.getD (newPlot, none)).2 with
    | none => exact isInLine_newLegend
    | some w => exact hin.2 w hl
  have hpoints : '\n' ∈ s.points.flatMap (point withErrors) ↔
      HasNewline (s.points.flatMap (Point.texts withErrors)) := by
    simp only [List.mem_flatMap, newline_mem_point, hasNewline_flatMap]
  constructor
  · simp only [curveLines, legendLine, hasNewline_cons, hasNewline_nil, or_false, Series.texts,
      newline_mem_plotLine hin.1, hlegend.newline_mem, newline_mem_legendOf_iff, hpoints]
    exact or_comm
  · simp only [curveLines, legendLine, hasReturn_cons, hasReturn_nil, or_false, not_or]
    exact ⟨getLast?_plotLine_ne hin.1 _, hlegend.getLast?_ne _⟩

theorem hasNewline_multiPlot (p : MultiPlot) (hlines : ∀ line ∈ lines, IsLine line) :
    (HasNewline (multiPlot p lines).content ↔
      HasNewline (p.series.flatMap (Series.texts p.hasErrors))) ∧
      ¬ HasReturn (multiPlot p lines).content := by
  have hcurves : ∀ c ∈ paired (keptCurves lines) p.series,
      ∀ k, c.2 = some k → IsKeptInLine k := fun c hc k hk =>
    isKeptInLine_of_mem hlines k ((mem_of_mem_paired hc).2 k hk)
  constructor
  · rw [hasNewline_flatMap, ← exists_mem_paired (keptCurves lines) p.series, multiPlot,
      hasNewline_flatMap]
    exact exists_congr fun c => and_congr_right fun hc => (hasNewline_curveLines (hcurves c hc)).1
  · rintro ⟨line, hmem, hlast⟩
    obtain ⟨c, hc, hmem⟩ := List.mem_flatMap.1 hmem
    exact (hasNewline_curveLines (hcurves c hc)).2 ⟨line, hmem, hlast⟩

/-! ## LaTeX macros -/

theorem isLetter_of_mem_macroName {column name : Text} (h : macroName column = .ok name) :
    ∀ c ∈ name, isLetter c = true := by
  unfold macroName at h
  split at h
  · cases h
  · cases h
    exact fun c hc => (List.mem_filter.1 hc).2

theorem hasNewline_defMacro {ms : List Macro} {splice : Splice}
    (h : defMacro ms lines = .ok splice) :
    (HasNewline splice.content ↔ HasNewline (ms.map Macro.value)) ∧
      ¬ HasReturn splice.content := by
  obtain ⟨new, hnew, rfl⟩ := Except.map_eq_ok h
  constructor
  · rw [hasNewline_map]
    apply Except.exists_mem_mapM_iff hnew
    intro m line hline
    obtain ⟨name, hn, rfl⟩ := Except.map_eq_ok hline
    have hname : '\n' ∉ name := fun hmem =>
      absurd (isLetter_of_mem_macroName hn _ hmem) (by decide)
    simp [hname]
  · have hends : HasReturn new ↔ ∃ m ∈ ms, False := by
      apply Except.exists_mem_mapM_iff hnew
      intro m line hline
      obtain ⟨name, -, rfl⟩ := Except.map_eq_ok hline
      rw [List.getLast?_concat]
      simp
    simp [hends]

end Latex

namespace Gnuplot

open Fragment

variable {file : Text} {lines : List Text}

/-! ## gnuplot statements -/

/-- The styling that the last of some new entries takes over from an old statement. -/
def lastStyle? (lines : List Text) : Nat → Option Text
  | 0 => none
  | n + 1 => (oldStatement lines).1[n]?

/-- The texts of an entry that are not its styling. -/
def DataSet.texts (file : Text) (d : DataSet) : List Text := file :: d.title.toList

theorem newline_mem_entry {d : DataSet} {style : Text} (hstyle : '\n' ∉ style) :
    '\n' ∈ entry file d style ↔ HasNewline (d.texts file) := by
  have hindex : '\n' ∉ ofNat d.index := fun hmem =>
    absurd (isDigit_of_mem_ofNat hmem) (by decide)
  have hwords : '\n' ∉ "    '".toList ∧ '\n' ∉ "' index ".toList := by decide
  have htitle : '\n' ∈ titlePart d.title ↔ HasNewline d.title.toList := by
    cases d.title with
    | none => exact iff_of_false List.not_mem_nil hasNewline_nil
    | some t =>
      have hquoted : titlePart (some t) = " title \"".toList ++ gnuplotEscape t ++ ['"'] := rfl
      simp [hquoted, newline_mem_gnuplotEscape_iff]
  unfold entry
  simp only [List.mem_append, hwords, hindex, hstyle, htitle, DataSet.texts, hasNewline_cons,
    false_or, or_false]

/-- What continues a statement in the next line has no newline. -/
theorem hasNewline_continued (entries : List Text) :
    HasNewline (continued entries) ↔ HasNewline entries := by
  fun_induction continued entries with
  | case1 => exact Iff.rfl
  | case2 line => exact Iff.rfl
  | case3 line next rest ih =>
    have hmark : '\n' ∉ continuationMark := by decide
    simp [ih, hmark]

/-- Only the last line of a statement ends as an entry does. -/
theorem hasReturn_continued (entries : List Text) :
    HasReturn (continued entries) ↔ ∃ e, entries.getLast? = some e ∧ e.getLast? = some '\r' := by
  fun_induction continued entries with
  | case1 => simp
  | case2 line => simp
  | case3 line next rest ih =>
    rw [hasReturn_cons, ih, List.getLast?_cons_cons, List.getLast?_append]
    simp [continuationMark]

/-- The stylings with which new entries are written have no newline and are not empty. -/
private theorem isStyle_of_mem_paired {sets : List DataSet} {c : DataSet × Option Text}
    (hc : c ∈ paired (oldStatement lines).1 sets) : IsStyle (c.2.getD usualStyle) := by
  obtain ⟨d, kept⟩ := c
  cases kept with
  | none => exact isStyle_usualStyle
  | some style => exact isStyle_of_mem_oldStatement style ((mem_of_mem_paired hc).2 style rfl)

private theorem newline_mem_of_isStyle {style : Text} (h : IsStyle style) : '\n' ∉ style := by
  obtain ⟨rest, rfl, hrest⟩ := h
  simp [hrest]

/-- An entry ends as its styling does. -/
private theorem getLast?_entry {d : DataSet} {style : Text} (h : IsStyle style) :
    (entry file d style).getLast? = style.getLast? := by
  obtain ⟨rest, rfl, -⟩ := h
  unfold entry
  rw [List.getLast?_append, List.getLast?_cons, Option.some_or]

/-- A plot statement is lines but for what its data sets bring in, and for the end of the styling of
its last entry. -/
theorem hasNewline_plotStatement (file : Text) (sets : List DataSet) (lines : List Text) :
    (HasNewline (plotStatement file sets lines).content ↔
      HasNewline (sets.flatMap (DataSet.texts file))) ∧
      (HasReturn (plotStatement file sets lines).content ↔
        HasReturn (lastStyle? lines sets.length).toList) := by
  have hstyle : ∀ c ∈ paired (oldStatement lines).1 sets, IsStyle (c.2.getD usualStyle) :=
    fun c hc => isStyle_of_mem_paired hc
  let entries := (paired (oldStatement lines).1 sets).map fun c =>
    entry file c.1 (c.2.getD usualStyle)
  -- without data sets there is no header either
  have hcontent : (plotStatement file sets lines).content =
      if sets = [] then [] else plotHeader :: continued entries := by
    cases sets with
    | nil => rfl
    | cons d sets =>
      simp only [plotStatement, entries]
      cases hp : paired (oldStatement lines).1 (d :: sets) with
      | nil => exact absurd hp (paired_ne_nil _ (List.cons_ne_nil _ _))
      | cons c cs => rfl
  constructor
  · have hentries : HasNewline entries ↔ HasNewline (sets.flatMap (DataSet.texts file)) := by
      have hsets := exists_mem_paired (oldStatement lines).1 sets
        (p := fun d => HasNewline (d.texts file))
      rw [hasNewline_map, hasNewline_flatMap, ← hsets]
      exact exists_congr fun c => and_congr_right fun hc =>
        newline_mem_entry (newline_mem_of_isStyle (hstyle c hc))
    have hheader : '\n' ∉ plotHeader := by decide
    rw [hcontent]
    split
    · next hnil => simp [hnil]
    · simp [hheader, hasNewline_continued, hentries]
  · have hheader : plotHeader.getLast? = some '\\' := rfl
    rw [hcontent]
    cases hlength : sets.length with
    | zero => simp [List.length_eq_zero_iff.1 hlength, lastStyle?]
    | succ n =>
      have hne : sets ≠ [] := by
        rintro rfl
        cases hlength
      -- the last pair is that of the last data set
      have hlast : entries.getLast? = sets[n]?.map fun d =>
          entry file d ((oldStatement lines).1[n]?.getD usualStyle) := by
        have hn : (paired (oldStatement lines).1 sets).length = n + 1 := by
          rw [← hlength, ← List.length_map Prod.fst, map_fst_paired]
        rw [List.getLast?_map, List.getLast?_eq_getElem?, hn, Nat.add_sub_cancel, getElem?_paired,
          Option.map_map]
        rfl
      obtain ⟨d, hd⟩ : ∃ d, sets[n]? = some d := ⟨_, List.getElem?_eq_getElem (by omega)⟩
      have husual : usualStyle.getLast? = some 's' := rfl
      rw [if_neg hne, hasReturn_cons, hasReturn_continued, hlast, hd, hheader, lastStyle?]
      cases hs : (oldStatement lines).1[n]? with
      | none => simp [getLast?_entry isStyle_usualStyle, husual]
      | some style =>
        have hst := isStyle_of_mem_oldStatement style (List.mem_of_getElem? hs)
        simp [getLast?_entry hst]

/-! ## gnuplot macros -/

/-- A value that is a number ends the line, and the others are quoted. -/
theorem hasNewline_defMacro {ms : List Macro} {splice : Splice}
    (h : defMacro ms lines = .ok splice) :
    (HasNewline splice.content ↔ HasNewline (ms.map Macro.value)) ∧
      (HasReturn splice.content ↔ HasReturn ((ms.map Macro.value).filter isNumber)) := by
  obtain ⟨new, hnew, rfl⟩ := Except.map_eq_ok h
  constructor
  · rw [hasNewline_map]
    apply Except.exists_mem_mapM_iff hnew
    intro m line hline
    obtain ⟨name, hn, rfl⟩ := Except.map_eq_ok hline
    have hname : '\n' ∉ name := fun hmem =>
      absurd ((isNameChar_of_mem_macroName hn).2 _ hmem) (by decide)
    have hvalue : '\n' ∈ macroValue m.value ↔ '\n' ∈ m.value := by
      unfold macroValue
      split
      · exact Iff.rfl
      · exact newline_mem_quoted_iff
    simp [hname, hvalue]
  · have hends : HasReturn ((ms.map Macro.value).filter isNumber) ↔
        ∃ m ∈ ms, isNumber m.value = true ∧ m.value.getLast? = some '\r' := by
      constructor
      · rintro ⟨s, hs, hlast⟩
        obtain ⟨hvalue, hnumber⟩ := List.mem_filter.1 hs
        obtain ⟨m, hm, rfl⟩ := List.mem_map.1 hvalue
        exact ⟨m, hm, hnumber, hlast⟩
      · rintro ⟨m, hm, hnumber, hlast⟩
        exact ⟨m.value, List.mem_filter.2 ⟨List.mem_map_of_mem hm, hnumber⟩, hlast⟩
    rw [hends]
    apply Except.exists_mem_mapM_iff hnew
    intro m line hline
    obtain ⟨name, -, rfl⟩ := Except.map_eq_ok hline
    unfold macroValue
    split
    · next hnumber =>
      rw [List.getLast?_append]
      -- a number is not empty
      cases hl : m.value.getLast? with
      | none =>
        rw [List.getLast?_eq_none_iff.1 hl] at hnumber
        exact absurd hnumber (by decide)
      | some c => simp [hnumber]
    · next hnumber =>
      have hquoted : (quoted '\'' m.value).getLast? = some '\'' := by
        rw [quoted, ← List.cons_append]
        exact List.getLast?_concat
      rw [List.getLast?_append, hquoted]
      simp [hnumber]

end Gnuplot

end QueryWeave
