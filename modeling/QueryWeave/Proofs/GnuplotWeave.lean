import QueryWeave.Proofs.GnuplotLines
import QueryWeave.Proofs.LatexWeave

/-!
# Gnuplot changes made again

The counterpart of the LaTeX changes: a plot statement is recognised as a whole, from its first line
to the one that does not continue it, and assignments up to a line that is none.

Main statements: `Gnuplot.plotStatement_again`, `Gnuplot.defMacro_again`.
-/

namespace QueryWeave

open Text

namespace Gnuplot

open Fragment

/-! ## Data files -/

theorem name_foldl_row (rows : List (List Text)) (f : DataFile) :
    (rows.foldl DataFile.row f).name = f.name := by
  induction rows generalizing f with
  | nil => rfl
  | cons row rows ih => exact ih (f.row row)

/-- Data do not change the name of their file. -/
theorem name_addRows (f : DataFile) (body : Text) (rows : List (List Text)) :
    (addRows f body rows).name = f.name := name_foldl_row rows _

theorem name_foldl_addSeries (series : List Series) (f : DataFile) :
    (series.foldl addSeries f).name = f.name := by
  induction series generalizing f with
  | nil => rfl
  | cons s series ih =>
    rw [List.foldl_cons, ih]
    exact name_foldl_row _ _

/-! ## Statements -/

/-- The styling of an old entry starts with a space, and is in one line. -/
theorem isStyle_of_plotEntry? {line : Text} {e : PlotEntry} (h : plotEntry? line = some e) :
    IsStyle e.style := by
  simp only [ plotEntry?] at h
  split at h
  · next r _ =>
    split at h
    · next e' he =>
      cases h
      obtain ⟨s, -, hs⟩ := Option.bind_eq_some_iff.1 he
      exact isStyle_of_spacedStyling? hs
    · exact isStyle_of_spacedStyling? h
  · cases h

private theorem isStyle_of_mem_plotEntries (lines : List Text) :
    ∀ e ∈ plotEntries lines, IsStyle e.style := by
  induction lines with
  | nil => exact fun e he => absurd he List.not_mem_nil
  | cons line rest ih =>
    intro e he
    rw [plotEntries] at he
    split at he
    · next e' he' =>
      rcases List.mem_cons.1 he with rfl | he
      · exact isStyle_of_plotEntry? he'
      · -- later entries are read only if this one continues the statement
        split at he
        · exact ih e he
        · exact absurd he List.not_mem_nil
    · exact absurd he List.not_mem_nil

/-- So are all stylings of an old statement. -/
theorem isStyle_of_mem_oldStatement {lines : List Text} :
    ∀ style ∈ (oldStatement lines).1, IsStyle style := by
  intro style hstyle
  cases lines with
  | nil => exact absurd hstyle List.not_mem_nil
  | cons line rest =>
    rw [oldStatement] at hstyle
    split at hstyle
    · obtain ⟨e, he, rfl⟩ := List.mem_map.1 hstyle
      exact isStyle_of_mem_plotEntries rest e he
    · exact absurd hstyle List.not_mem_nil

/-- A statement that is written again finds its own lines. -/
theorem plotStatement_again {file : Text} (hfile : file ≠ []) (hquote : '\'' ∉ file)
    (sets : List DataSet) (hne : sets ≠ []) {lines : List Text}
    (hread : ∀ style ∈ (oldStatement lines).1, Readable style) (indent : Nat)
    (others : List Text) :
    plotStatement file sets ((plotStatement file sets lines).written indent ++ others) =
      (plotStatement file sets lines).again := by
  -- a styling is one that was read, or the usual one
  have hsets : ∀ c ∈ paired (oldStatement lines).1 sets,
      IsStyle (c.2.getD usualStyle) ∧ Readable (c.2.getD usualStyle) := by
    rintro ⟨d, kept⟩ hc
    cases kept with
    | none => exact ⟨isStyle_usualStyle, readable_usualStyle⟩
    | some style =>
      have hmem := (mem_of_mem_paired hc).2 style rfl
      exact ⟨isStyle_of_mem_oldStatement style hmem, hread style hmem⟩
  have hpairs := paired_ne_nil (oldStatement lines).1 hne
  have hold := oldStatement_statement hfile hquote indent others hpairs hsets
  have hwritten : (plotStatement file sets lines).written indent =
      (statement file (paired (oldStatement lines).1 sets)).map (Document.indented indent) := rfl
  -- the stylings that are read are those that were written, so the same statement is written
  have hsame : statement file ((paired (oldStatement lines).1 sets).map fun c =>
      (c.1, some (c.2.getD usualStyle))) =
        statement file (paired (oldStatement lines).1 sets) := by
    cases hc : paired (oldStatement lines).1 sets with
    | nil => rfl
    | cons c cs =>
      simp only [List.map_cons, statement, List.map_map]
      rfl
  rw [hwritten]
  simp only [plotStatement, hold, paired_map_paired, hsame]
  rfl

/-! ## Assignments -/

/-- Assignments that are made again find their own lines. -/
theorem defMacro_again {ms : List Macro} {lines : List Text} {splice : Splice}
    (h : defMacro ms lines = .ok splice) (hv : ∀ m ∈ ms, '\n' ∉ m.value) (indent : Nat)
    {others : List Text} (hothers : others.head? = (lines.drop splice.removed).head?) :
    defMacro ms (splice.written indent ++ others) = .ok splice.again := by
  obtain ⟨new, hnew, rfl⟩ := Except.map_eq_ok h
  have hassignments : ∀ line ∈ new.map (Document.indented indent), isAssignment line = true := by
    intro line hline
    obtain ⟨l, hl, rfl⟩ := List.mem_map.1 hline
    obtain ⟨m, hm, hml⟩ := Except.exists_of_mem_mapM hnew hl
    exact isAssignment_macroLine hml (hv m hm) indent
  have hcount := length_takeWhile_append hassignments others fun line hline =>
    head?_drop_takeWhile (hothers ▸ hline)
  simp only [defMacro, hnew, Except.map, Splice.written, hcount, List.length_map, Splice.again]

/-- Assignments of any values that are made again remove no more than they have written. -/
theorem defMacro_within {ms : List Macro} {lines : List Text} {splice : Splice}
    (h : defMacro ms lines = .ok splice) (indent : Nat) {others : List Text}
    (hothers : others.head? = (lines.drop splice.removed).head?) :
    ∃ n ≤ splice.content.length,
      defMacro ms (splice.written indent ++ others) = .ok ⟨n, splice.content⟩ := by
  obtain ⟨new, hnew, rfl⟩ := Except.map_eq_ok h
  refine ⟨_, ?_, by simp only [defMacro, hnew, Except.map, Splice.written]; rfl⟩
  -- a value of several lines is not recognised, but the lines after the old ones stop the search
  have hstop : ∀ line, others.head? = some line → isAssignment line = false := fun line hline =>
    head?_drop_takeWhile (hothers ▸ hline)
  have hlength := length_takeWhile_append_le (new.map (Document.indented indent)) hstop
  rwa [List.length_map] at hlength

/-! ## Comments are neither removed nor written -/

section Silent

variable {style : CommentStyle}

private theorem isComment_of_plotEntry? (hq : '\'' ≠ style.marker) {line : Text} {e : PlotEntry}
    (h : plotEntry? line = some e) : style.isComment line = false := by
  simp only [ plotEntry?, afterIndex?] at h
  split at h
  · next r hr =>
    split at hr
    · next r' hquote => exact CommentStyle.isComment_eq_false (by rw [hquote]; rfl) hq
    · cases hr
  · cases h

private theorem isComment_of_isPlotHeader (hp : 'p' ≠ style.marker) {line : Text}
    (h : isPlotHeader line = true) : style.isComment line = false := by
  unfold isPlotHeader at h
  split at h
  · next r hafter => exact isComment_of_after? hafter hp
  · cases h

private theorem isComment_of_plotEntries (hq : '\'' ≠ style.marker) (lines : List Text) :
    ∀ line ∈ lines.take (plotEntries lines).length, style.isComment line = false := by
  induction lines with
  | nil => exact fun l hl => absurd hl List.not_mem_nil
  | cons first rest ih =>
    intro line hline
    rw [plotEntries] at hline
    split at hline
    · next e he =>
      rcases List.mem_cons.1 hline with rfl | hline
      · exact isComment_of_plotEntry? hq he
      · split at hline
        · exact ih line hline
        · rw [List.length_nil, List.take_zero] at hline
          exact absurd hline List.not_mem_nil
    · exact absurd hline List.not_mem_nil

/-- New entries are no comments. -/
private theorem isComment_of_continued (hq : '\'' ≠ style.marker) {entries : List Text}
    (h : ∀ line ∈ entries, ∃ rest, line = "    '".toList ++ rest) :
    ∀ line ∈ continued entries, style.isComment line = false := by
  have entry : ∀ rest : Text, style.isComment ("    '".toList ++ rest) = false := fun rest =>
    CommentStyle.isComment_eq_false (c := '\'') rfl hq
  fun_induction continued entries with
  | case1 => exact fun l hl => absurd hl List.not_mem_nil
  | case2 line =>
    intro l hl
    obtain ⟨rest, rfl⟩ := h l hl
    exact entry rest
  | case3 line next rest ih =>
    intro l hl
    rcases List.mem_cons.1 hl with rfl | hl
    · obtain ⟨r, rfl⟩ := h line (List.mem_cons_self ..)
      rw [List.append_assoc]
      exact entry _
    · exact ih (fun l hl => h l (List.mem_cons_of_mem _ hl)) l hl

/-- A plot statement removes and writes lines that are no comments. -/
theorem plotStatement_silent (hp : 'p' ≠ style.marker) (hq : '\'' ≠ style.marker) (file : Text)
    (sets : List DataSet) (lines : List Text) :
    (plotStatement file sets lines).Silent style lines where
  removed := by
    intro line hline
    cases lines with
    | nil => exact absurd hline (by simp [plotStatement])
    | cons first rest =>
      have hcount : (plotStatement file sets (first :: rest)).removed =
        (oldStatement (first :: rest)).2 := rfl
      rw [hcount, oldStatement] at hline
      split at hline
      · next hheader =>
        rcases List.mem_cons.1 hline with rfl | hline
        · exact isComment_of_isPlotHeader hp hheader
        · exact isComment_of_plotEntries hq rest line hline
      · exact absurd hline List.not_mem_nil
  content := by
    intro line hline
    have hcontent : (plotStatement file sets lines).content =
      statement file (paired (oldStatement lines).1 sets) := rfl
    rw [hcontent] at hline
    unfold statement at hline
    split at hline
    · exact absurd hline List.not_mem_nil
    · rcases List.mem_cons.1 hline with rfl | hline
      · exact CommentStyle.isComment_eq_false (c := 'p') rfl hp
      · -- every entry begins with the quote before the name of the data file
        apply isComment_of_continued hq _ line hline
        intro l hl
        obtain ⟨c, -, rfl⟩ := List.mem_map.1 hl
        unfold entry
        simp only [List.append_assoc]
        exact ⟨_, rfl⟩

/-- Assignments are no comments, as no name begins with the marker. -/
theorem isComment_of_macroLine (hm : isNameChar style.marker = false) {m : Macro} {line : Text}
    (h : macroLine m = .ok line) : style.isComment line = false := by
  obtain ⟨name, hname, rfl⟩ := Except.map_eq_ok h
  obtain ⟨hne, hchars⟩ := isNameChar_of_mem_macroName hname
  obtain ⟨c, rest, rfl⟩ := List.exists_cons_of_ne_nil hne
  have hc : isNameChar c = true := hchars c (List.mem_cons_self ..)
  have hblank : isBlank c = false := by
    rw [Bool.eq_false_iff]
    intro hb
    simp only [isBlank, Bool.or_eq_true, beq_iff_eq] at hb
    rcases hb with rfl | rfl
    · exact absurd hc (by decide)
    · exact absurd hc (by decide)
  apply CommentStyle.isComment_eq_false (c := c)
  · rw [dropBlanks, List.cons_append, List.cons_append,
      List.dropWhile_cons_of_neg (by simp [hblank])]
    rfl
  · rintro rfl
    rw [hm] at hc
    cases hc

end Silent

end Gnuplot

end QueryWeave
