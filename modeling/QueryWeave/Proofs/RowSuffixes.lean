import QueryWeave.Proofs.KeptComments

/-!
# Suffixes of table rows

What the author wrote behind the terminator of a row of a LaTeX table, such as `\hline`, is to stay
behind the terminator of the new row at its place. The terminator is looked for from the end: the
last two backslashes that stand next to each other are taken for it. Where a suffix follows its
terminator at once and begins with a backslash itself, the second backslash of the terminator and
the first one of the suffix are the last two, and the suffix loses its first character: the row
`a \\\hline` is rewritten as `b \\hline`.

Main statement: `Output.weave_tabular_suffixes`.
-/

namespace QueryWeave

open Text

/-! ## Rows as their author reads them -/

/-- A row of a LaTeX table: its cells, a terminator, and a suffix. -/
structure SuffixedRow where
  cells : Text
  suffix : Text

namespace SuffixedRow

/-- The row in its line. -/
def line (row : SuffixedRow) : Text := row.cells ++ "\\\\".toList ++ row.suffix

/-- A row of one line that has no second terminator in its suffix. -/
structure IsPlain (row : SuffixedRow) : Prop where
  cells_line : '\n' ∉ row.cells
  suffix_line : '\n' ∉ row.suffix
  suffix_once : ¬ "\\\\".toList <:+: row.suffix

/-- What the next run makes of the suffix. -/
def kept (row : SuffixedRow) : Text :=
  match row.suffix with
  | '\\' :: s => s
  | s => s

/-- New rows, each with what is made of the suffix of the old row at its place. -/
def keeping (old : List SuffixedRow) (new : List Text) : List Text :=
  new.mapIdx fun i row => row ++ (old[i]?.map kept).getD []

end SuffixedRow

/-! ## The last terminator -/

namespace Fragment

/-- No terminator is found where no two backslashes stand next to each other. -/
theorem afterTerminator?_eq_none {s : Text} (h : ¬ "\\\\".toList <:+: s) :
    afterTerminator? s = none := by
  induction s with
  | nil => rfl
  | cons c s ih =>
    have hs : afterTerminator? s = none := ih fun hin => h (hin.trans (List.suffix_cons ..).isInfix)
    simp only [afterTerminator?, hs]
    -- and here none begins
    cases hafter : after? "\\\\" (c :: s) with
    | none => rfl
    | some t =>
      refine absurd ?_ h
      rw [after?_eq_some_iff.1 hafter]
      exact (List.prefix_append ..).isInfix

/-- The last two backslashes are the terminator of a row, or else the second one of it and the one
that its suffix begins with. -/
theorem rowSuffix?_line {row : SuffixedRow} (h : row.IsPlain) :
    rowSuffix? row.line = some row.kept := by
  have hline : isOneLine row.line = true := by
    rw [isOneLine_iff]
    simp only [SuffixedRow.line, List.mem_append, not_or]
    exact ⟨⟨h.cells_line, by decide⟩, h.suffix_line⟩
  have hnone := afterTerminator?_eq_none h.suffix_once
  have hlast : afterTerminator? ('\\' :: '\\' :: row.suffix) = some row.kept := by
    unfold SuffixedRow.kept
    split
    · next s hs =>
      rw [hs] at hnone ⊢
      simp only [afterTerminator?] at hnone ⊢
      simp only [hnone]
      rfl
    · next hs =>
      have hsecond : after? "\\\\" ('\\' :: row.suffix) = none := by
        cases hafter : after? "\\\\" ('\\' :: row.suffix) with
        | none => rfl
        | some t => exact absurd (List.cons.inj (after?_eq_some_iff.1 hafter)).2 (hs t)
      simp only [afterTerminator?, hnone, hsecond]
      exact after?_append "\\\\".toList row.suffix
  have happend : row.line = row.cells ++ '\\' :: '\\' :: row.suffix := List.append_assoc ..
  rw [rowSuffix?, if_pos hline, happend]
  exact afterTerminator?_append _ hlast

end Fragment

/-! ## Rewritten rows -/

namespace CommentStyle

variable {style : CommentStyle}

/-- A block reaches down to its end marker. -/
theorem blockSize?_marked {keyword : Keyword} {old : List Text}
    (hold : ∀ line ∈ old, style.isComment line = false) {marker : Text}
    (hmarker : style.isEndOf keyword marker = true) (below : List Text) :
    style.blockSize? keyword (old ++ marker :: below) = some old.length := by
  obtain ⟨s, hs, hword⟩ := (Option.any_eq_true _ _).1 hmarker
  rw [blockSize?, next?_append hold, next?, hs]
  simp only [hword, if_true, Option.map_some, Nat.add_zero]

end CommentStyle

namespace RowStyle

open Fragment SuffixedRow

private theorem run_lines {old : List SuffixedRow} (h : ∀ row ∈ old, row.IsPlain) :
    run (kept? tabular) (old.map SuffixedRow.line) = old.map SuffixedRow.kept := by
  induction old with
  | nil => rfl
  | cons row old ih =>
    have hrow : kept? tabular row.line = some row.kept :=
      rowSuffix?_line (h row (List.mem_cons_self ..))
    simp only [List.map_cons, run, hrow]
    rw [ih fun x hx => h x (List.mem_cons_of_mem _ hx)]

theorem carryOver_lines {old : List SuffixedRow} (h : ∀ row ∈ old, row.IsPlain) (new : List Text) :
    tabular.carryOver (old.map SuffixedRow.line) new = keeping old new := by
  simp only [carryOver, run_lines h, map_paired, keeping, List.getElem?_map]

/-- A new row ends in a terminator and the old suffix, unless the suffix begins with a backslash. -/
theorem suffix_keeping_iff {t : ResultTable} {r : Reformat} {old : List SuffixedRow} {i : Nat}
    {row : SuffixedRow} {line : Text} (hrow : old[i]? = some row)
    (hline : (keeping old (tabular.render t r))[i]? = some line) :
    "\\\\".toList ++ row.suffix <:+ line ↔ row.suffix.head? ≠ some '\\' := by
  -- the new row has its own terminator, behind a blank
  obtain ⟨cells, rfl⟩ : ∃ cells, line = (cells ++ [' ']) ++ ("\\\\".toList ++ row.kept) := by
    simp only [keeping, List.getElem?_mapIdx, hrow] at hline
    obtain ⟨new, hnew, rfl⟩ := Option.map_eq_some_iff.1 hline
    obtain ⟨cells, rfl⟩ := terminated_of_mem_render (List.mem_of_getElem? hnew)
    refine ⟨cells, ?_⟩
    simp only [terminator, List.append_assoc, Option.map_some, Option.getD_some]
    rfl
  unfold SuffixedRow.kept
  split
  · next s hs =>
    rw [hs]
    refine iff_of_false ?_ fun h => h rfl
    rintro ⟨pre, hpre⟩
    -- such a suffix would put a third backslash in the place of the blank
    have happend : (pre ++ ['\\']) ++ ("\\\\".toList ++ s) =
        (cells ++ [' ']) ++ ("\\\\".toList ++ s) := by
      rw [← hpre, List.append_assoc]
      rfl
    have hlast := (List.append_inj' (List.append_cancel_right happend) rfl).2
    exact absurd hlast (by decide)
  · next hs =>
    refine iff_of_true (List.suffix_append ..) fun h => ?_
    obtain ⟨s, hsuffix⟩ := List.head?_eq_some_iff.1 h
    exact hs s hsuffix

end RowStyle

namespace Output

open SuffixedRow

/-- A TABULAR directive above old rows and their end marker rewrites exactly these lines. There is
one new row for every row of the result, with what is made of the suffix of the old row at its
place, and this is the suffix itself just if it does not begin with a backslash. Further new rows
have no suffix, and surplus old rows are dropped. -/
theorem weave_tabular_suffixes (o : Output) (d : Directive) (t : ResultTable) (r : Reformat)
    (above below : List Text) (old : List SuffixedRow) (marker : Text)
    (hplain : ∀ row ∈ old, row.IsPlain)
    (hold : ∀ row ∈ old, o.comments.isComment row.line = false)
    (hmarker : o.comments.isEndOf .tabular marker = true) :
    let lines := old.map SuffixedRow.line ++ marker :: below
    let new := keeping old (RowStyle.tabular.render t r)
    ∃ splice, o.weave d (.rows .tabular t r) lines = .ok (splice, o) ∧
      splice.apply ⟨above ++ lines⟩ above.length d.indent =
        (⟨above ++ (new ++ [o.comments.endMarker .tabular d.body]).map
          (Document.indented d.indent) ++ below⟩, above.length + t.rows.length + 1) ∧
      (∀ (i : Nat) (row : SuffixedRow) (text : Text), old[i]? = some row → new[i]? = some text →
        ("\\\\".toList ++ row.suffix <:+ text ↔ row.suffix.head? ≠ some '\\')) ∧
      ∀ i, old.length ≤ i → new[i]? = (RowStyle.tabular.render t r)[i]? := by
  intro lines new
  have hcomments : ∀ line ∈ old.map SuffixedRow.line, o.comments.isComment line = false := by
    intro line hline
    obtain ⟨row, hrow, rfl⟩ := List.mem_map.1 hline
    exact hold row hrow
  have hsize : o.comments.blockSize? .tabular lines = some (old.map SuffixedRow.line).length :=
    CommentStyle.blockSize?_marked hcomments hmarker below
  have hsplice : RowStyle.tabular.splice o.comments d.body lines t r =
      ⟨(old.map SuffixedRow.line).length + 1, new ++ [o.comments.endMarker .tabular d.body]⟩ := by
    have htake : lines.take (old.map SuffixedRow.line).length = old.map SuffixedRow.line :=
      List.take_left
    simp only [RowStyle.splice, RowStyle.keyword, hsize, Option.getD_some, htake,
      RowStyle.carryOver_lines hplain, CommentStyle.closedBlock]
    rfl
  refine ⟨_, rfl, ?_, fun i row text hrow hline => RowStyle.suffix_keeping_iff hrow hline, ?_⟩
  · rw [hsplice]
    have hlines : lines = (old.map SuffixedRow.line ++ [marker]) ++ below := by simp [lines]
    have hlength : new.length = t.rows.length := by
      simp [new, keeping, RowStyle.render, RowStyle.cells]
    rw [hlines, Splice.apply_append (by simp)]
    simp only [Splice.written, List.length_append, hlength, List.length_singleton, Nat.add_assoc]
  · intro i hi
    simp only [new, keeping, List.getElem?_mapIdx, List.getElem?_eq_none hi, Option.map_none,
      Option.getD_none, List.append_nil, Option.map_id_fun', id_eq]

/-- The line below a header stays where it is when a table grows. -/
theorem weave_tabular_suffixes_hline :
    let d : Directive := ⟨.tabular, "TABULAR SELECT 1".toList, "SELECT 1".toList, 0, 1, 0⟩
    let t : ResultTable := ⟨"SELECT 1".toList, ["c".toList, "n".toList],
      [[some "c".toList, some "n".toList], [some "x".toList, some "10".toList],
        [some "y".toList, none]]⟩
    let lines := ["c & n \\\\ \\hline".toList, "x & 9 \\\\".toList, "% END TABULAR SELECT".toList]
    ∃ splice, latex.weave d (.rows .tabular t (.ofTable [] t)) lines = .ok (splice, latex) ∧
      splice.apply ⟨"% TABULAR SELECT 1".toList :: lines⟩ 1 0 =
        (⟨["% TABULAR SELECT 1".toList, "c &  n \\\\ \\hline".toList, "x & 10 \\\\".toList,
          "y &    \\\\".toList, "% END TABULAR SELECT 1".toList]⟩, 5) := by
  intro d t lines
  have hplain : ∀ row ∈ ([⟨"c & n ".toList, " \\hline".toList⟩, ⟨"x & 9 ".toList, []⟩] :
      List SuffixedRow), row.IsPlain := by
    intro row hrow
    simp only [List.mem_cons, List.not_mem_nil, or_false] at hrow
    rcases hrow with rfl | rfl
    · exact ⟨by decide, by decide, by decide +kernel⟩
    · exact ⟨by decide, by decide, by decide +kernel⟩
  obtain ⟨splice, hweave, happly, -⟩ := weave_tabular_suffixes latex d t (.ofTable [] t)
    ["% TABULAR SELECT 1".toList] [] _ "% END TABULAR SELECT".toList hplain (by decide +kernel)
    (by decide +kernel)
  refine ⟨splice, hweave, happly.trans ?_⟩
  decide +kernel

end Output

/-- A suffix that begins with a backslash directly behind its terminator loses it. -/
theorem Run.suffix_broken_behind_terminator :
    let input : Document := ⟨["% TABULAR SELECT 1".toList, "a \\\\\\hline".toList,
      "% END TABULAR SELECT 1".toList]⟩
    let s := Rehearsal.session [.result ["c".toList] [[some "b".toList]] none]
    let run := process Rehearsal.backend (Importer.resultLines Rehearsal.backend) {} .latex
      "doc".toList input s
    run.1.failure.isNone = true ∧
      run.1.position.document.lines = ["% TABULAR SELECT 1".toList, "b \\\\hline".toList,
        "% END TABULAR SELECT 1".toList] ∧
      ¬ "\\\\\\hline".toList <:+ "b \\\\hline".toList := by
  intro input s run
  exact ⟨by decide +kernel, by decide +kernel, by decide⟩

end QueryWeave
