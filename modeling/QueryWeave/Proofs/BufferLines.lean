import QueryWeave.Proofs.Following
import QueryWeave.Proofs.ForwardPass
import QueryWeave.Proofs.Idempotence
import QueryWeave.Proofs.WrittenLines

/-!
# A buffer of lines

A run counts the lines of its buffer, and the numbers that it reports mean something to a reader of
the written file only if the buffer still is a sequence of lines. The lines of the document that
stay are lines. Of the lines that are written, it depends on the texts that a query has given: a
newline in a cell, a legend or the value of a macro becomes a newline in the buffer, except where
white space is collapsed, and a carriage return can be left at the end of a line. Which texts these
are is said by `Material.InLines`, and nothing else matters.

Main statement: `Run.process_lines_iff`.
-/

namespace QueryWeave

open Text

/-! ## One directive -/

namespace Material

/-- The texts of a material that are written as they are, newlines included. -/
def texts (o : Output) : Material → List Text
  | nothing => []
  | box t => t.columns ++ t.rows.flatMap fun row => (t.fitted row).map Cell.text
  | rows _ t r => (RowStyle.cells t r).flatten
  | points _ => o.dataFile?.toList.map DataFile.name
  | curves p =>
    match o with
    | .latex => p.series.flatMap (Series.texts p.hasErrors)
    | .gnuplot f => p.series.flatMap fun s => [f.name, s.legend]
  | macros ms => ms.map Macro.value

/-- The texts with which lines end that are written for a material above some lines, as far as they
can be any text. -/
def endings (o : Output) (lines : List Text) : Material → List Text
  | nothing | box _ | rows .tabular _ _ => []
  | rows .tabTable t r => (RowStyle.cells t r).filterMap List.getLast?
  | points _ =>
    match o with
    | .latex => []
    | .gnuplot _ => (Gnuplot.lastStyle? lines 1).toList
  | curves p =>
    match o with
    | .latex => []
    | .gnuplot _ => (Gnuplot.lastStyle? lines p.series.length).toList
  | macros ms =>
    match o with
    | .latex => []
    | .gnuplot _ => (ms.map Macro.value).filter isNumber

/-- What is written for a material above some lines does not break them. -/
structure InLines (o : Output) (lines : List Text) (m : Material) : Prop where
  newline : ¬ HasNewline (m.texts o)
  ending : ¬ HasReturn (m.endings o lines)

theorem inLines_iff {o : Output} {lines : List Text} {m : Material} :
    m.InLines o lines ↔ ¬ HasNewline (m.texts o) ∧ ¬ HasReturn (m.endings o lines) :=
  ⟨fun h => ⟨h.newline, h.ending⟩, fun h => ⟨h.1, h.2⟩⟩

instance (o : Output) (lines : List Text) (m : Material) : Decidable (m.InLines o lines) :=
  decidable_of_iff _ inLines_iff.symm

end Material

/-- A block is lines if its new lines are: its end marker is one. -/
theorem CommentStyle.isLine_closedBlock_iff {style : CommentStyle} (hm : style.marker ≠ '\n')
    (keyword : Keyword) {query : Text} (hquery : IsLine query) (lines new : List Text) :
    (∀ line ∈ (style.closedBlock keyword query lines new).content, IsLine line) ↔
      ∀ line ∈ new, IsLine line := by
  have hmarker := isLine_endMarker hm keyword hquery
  rw [closedBlock, List.forall_mem_append, List.forall_mem_singleton]
  exact and_iff_left hmarker

namespace Output

variable {o output : Output} {d : Directive} {m : Material} {lines : List Text} {splice : Splice}

/-- What a directive writes below its comment are lines just if its material says so. -/
theorem isLine_weave_iff (h : o.weave d m lines = .ok (splice, output))
    (hlines : ∀ line ∈ lines, IsLine line) (hbody : IsLine d.body) :
    (∀ line ∈ splice.content, IsLine line) ↔ m.InLines o lines := by
  have hm : o.comments.marker ≠ '\n' := (o.ne_marker (by decide) (by decide)).symm
  rw [Material.inLines_iff]
  cases m with
  | nothing =>
    cases h
    simp [Splice.none, Material.texts, Material.endings]
  | box t =>
    cases h
    rw [CommentStyle.isLine_closedBlock_iff hm _ hbody, forall_isLine_iff,
      ResultTable.hasNewline_box]
    simp only [ResultTable.not_hasReturn_box, Material.texts, Material.endings, hasReturn_nil]
  | rows style t r =>
    cases h
    rw [RowStyle.splice, CommentStyle.isLine_closedBlock_iff hm _ hbody, forall_isLine_iff,
      RowStyle.hasNewline_carryOver, RowStyle.hasNewline_render]
    cases style with
    | tabular =>
      have hold : ∀ line ∈ lines.take ((o.comments.blockSize? RowStyle.tabular.keyword
          lines).getD 0), line.getLast? ≠ some '\r' := fun line hline =>
        (hlines line (List.mem_of_mem_take hline)).ending
      simp only [RowStyle.not_hasReturn_tabular hold, Material.texts, Material.endings,
        hasReturn_nil]
    | tabTable => rw [RowStyle.hasReturn_tabTable, Material.texts, Material.endings]
  | points rows =>
    cases o with
    | latex =>
      cases h
      -- nothing of the rows can break the line
      exact iff_of_true (Latex.isLine_of_mem_plot rows hlines)
        ⟨by simp [Material.texts, dataFile?], by simp [Material.endings]⟩
    | gnuplot f =>
      cases h
      obtain ⟨hnewline, hreturn⟩ :=
        Gnuplot.hasNewline_plotStatement f.name [⟨f.nextIndex, none⟩] lines
      rw [forall_isLine_iff, hnewline, hreturn]
      simp [Material.texts, Material.endings, dataFile?, Gnuplot.DataSet.texts]
  | curves p =>
    cases o with
    | latex =>
      cases h
      obtain ⟨hnewline, hreturn⟩ := Latex.hasNewline_multiPlot p hlines
      rw [forall_isLine_iff, hnewline]
      simp only [hreturn, Material.texts, Material.endings, hasReturn_nil]
    | gnuplot f =>
      cases h
      obtain ⟨hnewline, hreturn⟩ := Gnuplot.hasNewline_plotStatement f.name
        (Gnuplot.dataSets f.nextIndex p.series) lines
      -- an entry of a curve has the name of the data file and the legend
      have htexts : (Gnuplot.dataSets f.nextIndex p.series).map (Gnuplot.DataSet.texts f.name) =
          p.series.map fun s => [f.name, s.legend] := by
        apply List.ext_getElem?
        intro i
        simp only [Gnuplot.dataSets, List.getElem?_map, List.getElem?_mapIdx, Option.map_map]
        rfl
      rw [forall_isLine_iff, hnewline, hreturn, List.flatMap_def, htexts, ← List.flatMap_def,
        Gnuplot.dataSets, List.length_mapIdx, Material.texts, Material.endings]
  | macros ms =>
    cases o with
    | latex =>
      obtain ⟨change, hchange, heq⟩ := Except.map_eq_ok h
      cases heq
      obtain ⟨hnewline, hreturn⟩ := Latex.hasNewline_defMacro hchange
      rw [forall_isLine_iff, hnewline]
      simp only [hreturn, Material.texts, Material.endings, hasReturn_nil]
    | gnuplot f =>
      obtain ⟨change, hchange, heq⟩ := Except.map_eq_ok h
      cases heq
      obtain ⟨hnewline, hreturn⟩ := Gnuplot.hasNewline_defMacro hchange
      rw [forall_isLine_iff, hnewline, hreturn, Material.texts, Material.endings]

end Output

/-- The body of a directive that stands in lines is one line. -/
theorem Position.isLine_body {p q : Position} {d : Directive} (h : p.look = .due d q)
    (hlines : ∀ line ∈ p.rest, IsLine line) : IsLine d.body := by
  refine ⟨newline_mem_body h fun line hline => (hlines line hline).newline, fun hlast => ?_⟩
  obtain ⟨first, more, block, -, -, hcollect, hclass, -⟩ := look_due h
  obtain ⟨-, -, -, -, pre, hbody⟩ := CommentBlock.classify_eq_directive hclass
  -- the text of a comment does not end in white space
  have hend : block.text.getLast? = some '\r' := by
    rw [← hbody, List.getLast?_append, hlast]
    rfl
  exact absurd (CommentStyle.isWhite_of_getLast?_text hcollect hend) (by decide)

/-! ## Runs -/

namespace Run

variable {ω κ : Type} {b : Backend ω κ} {importer : Importer ω κ}

/-- What a run makes of lines are lines just if all changes are. -/
theorem isLine_woven_iff (p : Position) (s : Session ω κ) (hlines : ∀ line ∈ p.rest, IsLine line) :
    (∀ line ∈ woven b importer p s, IsLine line) ↔
      ∀ q d r splice, Writes b importer p s q d r splice →
        ∀ line ∈ splice.content, IsLine line := by
  -- along the run: what an iteration leaves above the next position are old lines and its change
  induction p, s using run_induction b importer with
  | nothing p s hlook =>
    rw [woven_nothing hlook]
    refine iff_of_true (by simp) fun q d r splice hw => absurd hlook hw.look_ne_nothing
  | passed p s q w hlook ih =>
    obtain ⟨first, more, gate, hrest, hq, -⟩ := Position.look_passed hlook
    have hwoven : woven b importer p s = first :: more ++ woven b importer q (s.told w) :=
      woven_advance (.passed hlook) (by rw [hq]; rfl)
    rw [hrest, List.forall_mem_append] at hlines
    have hlater := ih (by rw [hq]; exact hlines.2)
    rw [hwoven, List.forall_mem_append, and_iff_right hlines.1, hlater]
    constructor
    · intro h q' d r splice hw
      exact h q' d r splice (hw.of_passed hlook)
    · intro h q' d r splice hw
      exact h q' d r splice (hw.step (.passed hlook))
  | failed p s q d e t hlook hfail =>
    rw [woven_failed hlook hfail]
    refine iff_of_true hlines fun q' d' r splice hw => ?_
    -- nothing is written where a directive fails
    obtain ⟨splice', output, u, hdone, -⟩ := hw.of_due hlook
    rw [hfail] at hdone
    cases hdone
  | carried p s q d splice output t hlook hdone ih =>
    obtain ⟨first, more, -, hrest, hq, -⟩ := Position.look_due hlook
    have habove : (q.passSplice splice d.indent output).above =
        (first :: more ++ splice.written d.indent).reverse ++ p.above := by
      rw [hq, List.reverse_append, List.append_assoc]
      rfl
    have hwoven := woven_advance (.carried hlook hdone) habove
    rw [hrest, List.forall_mem_append] at hlines
    have hlater := ih fun line hline => hlines.2 line (List.mem_of_mem_drop hline)
    have hindented : (∀ line ∈ splice.written d.indent, IsLine line) ↔
        ∀ line ∈ splice.content, IsLine line := by
      simp only [Splice.written, List.forall_mem_map, isLine_indented_iff]
    rw [hwoven, List.forall_mem_append, List.forall_mem_append, hindented, hlater]
    constructor
    · rintro ⟨⟨-, hhere⟩, hbelow⟩ q' d' r splice' hw
      -- the change is the one made here, or one that is made below
      obtain ⟨splice'', output', u, hdone', hw'⟩ := hw.of_due hlook
      rw [hdone] at hdone'
      cases hdone'
      rcases hw' with ⟨-, -, -, rfl⟩ | hw'
      · exact hhere
      · exact hbelow q' d' r splice' hw'
    · intro h
      exact ⟨⟨hlines.1, h p d q splice (.here hlook hdone)⟩,
        fun q' d' r splice' hw => h q' d' r splice' (hw.step (.carried hlook hdone))⟩

/-- A change consists of lines just if the material it is made of says so. -/
theorem Obtains.isLine_iff {p q r : Position} {s : Session ω κ} {d : Directive} {m : Material}
    {splice : Splice} {output : Output} (h : Obtains b importer p s q d r m)
    (hlines : ∀ line ∈ p.rest, IsLine line)
    (hweave : r.output.weave d m r.rest = .ok (splice, output)) :
    (∀ line ∈ splice.content, IsLine line) ↔ m.InLines r.output r.rest := by
  obtain ⟨n, t, u, hreach, hlook, -⟩ := h
  have hq : ∀ line ∈ q.rest, IsLine line := fun line hline =>
    hlines line (hreach.rest_suffix.subset hline)
  have hr : ∀ line ∈ r.rest, IsLine line := fun line hline =>
    hq line ((Position.rest_of_due hlook).1.subset hline)
  exact Output.isLine_weave_iff hweave hr (Position.isLine_body hlook hq)

/-- A run stands before the same line in the document that it leaves. -/
theorem Reaches.get?_line {n : Nat} {p q : Position} {s t : Session ω κ}
    (h : Reaches b importer n p s q t) :
    (walk b importer p s).1.position.document.get? q.line = q.rest.head? := by
  induction h with
  | @refl p s =>
    have hline : p.line = p.above.reverse.length := (List.length_reverse ..).symm
    rw [walk_document, Document.get?, hline, List.getElem?_append_right (Nat.le_refl _),
      Nat.sub_self, ← List.head?_eq_getElem?]
    -- the first line below a position stays the first
    exact head_woven b importer p s
  | step first _ ih =>
    rw [walk_advance first]
    exact ih

/-! ## Whole documents -/

variable {settings : Settings} {kind : DocumentKind} {name : Text} {input : Document}
  {s : Session ω κ}

/-- A run over lines leaves lines just if the materials that it writes say so. -/
theorem isLine_process_iff (hinput : ∀ line ∈ input.lines, IsLine line) :
    (∀ line ∈ (process b importer settings kind name input s).1.position.document.lines,
        IsLine line) ↔
      ∀ q d r m splice output, Fetches b importer settings kind name input s q d r m →
        r.output.weave d m r.rest = .ok (splice, output) → m.InLines r.output r.rest := by
  cases hopen : Action.startTransaction b s with
  | error e t =>
    -- nothing is fetched then, and the document stays as it is
    rw [position_process_of_refused hopen]
    refine iff_of_true hinput fun q d r m splice output hfetches => ?_
    obtain ⟨t', hopen', -⟩ := hfetches
    rw [hopen] at hopen'
    cases hopen'
  | ok x t =>
    rw [position_process hopen, walk_document]
    refine (isLine_woven_iff (start settings kind name input) t hinput).trans ?_
    constructor
    · rintro h q d r m splice output ⟨t', hopen', hobtains⟩ hweave
      rw [hopen] at hopen'
      cases hopen'
      exact (hobtains.isLine_iff hinput hweave).1 (h q d r splice ⟨m, output, hobtains, hweave⟩)
    · rintro h q d r splice ⟨m, output, hobtains, hweave⟩
      exact (hobtains.isLine_iff hinput hweave).2
        (h q d r m splice output ⟨t, hopen, hobtains⟩ hweave)

/-- A document of lines is a sequence of lines after a run, so that it is read back as it was
written, exactly if no material that was written breaks them. Then the lines that the run has
counted are those of the written text: wherever it stood, the number of its line is the number of
the line there. All this holds whether the run succeeds or not. -/
theorem process_lines_iff (b : Backend ω κ) (importer : Importer ω κ) (settings : Settings)
    (kind : DocumentKind) (name : Text) (input : Document) (s : Session ω κ)
    (hinput : ∀ line ∈ input.lines, IsLine line) :
    let document := (process b importer settings kind name input s).1.position.document
    (Document.ofText document.toText = document ↔ ∀ line ∈ document.lines, IsLine line) ∧
    (Document.ofText document.toText = document ↔
      ∀ q d r m splice output, Fetches b importer settings kind name input s q d r m →
        r.output.weave d m r.rest = .ok (splice, output) → m.InLines r.output r.rest) ∧
    (Document.ofText document.toText = document →
      ∀ n p t u, Action.startTransaction b s = .ok () t →
        Reaches b importer n (start settings kind name input) t p u →
          (Document.ofText document.toText).get? p.line = p.rest.head?) := by
  intro document
  refine ⟨Document.ofText_toText_iff, Document.ofText_toText_iff.trans (isLine_process_iff hinput),
    fun hsame n p t u hopen hreach => ?_⟩
  -- the numbers are those of the buffer, and the text that is read back is the buffer
  have hdocument : document =
      (walk b importer (start settings kind name input) t).1.position.document :=
    congrArg Position.document (position_process hopen)
  rw [hsame, hdocument]
  exact hreach.get?_line

/-- A newline in a cell of a plot is collapsed, and a carriage return inside of a row breaks no
line. -/
theorem process_lines_iff_collapsed :
    let input : Document := ⟨["% PLOT SELECT x, y FROM t".toList,
      "% TABTABLE SELECT c, d FROM u".toList]⟩
    let s := Rehearsal.session [
      .result ["x".toList, "y".toList] [[some "1\n2".toList, some "3".toList]] none,
      .result ["c".toList, "d".toList] [[some "a\r".toList, some "b".toList]] none]
    let document := (process Rehearsal.backend (Importer.resultLines Rehearsal.backend) {} .latex
      "doc".toList input s).1.position.document
    Document.ofText document.toText = document := by
  intro input s document
  have hchecked : ∀ x ∈ fetchedBy Rehearsal.backend (Importer.resultLines Rehearsal.backend) {}
      .latex "doc".toList input s, x.2.2.2.InLines x.2.2.1.output x.2.2.1.rest := by
    decide +kernel
  apply (process_lines_iff Rehearsal.backend (Importer.resultLines Rehearsal.backend) {} .latex
    "doc".toList input s (by decide)).2.1.2
  intro q d r m splice output hfetches _
  exact hchecked _ hfetches.mem_fetchedBy

/-- A newline in a cell of a table is one in the buffer. A warning about the last line calls it the
fourth one; in the written text it is the fifth. -/
theorem line_numbers_shifted_by_cell :
    let input : Document := ⟨["% TABTABLE SELECT 1".toList, "% UNKNOWN".toList]⟩
    let s := Rehearsal.session [.result ["c".toList] [[some "a\nb".toList]] none]
    let run := process Rehearsal.backend (Importer.resultLines Rehearsal.backend) {} .latex
      "doc".toList input s
    let document := run.1.position.document
    run.1.failure.isNone = true ∧
      document.lines = ["% TABTABLE SELECT 1".toList, "a\nb".toList,
        "% END TABTABLE SELECT 1".toList, "% UNKNOWN".toList] ∧
      Document.ofText document.toText ≠ document ∧
      .warned (.unknownKeyword 4 "UNKNOWN".toList) ∈ run.2.transcript ∧
      (Document.ofText document.toText).get? 4 = some "% UNKNOWN".toList := by
  intro input s run document
  have hlines : document.lines = ["% TABTABLE SELECT 1".toList, "a\nb".toList,
      "% END TABTABLE SELECT 1".toList, "% UNKNOWN".toList] := by decide +kernel
  have hdocument : document = ⟨["% TABTABLE SELECT 1".toList, "a\nb".toList,
      "% END TABTABLE SELECT 1".toList, "% UNKNOWN".toList]⟩ := congrArg Document.mk hlines
  refine ⟨by decide +kernel, hlines, ?_, by decide +kernel, ?_⟩
  · rw [hdocument]
    decide +kernel
  · rw [hdocument]
    decide +kernel

end Run

end QueryWeave
