import QueryWeave.Proofs.Bystanders
import QueryWeave.Proofs.CellText
import QueryWeave.Proofs.GnuplotWeave

/-!
# Weaving again

The laws of the single changes, put together for whatever a directive has fetched. There are two of
them. Material whose lines can all be recognised is woven into its own lines as the same change
(`Output.weave_again`). Any other material may be woven differently the second time, but never so
that a comment of the document is touched; what it can leave of its own lines are rows of a table
(`Output.exists_rewoven`).
-/

namespace QueryWeave

open Text

/-! ## Material that can be recognised -/

/-- No cell of the rows has a newline, and no rendered row is a comment. -/
def RowStyle.PlainRows (comments : CommentStyle) (style : RowStyle) (t : ResultTable)
    (r : Reformat) : Prop :=
  (∀ row ∈ t.rows, ∀ c ∈ row, '\n' ∉ Cell.text c) ∧
    ∀ line ∈ style.render t r, comments.isComment line = false

instance (comments : CommentStyle) (style : RowStyle) (t : ResultTable) (r : Reformat) :
    Decidable (style.PlainRows comments t r) :=
  inferInstanceAs (Decidable ((∀ row ∈ t.rows, ∀ c ∈ row, '\n' ∉ Cell.text c) ∧
    ∀ line ∈ style.render t r, comments.isComment line = false))

/-- What is asked of the results of a directive in a LaTeX document for a later run to find the
lines that are written for them. -/
def Material.FitsLatex : Material → Prop
  | .nothing => True
  | .box _ => True
  | .rows style t r => style.PlainRows ⟨DocumentKind.latex.marker⟩ t r
  | .points cells => ∀ row ∈ cells, ∀ cell ∈ row, NoBrace cell
  | .curves p => p.series ≠ [] ∧ ∀ s ∈ p.series, Latex.PlainPoints s ∧ '\n' ∉ s.legend
  | .macros ms => ms ≠ []

instance : DecidablePred Material.FitsLatex
  | .nothing => inferInstanceAs (Decidable True)
  | .box _ => inferInstanceAs (Decidable True)
  | .rows style t r => inferInstanceAs (Decidable (style.PlainRows _ t r))
  | .points cells => inferInstanceAs (Decidable (∀ row ∈ cells, ∀ cell ∈ row, NoBrace cell))
  | .curves p => inferInstanceAs (Decidable (p.series ≠ [] ∧
    ∀ s ∈ p.series, Latex.PlainPoints s ∧ '\n' ∉ s.legend))
  | .macros ms => inferInstanceAs (Decidable (ms ≠ []))

/-- What is asked of them in a gnuplot document, where the styling counts that a plot statement
keeps of the lines after its directive. -/
def Material.FitsGnuplot (lines : List Text) : Material → Prop
  | .nothing => True
  | .box _ => True
  | .rows style t r => style.PlainRows ⟨DocumentKind.gnuplot.marker⟩ t r
  | .points _ => ∀ style ∈ (Gnuplot.oldStatement lines).1, Gnuplot.Readable style
  | .curves p =>
    p.series ≠ [] ∧ ∀ style ∈ (Gnuplot.oldStatement lines).1, Gnuplot.Readable style
  | .macros ms => ms ≠ [] ∧ ∀ m ∈ ms, '\n' ∉ m.value

instance (lines : List Text) : DecidablePred (Material.FitsGnuplot lines)
  | .nothing => inferInstanceAs (Decidable True)
  | .box _ => inferInstanceAs (Decidable True)
  | .rows style t r => inferInstanceAs (Decidable (style.PlainRows _ t r))
  | .points _ => inferInstanceAs (Decidable (∀ style ∈ (Gnuplot.oldStatement lines).1,
    Gnuplot.Readable style))
  | .curves p => inferInstanceAs (Decidable (p.series ≠ [] ∧
    ∀ style ∈ (Gnuplot.oldStatement lines).1, Gnuplot.Readable style))
  | .macros ms => inferInstanceAs (Decidable (ms ≠ [] ∧ ∀ m ∈ ms, '\n' ∉ m.value))

/-- What is asked of them in a document of any kind. -/
def Material.Fits : Output → List Text → Material → Prop
  | .latex, _, m => m.FitsLatex
  | .gnuplot _, lines, m => m.FitsGnuplot lines

/-- Rows that fit are plain in the document that they are written into. -/
theorem Material.Fits.plainRows {o : Output} {lines : List Text} {style : RowStyle}
    {t : ResultTable} {r : Reformat} (h : (Material.rows style t r).Fits o lines) :
    style.PlainRows o.comments t r := by
  cases o with
  | latex => exact h
  | gnuplot f => exact h

/-- No rendered row of the material is a comment. -/
def Material.QuietRows (comments : CommentStyle) : Material → Prop
  | .rows style t r => ∀ line ∈ style.render t r, comments.isComment line = false
  | _ => True

/-- Material that fits has no row that is a comment. -/
theorem Material.Fits.quietRows {o : Output} {lines : List Text} {m : Material}
    (h : m.Fits o lines) : m.QuietRows o.comments := by
  cases m with
  | rows style t r => exact h.plainRows.2
  | nothing | box | points | curves | macros => trivial

/-! ## What comes to stand below a directive -/

/-- The line that comes to stand below the comment of a directive, by a change of the lines `below`
it, does not continue the comment, if it did not stand there before. The lines from the comment on
are `front`. -/
def Splice.Apart (comments : CommentStyle) (front below : List Text) (indent : Nat) (s : Splice) :
    Prop :=
  ∀ first, front.head? = some first →
    ∀ line, (s.written indent ++ below.drop s.removed).head? = some line →
      below.head? = some line ∨ comments.continues first line = false

instance (comments : CommentStyle) (front below : List Text) (indent : Nat) (s : Splice) :
    Decidable (s.Apart comments front below indent) :=
  inferInstanceAs (Decidable (∀ first, front.head? = some first →
    ∀ line, (s.written indent ++ below.drop s.removed).head? = some line →
      below.head? = some line ∨ comments.continues first line = false))

namespace Output

/-- The data file has a name that can stand between quotes. -/
def Quotable : Output → Prop
  | latex => True
  | gnuplot f => f.name ≠ [] ∧ '\'' ∉ f.name

/-! ## Markers -/

/-- The marker of a document is a percent sign or a number sign. -/
theorem ne_marker (o : Output) {c : Char} (hlatex : c ≠ '%') (hgnuplot : c ≠ '#') :
    c ≠ o.comments.marker := by
  cases o with
  | latex => exact hlatex
  | gnuplot f => exact hgnuplot

theorem isWhite_marker (o : Output) : isWhite o.comments.marker = false := by
  cases o with
  | latex => exact (by decide : isWhite '%' = false)
  | gnuplot f => exact (by decide : isWhite '#' = false)

theorem isBlank_marker (o : Output) : isBlank o.comments.marker = false := by
  cases o with
  | latex => rfl
  | gnuplot f => rfl

private theorem isComment_of_mem_box (o : Output) (t : ResultTable) :
    ∀ line ∈ t.box, o.comments.isComment line = false :=
  t.isComment_of_mem_box (o.ne_marker (by decide) (by decide)) (o.ne_marker (by decide) (by decide))

/-- A plot statement removes and writes lines that are no comments. -/
theorem gnuplot_silent (f : DataFile) (sets : List Gnuplot.DataSet) (lines : List Text) :
    (Gnuplot.plotStatement f.name sets lines).Silent (gnuplot f).comments lines :=
  Gnuplot.plotStatement_silent ((gnuplot f).ne_marker (by decide) (by decide))
    ((gnuplot f).ne_marker (by decide) (by decide)) f.name sets lines

private theorem isComment_of_defMacro (f : DataFile) {ms : List Macro} {lines : List Text}
    {change : Splice} (h : Gnuplot.defMacro ms lines = .ok change) :
    ∀ line ∈ change.content, (gnuplot f).comments.isComment line = false := by
  obtain ⟨new, hnew, rfl⟩ := Except.map_eq_ok h
  intro line hline
  obtain ⟨x, -, hx⟩ := Except.exists_of_mem_mapM hnew hline
  have hmarker : (gnuplot f).comments.marker = '#' := rfl
  exact Gnuplot.isComment_of_macroLine (hmarker ▸ by decide) hx

/-! ## Data files -/

variable {o output : Output} {d : Directive} {m : Material} {lines : List Text} {splice : Splice}

/-- What is written into a data file does not change its name. -/
theorem quotable_of_weave (h : o.weave d m lines = .ok (splice, output)) (ho : o.Quotable) :
    output.Quotable := by
  cases m with
  | nothing | box | rows =>
    cases h
    exact ho
  | points cells =>
    cases o with
    | latex =>
      cases h
      trivial
    | gnuplot f =>
      cases h
      simpa only [Quotable, Gnuplot.name_addRows] using ho
  | curves p =>
    cases o with
    | latex =>
      cases h
      trivial
    | gnuplot f =>
      cases h
      have hname : (p.series.foldl Gnuplot.addSeries (f.header d.command)).name = f.name :=
        Gnuplot.name_foldl_addSeries p.series _
      simpa only [Quotable, hname] using ho
  | macros ms =>
    cases o with
    | latex | gnuplot f =>
      obtain ⟨change, -, heq⟩ := Except.map_eq_ok h
      cases heq
      exact ho

/-- Curves have data sets. -/
private theorem dataSets_ne_nil (first : Nat) {series : List Series} (h : series ≠ []) :
    Gnuplot.dataSets first series ≠ [] := by
  intro hnil
  have hlength := congrArg List.length hnil
  simp only [Gnuplot.dataSets, List.length_mapIdx, List.length_nil] at hlength
  exact h (List.length_eq_zero_iff.1 hlength)

/-! ## The same change -/

/-- A change that writes material which fits finds its own lines when it is made again, above any
lines that begin as the ones after the old lines did. -/
theorem weave_again (h : o.weave d m lines = .ok (splice, output)) (hm : m.Fits o lines)
    (ho : o.Quotable) (hlines : ∀ line ∈ lines, '\n' ∉ line)
    (hclause : ∀ style t r, m = .rows style t r → r.clause.IsOneLine) (indent : Nat)
    {others : List Text} (hothers : others.head? = (lines.drop splice.removed).head?) :
    o.weave d m (splice.written indent ++ others) = .ok (splice.again, output) := by
  -- the dialects differ in how they find their lines, so each handler has its own lemma
  cases m with
  | nothing =>
    cases h
    rfl
  | box t =>
    cases h
    simp only [weave, CommentStyle.closedBlock_again (isBlank_marker o) .textTable d.body lines
      (o.isComment_of_mem_box t)]
  | rows style t r =>
    cases h
    obtain ⟨hcells, hcomment⟩ := hm.plainRows
    have hrows := RowStyle.newline_mem_render style (hclause style t r rfl) hcells
    simp only [weave, RowStyle.splice_again (isBlank_marker o) hrows hcomment]
  | points cells =>
    cases o with
    | latex =>
      cases h
      simp only [weave, Latex.plot_again hm hlines]
    | gnuplot f =>
      cases h
      have hagain := Gnuplot.plotStatement_again ho.1 ho.2 [⟨f.nextIndex, none⟩]
        (List.cons_ne_nil _ _) hm indent others
      simp only [weave, Gnuplot.plot, hagain]
  | curves p =>
    cases o with
    | latex =>
      cases h
      have hagain := Latex.multiPlot_again (fun s hs => (hm.2 s hs).1)
        (fun s hs => (hm.2 s hs).2) hlines indent hothers
      simp only [weave, hagain]
    | gnuplot f =>
      cases h
      have hagain := Gnuplot.plotStatement_again ho.1 ho.2 _ (dataSets_ne_nil f.nextIndex hm.1) hm.2
        indent others
      simp only [weave, Gnuplot.multiPlot, hagain]
  | macros ms =>
    cases o with
    | latex =>
      obtain ⟨change, hchange, heq⟩ := Except.map_eq_ok h
      cases heq
      have hagain := Latex.defMacro_again hchange indent hothers
      simp only [weave, hagain]
      rfl
    | gnuplot f =>
      obtain ⟨change, hchange, heq⟩ := Except.map_eq_ok h
      cases heq
      have hagain := Gnuplot.defMacro_again hchange hm.2 indent hothers
      simp only [weave, hagain]
      rfl

/-! ## What stands after the comment of a directive -/

private theorem content_plotStatement_ne_nil (file : Text) {sets : List Gnuplot.DataSet}
    (hsets : sets ≠ []) (lines : List Text) :
    (Gnuplot.plotStatement file sets lines).content ≠ [] := by
  obtain ⟨c, cs, hpairs⟩ := List.exists_cons_of_ne_nil
    (Fragment.paired_ne_nil (Gnuplot.oldStatement lines).1 hsets)
  simp only [Gnuplot.plotStatement, hpairs, Gnuplot.statement]
  exact List.cons_ne_nil _ _

private theorem mapM_ne_nil {f : Macro → Except ShapeFault Text} {ms : List Macro}
    {new : List Text} (hms : ms ≠ []) (hnew : ms.mapM f = .ok new) : new ≠ [] := by
  intro hnil
  have hlength := Except.length_of_mapM hnew
  rw [hnil] at hlength
  exact hms (List.length_eq_zero_iff.1 hlength.symm)

/-- Material that fits writes a line, if it changes anything at all. -/
theorem content_ne_nil (h : o.weave d m lines = .ok (splice, output)) (hm : m.Fits o lines) :
    splice = .none ∨ splice.content ≠ [] := by
  -- a block has its end marker, even if there are no rows
  have block : ∀ (keyword : Keyword) (new : List Text),
      (o.comments.closedBlock keyword d.body lines new).content ≠ [] := fun keyword new =>
    List.append_ne_nil_of_right_ne_nil _ (List.cons_ne_nil _ _)
  cases m with
  | nothing =>
    cases h
    exact .inl rfl
  | box t =>
    cases h
    exact .inr (block _ _)
  | rows style t r =>
    cases h
    exact .inr (block _ _)
  | points cells =>
    cases o with
    | latex =>
      cases h
      right
      unfold Latex.plot
      dsimp only
      split
      · exact List.cons_ne_nil _ _
      · exact List.cons_ne_nil _ _
    | gnuplot f =>
      cases h
      right
      exact content_plotStatement_ne_nil f.name (List.cons_ne_nil _ _) lines
  | curves p =>
    cases o with
    | latex =>
      cases h
      right
      obtain ⟨c, cs, hpairs⟩ := List.exists_cons_of_ne_nil
        (Fragment.paired_ne_nil (Latex.keptCurves lines) hm.1)
      simp only [Latex.multiPlot, hpairs, List.flatMap_cons, Latex.curveLines]
      exact List.cons_ne_nil _ _
    | gnuplot f =>
      cases h
      right
      exact content_plotStatement_ne_nil f.name (dataSets_ne_nil f.nextIndex hm.1) lines
  | macros ms =>
    cases o with
    | latex =>
      obtain ⟨change, hchange, heq⟩ := Except.map_eq_ok h
      obtain ⟨new, hnew, rfl⟩ := Except.map_eq_ok hchange
      cases heq
      exact .inr (mapM_ne_nil hm hnew)
    | gnuplot f =>
      obtain ⟨change, hchange, heq⟩ := Except.map_eq_ok h
      obtain ⟨new, hnew, rfl⟩ := Except.map_eq_ok hchange
      cases heq
      exact .inr (mapM_ne_nil hm.1 hnew)

/-! ## Any change -/

/-- A change that cannot be made cannot be made above other lines either. -/
theorem weave_error {e : ShapeFault} (h : o.weave d m lines = .error e) (others : List Text) :
    o.weave d m others = .error e := by
  -- only a macro can be refused, for its name, and names are checked before any line is read
  cases m with
  | nothing | box | rows => cases h
  | points | curves =>
    cases o with
    | latex | gnuplot f => cases h
  | macros ms =>
    cases o with
    | latex =>
      cases hnew : ms.mapM Latex.macroLine with
      | error e' =>
        simp only [weave, Latex.defMacro, hnew] at h ⊢
        exact h
      | ok new =>
        simp only [weave, Latex.defMacro, hnew] at h
        cases h
    | gnuplot f =>
      cases hnew : ms.mapM Gnuplot.macroLine with
      | error e' =>
        simp only [weave, Gnuplot.defMacro, hnew] at h ⊢
        exact h
      | ok new =>
        simp only [weave, Gnuplot.defMacro, hnew] at h
        cases h

/-- What is written are lines that are no comments, and below them perhaps an end marker, unless a
row of the material is a comment. -/
private theorem content_quiet (h : o.weave d m lines = .ok (splice, output))
    (hm : m.QuietRows o.comments) :
    ∃ new, (∀ line ∈ new, o.comments.isComment line = false) ∧
      (splice.content = new ∨
        ∃ keyword, splice.content = new ++ [o.comments.endMarker keyword d.body]) := by
  cases m with
  | nothing =>
    cases h
    exact ⟨[], fun line hline => absurd hline List.not_mem_nil, .inl rfl⟩
  | box t =>
    cases h
    exact ⟨t.box, o.isComment_of_mem_box t, .inr ⟨_, rfl⟩⟩
  | rows style t r =>
    cases h
    exact ⟨_, RowStyle.isComment_of_mem_carryOver hm, .inr ⟨_, rfl⟩⟩
  | points cells =>
    cases o with
    | latex =>
      cases h
      exact ⟨_, (Latex.plot_silent (by decide) cells lines).content, .inl rfl⟩
    | gnuplot f =>
      cases h
      exact ⟨_, (gnuplot_silent f _ lines).content, .inl rfl⟩
  | curves p =>
    cases o with
    | latex =>
      cases h
      exact ⟨_, (Latex.multiPlot_silent (by decide) p lines).content, .inl rfl⟩
    | gnuplot f =>
      cases h
      exact ⟨_, (gnuplot_silent f _ lines).content, .inl rfl⟩
  | macros ms =>
    cases o with
    | latex =>
      obtain ⟨change, hchange, heq⟩ := Except.map_eq_ok h
      cases heq
      exact ⟨_, (Latex.defMacro_silent (by decide) hchange).content, .inl rfl⟩
    | gnuplot f =>
      obtain ⟨change, hchange, heq⟩ := Except.map_eq_ok h
      cases heq
      exact ⟨_, isComment_of_defMacro f hchange, .inl rfl⟩

/-- The first line that is written continues no comment, unless a row is a comment. -/
theorem continues_written (h : o.weave d m lines = .ok (splice, output))
    (hm : m.QuietRows o.comments) (indent : Nat) (first : Text) {line : Text}
    (hline : (splice.written indent).head? = some line) :
    o.comments.continues first line = false := by
  obtain ⟨new, hnew, hcontent⟩ := content_quiet h hm
  have quiet : ∀ l ∈ new, o.comments.continues first (Document.indented indent l) = false := by
    intro l hl
    apply CommentStyle.continues_eq_false
    rw [CommentStyle.isComment_indented, hnew l hl]
  rcases hcontent with hcontent | ⟨keyword, hcontent⟩
  · rw [Splice.written, hcontent] at hline
    obtain ⟨l, hl, rfl⟩ := List.mem_map.1 (List.mem_of_mem_head? hline)
    exact quiet l hl
  · rw [Splice.written, hcontent] at hline
    obtain ⟨l, hl, rfl⟩ := List.mem_map.1 (List.mem_of_mem_head? hline)
    rcases List.mem_append.1 hl with hl | hl
    · exact quiet l hl
    · cases List.mem_singleton.1 hl
      exact CommentStyle.not_continues_endMarker o.isBlank_marker ..

/-- Lines that are written stay apart from the comment above them, unless a row is a comment. -/
theorem apart_of_quietRows (h : o.weave d m lines = .ok (splice, output))
    (hm : m.QuietRows o.comments) (hwrites : splice = .none ∨ splice.content ≠ [])
    (front : List Text) (indent : Nat) : splice.Apart o.comments front lines indent := by
  intro first _ line hline
  rcases hwrites with rfl | hcontent
  · exact .inl hline
  · right
    obtain ⟨l, ls, hwritten⟩ := List.exists_cons_of_ne_nil
      (mt List.map_eq_nil_iff.1 hcontent : splice.written indent ≠ [])
    rw [hwritten] at hline
    exact continues_written h hm indent first (hwritten ▸ hline)

/-- The change of a directive, made above the lines `written` that it has made before and the lines
`others`: what is removed are some of the written lines and perhaps others that are no comments. -/
structure Rewoven (o : Output) (d : Directive) (m : Material) (output : Output)
    (written others : List Text) (splice : Splice) (left below : List Text) : Prop where
  weave : o.weave d m (written ++ others) = .ok (splice, output)
  drop : (written ++ others).drop splice.removed = left ++ below
  leftover : o.comments.Leftover written left
  skip : o.comments.skip below = o.comments.skip others

namespace Rewoven

variable {written others : List Text} {splice' : Splice}

/-- Nothing is left of lines that are no comments, if no comment is removed with them. -/
private theorem of_silent (hwritten : ∀ line ∈ written, o.comments.isComment line = false)
    (hweave : o.weave d m (written ++ others) = .ok (splice', output))
    (hskip : o.comments.skip ((written ++ others).drop splice'.removed) = o.comments.skip others) :
    ∃ splice' left below, o.Rewoven d m output written others splice' left below :=
  ⟨splice', [], _, hweave, rfl, .nothing (CommentStyle.undirected_of_not_comment hwritten), hskip⟩

private theorem skip_of_silent (hwritten : ∀ line ∈ written, o.comments.isComment line = false)
    (hs : splice'.Silent o.comments (written ++ others)) :
    o.comments.skip ((written ++ others).drop splice'.removed) = o.comments.skip others := by
  rw [CommentStyle.skip_drop hs.removed, CommentStyle.skip_append hwritten]

/-- Of a block, some rows and the marker may be left. -/
private theorem of_block (keyword : Keyword) (new again : List Text) (indent : Nat)
    (hwritten : written = (o.comments.closedBlock keyword d.body lines new).written indent)
    (hweave : o.weave d m (written ++ others) =
      .ok (o.comments.closedBlock keyword d.body (written ++ others) again, output)) :
    ∃ splice' left below, o.Rewoven d m output written others splice' left below := by
  subst hwritten
  obtain ⟨left, hdrop, hleft⟩ := CommentStyle.drop_closedBlock o.isBlank_marker o.isWhite_marker
    (o.ne_marker (by decide) (by decide)).symm keyword d.body indent new others again
  exact ⟨_, left, others, hweave, hdrop, hleft, rfl⟩

end Rewoven

/-- A change of any material can be made again above its own lines. -/
theorem exists_rewoven (h : o.weave d m lines = .ok (splice, output)) (indent : Nat)
    {others : List Text} (hothers : others.head? = (lines.drop splice.removed).head?) :
    ∃ splice' left below,
      o.Rewoven d m output (splice.written indent) others splice' left below := by
  -- lines that are no comments are passed over wherever the second change ends
  have silent : ∀ splice' : Splice, splice.Silent o.comments lines →
      splice'.Silent o.comments (splice.written indent ++ others) →
      o.weave d m (splice.written indent ++ others) = .ok (splice', output) →
      ∃ splice' left below,
        o.Rewoven d m output (splice.written indent) others splice' left below := by
    intro splice' hs hs' hweave
    have hwritten := Splice.isComment_written hs.content indent
    exact Rewoven.of_silent hwritten hweave (Rewoven.skip_of_silent hwritten hs')
  cases m with
  | nothing =>
    cases h
    exact Rewoven.of_silent (fun line hline => absurd hline List.not_mem_nil) rfl rfl
  | box t =>
    cases h
    exact Rewoven.of_block .textTable t.box t.box indent rfl rfl
  | rows style t r =>
    cases h
    exact Rewoven.of_block style.keyword _ _ indent rfl rfl
  | points cells =>
    cases o with
    | latex =>
      cases h
      have hs : ∀ ls, (Latex.plot cells ls).Silent latex.comments ls :=
        Latex.plot_silent (by decide) cells
      exact silent _ (hs _) (hs _) rfl
    | gnuplot f =>
      cases h
      have hs := fun ls => gnuplot_silent f [⟨f.nextIndex, none⟩] ls
      exact silent _ (hs _) (hs _) rfl
  | curves p =>
    cases o with
    | latex =>
      cases h
      have hs : ∀ ls, (Latex.multiPlot p ls).Silent latex.comments ls :=
        Latex.multiPlot_silent (by decide) p
      exact silent _ (hs _) (hs _) rfl
    | gnuplot f =>
      cases h
      have hs := fun ls => gnuplot_silent f (Gnuplot.dataSets f.nextIndex p.series) ls
      exact silent _ (hs _) (hs _) rfl
  | macros ms =>
    cases o with
    | latex =>
      obtain ⟨change, hchange, heq⟩ := Except.map_eq_ok h
      cases heq
      have hs : splice.Silent latex.comments lines := Latex.defMacro_silent (by decide) hchange
      have hagain := Latex.defMacro_again hchange indent hothers
      have hs' : splice.again.Silent latex.comments (splice.written indent ++ others) :=
        Latex.defMacro_silent (by decide) hagain
      apply silent splice.again hs hs'
      simp only [weave, hagain]
      rfl
    | gnuplot f =>
      obtain ⟨change, hchange, heq⟩ := Except.map_eq_ok h
      cases heq
      have hwritten := Splice.isComment_written (isComment_of_defMacro f hchange) indent
      -- old assignments can be comments, but the search does not leave the lines just written
      obtain ⟨n, hn, hwithin⟩ := Gnuplot.defMacro_within hchange indent hothers
      have hweave : (gnuplot f).weave d (.macros ms) (splice.written indent ++ others) =
          .ok (⟨n, splice.content⟩, gnuplot f) := by
        simp only [weave, hwithin]
        rfl
      apply Rewoven.of_silent hwritten hweave
      have hlength : n ≤ (splice.written indent).length := by
        rw [Splice.written, List.length_map]
        exact hn
      rw [List.drop_append_of_le_length hlength]
      exact CommentStyle.skip_append
        (fun line hline => hwritten line (List.mem_of_mem_drop hline)) others

end Output

end QueryWeave
