import QueryWeave.Proofs.LatexLines
import QueryWeave.Proofs.Traversals

/-!
# LaTeX changes made again

A change reads the old lines after its directive and writes new ones in their place. When it is
made again it finds its own lines: it keeps of them what the first change kept, recognises all of
them and nothing after them, and so writes the same lines in their place.

Main statements: `Latex.plot_again`, `Latex.multiPlot_again`, `Latex.defMacro_again`.
-/

namespace QueryWeave

open Text

/-- The change that finds what this one has written, and writes it again. -/
def Splice.again (s : Splice) : Splice := ⟨s.content.length, s.content⟩

/-- A change of lines that neither removes nor writes a comment. -/
structure Splice.Silent (style : CommentStyle) (lines : List Text) (s : Splice) : Prop where
  removed : ∀ line ∈ lines.take s.removed, style.isComment line = false
  content : ∀ line ∈ s.content, style.isComment line = false

/-- Lines that are no comments are none when they are indented and written. -/
theorem Splice.isComment_written {style : CommentStyle} {s : Splice}
    (h : ∀ line ∈ s.content, style.isComment line = false) (indent : Nat) :
    ∀ line ∈ s.written indent, style.isComment line = false := by
  intro line hline
  obtain ⟨l, hl, rfl⟩ := List.mem_map.1 hline
  rw [CommentStyle.isComment_indented]
  exact h l hl

/-! ## Runs of lines -/

namespace Fragment

variable {α β : Type}

/-- New entries that are paired with what they kept themselves. -/
theorem paired_map_paired (old : List α) (new : List β) (keep : β × Option α → α) :
    paired ((paired old new).map keep) new =
      (paired old new).map fun p => (p.1, some (keep p)) := by
  -- on the new entries: each takes one old entry along, as long as there are any
  induction new generalizing old with
  | nil => rfl
  | cons b bs ih =>
    cases old with
    | nil => simp only [paired, List.map_cons, ih]
    | cons a as => simp only [paired, List.map_cons, ih]

/-- New entries are paired whatever the old ones are. -/
theorem paired_ne_nil (old : List α) {new : List β} (h : new ≠ []) : paired old new ≠ [] := by
  intro hnil
  have hmap := map_fst_paired old new
  rw [hnil] at hmap
  exact h hmap.symm

/-- New entries are paired by their places. -/
theorem map_paired {γ : Type} (f : β × Option α → γ) (old : List α) (new : List β) :
    (paired old new).map f = new.mapIdx fun i b => f (b, old[i]?) := by
  apply List.ext_getElem?
  intro i
  rw [List.getElem?_map, getElem?_paired, List.getElem?_mapIdx, Option.map_map]
  rfl

/-- What is kept of old entries is one of these, or nothing. -/
theorem mem_of_mem_paired {old : List α} {new : List β} {b : β} {kept : Option α}
    (h : (b, kept) ∈ paired old new) : b ∈ new ∧ ∀ a, kept = some a → a ∈ old := by
  induction new generalizing old with
  | nil => cases h
  | cons c cs ih =>
    cases old with
    | nil =>
      rcases List.mem_cons.1 h with heq | h
      · cases heq
        exact ⟨List.mem_cons_self .., fun _ ha => by cases ha⟩
      · exact ⟨List.mem_cons_of_mem _ (ih h).1, (ih h).2⟩
    | cons a as =>
      rcases List.mem_cons.1 h with heq | h
      · cases heq
        refine ⟨List.mem_cons_self .., fun x hx => ?_⟩
        cases hx
        exact List.mem_cons_self ..
      · exact ⟨List.mem_cons_of_mem _ (ih h).1,
          fun x hx => List.mem_cons_of_mem _ ((ih h).2 x hx)⟩

/-- A run of lines of one kind ends before a line of another kind. -/
theorem head?_drop_takeWhile {p : Text → Bool} {lines : List Text} {line : Text}
    (h : (lines.drop (lines.takeWhile p).length).head? = some line) : p line = false := by
  induction lines with
  | nil => simp at h
  | cons l rest ih =>
    cases hl : p l with
    | true =>
      rw [List.takeWhile_cons_of_pos hl] at h
      exact ih h
    | false =>
      rw [List.takeWhile_cons_of_neg (by simp [hl])] at h
      cases h
      exact hl

/-- A run of lines of one kind is found as a whole above a line of another kind. -/
theorem length_takeWhile_append {p : Text → Bool} {lines : List Text}
    (h : ∀ line ∈ lines, p line = true) (next : List Text)
    (hnext : ∀ line, next.head? = some line → p line = false) :
    ((lines ++ next).takeWhile p).length = lines.length := by
  have hnil : next.takeWhile p = [] := by
    cases next with
    | nil => rfl
    | cons line rest => exact List.takeWhile_cons_of_neg (by simp [hnext line rfl])
  rw [List.takeWhile_append_of_pos h, hnil, List.append_nil]

/-- At most it is found as a whole. -/
theorem length_takeWhile_append_le {p : Text → Bool} (lines : List Text) {next : List Text}
    (hnext : ∀ line, next.head? = some line → p line = false) :
    ((lines ++ next).takeWhile p).length ≤ lines.length := by
  induction lines with
  | nil =>
    have hnone : ∀ line ∈ ([] : List Text), p line = true := fun _ hl => absurd hl List.not_mem_nil
    exact Nat.le_of_eq (length_takeWhile_append hnone next hnext)
  | cons line lines ih =>
    rw [List.cons_append, List.takeWhile_cons]
    split
    · exact Nat.succ_le_succ ih
    · exact Nat.zero_le _

end Fragment

namespace Latex

open Fragment

/-! ## One plot -/

/-- Rows without braces give coordinates without braces. -/
theorem noBrace_coordinates {rows : List (List Text)}
    (h : ∀ row ∈ rows, ∀ cell ∈ row, NoBrace cell) : NoBrace (rows.flatMap coordinate) := by
  apply NoBrace.flatMap
  intro row hrow
  have hcells : NoBrace (join [','] (row.map collapse)) := by
    apply NoBrace.join (by decide)
    intro cell hcell
    obtain ⟨raw, hraw, rfl⟩ := List.mem_map.1 hcell
    exact (h row hrow raw hraw).collapse
  exact (NoBrace.append (by decide) hcells).append (by decide)

/-- A plot that is written again finds its own line. -/
theorem plot_again {rows : List (List Text)} {lines : List Text}
    (hrows : ∀ row ∈ rows, ∀ cell ∈ row, NoBrace cell) (hlines : ∀ line ∈ lines, '\n' ∉ line)
    (indent : Nat) (others : List Text) :
    plot rows ((plot rows lines).written indent ++ others) = (plot rows lines).again := by
  have hc := noBrace_coordinates hrows
  -- whatever was kept, it is cut out of the new line as well
  have hagain : ∀ w : Wrap, IsPlotWrap w →
      plot rows (Document.indented indent (plotLine w (rows.flatMap coordinate)) :: others) =
        ⟨1, [plotLine w (rows.flatMap coordinate)]⟩ := by
    intro w hw
    simp only [plot, List.head?_cons, Option.bind_some, plot?_indented, plot?_plotLine hw hc]
  cases hold : lines.head?.bind plot? with
  | none =>
    have hplot : plot rows lines = ⟨0, [plotLine newPlot (rows.flatMap coordinate)]⟩ := by
      simp only [plot, hold]
    rw [hplot]
    exact hagain newPlot isPlotWrap_newPlot
  | some w =>
    have hplot : plot rows lines = ⟨1, [plotLine w (rows.flatMap coordinate)]⟩ := by
      simp only [plot, hold]
    obtain ⟨line, hline, hw⟩ := Option.bind_eq_some_iff.1 hold
    rw [hplot]
    exact hagain w (isPlotWrap_of_plot? (hlines line (List.mem_of_mem_head? hline)) hw)

/-! ## Curves -/

/-- What is kept of a curve was cut around its coordinates and its legend. -/
structure IsKeptCurve (c : KeptCurve) : Prop where
  plot : IsPlotWrap c.1
  legend : ∀ w, c.2 = some w → IsLegendWrap w

/-- What a curve keeps of the lines that it has written. -/
def renewed (kept : Option KeptCurve) : KeptCurve :=
  let (w, legend) := kept.getD (newPlot, none)
  (w, some (legend.getD newLegend))

/-- A curve keeps of its own lines what it has kept before, or what is new. -/
theorem isKeptCurve_renewed {kept : Option KeptCurve} (h : ∀ k, kept = some k → IsKeptCurve k) :
    IsKeptCurve (renewed kept) := by
  cases kept with
  | none =>
    refine ⟨isPlotWrap_newPlot, fun w hw => ?_⟩
    cases hw
    exact isLegendWrap_newLegend
  | some k =>
    have hk := h k rfl
    refine ⟨hk.plot, fun w hw => ?_⟩
    cases hw
    -- a curve without a legend has a new one now
    cases hl : k.2 with
    | none => exact isLegendWrap_newLegend
    | some l => exact hk.legend l hl

/-- What is kept of an old curve was cut out of two of the lines. -/
theorem exists_of_mem_keptCurves {lines : List Text} {c : KeptCurve} (hc : c ∈ keptCurves lines) :
    (∃ line ∈ lines, plot? line = some c.1) ∧
      ∀ w, c.2 = some w → ∃ line ∈ lines, legend? line = some w := by
  fun_induction keptCurves lines with
  | case1 => exact absurd hc List.not_mem_nil
  | case2 line w hw =>
    cases List.mem_singleton.1 hc
    exact ⟨⟨line, List.mem_cons_self .., hw⟩, fun _ h => by cases h⟩
  | case3 line h => exact absurd hc List.not_mem_nil
  | case4 line second rest h => exact absurd hc List.not_mem_nil
  | case5 line second rest w hw legend hlegend ih =>
    rcases List.mem_cons.1 hc with rfl | hc
    · refine ⟨⟨line, List.mem_cons_self .., hw⟩, fun w' h => ?_⟩
      cases h
      exact ⟨second, List.mem_cons_of_mem _ (List.mem_cons_self ..), hlegend⟩
    · obtain ⟨⟨l, hl, hplot⟩, hlegends⟩ := ih hc
      refine ⟨⟨l, List.mem_cons_of_mem _ (List.mem_cons_of_mem _ hl), hplot⟩, fun w' h => ?_⟩
      obtain ⟨l', hl', hlegend'⟩ := hlegends w' h
      exact ⟨l', List.mem_cons_of_mem _ (List.mem_cons_of_mem _ hl'), hlegend'⟩
  | case6 line second rest w hw hlegend ih =>
    rcases List.mem_cons.1 hc with rfl | hc
    · exact ⟨⟨line, List.mem_cons_self .., hw⟩, fun _ h => by cases h⟩
    · obtain ⟨⟨l, hl, hplot⟩, hlegends⟩ := ih hc
      refine ⟨⟨l, List.mem_cons_of_mem _ hl, hplot⟩, fun w' h => ?_⟩
      obtain ⟨l', hl', hlegend'⟩ := hlegends w' h
      exact ⟨l', List.mem_cons_of_mem _ hl', hlegend'⟩

/-- Old curves are cut around their values. -/
theorem isKeptCurve_of_mem {lines : List Text} (hlines : ∀ line ∈ lines, '\n' ∉ line) :
    ∀ c ∈ keptCurves lines, IsKeptCurve c := by
  intro c hc
  obtain ⟨⟨line, hline, hplot⟩, hlegend⟩ := exists_of_mem_keptCurves hc
  refine ⟨isPlotWrap_of_plot? (hlines line hline) hplot, fun w hw => ?_⟩
  obtain ⟨line', -, hlegend'⟩ := hlegend w hw
  exact isLegendWrap_of_legend? hlegend'

/-- Old curves are read up to a line that begins no plot. -/
theorem plot?_after_keptCurves (lines : List Text) :
    (lines.drop (lineCount (keptCurves lines))).head?.bind plot? = none := by
  fun_induction keptCurves lines with
  | case1 => rfl
  | case2 line w hw => rfl
  | case3 line h => simpa [lineCount] using h
  | case4 line second rest h => simpa [lineCount] using h
  | case5 line second rest w hw legend hlegend ih =>
    simp only [lineCount, Option.isSome_some, if_true, Nat.add_comm 2]
    exact ih
  | case6 line second rest w hw hlegend ih =>
    simp only [lineCount, Option.isSome_none, Bool.false_eq_true, if_false, Nat.add_comm 1]
    exact ih

/-- No curves stand above a line that begins no plot. -/
theorem keptCurves_eq_nil {lines : List Text} (h : lines.head?.bind plot? = none) :
    keptCurves lines = [] := by
  cases lines with
  | nil => rfl
  | cons line rest =>
    have hline : plot? line = none := h
    cases rest with
    | nil => simp only [keptCurves, hline]
    | cons second rest => simp only [keptCurves, hline]

/-- Coordinates and error terms of a curve are free of braces. -/
def PlainPoints (s : Series) : Prop :=
  ∀ p ∈ s.points, NoBrace p.x ∧ NoBrace p.y ∧
    (∀ e, p.xError = some e → NoBrace e) ∧ ∀ e, p.yError = some e → NoBrace e

instance (s : Series) : Decidable (PlainPoints s) :=
  inferInstanceAs (Decidable (∀ p ∈ s.points, NoBrace p.x ∧ NoBrace p.y ∧
    (∀ e, p.xError = some e → NoBrace e) ∧ ∀ e, p.yError = some e → NoBrace e))

/-- The points of a curve are free of braces if its values are. -/
theorem noBrace_points {s : Series} (h : PlainPoints s) (withErrors : Bool) :
    NoBrace (s.points.flatMap (point withErrors)) := by
  apply NoBrace.flatMap
  intro p hp
  obtain ⟨hx, hy, hxe, hye⟩ := h p hp
  have herror : ∀ e : Option Text, (∀ t, e = some t → NoBrace t) → NoBrace (errorTerm e) := by
    intro e he
    cases e with
    | none => exact (by decide : NoBrace ['0'])
    | some t => exact he t rfl
  have hcomma : ∀ t : Text, NoBrace t → NoBrace (',' :: t) := fun t ht =>
    NoBrace.append (s := [',']) (by decide) ht
  have hopen : NoBrace " (".toList := by decide
  have hsign : NoBrace ") +- (".toList := by decide
  have hclose : NoBrace [')'] := by decide
  have herrors : NoBrace (if withErrors then
      ") +- (".toList ++ errorTerm p.xError ++ ',' :: errorTerm p.yError else []) := by
    split
    · exact (hsign.append (herror _ hxe)).append (hcomma _ (herror _ hye))
    · decide
  exact (((hopen.append hx).append (hcomma _ hy)).append herrors).append hclose

/-- The markup of a legend in one line is one line. -/
theorem newline_mem_legendOf {s : Series} (h : '\n' ∉ s.legend) : '\n' ∉ legendOf s := by
  unfold legendOf
  split
  · exact fun hmem => h (newline_mem_latexEscape hmem)
  · exact h

/-- Curves that were written are read as what they keep of themselves, down to a line that begins no
plot. -/
theorem keptCurves_written (withErrors : Bool) (indent : Nat) {others : List Text}
    (hothers : others.head?.bind plot? = none) (curves : List (Series × Option KeptCurve))
    (hpoints : ∀ c ∈ curves, PlainPoints c.1) (hlegend : ∀ c ∈ curves, '\n' ∉ c.1.legend)
    (hkept : ∀ c ∈ curves, ∀ k, c.2 = some k → IsKeptCurve k) :
    keptCurves ((curves.flatMap fun (s, kept) => curveLines withErrors s kept).map
      (Document.indented indent) ++ others) = curves.map fun c => renewed c.2 := by
  induction curves with
  | nil => exact keptCurves_eq_nil hothers
  | cons c curves ih =>
    have hrest := ih (fun c hc => hpoints c (List.mem_cons_of_mem _ hc))
      (fun c hc => hlegend c (List.mem_cons_of_mem _ hc))
      (fun c hc => hkept c (List.mem_cons_of_mem _ hc))
    obtain ⟨s, kept⟩ := c
    have hwrap := isKeptCurve_renewed (hkept _ (List.mem_cons_self ..))
    -- the line of the plot and the line of the legend are cut, and both were written
    have hplot : plot? (Document.indented indent
        (plotLine (renewed kept).1 (s.points.flatMap (point withErrors)))) =
          some (renewed kept).1 := by
      rw [plot?_indented]
      exact plot?_plotLine hwrap.plot
        (noBrace_points (hpoints _ (List.mem_cons_self ..)) withErrors)
    have hlegendLine : legend? (Document.indented indent
        (legendLine ((kept.getD (newPlot, none)).2.getD newLegend) (legendOf s))) =
          some ((kept.getD (newPlot, none)).2.getD newLegend) := by
      rw [legend?_indented]
      exact legend?_legendLine (hwrap.legend _ rfl)
        (newline_mem_legendOf (hlegend _ (List.mem_cons_self ..)))
    have hcons : ((s, kept) :: curves).flatMap (fun (s, kept) => curveLines withErrors s kept) =
        plotLine (renewed kept).1 (s.points.flatMap (point withErrors)) ::
        legendLine ((kept.getD (newPlot, none)).2.getD newLegend) (legendOf s) ::
          curves.flatMap fun (s, kept) => curveLines withErrors s kept := rfl
    rw [hcons]
    simp only [List.map_cons, List.cons_append, keptCurves, hplot, hlegendLine, hrest]
    rfl

/-- Curves that are written take two lines each. -/
private theorem lineCount_renewed (withErrors : Bool) (curves : List (Series × Option KeptCurve)) :
    lineCount (curves.map fun c => renewed c.2) =
      (curves.flatMap fun (s, kept) => curveLines withErrors s kept).length := by
  induction curves with
  | nil => rfl
  | cons c curves ih =>
    simp only [List.map_cons, lineCount, ih, List.flatMap_cons, List.length_append]
    rfl

/-- Curves that are written again find their own lines. -/
theorem multiPlot_again {p : MultiPlot} {lines : List Text}
    (hpoints : ∀ s ∈ p.series, PlainPoints s) (hlegend : ∀ s ∈ p.series, '\n' ∉ s.legend)
    (hlines : ∀ line ∈ lines, '\n' ∉ line) (indent : Nat) {others : List Text}
    (hothers : others.head? = (lines.drop (multiPlot p lines).removed).head?) :
    multiPlot p ((multiPlot p lines).written indent ++ others) = (multiPlot p lines).again := by
  -- the lines after the curves are those that the first change left
  have hstop : others.head?.bind plot? = none := by
    rw [hothers]
    exact plot?_after_keptCurves lines
  have hkept := keptCurves_written p.hasErrors indent hstop
    (paired (keptCurves lines) p.series)
    (fun c hc => hpoints _ (mem_of_mem_paired hc).1)
    (fun c hc => hlegend _ (mem_of_mem_paired hc).1)
    (fun c hc k hk => isKeptCurve_of_mem hlines k ((mem_of_mem_paired hc).2 k hk))
  have hwritten : (multiPlot p lines).written indent =
      ((paired (keptCurves lines) p.series).flatMap fun (s, kept) =>
        curveLines p.hasErrors s kept).map (Document.indented indent) := rfl
  rw [multiPlot, hwritten, hkept, lineCount_renewed p.hasErrors]
  simp only [paired_map_paired, List.flatMap_map]
  rfl

/-! ## Macros -/

theorem isMacro_of_macroLine {m : Macro} {line : Text} (h : macroLine m = .ok line) :
    isMacro line = true := by
  obtain ⟨name, -, rfl⟩ := Except.map_eq_ok h
  rfl

/-- Macros that are defined again find their own lines. -/
theorem defMacro_again {ms : List Macro} {lines : List Text} {splice : Splice}
    (h : defMacro ms lines = .ok splice) (indent : Nat) {others : List Text}
    (hothers : others.head? = (lines.drop splice.removed).head?) :
    defMacro ms (splice.written indent ++ others) = .ok splice.again := by
  obtain ⟨new, hnew, rfl⟩ := Except.map_eq_ok h
  have hmacros : ∀ line ∈ new.map (Document.indented indent), isMacro line = true := by
    intro line hline
    obtain ⟨l, hl, rfl⟩ := List.mem_map.1 hline
    obtain ⟨m, -, hm⟩ := Except.exists_of_mem_mapM hnew hl
    rw [isMacro_indented]
    exact isMacro_of_macroLine hm
  have hcount := length_takeWhile_append hmacros others fun line hline =>
    head?_drop_takeWhile (hothers ▸ hline)
  simp only [defMacro, hnew, Except.map, Splice.written, hcount, List.length_map, Splice.again]

/-! ## Comments are neither removed nor written -/

section Silent

variable {style : CommentStyle}

private theorem isComment_plotLine (hm : '\\' ≠ style.marker) {w : Wrap}
    (hw : ∃ pre, w.head = plotWord ++ pre) (coordinates : Text) :
    style.isComment (plotLine w coordinates) = false := by
  obtain ⟨pre, hpre⟩ := hw
  apply CommentStyle.isComment_eq_false (c := '\\') _ hm
  rw [plotLine, hpre]
  rfl

private theorem isComment_legendLine (hm : '\\' ≠ style.marker) {w : Wrap}
    (hw : w.head = legendWord) (legend : Text) :
    style.isComment (legendLine w legend) = false := by
  apply CommentStyle.isComment_eq_false (c := '\\') _ hm
  rw [legendLine, hw]
  rfl

/-- What is kept of a plot begins with its word. -/
private theorem head_of_plot? {line : Text} {w : Wrap} (h : plot? line = some w) :
    ∃ pre, w.head = plotWord ++ pre := by
  simp only [plot?] at h
  split at h
  · cases h
    exact ⟨_, rfl⟩
  · cases h

/-- A plot removes and writes lines that are no comments. -/
theorem plot_silent (hm : '\\' ≠ style.marker) (rows : List (List Text)) (lines : List Text) :
    (plot rows lines).Silent style lines := by
  cases hold : lines.head?.bind plot? with
  | none =>
    have hplot : plot rows lines = ⟨0, [plotLine newPlot (rows.flatMap coordinate)]⟩ := by
      simp only [plot, hold]
    rw [hplot]
    refine ⟨fun _ hl => absurd hl List.not_mem_nil, fun line hl => ?_⟩
    cases List.mem_singleton.1 hl
    exact isComment_plotLine hm ⟨_, rfl⟩ _
  | some w =>
    have hplot : plot rows lines = ⟨1, [plotLine w (rows.flatMap coordinate)]⟩ := by
      simp only [plot, hold]
    obtain ⟨line, hline, hw⟩ := Option.bind_eq_some_iff.1 hold
    rw [hplot]
    refine ⟨fun l hl => ?_, fun l hl => ?_⟩
    · -- the old plot is the first line
      cases lines with
      | nil => cases hline
      | cons first rest =>
        cases hline
        cases List.mem_singleton.1 hl
        exact isComment_of_plot? hw hm
    · cases List.mem_singleton.1 hl
      exact isComment_plotLine hm (head_of_plot? hw) _

private theorem isComment_of_keptCurves (hm : '\\' ≠ style.marker) (lines : List Text) :
    ∀ line ∈ lines.take (lineCount (keptCurves lines)), style.isComment line = false := by
  fun_induction keptCurves lines with
  | case1 => exact fun l hl => absurd hl List.not_mem_nil
  | case2 line w hw =>
    intro l hl
    cases List.mem_singleton.1 hl
    exact isComment_of_plot? hw hm
  | case3 line h => exact fun l hl => absurd hl List.not_mem_nil
  | case4 line second rest h => exact fun l hl => absurd hl List.not_mem_nil
  | case5 line second rest w hw legend hlegend ih =>
    intro l hl
    simp only [lineCount, Option.isSome_some, if_true, Nat.add_comm 2, List.take_succ_cons,
      List.mem_cons] at hl
    rcases hl with rfl | rfl | hl
    · exact isComment_of_plot? hw hm
    · exact isComment_of_legend? hlegend hm
    · exact ih l hl
  | case6 line second rest w hw hlegend ih =>
    intro l hl
    simp only [lineCount, Option.isSome_none, Bool.false_eq_true, if_false, Nat.add_comm 1,
      List.take_succ_cons, List.mem_cons] at hl
    rcases hl with rfl | hl
    · exact isComment_of_plot? hw hm
    · exact ih l hl

/-- What is kept of old curves begins with the words of plots and legends. -/
private theorem head_of_mem_keptCurves (lines : List Text) :
    ∀ c ∈ keptCurves lines, (∃ pre, c.1.head = plotWord ++ pre) ∧
      ∀ w, c.2 = some w → w.head = legendWord := by
  fun_induction keptCurves lines with
  | case1 => exact fun c hc => absurd hc List.not_mem_nil
  | case2 line w hw =>
    intro c hc
    cases List.mem_singleton.1 hc
    exact ⟨head_of_plot? hw, fun _ h => by cases h⟩
  | case3 line h => exact fun c hc => absurd hc List.not_mem_nil
  | case4 line second rest h => exact fun c hc => absurd hc List.not_mem_nil
  | case5 line second rest w hw legend hlegend ih =>
    intro c hc
    rcases List.mem_cons.1 hc with rfl | hc
    · refine ⟨head_of_plot? hw, fun w' h => ?_⟩
      cases h
      exact (isLegendWrap_of_legend? hlegend).head
    · exact ih c hc
  | case6 line second rest w hw hlegend ih =>
    intro c hc
    rcases List.mem_cons.1 hc with rfl | hc
    · exact ⟨head_of_plot? hw, fun _ h => by cases h⟩
    · exact ih c hc

/-- Curves remove and write lines that are no comments. -/
theorem multiPlot_silent (hm : '\\' ≠ style.marker) (p : MultiPlot) (lines : List Text) :
    (multiPlot p lines).Silent style lines where
  removed := isComment_of_keptCurves hm lines
  content := by
    intro line hline
    obtain ⟨⟨s, kept⟩, hc, hl⟩ := List.mem_flatMap.1 hline
    have hwrap : (∃ pre, (kept.getD (newPlot, none)).1.head = plotWord ++ pre) ∧
        ((kept.getD (newPlot, none)).2.getD newLegend).head = legendWord := by
      cases kept with
      | none => exact ⟨⟨_, rfl⟩, rfl⟩
      | some k =>
        obtain ⟨hplot, hlegend⟩ := head_of_mem_keptCurves lines k ((mem_of_mem_paired hc).2 k rfl)
        refine ⟨hplot, ?_⟩
        cases hk : k.2 with
        | none => simp only [Option.getD_some, hk]; rfl
        | some w => simpa only [Option.getD_some, hk] using hlegend w hk
    rcases List.mem_cons.1 hl with rfl | hl
    · exact isComment_plotLine hm hwrap.1 _
    · cases List.mem_singleton.1 hl
      exact isComment_legendLine hm hwrap.2 _

/-- Definitions remove and write lines that are no comments. -/
theorem defMacro_silent (hm : '\\' ≠ style.marker) {ms : List Macro} {lines : List Text}
    {splice : Splice} (h : defMacro ms lines = .ok splice) : splice.Silent style lines := by
  obtain ⟨new, hnew, rfl⟩ := Except.map_eq_ok h
  constructor
  · intro line hline
    have htake : lines.take (lines.takeWhile isMacro).length = lines.takeWhile isMacro :=
      (List.prefix_iff_eq_take.1 (List.takeWhile_prefix isMacro)).symm
    rw [htake] at hline
    exact isComment_of_isMacro (List.all_eq_true.1 List.all_takeWhile line hline) hm
  · intro line hline
    obtain ⟨m, -, hline⟩ := Except.exists_of_mem_mapM hnew hline
    exact isComment_of_isMacro (isMacro_of_macroLine hline) hm

end Silent

end Latex

end QueryWeave
