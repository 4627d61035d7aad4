import Mathlib.Data.List.Forall2
import QueryWeave.Proofs.LatexWeave

/-!
# Curves that keep their style

A LaTeX document shows a curve in one line or in two: its coordinates, and a legend. An author may
style both, by what stands around the coordinates and around the text of the legend. A later run
gives the curves new values and has to leave the style alone, also if there are more or fewer curves
than before, or if a legend was missing.

The old lines are cut by greedy scans. That the cut does not move rests on where these scans stop:
at the last opening of coordinates that is closed, which old coordinates without braces cannot
contain, and at the last closing of a legend, which is never one of its text.

Main statement: `Latex.plots_keep_style`.
-/

namespace QueryWeave

open Text

/-- The document after a change of the lines below others, and the index of the line after the new
ones. -/
def Document.rewritten (change : List Text → Splice) (above below : List Text) (indent : Nat) :
    Document × Nat :=
  (change below).apply ⟨above ++ below⟩ above.length indent

theorem Document.rewritten_append {change : List Text → Splice} {old below new : List Text}
    (h : change (old ++ below) = ⟨old.length, new⟩) (above : List Text) (indent : Nat) :
    rewritten change above (old ++ below) indent =
      (⟨above ++ new.map (indented indent) ++ below⟩, above.length + new.length) := by
  rw [rewritten, h]
  exact Splice.apply_append rfl above below indent

/-! ## Curves in a document -/

/-- A line that consists of a value with something around it, behind blanks. -/
def Wrap.Surrounds (w : Wrap) (IsValue : Text → Prop) (line : Text) : Prop :=
  ∃ blanks value, (∀ c ∈ blanks, isBlank c = true) ∧ IsValue value ∧
    line = blanks ++ (w.head ++ value ++ w.tail)

/-- The lines of a curve. -/
structure WrittenCurve where
  plot : Text
  legend : Option Text
  deriving DecidableEq, Repr

namespace WrittenCurve

open Fragment Latex

/-- The lines in their order. -/
def lines (c : WrittenCurve) : List Text := c.plot :: c.legend.toList

/-- What is kept of the lines of a curve. -/
structure IsCut (c : WrittenCurve) (k : KeptCurve) : Prop where
  plot : plot? c.plot = some k.1
  legend : Option.Rel (fun line w => legend? line = some w) c.legend k.2

/-- The lines consist of values with certain texts around them: coordinates without braces, and a
legend of one line, if there is one. -/
structure IsStyled (c : WrittenCurve) (k : KeptCurve) : Prop where
  plot : k.1.Surrounds (fun coordinates => NoBrace coordinates ∧ coordinates ≠ []) c.plot
  legend : Option.Rel (fun line w => w.Surrounds ('\n' ∉ ·) line) c.legend k.2

/-- The lines of curves stand above other lines as a run that is recognised as a whole and does not
go on in the lines below. -/
structure StandAbove (curves : List WrittenCurve) (old : List KeptCurve) (below : List Text) :
    Prop where
  cut : List.Forall₂ IsCut curves old
  line : ∀ c ∈ curves, '\n' ∉ c.plot
  plot_ends : below.head?.bind plot? = none
  legend_ends : ∀ k, old.getLast? = some k → k.2 = none → below.head?.bind legend? = none

/-- The lines of a new curve below a directive at a column, given what is kept of an old one. -/
def ofSeries (withErrors : Bool) (indent : Nat) (kept : Option KeptCurve) (s : Series) :
    WrittenCurve where
  plot := Document.indented indent
    (plotLine ((kept.map Prod.fst).getD newPlot) (s.points.flatMap (point withErrors)))
  legend := some (Document.indented indent
    (legendLine ((kept.bind Prod.snd).getD newLegend) (legendOf s)))

end WrittenCurve

/-! ## Old curves are read as a whole -/

namespace Fragment

/-- A plot is no legend. -/
theorem legend?_of_plot? {line : Text} {w : Wrap} (h : plot? line = some w) :
    legend? line = none := by
  simp only [plot?] at h
  split at h
  · next w' hw' =>
    obtain ⟨s, hs, -⟩ := Option.bind_eq_some_iff.1 hw'
    -- their first words part at the fifth character
    have hnone : after? legendWord (plotWord ++ s) = none := rfl
    simp only [legend?, after?_eq_some_iff.1 hs, hnone]
  · cases h

/-- Blanks in front of a line make no difference. -/
theorem dropBlanks_append {blanks : Text} (h : ∀ c ∈ blanks, isBlank c = true) (line : Text) :
    dropBlanks (blanks ++ line) = dropBlanks line := List.dropWhile_append_of_pos h

/-- A line of coordinates without braces is cut around them. -/
theorem plot?_of_surrounds {w : Wrap} (hw : IsPlotWrap w) {line : Text}
    (h : w.Surrounds (fun coordinates => NoBrace coordinates ∧ coordinates ≠ []) line) :
    plot? line = some w := by
  obtain ⟨blanks, coordinates, hblanks, ⟨hbrace, hne⟩, rfl⟩ := h
  have hcut := plot?_wrapped hw hbrace hne
  simp only [plot?] at hcut ⊢
  rw [dropBlanks_append hblanks]
  exact hcut

/-- A line of a legend is cut around its text, whatever closings are in it. -/
theorem legend?_of_surrounds {w : Wrap} (hw : IsLegendWrap w) {line : Text}
    (h : w.Surrounds ('\n' ∉ ·) line) : legend? line = some w := by
  obtain ⟨blanks, text, hblanks, htext, rfl⟩ := h
  have hcut := legend?_legendLine hw htext
  simp only [legend?] at hcut ⊢
  rw [dropBlanks_append hblanks]
  exact hcut

end Fragment

namespace Latex

open Fragment WrittenCurve

/-- A plot without a legend below it is a curve of its own. -/
theorem keptCurves_cons {line : Text} {w : Wrap} (hw : plot? line = some w) {rest : List Text}
    (hrest : rest.head?.bind legend? = none) :
    keptCurves (line :: rest) = (w, none) :: keptCurves rest := by
  cases rest with
  | nil => simp [keptCurves, hw]
  | cons second rest =>
    have hsecond : legend? second = none := hrest
    simp [keptCurves, hw, hsecond]

/-- The old curves of a run are recognised, and nothing below them. -/
theorem keptCurves_lines {curves : List WrittenCurve} {old : List KeptCurve} {below : List Text}
    (hcut : List.Forall₂ IsCut curves old) (hplot : below.head?.bind plot? = none)
    (hlegend : ∀ k, old.getLast? = some k → k.2 = none → below.head?.bind legend? = none) :
    keptCurves (curves.flatMap WrittenCurve.lines ++ below) = old := by
  induction hcut with
  | nil => exact keptCurves_eq_nil hplot
  | @cons c k curves old hc hcut ih =>
    have hrest : keptCurves (curves.flatMap WrittenCurve.lines ++ below) = old := by
      apply ih
      intro k' hk'
      apply hlegend
      rw [List.getLast?_cons, hk']
      rfl
    obtain ⟨plot, legend⟩ := c
    obtain ⟨w, kept⟩ := k
    obtain ⟨hw, hl⟩ := hc
    cases hl with
    | some hl =>
      simp only [List.flatMap_cons, WrittenCurve.lines, Option.toList_some, List.cons_append,
        List.nil_append, keptCurves, hw, hl, hrest]
    | none =>
      -- the line below is the plot of the next curve, or it comes after the run
      have hnext : (curves.flatMap WrittenCurve.lines ++ below).head?.bind legend? = none := by
        cases hcut with
        | nil => exact hlegend _ rfl rfl
        | cons hd _ => exact legend?_of_plot? hd.plot
      simp only [List.flatMap_cons, WrittenCurve.lines, Option.toList_none, List.cons_append,
        List.nil_append]
      rw [keptCurves_cons hw hnext, hrest]

/-- Old curves take as many lines as they have. -/
theorem lineCount_eq_length {curves : List WrittenCurve} {old : List KeptCurve}
    (hcut : List.Forall₂ IsCut curves old) :
    lineCount old = (curves.flatMap WrittenCurve.lines).length := by
  induction hcut with
  | nil => rfl
  | @cons c k curves old hc hcut ih =>
    obtain ⟨plot, legend⟩ := c
    obtain ⟨w, kept⟩ := k
    rw [lineCount, ih, List.flatMap_cons, List.length_append]
    cases hc.legend <;> rfl

/-! ## New curves -/

section NewCurves

variable {withErrors : Bool} {indent : Nat} {kept : Option KeptCurve} {s : Series}

theorem lines_ofSeries : (ofSeries withErrors indent kept s).lines =
    (curveLines withErrors s kept).map (Document.indented indent) := by
  cases kept <;> rfl

/-- The lines of a new curve are cut where those of the old one were. -/
theorem isCut_ofSeries (hkept : ∀ k, kept = some k → IsKeptCurve k) (hpoints : PlainPoints s)
    (hlegend : '\n' ∉ s.legend) :
    (ofSeries withErrors indent kept s).IsCut
      ((kept.map Prod.fst).getD newPlot, some ((kept.bind Prod.snd).getD newLegend)) := by
  constructor
  · -- what surrounds the coordinates was cut out of a line, or it is new
    have hwrap : IsPlotWrap ((kept.map Prod.fst).getD newPlot) := by
      cases kept with
      | none => exact isPlotWrap_newPlot
      | some k => exact (hkept k rfl).plot
    simp only [ofSeries, plot?_indented]
    exact plot?_plotLine hwrap (noBrace_points hpoints withErrors)
  · have hwrap : IsLegendWrap ((kept.bind Prod.snd).getD newLegend) := by
      cases hl : kept.bind Prod.snd with
      | none => exact isLegendWrap_newLegend
      | some w =>
        obtain ⟨k, rfl, hw⟩ := Option.bind_eq_some_iff.1 hl
        exact (hkept k rfl).legend w hw
    apply Option.Rel.some
    rw [legend?_indented]
    exact legend?_legendLine hwrap (newline_mem_legendOf hlegend)

end NewCurves

/-- All new curves stand in the place of the old ones. -/
theorem rewritten_multiPlot (p : MultiPlot) (above : List Text) {curves : List WrittenCurve}
    {old : List KeptCurve} {below : List Text} (hcut : List.Forall₂ IsCut curves old)
    (hplot : below.head?.bind plot? = none)
    (hlegend : ∀ k, old.getLast? = some k → k.2 = none → below.head?.bind legend? = none)
    (indent : Nat) :
    Document.rewritten (multiPlot p) above (curves.flatMap WrittenCurve.lines ++ below) indent =
      (⟨above ++ (p.series.mapIdx fun i s => ofSeries p.hasErrors indent old[i]? s).flatMap
        WrittenCurve.lines ++ below⟩, above.length + 2 * p.series.length) := by
  let content := (paired old p.series).flatMap fun c => curveLines p.hasErrors c.1 c.2
  have hchange : multiPlot p (curves.flatMap WrittenCurve.lines ++ below) =
      ⟨(curves.flatMap WrittenCurve.lines).length, content⟩ := by
    rw [multiPlot, keptCurves_lines hcut hplot hlegend, lineCount_eq_length hcut]
  have hwritten : content.map (Document.indented indent) =
      (p.series.mapIdx fun i s => ofSeries p.hasErrors indent old[i]? s).flatMap
        WrittenCurve.lines := by
    rw [← map_paired (fun c => ofSeries p.hasErrors indent c.2 c.1), List.flatMap_map]
    simp only [content, List.map_flatMap, lines_ofSeries]
  have hlength : content.length = 2 * p.series.length := by
    rw [List.length_flatMap]
    show ((paired old p.series).map fun c => 2).sum = _
    rw [List.map_const', List.sum_replicate_nat, ← List.length_map Prod.fst, map_fst_paired,
      Nat.mul_comm]
  rw [Document.rewritten_append hchange, hwritten, hlength]

/-! ## Other values in the same style -/

/-- What is cut out of lines without newlines stands around values. -/
theorem isKeptCurve_of_isCut {curves : List WrittenCurve} {old : List KeptCurve}
    (hcut : List.Forall₂ IsCut curves old) (hline : ∀ c ∈ curves, '\n' ∉ c.plot) :
    ∀ k ∈ old, IsKeptCurve k := by
  induction hcut with
  | nil => simp
  | @cons c k curves old hc hcut ih =>
    have hk : IsKeptCurve k := by
      obtain ⟨plot, legend⟩ := c
      obtain ⟨w, kept⟩ := k
      refine ⟨isPlotWrap_of_plot? (hline _ (List.mem_cons_self ..)) hc.plot, ?_⟩
      rintro l rfl
      cases hc.legend with
      | some hl => exact isLegendWrap_of_legend? hl
    intro k' hk'
    rcases List.mem_cons.1 hk' with rfl | hk'
    · exact hk
    · exact ih (fun d hd => hline d (List.mem_cons_of_mem _ hd)) k' hk'

/-- Lines in a style that was cut out of lines are cut in the same way. -/
theorem isCut_of_isStyled {curves : List WrittenCurve} {old : List KeptCurve}
    (h : List.Forall₂ IsStyled curves old) (hold : ∀ k ∈ old, IsKeptCurve k) :
    List.Forall₂ IsCut curves old := by
  induction h with
  | nil => exact .nil
  | @cons c k curves old hc _ ih =>
    have hk := hold k (List.mem_cons_self ..)
    refine .cons ⟨plot?_of_surrounds hk.plot hc.plot, ?_⟩
      (ih fun k' hk' => hold k' (List.mem_cons_of_mem _ hk'))
    -- the legends, if there are any
    obtain ⟨plot, legend⟩ := c
    obtain ⟨w, kept⟩ := k
    cases hc.legend with
    | none => exact .none
    | some hl => exact .some (legend?_of_surrounds (hk.legend _ rfl) hl)

/-! ## Curves and plots -/

theorem multiPlot_keeps_style (above : List Text) (indent : Nat) (p : MultiPlot)
    (curves : List WrittenCurve) (old : List KeptCurve) (below : List Text)
    (hstand : StandAbove curves old below)
    (hseries : ∀ s ∈ p.series, PlainPoints s ∧ '\n' ∉ s.legend) :
    let new := p.series.mapIdx fun i s => ofSeries p.hasErrors indent old[i]? s
    let change (curves : List WrittenCurve) := Document.rewritten (multiPlot p) above
      (curves.flatMap WrittenCurve.lines ++ below) indent
    change curves = (⟨above ++ new.flatMap WrittenCurve.lines ++ below⟩,
        above.length + 2 * p.series.length) ∧
      (∀ (i : Nat) (c : WrittenCurve), new[i]? = some c → c.IsCut
        ((old[i]?.map Prod.fst).getD newPlot, some ((old[i]?.bind Prod.snd).getD newLegend))) ∧
      ∀ others, List.Forall₂ IsStyled others old → change others = change curves := by
  intro new change
  have hold := isKeptCurve_of_isCut hstand.cut hstand.line
  have hchange : ∀ curves, List.Forall₂ IsCut curves old → change curves =
      (⟨above ++ new.flatMap WrittenCurve.lines ++ below⟩, above.length + 2 * p.series.length) :=
    fun curves hcut =>
      rewritten_multiPlot p above hcut hstand.plot_ends hstand.legend_ends indent
  refine ⟨hchange curves hstand.cut, fun i c hc => ?_, fun others hothers => ?_⟩
  · simp only [new, List.getElem?_mapIdx] at hc
    obtain ⟨s, hs, rfl⟩ := Option.map_eq_some_iff.1 hc
    obtain ⟨hpoints, hlegend⟩ := hseries s (List.mem_of_getElem? hs)
    apply isCut_ofSeries _ hpoints hlegend
    exact fun k hk => hold k (List.mem_of_getElem? hk)
  · -- nothing of the lines but what is cut out of them has gone into the change
    rw [hchange curves hstand.cut, hchange others (isCut_of_isStyled hothers hold)]

theorem plot_keeps_style (above : List Text) (indent : Nat) (rows : List (List Text))
    (hrows : ∀ row ∈ rows, ∀ cell ∈ row, NoBrace cell) :
    let new (w : Wrap) := Document.indented indent (plotLine w (rows.flatMap coordinate))
    let change (lines : List Text) := Document.rewritten (plot rows) above lines indent
    (∀ line w below, '\n' ∉ line → plot? line = some w →
      change (line :: below) = (⟨above ++ new w :: below⟩, above.length + 1) ∧
        plot? (new w) = some w ∧
        ∀ other, w.Surrounds (fun coordinates => NoBrace coordinates ∧ coordinates ≠ []) other →
          change (other :: below) = change (line :: below)) ∧
    ∀ below, below.head?.bind plot? = none →
      change below = (⟨above ++ new newPlot :: below⟩, above.length + 1) ∧
        plot? (new newPlot) = some newPlot := by
  intro new change
  have hcut : ∀ w, IsPlotWrap w → plot? (new w) = some w := fun w hw => by
    rw [plot?_indented]
    exact plot?_plotLine hw (noBrace_coordinates hrows)
  have hchange : ∀ line w below, plot? line = some w →
      change (line :: below) = (⟨above ++ new w :: below⟩, above.length + 1) := by
    intro line w below hw
    have hplot : plot rows ([line] ++ below) = ⟨1, [plotLine w (rows.flatMap coordinate)]⟩ := by
      simp [plot, hw]
    simpa using Document.rewritten_append hplot above indent
  refine ⟨fun line w below hline hw => ?_, fun below hbelow => ⟨?_, ?_⟩⟩
  · have hwrap := isPlotWrap_of_plot? hline hw
    refine ⟨hchange line w below hw, hcut w hwrap, fun other hother => ?_⟩
    rw [hchange line w below hw, hchange other w below (plot?_of_surrounds hwrap hother)]
  · have hplot : plot rows ([] ++ below) = ⟨0, [plotLine newPlot (rows.flatMap coordinate)]⟩ := by
      simp [plot, hbelow]
    simpa using Document.rewritten_append hplot above indent
  · exact hcut newPlot isPlotWrap_newPlot

/-- Curves take the place of a run of old curves, in the order of their series. Each one is cut
around its values as the old one at its place was; further curves, and legends that were missing,
are new. What the old values were makes no difference, as long as coordinates have no brace. The
same is true of a single plot. -/
theorem plots_keep_style (above : List Text) (indent : Nat) :
    (∀ (p : MultiPlot) (curves : List WrittenCurve) (old : List KeptCurve) (below : List Text),
      StandAbove curves old below → (∀ s ∈ p.series, PlainPoints s ∧ '\n' ∉ s.legend) →
      let new := p.series.mapIdx fun i s => ofSeries p.hasErrors indent old[i]? s
      let change (curves : List WrittenCurve) := Document.rewritten (multiPlot p) above
        (curves.flatMap WrittenCurve.lines ++ below) indent
      change curves = (⟨above ++ new.flatMap WrittenCurve.lines ++ below⟩,
          above.length + 2 * p.series.length) ∧
        (∀ (i : Nat) (c : WrittenCurve), new[i]? = some c → c.IsCut
          ((old[i]?.map Prod.fst).getD newPlot, some ((old[i]?.bind Prod.snd).getD newLegend))) ∧
        ∀ others, List.Forall₂ IsStyled others old → change others = change curves) ∧
    ∀ (rows : List (List Text)), (∀ row ∈ rows, ∀ cell ∈ row, NoBrace cell) →
      let new (w : Wrap) := Document.indented indent (plotLine w (rows.flatMap coordinate))
      let change (lines : List Text) := Document.rewritten (plot rows) above lines indent
      (∀ line w below, '\n' ∉ line → plot? line = some w →
        change (line :: below) = (⟨above ++ new w :: below⟩, above.length + 1) ∧
          plot? (new w) = some w ∧
          ∀ other, w.Surrounds (fun coordinates => NoBrace coordinates ∧ coordinates ≠ []) other →
            change (other :: below) = change (line :: below)) ∧
      ∀ below, below.head?.bind plot? = none →
        change below = (⟨above ++ new newPlot :: below⟩, above.length + 1) ∧
          plot? (new newPlot) = some newPlot :=
  ⟨multiPlot_keeps_style above indent, plot_keeps_style above indent⟩

/-- A styled curve and one without a legend, when a third one is added, with two choices of old
values. -/
theorem plots_keep_style_growing :
    let p : MultiPlot := ⟨[⟨"a".toList, true, [⟨['1'], ['2'], none, none⟩]⟩,
      ⟨"b_1".toList, true, [⟨['3'], ['4'], none, none⟩]⟩, ⟨"$c$".toList, false, []⟩], false⟩
    let above := ["% MULTIPLOT(g) SELECT MULTIPLOT, x, y FROM t".toList]
    let below := ["\\end\x7baxis\x7d".toList]
    let curves : List WrittenCurve :=
      [⟨"\\addplot[red] coordinates \x7b (0,0) \x7d; % \x7bfast\x7d;".toList,
        some "\\addlegendentry\x7bold\x7d; % top".toList⟩,
        ⟨"  \\addplot[blue] coordinates \x7b (9,9) \x7d;".toList, none⟩]
    let others : List WrittenCurve :=
      [⟨"\t\\addplot[red] coordinates \x7b?\x7d; % \x7bfast\x7d;".toList,
        some "\\addlegendentry\x7bx\x7d;y\x7d; % top".toList⟩,
        ⟨"\\addplot[blue] coordinates \x7b (1,1) (2,2) \x7d;".toList, none⟩]
    let new := ["\\addplot[red] coordinates \x7b (1,2) \x7d; % \x7bfast\x7d;".toList,
      "\\addlegendentry\x7ba\x7d; % top".toList,
      "\\addplot[blue] coordinates \x7b (3,4) \x7d;".toList,
      "\\addlegendentry\x7bb\\_1\x7d;".toList,
      "\\addplot coordinates \x7b \x7d;".toList, "\\addlegendentry\x7b$c$\x7d;".toList]
    let change (curves : List WrittenCurve) :=
      Document.rewritten (multiPlot p) above (curves.flatMap WrittenCurve.lines ++ below) 0
    change curves = (⟨above ++ new ++ below⟩, 7) ∧ change others = (⟨above ++ new ++ below⟩, 7) ∧
      Document.rewritten (plot [[['5'], ['6']]]) above below 0 =
        (⟨above ++ "\\addplot coordinates \x7b (5,6) \x7d;".toList :: below⟩, 2) := by
  intro p above below curves others new change
  let red : Wrap := ⟨"\\addplot[red] coordinates \x7b".toList, "\x7d; % \x7bfast\x7d;".toList⟩
  let blue : Wrap := ⟨"\\addplot[blue] coordinates \x7b".toList, "\x7d;".toList⟩
  let top : Wrap := ⟨legendWord, "\x7d; % top".toList⟩
  have hcurves : StandAbove curves [(red, some top), (blue, none)] below := {
    cut := .cons ⟨by decide +kernel, .some (by decide +kernel)⟩
      (.cons ⟨by decide +kernel, .none⟩ .nil)
    line := by decide +kernel
    plot_ends := by decide +kernel
    legend_ends := fun _ _ _ => by decide +kernel }
  have hothers : List.Forall₂ IsStyled others [(red, some top), (blue, none)] :=
    .cons ⟨⟨['\t'], ['?'], List.forall_mem_singleton.2 rfl, by decide, by decide +kernel⟩,
        .some ⟨[], "x\x7d;y".toList, List.forall_mem_nil _, by decide, by decide +kernel⟩⟩
      (.cons ⟨⟨[], " (1,1) (2,2) ".toList, List.forall_mem_nil _, by decide, by decide +kernel⟩,
        .none⟩ .nil)
  obtain ⟨hmulti, hplot⟩ := plots_keep_style above 0
  obtain ⟨hchange, -, hsame⟩ := hmulti p curves _ below hcurves (by decide +kernel)
  obtain ⟨hbelow, -⟩ := (hplot [[['5'], ['6']]] (by decide)).2 below (by decide +kernel)
  have hnew : change curves = (⟨above ++ new ++ below⟩, 7) := hchange.trans (by decide +kernel)
  exact ⟨hnew, (hsame others hothers).trans hnew, hbelow.trans (by decide +kernel)⟩

end Latex

end QueryWeave
