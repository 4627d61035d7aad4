import QueryWeave.Proofs.Characters
import QueryWeave.Proofs.Splicing

/-!
# LaTeX lines recognised again

Plots and legends are cut around their values: `Fragment.plot?` and `Fragment.legend?` keep what the
author wrote before and after. A line that is written from what was kept, with other values, is cut
at the same places, as long as the values have no brace in a plot and no newline in a legend. That
is the property of the two *greedy* scans, which look for the last opening of coordinates and for
the last closing of a legend.

Main statements: `Fragment.plot?_plotLine` and `Fragment.legend?_legendLine`.
-/

namespace QueryWeave

open Text

namespace Fragment

/-! ## Coordinates -/

/-- What is kept of a plot: the opening of its coordinates is the last one that is closed. -/
structure IsPlotWrap (w : Wrap) : Prop where
  head : ∃ pre, '\n' ∉ pre ∧ w.head = plotWord ++ (pre ++ coordinatesWord)
  tail : ∃ t, '\n' ∉ t ∧ w.tail = '}' :: ';' :: t
  last : coordinates? w.tail = none

/-- Text of one line before coordinates belongs to what stands before them. -/
theorem coordinates?_append {pre s : Text} {w : Wrap} (hpre : '\n' ∉ pre)
    (h : coordinates? s = some w) : coordinates? (pre ++ s) = some ⟨pre ++ w.head, w.tail⟩ := by
  induction pre with
  | nil => exact h
  | cons c pre ih =>
    simp only [List.mem_cons, not_or] at hpre
    obtain ⟨hc, hpre⟩ := hpre
    simp only [List.cons_append, coordinates?, Ne.symm hc, if_false, ih hpre]

/-- A line without coordinates has none at its end. -/
theorem coordinates?_eq_none_of_append (pre : Text) {s : Text} (hpre : '\n' ∉ pre)
    (h : coordinates? (pre ++ s) = none) : coordinates? s = none := by
  cases hs : coordinates? s with
  | none => rfl
  | some w =>
    rw [coordinates?_append hpre hs] at h
    cases h

/-- What follows the coordinates is their end and the rest of the line. -/
private theorem closing?_eq_some {s tail : Text} (h : closing? s = some tail) :
    ∃ inside t, s = inside ++ tail ∧ '\n' ∉ t ∧ tail = '}' :: ';' :: t := by
  cases s with
  | nil => cases h
  | cons c r =>
    simp only [closing?] at h
    split at h
    · cases h
    · split at h
      · next t hdrop =>
        split at h
        · next hline =>
          cases h
          -- the coordinates go up to the first closing brace after their first character
          refine ⟨c :: r.takeWhile (· ≠ '}'), t, ?_, isOneLine_iff.1 hline, rfl⟩
          have hsplit := List.takeWhile_append_dropWhile (p := fun c => decide (c ≠ '}')) (l := r)
          rw [hdrop] at hsplit
          rw [List.cons_append, hsplit]
        · cases h
      · cases h

/-- Coordinates in a line are cut at their last opening. -/
private theorem coordinates?_eq_some {s : Text} {w : Wrap} (hs : '\n' ∉ s)
    (h : coordinates? s = some w) :
    ∃ pre, '\n' ∉ pre ∧ w.head = pre ++ coordinatesWord ∧
      (∃ t, '\n' ∉ t ∧ w.tail = '}' :: ';' :: t) ∧ coordinates? w.tail = none := by
  induction s generalizing w with
  | nil => cases h
  | cons c r ih =>
    simp only [List.mem_cons, not_or] at hs
    obtain ⟨hc, hr⟩ := hs
    simp only [coordinates?, Ne.symm hc, if_false] at h
    split at h
    · next w' hw' =>
      -- a later opening is closed, and comes before an opening here
      cases h
      obtain ⟨pre, hpre, hhead, htail, hlast⟩ := ih hr hw'
      refine ⟨c :: pre, by simp [hc, hpre], ?_, htail, hlast⟩
      rw [hhead, List.cons_append]
    · next hnone =>
      -- no later opening is closed, so this is the last one
      split at h
      · next tail htail =>
        cases h
        obtain ⟨inner, hafter, hclosing⟩ := Option.bind_eq_some_iff.1 htail
        obtain ⟨inside, t, hinner, ht, rfl⟩ := closing?_eq_some hclosing
        have hword : c :: r = (coordinatesWord ++ inside) ++ '}' :: ';' :: t := by
          rw [after?_eq_some_iff.1 hafter, hinner, List.append_assoc]
        refine ⟨[], List.not_mem_nil, rfl, ⟨t, ht, rfl⟩, ?_⟩
        obtain ⟨d, word, hd⟩ : ∃ d word, coordinatesWord ++ inside = d :: word :=
          ⟨'c', _, rfl⟩
        rw [hd, List.cons_append, List.cons.injEq] at hword
        apply coordinates?_eq_none_of_append word _ (hword.2 ▸ hnone)
        intro hmem
        exact hr (hword.2 ▸ List.mem_append_left _ hmem)
      · cases h

/-- What follows the coordinates is the end of the line. -/
private theorem coordinates?_suffix {s : Text} {w : Wrap} (h : coordinates? s = some w) :
    w.tail <:+ s := by
  induction s generalizing w with
  | nil => cases h
  | cons c r ih =>
    simp only [coordinates?] at h
    split at h
    · next w' hw' =>
      cases h
      split at hw'
      · cases hw'
      · exact (ih hw').trans (List.suffix_cons ..)
    · split at h
      · next tail htail =>
        cases h
        obtain ⟨inner, hafter, hclosing⟩ := Option.bind_eq_some_iff.1 htail
        obtain ⟨inside, t, hinner, -, -⟩ := closing?_eq_some hclosing
        rw [after?_eq_some_iff.1 hafter, hinner]
        exact (List.suffix_append ..).trans (List.suffix_append ..)
      · cases h

/-- The opening of coordinates does not begin before a closing brace without an opening one. -/
private theorem after?_coordinatesWord_eq_none {u v : Text} (hu : NoBrace u) :
    after? coordinatesWord (u ++ '}' :: v) = none := by
  cases h : after? coordinatesWord (u ++ '}' :: v) with
  | none => rfl
  | some r =>
    have heq := after?_eq_some_iff.1 h
    have hbrace : '\x7b' ∈ coordinatesWord := by decide
    rcases List.append_eq_append_iff.1 heq with ⟨m, hword, hm⟩ | ⟨m, hu', -⟩
    · cases m with
      | nil =>
        -- the word would be the text itself, which has no brace
        rw [hword, List.append_nil] at hbrace
        exact absurd rfl (hu _ hbrace).1
      | cons d m =>
        -- the word would reach over the closing brace, which it does not have
        have hd : '}' = d := (List.cons.inj hm).1
        have hmem : '}' ∈ coordinatesWord := by
          rw [hword, hd]
          exact List.mem_append_right _ (List.mem_cons_self ..)
        exact absurd hmem (by decide)
    · exact absurd rfl (hu _ (hu' ▸ List.mem_append_left _ hbrace)).1

/-- Text without braces before a closing brace opens no coordinates that are closed. -/
private theorem coordinates?_noBrace {u v : Text} (hu : NoBrace u)
    (hv : coordinates? ('}' :: v) = none) : coordinates? (u ++ '}' :: v) = none := by
  induction u with
  | nil => exact hv
  | cons c u ih =>
    -- neither here nor later
    have hnone := ih fun d hd => hu d (List.mem_cons_of_mem _ hd)
    have hafter := after?_coordinatesWord_eq_none (v := v) hu
    rw [List.cons_append] at hafter
    simp only [List.cons_append, coordinates?, hnone, hafter, ite_self, Option.bind_none]

/-- Where the first character of the word does not occur, no coordinates begin. -/
private theorem coordinates?_of_not_mem {x s : Text} (hx : 'c' ∉ x) (hs : coordinates? s = none) :
    coordinates? (x ++ s) = none := by
  induction x with
  | nil => exact hs
  | cons c x ih =>
    simp only [List.mem_cons, not_or] at hx
    have hafter : after? coordinatesWord (c :: (x ++ s)) = none := by
      have hcons : coordinatesWord = 'c' :: "oordinates \x7b".toList := rfl
      rw [hcons, after?, if_neg hx.1]
    simp only [List.cons_append, coordinates?, ih hx.2, hafter, ite_self, Option.bind_none]

/-- Text without braces is closed by the next closing brace. -/
private theorem closing?_append {u t : Text} (hu : NoBrace u) (hne : u ≠ []) (ht : '\n' ∉ t) :
    closing? (u ++ '}' :: ';' :: t) = some ('}' :: ';' :: t) := by
  cases u with
  | nil => exact absurd rfl hne
  | cons c u =>
    have hrest : ∀ d ∈ u, decide (d ≠ '}') = true := fun d hd =>
      decide_eq_true (hu d (List.mem_cons_of_mem _ hd)).2
    simp only [List.cons_append, closing?]
    rw [if_neg (hu c (List.mem_cons_self ..)).2, List.dropWhile_append_of_pos hrest,
      List.dropWhile_cons_of_neg (by decide)]
    simp only [isOneLine_iff.2 ht, if_true]

/-! ## Plots -/

@[simp] theorem plot?_indented (n : Nat) (line : Text) :
    plot? (Document.indented n line) = plot? line := by
  simp only [plot?, dropBlanks_indented]

/-- What is kept of a plot in one line. -/
theorem isPlotWrap_of_plot? {line : Text} {w : Wrap} (hline : '\n' ∉ line)
    (h : plot? line = some w) : IsPlotWrap w := by
  simp only [plot?] at h
  split at h
  · next w' hw' =>
    cases h
    obtain ⟨s, hafter, hcoordinates⟩ := Option.bind_eq_some_iff.1 hw'
    have hs : '\n' ∉ s := by
      intro hmem
      apply hline
      apply (List.dropWhile_suffix isBlank).subset
      have hdrop : line.dropWhile isBlank = plotWord ++ s := after?_eq_some_iff.1 hafter
      rw [hdrop]
      exact List.mem_append_right _ hmem
    obtain ⟨pre, hpre, hhead, htail, hlast⟩ := coordinates?_eq_some hs hcoordinates
    exact ⟨⟨pre, hpre, by rw [hhead]⟩, htail, hlast⟩
  · cases h

theorem tail_suffix_of_plot? {line : Text} {w : Wrap} (h : plot? line = some w) :
    w.tail <:+ line := by
  simp only [plot?] at h
  split at h
  · next w' hw' =>
    cases h
    obtain ⟨s, hafter, hcoordinates⟩ := Option.bind_eq_some_iff.1 hw'
    have hline : dropBlanks line = plotWord ++ s := after?_eq_some_iff.1 hafter
    have hs : s <:+ dropBlanks line := hline ▸ List.suffix_append ..
    exact ((coordinates?_suffix hcoordinates).trans hs).trans (List.dropWhile_suffix _)
  · cases h

/-- A new plot can be recognised. -/
theorem isPlotWrap_newPlot : IsPlotWrap Latex.newPlot where
  head := ⟨[' '], by decide, rfl⟩
  tail := ⟨[], List.not_mem_nil, rfl⟩
  last := by decide

/-- A line with other text between the coordinate braces is cut where the old one was. -/
theorem plot?_wrapped {w : Wrap} (hw : IsPlotWrap w) {inside : Text} (hi : NoBrace inside)
    (hne : inside ≠ []) : plot? (w.head ++ inside ++ w.tail) = some w := by
  obtain ⟨pre, hpre, hhead⟩ := hw.head
  obtain ⟨t, ht, htail⟩ := hw.tail
  have hclosing : closing? (inside ++ w.tail) = some w.tail := by
    rw [htail]
    exact closing?_append hi hne ht
  -- the opening of the coordinates is the last one that is closed: there is none after it
  have hlater : coordinates? ("oordinates \x7b".toList ++ (inside ++ w.tail)) = none := by
    apply coordinates?_of_not_mem (by decide)
    have hlast := hw.last
    rw [htail] at hlast ⊢
    exact coordinates?_noBrace hi hlast
  -- it is closed where the old coordinates were
  have hhere : coordinates? (coordinatesWord ++ (inside ++ w.tail)) =
      some ⟨coordinatesWord, w.tail⟩ := by
    have hcons : coordinatesWord = 'c' :: "oordinates \x7b".toList := rfl
    have hafter := after?_append coordinatesWord (inside ++ w.tail)
    rw [hcons, List.cons_append] at hafter
    rw [hcons, List.cons_append]
    simp only [coordinates?, hlater, ite_self]
    rw [hcons, hafter]
    simp only [Option.bind_some, hclosing]
  have hline : dropBlanks (w.head ++ inside ++ w.tail) =
      plotWord ++ (pre ++ (coordinatesWord ++ (inside ++ w.tail))) := by
    simp only [hhead, List.append_assoc]
    rfl
  simp only [plot?, hline, after?_append, Option.bind_some, coordinates?_append hpre hhere]
  rw [← hhead]

/-- A line with new coordinates is cut where the old one was. -/
theorem plot?_plotLine {w : Wrap} (hw : IsPlotWrap w) {coordinates : Text}
    (hc : NoBrace coordinates) : plot? (Latex.plotLine w coordinates) = some w := by
  -- the blank in front of the closing brace belongs to the coordinates
  have hline : Latex.plotLine w coordinates = w.head ++ (coordinates ++ [' ']) ++ w.tail := by
    simp [Latex.plotLine]
  rw [hline]
  exact plot?_wrapped hw (hc.append (by decide)) (by simp)

/-! ## Legends -/

/-- What is kept of a legend: its closing is the last one of the line. -/
structure IsLegendWrap (w : Wrap) : Prop where
  head : w.head = legendWord
  line : '\n' ∉ w.tail
  last : lastClosing? w.tail = some w.tail

/-- The last closing is found behind any text. -/
private theorem lastClosing?_append {s t : Text} (pre : Text) (h : lastClosing? s = some t) :
    lastClosing? (pre ++ s) = some t := by
  induction pre with
  | nil => exact h
  | cons c pre ih => simp only [List.cons_append, lastClosing?, ih]

/-- The last closing is the last one of the text that it begins. -/
private theorem lastClosing?_eq_some {s t : Text} (h : lastClosing? s = some t) :
    t <:+ s ∧ lastClosing? t = some t := by
  induction s with
  | nil => cases h
  | cons c r ih =>
    have hwhole := h
    simp only [lastClosing?] at h
    split at h
    · cases h
      next hr =>
      obtain ⟨hsuffix, hlast⟩ := ih hr
      exact ⟨hsuffix.trans (List.suffix_cons ..), hlast⟩
    · split at h
      · cases h
        exact ⟨List.suffix_rfl, hwhole⟩
      · cases h

@[simp] theorem legend?_indented (n : Nat) (line : Text) :
    legend? (Document.indented n line) = legend? line := by
  simp only [legend?, dropBlanks_indented]

theorem isLegendWrap_of_legend? {line : Text} {w : Wrap} (h : legend? line = some w) :
    IsLegendWrap w := by
  simp only [legend?] at h
  split at h
  · next r _ =>
    split at h
    · next hr =>
      obtain ⟨tail, htail, rfl⟩ := Option.map_eq_some_iff.1 h
      obtain ⟨hsuffix, hlast⟩ := lastClosing?_eq_some htail
      exact ⟨rfl, fun hmem => isOneLine_iff.1 hr (hsuffix.subset hmem), hlast⟩
    · cases h
  · cases h

theorem tail_suffix_of_legend? {line : Text} {w : Wrap} (h : legend? line = some w) :
    w.tail <:+ line := by
  simp only [legend?] at h
  split at h
  · next r hafter =>
    split at h
    · obtain ⟨tail, htail, rfl⟩ := Option.map_eq_some_iff.1 h
      have hline : dropBlanks line = legendWord ++ r := after?_eq_some_iff.1 hafter
      have hr : r <:+ dropBlanks line := hline ▸ List.suffix_append ..
      exact ((lastClosing?_eq_some htail).1.trans hr).trans (List.dropWhile_suffix _)
    · cases h
  · cases h

/-- A new legend can be recognised. -/
theorem isLegendWrap_newLegend : IsLegendWrap Latex.newLegend where
  head := rfl
  line := by decide
  last := by decide

/-- A line with a new legend is cut where the old one was. -/
theorem legend?_legendLine {w : Wrap} (hw : IsLegendWrap w) {legend : Text}
    (hl : '\n' ∉ legend) : legend? (Latex.legendLine w legend) = some w := by
  have hline : dropBlanks (Latex.legendLine w legend) = legendWord ++ (legend ++ w.tail) := by
    simp only [Latex.legendLine, hw.head, List.append_assoc]
    rfl
  -- the legend may have closings of its own: the one that is kept comes after them
  have hone : isOneLine (legend ++ w.tail) = true := by
    rw [isOneLine_iff, List.mem_append, not_or]
    exact ⟨hl, hw.line⟩
  simp only [legend?, hline, after?_append, hone, if_true, lastClosing?_append legend hw.last,
    Option.map_some]
  rw [← hw.head]

/-! ## Macros -/

@[simp] theorem isMacro_indented (n : Nat) (line : Text) :
    isMacro (Document.indented n line) = isMacro line := by
  simp only [isMacro, dropBlanks_indented]

/-! ## None of these lines is a comment -/

section NoComment

variable {style : CommentStyle} {line : Text}

/-- A line is no comment if a word that begins with another character than the marker stands at its
beginning. -/
theorem isComment_of_after? {c : Char} {word rest : Text}
    (h : after? (c :: word) (dropBlanks line) = some rest) (hc : c ≠ style.marker) :
    style.isComment line = false :=
  CommentStyle.isComment_eq_false (by rw [after?_eq_some_iff.1 h]; rfl) hc

theorem isComment_of_plot? {w : Wrap} (h : plot? line = some w) (hm : '\\' ≠ style.marker) :
    style.isComment line = false := by
  simp only [plot?] at h
  split at h
  · next hw =>
    obtain ⟨s, hafter, -⟩ := Option.bind_eq_some_iff.1 hw
    exact isComment_of_after? hafter hm
  · cases h

theorem isComment_of_legend? {w : Wrap} (h : legend? line = some w) (hm : '\\' ≠ style.marker) :
    style.isComment line = false := by
  simp only [legend?] at h
  split at h
  · next r hafter => exact isComment_of_after? hafter hm
  · cases h

theorem isComment_of_isMacro (h : isMacro line = true) (hm : '\\' ≠ style.marker) :
    style.isComment line = false := by
  obtain ⟨r, hafter⟩ := Option.isSome_iff_exists.1 h
  exact isComment_of_after? hafter hm

end NoComment

end Fragment

end QueryWeave
