import QueryWeave.Proofs.CurveMerging
import QueryWeave.Proofs.GnuplotWeave

/-!
# Plot statements that keep their stylings

A plot statement of a gnuplot document has a line for each of its data sets, which an author may
style behind the data set and its title. A later run writes a statement for its own data sets in the
place of the old one. The styling of a place stays there, whatever the titles are and whichever
entry is the last one now, which is the only one that does not continue the statement.

Main statement: `Gnuplot.plotStatement_keeps_styles`.
-/

namespace QueryWeave

open Text

namespace Gnuplot

open Fragment

/-! ## Old statements -/

/-- Lines that are read as the entries of a statement above others: an entry goes on in the next
line or is the last one, and where the lines end before a last one, no entry is below. -/
inductive EntriesAbove (below : List Text) : List Text → List PlotEntry → Prop
  | nil : below.head?.bind plotEntry? = none → EntriesAbove below [] []
  | last {line : Text} {e : PlotEntry} :
      plotEntry? line = some e → e.continued = false → EntriesAbove below [line] [e]
  | cons {line : Text} {e : PlotEntry} {lines : List Text} {old : List PlotEntry} :
      plotEntry? line = some e → e.continued = true → EntriesAbove below lines old →
        EntriesAbove below (line :: lines) (e :: old)

namespace EntriesAbove

variable {below entries : List Text} {old : List PlotEntry}

theorem map_plotEntry? (h : EntriesAbove below entries old) :
    entries.map plotEntry? = old.map some := by
  induction h with
  | nil => rfl
  | last he => rw [List.map_singleton, List.map_singleton, he]
  | cons he _ _ ih => rw [List.map_cons, List.map_cons, he, ih]

/-- The entries are read, and nothing below them. -/
theorem plotEntries_append (h : EntriesAbove below entries old) :
    plotEntries (entries ++ below) = old := by
  induction h with
  | nil hbelow =>
    cases below with
    | nil => rfl
    | cons line below =>
      have hline : plotEntry? line = none := hbelow
      rw [List.nil_append, plotEntries, hline]
  | last he hc =>
    rw [List.singleton_append, plotEntries, he]
    simp only [hc, Bool.false_eq_true, if_false]
  | cons he hc _ ih =>
    rw [List.cons_append, plotEntries, he]
    simp only [hc, if_true, ih]

/-- The first line is an entry, and it ends the statement or there are others. -/
theorem exists_cons {line : Text} {lines : List Text} (h : EntriesAbove below (line :: lines) old) :
    ∃ e es, old = e :: es ∧ plotEntry? line = some e ∧
      (e.continued = false ∧ lines = [] ∧ es = [] ∨
        e.continued = true ∧ EntriesAbove below lines es) := by
  cases h with
  | last he hc => exact ⟨_, [], rfl, he, .inl ⟨hc, rfl, rfl⟩⟩
  | cons he hc h => exact ⟨_, _, rfl, he, .inr ⟨hc, h⟩⟩

theorem length_eq (h : EntriesAbove below entries old) : entries.length = old.length := by
  simpa using congrArg List.length h.map_plotEntry?

/-- A statement is read with its first line. -/
theorem oldStatement_cons (h : EntriesAbove below entries old) {header : Text}
    (hheader : isPlotHeader header = true) :
    oldStatement (header :: entries ++ below) =
      (old.map PlotEntry.style, (header :: entries).length) := by
  rw [List.cons_append, oldStatement, if_pos hheader, h.plotEntries_append, List.length_cons,
    h.length_eq]

/-- Every entry that is read has a styling. -/
theorem isStyle (h : EntriesAbove below entries old) : ∀ e ∈ old, IsStyle e.style := by
  intro e he
  have hmem : some e ∈ entries.map plotEntry? := h.map_plotEntry? ▸ List.mem_map_of_mem he
  obtain ⟨line, -, hline⟩ := List.mem_map.1 hmem
  exact isStyle_of_plotEntry? hline

end EntriesAbove

/-! ## New statements -/

/-- All entries but the last have a mark behind them. -/
theorem continued_eq_mapIdx (lines : List Text) :
    continued lines = lines.mapIdx fun i line => line ++ entryEnd (i + 1 < lines.length) := by
  fun_induction continued lines with
  | case1 => rfl
  | case2 line => simp [entryEnd]
  | case3 line next rest ih => simp [ih, entryEnd, List.mapIdx_cons]

/-- The lines of a statement, each data set with the styling that is kept for its place. -/
theorem statement_paired (file : Text) (styles : List Text) {sets : List DataSet}
    (hne : sets ≠ []) :
    statement file (paired styles sets) = plotHeader :: sets.mapIdx fun i d =>
      entry file d (styles[i]?.getD usualStyle) ++ entryEnd (i + 1 < sets.length) := by
  have hstatement : statement file (paired styles sets) =
      plotHeader :: continued ((paired styles sets).map
        fun p => entry file p.1 (p.2.getD usualStyle)) := by
    cases hp : paired styles sets with
    | nil => exact absurd hp (paired_ne_nil _ hne)
    | cons p ps => rfl
  rw [hstatement, map_paired, continued_eq_mapIdx]
  apply congrArg (plotHeader :: ·)
  apply List.ext_getElem?
  intro i
  simp only [List.getElem?_mapIdx, List.length_mapIdx, Option.map_map, Function.comp_def]

/-- The styling of the entry at a place: that of the old entry there, if there was one. -/
def styleAt (old : List PlotEntry) (i : Nat) : Text :=
  (old[i]?.map PlotEntry.style).getD usualStyle

theorem getElem?_map_style (old : List PlotEntry) (i : Nat) :
    (old.map PlotEntry.style)[i]?.getD usualStyle = styleAt old i := by
  rw [List.getElem?_map, styleAt]

/-- The entries of a statement below a directive at a column, given those of the old one. -/
def newEntries (file : Text) (indent : Nat) (old : List PlotEntry) (sets : List DataSet) :
    List Text :=
  sets.mapIdx fun i d =>
    Document.indented indent (entry file d (styleAt old i) ++ entryEnd (i + 1 < sets.length))

theorem map_indented_statement (file : Text) (indent : Nat) (old : List PlotEntry)
    {sets : List DataSet} (hne : sets ≠ []) :
    (statement file (paired (old.map PlotEntry.style) sets)).map (Document.indented indent) =
      Document.indented indent plotHeader :: newEntries file indent old sets := by
  rw [statement_paired file _ hne, List.map_cons]
  simp only [getElem?_map_style]
  apply congrArg (Document.indented indent plotHeader :: ·)
  apply List.ext_getElem?
  intro i
  simp only [newEntries, List.getElem?_map, List.getElem?_mapIdx, Option.map_map,
    Function.comp_def]

/-- A new statement stands in the place of the old one. -/
theorem rewritten_plotStatement {below entries : List Text} {old : List PlotEntry}
    (h : EntriesAbove below entries old) {header : Text} (hheader : isPlotHeader header = true)
    (file : Text) (sets : List DataSet) (above : List Text) (indent : Nat) :
    let new := statement file (paired (old.map PlotEntry.style) sets)
    Document.rewritten (plotStatement file sets) above (header :: entries ++ below) indent =
      (⟨above ++ new.map (Document.indented indent) ++ below⟩, above.length + new.length) := by
  intro new
  apply Document.rewritten_append
  simp only [plotStatement, h.oldStatement_cons hheader, new]

/-! ## Stylings -/

/-- A plot statement takes the place of the old one, and nothing else. Its first line and all of its
entries are recognised again, with the styling of the old entry at the same place or else the usual
one; all but the last continue the statement. -/
theorem plotStatement_keeps_styles (file : Text) (hfile : file ≠ []) (hquote : '\'' ∉ file)
    (above below : List Text) (indent : Nat) (header : Text) (entries : List Text)
    (old : List PlotEntry) (sets : List DataSet) (hne : sets ≠ [])
    (hheader : isPlotHeader header = true) (hentries : EntriesAbove below entries old)
    (hend : ∀ e ∈ old, EndsPlainly e.style)
    (htitle : ∀ (i : Nat) (d : DataSet) (e : PlotEntry), sets[i]? = some d → old[i]? = some e →
      d.title = none → ¬ " title \"".toList <+: e.style) :
    let first := Document.indented indent plotHeader
    let new := newEntries file indent old sets
    Document.rewritten (plotStatement file sets) above (header :: entries ++ below) indent =
        (⟨above ++ (first :: new) ++ below⟩, above.length + (sets.length + 1)) ∧
      isPlotHeader first = true ∧ new.length = sets.length ∧
      ∀ (i : Nat) (line : Text), new[i]? = some line →
        plotEntry? line = some ⟨styleAt old i, decide (i + 1 < sets.length)⟩ := by
  intro first new
  have hlines := map_indented_statement file indent old hne
  have hlength : (statement file (paired (old.map PlotEntry.style) sets)).length =
      sets.length + 1 := by
    rw [← List.length_map (Document.indented indent), hlines]
    simp [newEntries]
  have hrewritten := rewritten_plotStatement hentries hheader file sets above indent
  simp only [hlines, hlength] at hrewritten
  refine ⟨hrewritten, isPlotHeader_plotHeader indent, List.length_mapIdx, fun i line hline => ?_⟩
  simp only [new, newEntries, List.getElem?_mapIdx] at hline
  obtain ⟨d, hd, rfl⟩ := Option.map_eq_some_iff.1 hline
  rw [plotEntry?_indented]
  -- the styling is the usual one, or it was read in the old entry
  unfold styleAt
  cases hold : old[i]? with
  | none =>
    exact plotEntry?_entry hfile hquote isStyle_usualStyle readable_usualStyle.endsPlainly
      (fun _ => readable_usualStyle.title) _
  | some e =>
    have hmem : e ∈ old := List.mem_of_getElem? hold
    exact plotEntry?_entry hfile hquote (hentries.isStyle e hmem) (hend e hmem)
      (htitle i d e hd hold) _

/-- A statement of two styled entries to which a third one is added. -/
theorem plotStatement_keeps_styles_growing :
    let sets : List DataSet := [⟨0, some "\"a\"".toList⟩, ⟨1, some "b\\".toList⟩, ⟨2, some []⟩]
    let above := ["# MULTIPLOT(g) SELECT MULTIPLOT, x, y FROM t".toList]
    let below := ["set output".toList]
    let entries := ["    'old.txt' index 7 title \"x\" with lines lw 2, \\".toList,
      "\t'old.txt' index 9 w p ".toList]
    let new := ["    'doc-data.txt' index 0 title \"\\\"a\\\"\" with lines lw 2, \\".toList,
      "    'doc-data.txt' index 1 title \"b\\\\\" w p, \\".toList,
      "    'doc-data.txt' index 2 title \"\" with linespoints".toList]
    Document.rewritten (plotStatement "doc-data.txt".toList sets) above
        ("plot  \\ ".toList :: entries ++ below) 0 =
        (⟨above ++ "plot \\".toList :: new ++ below⟩, 5) ∧
      new.map plotEntry? = [some ⟨" with lines lw 2".toList, true⟩, some ⟨" w p".toList, true⟩,
        some ⟨" with linespoints".toList, false⟩] := by
  intro sets above below entries new
  let old : List PlotEntry := [⟨" with lines lw 2".toList, true⟩, ⟨" w p".toList, false⟩]
  have hentries : EntriesAbove below entries old :=
    .cons (by decide +kernel) rfl (.last (by decide +kernel) rfl)
  have hend : ∀ e ∈ old, EndsPlainly e.style := by
    intro e he
    simp only [old, List.mem_cons, List.not_mem_nil, or_false] at he
    rcases he with rfl | rfl
    · exact ⟨by simp; decide, by decide +kernel⟩
    · exact ⟨by simp; decide, by decide +kernel⟩
  have htitle : ∀ d ∈ sets, d.title ≠ none := by decide
  obtain ⟨hchange, -, -, hnew⟩ := plotStatement_keeps_styles "doc-data.txt".toList (by decide)
    (by decide +kernel) above below 0 "plot  \\ ".toList entries old sets (by decide)
    (by decide +kernel) hentries hend
    (fun i d e hd _ hnone => absurd hnone (htitle d (List.mem_of_getElem? hd)))
  have hlines : newEntries "doc-data.txt".toList 0 old sets = new := by decide +kernel
  rw [hlines] at hnew
  refine ⟨hchange.trans (by decide +kernel), ?_⟩
  simp only [new, List.map_cons, List.map_nil]
  rw [hnew 0 _ rfl, hnew 1 _ rfl, hnew 2 _ rfl]
  decide +kernel

end Gnuplot

end QueryWeave
