import QueryWeave.Proofs.LineEnds
import QueryWeave.Proofs.StatementMerging

/-!
# Data sets and their numbers

All plots of a gnuplot document share one data file. A plot statement refers to a data set by its
number, and gnuplot finds the number of a data set by counting the pairs of empty lines before it.
Three things are kept apart that have to agree: the text of the file, the count of its data sets,
and the numbers in the document. Comments must neither make nor hide a pair of empty lines, also if
a result has no rows or no curves.

One directive adds its data sets behind those that the file has (`Plotted.holds_write`); so the data
sets of a sequence of directives are read back in their order, and each statement has the numbers of
its own ones.

Main statement: `Output.weaveAll_dataSets`.
-/

namespace QueryWeave

open Text

/-! ## Reading a data file -/

namespace DataFile

/-- A line of a data file that is a comment. -/
def isNote (line : Text) : Bool := line.head? == some '#'

/-- The blocks of lines that a pair of empty lines ends, and the lines after the last pair. -/
def blocks : List Text → List (List Text) × List Text
  | [] => ([], [])
  | [] :: [] :: rest => ([] :: (blocks rest).1, (blocks rest).2)
  | line :: rest =>
    match blocks rest with
    | ([], last) => ([], line :: last)
    | (block :: more, last) => ((line :: block) :: more, last)

/-- The data sets of a file in their order, each with its rows. -/
def dataSets (contents : Text) : List (List Text) :=
  (blocks (contents.splitOn '\n')).1.map fun block => block.filter fun line => !isNote line

example :
    dataSets "# PLOT a\n1\t2\n\n\n# PLOT b\n\n\n# MULTIPLOT\n# PLOT c\n3\n4\n\n\n# e\n".toList =
      [["1\t2".toList], [], ["3".toList, "4".toList]] := by decide +kernel

theorem blocks_cons {line : Text} (h : line ≠ []) (rest : List Text) :
    blocks (line :: rest) = match blocks rest with
      | ([], last) => ([], line :: last)
      | (block :: more, last) => ((line :: block) :: more, last) := by
  cases line with
  | nil => exact absurd rfl h
  | cons c line => rfl

/-- Lines without an empty one among them are a block up to the next pair. -/
theorem blocks_append {block : List Text} (h : [] ∉ block) (rest : List Text) :
    blocks (block ++ [] :: [] :: rest) = (block :: (blocks rest).1, (blocks rest).2) := by
  induction block with
  | nil => rfl
  | cons line block ih =>
    simp only [List.mem_cons, not_or] at h
    rw [List.cons_append, blocks_cons (Ne.symm h.1), ih h.2]

/-- What follows the last newline ends no block. -/
theorem blocks_last {last : List Text} (h : [] ∉ last) :
    blocks (last ++ [[]]) = ([], last ++ [[]]) := by
  induction last with
  | nil => rfl
  | cons line last ih =>
    simp only [List.mem_cons, not_or] at h
    rw [List.cons_append, blocks_cons (Ne.symm h.1), ih h.2]

/-! ## Writing a data file -/

/-- The lines of blocks, each with the pair of empty lines that ends it. -/
def closed (bs : List (List Text)) : List Text := bs.flatMap (· ++ [[], []])

/-- How a data file is written: blocks without an empty line, each with a pair of them behind it,
and then comments that belong to the next block. -/
structure IsLaidOut (f : DataFile) (bs : List (List Text)) (last : List Text) : Prop where
  contents : f.contents = unlines (closed bs ++ last)
  newline : ∀ line ∈ closed bs ++ last, '\n' ∉ line
  full : ∀ block ∈ bs, [] ∉ block
  notes : ∀ line ∈ last, isNote line = true
  count : f.nextIndex = bs.length

theorem ne_nil_of_isNote {line : Text} (h : isNote line = true) : line ≠ [] := by
  rintro rfl
  cases h

/-- The blocks are read back. -/
theorem blocks_closed {bs : List (List Text)} {last : List Text} (hbs : ∀ block ∈ bs, [] ∉ block)
    (hlast : [] ∉ last) : blocks (closed bs ++ (last ++ [[]])) = (bs, last ++ [[]]) := by
  induction bs with
  | nil => exact blocks_last hlast
  | cons block bs ih =>
    have hlines : closed (block :: bs) ++ (last ++ [[]]) =
        block ++ [] :: [] :: (closed bs ++ (last ++ [[]])) := by
      simp [closed]
    rw [hlines, blocks_append (hbs _ (List.mem_cons_self ..)),
      ih fun b hb => hbs b (List.mem_cons_of_mem _ hb)]

/-- The file holds certain data sets and their number. -/
def Holds (f : DataFile) (sets : List (List Text)) : Prop :=
  ∃ bs last, f.IsLaidOut bs last ∧
    sets = bs.map fun block => block.filter fun line => !isNote line

theorem Holds.dataSets_eq {f : DataFile} {sets : List (List Text)} (h : f.Holds sets) :
    dataSets f.contents = sets := by
  obtain ⟨bs, last, hf, rfl⟩ := h
  have hlast : [] ∉ last := fun hmem => ne_nil_of_isNote (hf.notes [] hmem) rfl
  rw [dataSets, hf.contents, splitOn_unlines hf.newline, List.append_assoc,
    blocks_closed hf.full hlast]

theorem Holds.nextIndex_eq {f : DataFile} {sets : List (List Text)} (h : f.Holds sets) :
    f.nextIndex = sets.length := by
  obtain ⟨bs, last, hf, rfl⟩ := h
  rw [hf.count, List.length_map]

/-- A file in which nothing is written holds no data sets. -/
theorem holds_nil (name : Text) : Holds { name } [] :=
  ⟨[], [], ⟨rfl, fun _ h => absurd h List.not_mem_nil, fun _ h => absurd h List.not_mem_nil,
    fun _ h => absurd h List.not_mem_nil, rfl⟩, rfl⟩

variable {f : DataFile} {sets : List (List Text)}

/-- A comment adds no data set. -/
theorem Holds.line (h : f.Holds sets) {s : Text} (hs : isNote s = true) (hline : '\n' ∉ s) :
    (f.line s).Holds sets := by
  obtain ⟨bs, last, hf, rfl⟩ := h
  refine ⟨bs, last ++ [s], ⟨?_, ?_, hf.full, ?_, hf.count⟩, rfl⟩
  · simp [DataFile.line, hf.contents]
  · rw [← List.append_assoc]
    exact List.forall_mem_append.2 ⟨hf.newline, List.forall_mem_singleton.2 hline⟩
  · exact List.forall_mem_append.2 ⟨hf.notes, List.forall_mem_singleton.2 hs⟩

theorem Holds.comment (h : f.Holds sets) {s : Text} (hline : '\n' ∉ s) :
    (f.comment s).Holds sets :=
  h.line rfl (by simpa using hline)

theorem Holds.header (h : f.Holds sets) {s : Text} (hline : '\n' ∉ s) :
    (f.header s).Holds sets :=
  ((h.line (s := fill 80 '#') rfl (by decide)).comment hline).line rfl (by decide)

theorem contents_rows (f : DataFile) (rows : List (List Text)) :
    (rows.foldl row f).contents = f.contents ++ unlines (rows.map (join ['\t'])) := by
  induction rows generalizing f with
  | nil => simp
  | cons r rows ih => simp [ih, row, DataFile.line]

theorem nextIndex_rows (f : DataFile) (rows : List (List Text)) :
    (rows.foldl row f).nextIndex = f.nextIndex := by
  induction rows generalizing f with
  | nil => rfl
  | cons r rows ih => exact ih _

/-- A line that is read back as a row. -/
structure IsRow (line : Text) : Prop where
  full : line ≠ []
  newline : '\n' ∉ line
  data : isNote line = false

instance (line : Text) : Decidable (IsRow line) :=
  decidable_of_iff (line ≠ [] ∧ '\n' ∉ line ∧ isNote line = false)
    ⟨fun ⟨h, h', h''⟩ => ⟨h, h', h''⟩, fun ⟨h, h', h''⟩ => ⟨h, h', h''⟩⟩

/-- Rows with the end of a data set behind them are a further data set; so are no rows. -/
theorem Holds.finish_rows (h : f.Holds sets) {rows : List (List Text)}
    (hrows : ∀ line ∈ rows.map (join ['\t']), IsRow line) :
    (rows.foldl row f).finish.Holds (sets ++ [rows.map (join ['\t'])]) := by
  obtain ⟨bs, last, hf, rfl⟩ := h
  have hclosed : closed (bs ++ [last ++ rows.map (join ['\t'])]) ++ [] =
      closed bs ++ last ++ (rows.map (join ['\t']) ++ [[], []]) := by
    simp [closed]
  have hlast : [] ∉ last := fun hmem => ne_nil_of_isNote (hf.notes [] hmem) rfl
  refine ⟨bs ++ [last ++ rows.map (join ['\t'])], [], ⟨?_, ?_, ?_, ?_, ?_⟩, ?_⟩
  · rw [hclosed, unlines_append, ← hf.contents]
    simp [finish, DataFile.line, contents_rows]
  · rw [hclosed]
    refine List.forall_mem_append.2 ⟨hf.newline, List.forall_mem_append.2 ⟨?_, by simp⟩⟩
    exact fun line hline => (hrows line hline).newline
  · refine List.forall_mem_append.2 ⟨hf.full, List.forall_mem_singleton.2 fun hmem => ?_⟩
    rcases List.mem_append.1 hmem with hmem | hmem
    · exact hlast hmem
    · exact (hrows [] hmem).full rfl
  · exact fun _ hmem => absurd hmem List.not_mem_nil
  · simp [finish, DataFile.line, nextIndex_rows, hf.count]
  · -- of the new block, the comments are left out and the rows are kept
    have hnotes : last.filter (fun line => !isNote line) = [] :=
      List.filter_eq_nil_iff.2 fun line hline => by simp [hf.notes line hline]
    have hdata : (rows.map (join ['\t'])).filter (fun line => !isNote line) =
        rows.map (join ['\t']) :=
      List.filter_eq_self.2 fun line hline => by simp [(hrows line hline).data]
    rw [List.map_append, List.map_singleton, List.filter_append, hnotes, hdata, List.nil_append]

end DataFile

/-! ## Directives that plot -/

/-- What a directive has fetched for a plot: the points of one curve, or several curves. -/
inductive Plotted
  | points (rows : List (List Text))
  | curves (p : MultiPlot)
  deriving DecidableEq, Repr

namespace Plotted

open Gnuplot DataFile Fragment

/-- It is woven into a document as this. -/
def material : Plotted → Material
  | points rows => .points rows
  | curves p => .curves p

/-- The data sets, each with the lines of its rows. -/
def dataSets : Plotted → List (List Text)
  | points rows => [rows.map (join ['\t'])]
  | curves p => p.series.map fun s => (s.points.map pointCells).map (join ['\t'])

/-- What a plot statement refers to, given the number of the first data set. -/
def references (first : Nat) : Plotted → List DataSet
  | points _ => [⟨first, none⟩]
  | curves p => Gnuplot.dataSets first p.series

/-- The data file with the data sets that a directive adds. -/
def write (f : DataFile) (d : Directive) : Plotted → DataFile
  | points rows => addRows f d.body rows
  | curves p => p.series.foldl addSeries (f.header d.command)

/-- No text of the directive and its result breaks a line, and every row is read back as one. -/
structure IsPlain (x : Plotted) (d : Directive) : Prop where
  command : '\n' ∉ d.command
  body : '\n' ∉ d.body
  legend : ∀ p, x = curves p → ∀ s ∈ p.series, '\n' ∉ s.legend
  rows : ∀ set ∈ x.dataSets, ∀ row ∈ set, IsRow row

theorem weave_material (f : DataFile) (d : Directive) (x : Plotted) (lines : List Text) :
    (Output.gnuplot f).weave d x.material lines =
      .ok (plotStatement f.name (x.references f.nextIndex) lines, .gnuplot (x.write f d)) := by
  cases x <;> rfl

theorem length_references (x : Plotted) (first : Nat) :
    (x.references first).length = x.dataSets.length := by
  cases x <;> simp [references, dataSets, Gnuplot.dataSets]

/-- References count on from the first one. -/
theorem index_of_references {x : Plotted} {first j : Nat} {r : DataSet}
    (h : (x.references first)[j]? = some r) : r.index = first + j := by
  cases x with
  | points rows =>
    obtain ⟨hj, rfl⟩ := List.getElem?_eq_some_iff.1 h
    cases Nat.lt_one_iff.1 hj
    rfl
  | curves p =>
    simp only [references, Gnuplot.dataSets, List.getElem?_mapIdx] at h
    obtain ⟨s, -, rfl⟩ := Option.map_eq_some_iff.1 h
    rfl

theorem name_write (f : DataFile) (d : Directive) (x : Plotted) : (x.write f d).name = f.name := by
  cases x with
  | points rows => exact name_addRows f d.body rows
  | curves p => exact name_foldl_addSeries p.series _

/-- A curve is one more data set. -/
private theorem holds_addSeries {f : DataFile} {sets : List (List Text)} (h : f.Holds sets)
    {s : Series} (hlegend : '\n' ∉ s.legend)
    (hrows : ∀ row ∈ (s.points.map pointCells).map (join ['\t']), IsRow row) :
    (addSeries f s).Holds (sets ++ [(s.points.map pointCells).map (join ['\t'])]) := by
  have hcomment : '\n' ∉ "index ".toList ++ ofNat f.nextIndex ++ ' ' :: s.legend := by
    intro hmem
    simp only [List.mem_append, List.mem_cons] at hmem
    rcases hmem with (hmem | hmem) | hmem | hmem
    · exact absurd hmem (by decide)
    · exact absurd (isDigit_of_mem_ofNat hmem) (by decide)
    · exact absurd hmem (by decide)
    · exact hlegend hmem
  exact (h.comment hcomment).finish_rows hrows

/-- A directive adds its data sets behind those that are there. -/
theorem holds_write {f : DataFile} {sets : List (List Text)} (h : f.Holds sets) {d : Directive}
    {x : Plotted} (hx : x.IsPlain d) : (x.write f d).Holds (sets ++ x.dataSets) := by
  cases x with
  | points rows =>
    have hbody : '\n' ∉ "PLOT ".toList ++ d.body := by simpa using hx.body
    exact (h.header hbody).finish_rows (hx.rows _ (List.mem_singleton_self _))
  | curves p =>
    have hseries : ∀ (series : List Series) (f : DataFile) (sets : List (List Text)),
        f.Holds sets → (∀ s ∈ series, '\n' ∉ s.legend ∧
          ∀ row ∈ (s.points.map pointCells).map (join ['\t']), IsRow row) →
        (series.foldl addSeries f).Holds
          (sets ++ series.map fun s => (s.points.map pointCells).map (join ['\t'])) := by
      intro series
      induction series with
      | nil => exact fun f sets hf _ => by simpa using hf
      | cons s series ih =>
        intro f sets hf hs
        obtain ⟨hlegend, hrows⟩ := hs s (List.mem_cons_self ..)
        have hrest := ih _ _ (holds_addSeries hf hlegend hrows)
          fun t ht => hs t (List.mem_cons_of_mem _ ht)
        simpa using hrest
    apply hseries p.series _ _ (h.header hx.command)
    exact fun s hs => ⟨hx.legend p rfl s hs, hx.rows _ (List.mem_map_of_mem hs)⟩

/-- A statement has an entry for each of its data sets. -/
theorem length_tail_plotStatement (file : Text) (sets : List DataSet) (lines : List Text) :
    (plotStatement file sets lines).content.tail.length = sets.length := by
  have hcontent : (plotStatement file sets lines).content =
    statement file (paired (oldStatement lines).1 sets) := rfl
  cases sets with
  | nil =>
    rw [hcontent, paired]
    rfl
  | cons d sets =>
    rw [hcontent, statement_paired file _ (List.cons_ne_nil d sets), List.tail_cons,
      List.length_mapIdx]

/-- The entry of a statement for a data set says its number. -/
theorem content_plotStatement {x : Plotted} {first j : Nat} (hj : j < x.dataSets.length)
    (file : Text) (lines : List Text) :
    ∃ rest, (plotStatement file (x.references first) lines).content[j + 1]? =
      some ("    '".toList ++ file ++ "' index ".toList ++ ofNat (first + j) ++ ' ' :: rest) := by
  have hlength := x.length_references first
  have hne : x.references first ≠ [] := by
    rw [← List.length_pos_iff, hlength]
    omega
  obtain ⟨r, hr⟩ : ∃ r, (x.references first)[j]? = some r :=
    ⟨_, List.getElem?_eq_getElem (by omega)⟩
  have hstyle : IsStyle ((oldStatement lines).1[j]?.getD usualStyle) := by
    cases hold : (oldStatement lines).1[j]? with
    | none => exact isStyle_usualStyle
    | some style => exact isStyle_of_mem_oldStatement style (List.mem_of_getElem? hold)
  obtain ⟨styling, hstyling, -⟩ := hstyle
  -- behind the number stands a title or a styling, and both begin with a space
  have hspace : ∀ mark : Text, ∃ rest,
      titlePart r.title ++ (' ' :: styling ++ mark) = ' ' :: rest := by
    intro mark
    cases r.title with
    | none => exact ⟨_, rfl⟩
    | some t => exact ⟨_, rfl⟩
  obtain ⟨rest, hrest⟩ := hspace (entryEnd (j + 1 < (x.references first).length))
  have hcontent : (plotStatement file (x.references first) lines).content =
    statement file (paired (oldStatement lines).1 (x.references first)) := rfl
  have hindex : r.index = first + j := index_of_references hr
  refine ⟨rest, ?_⟩
  rw [hcontent, statement_paired file _ hne, List.getElem?_cons_succ, List.getElem?_mapIdx, hr,
    Option.map_some, hstyling]
  unfold entry
  simp only [hindex, List.append_assoc, hrest]

end Plotted

/-- A directive that plots what it has fetched, and the lines below it. -/
structure PlotCall where
  directive : Directive
  plotted : Plotted
  lines : List Text
  deriving DecidableEq, Repr

namespace Output

open DataFile

/-- The changes that directives make one after the other, and the output after them. -/
def weaveAll (o : Output) : List PlotCall → Except ShapeFault (List Splice × Output)
  | [] => .ok ([], o)
  | c :: cs => do
    let (splice, o) ← o.weave c.directive c.plotted.material c.lines
    let (splices, o) ← o.weaveAll cs
    return (splice :: splices, o)

/-- The data sets of directives, in their order. -/
def dataSetsOf (calls : List PlotCall) : List (List Text) :=
  calls.flatMap fun c => c.plotted.dataSets

/-- The data sets of a directive come after those of the directives before it. -/
theorem getElem?_dataSetsOf {calls : List PlotCall} {k j : Nat} {c : PlotCall} {set : List Text}
    (hc : calls[k]? = some c) (hset : c.plotted.dataSets[j]? = some set) :
    (dataSetsOf calls)[(dataSetsOf (calls.take k)).length + j]? = some set := by
  obtain ⟨hk, rfl⟩ := List.getElem?_eq_some_iff.1 hc
  have hj := (List.getElem?_eq_some_iff.1 hset).1
  have hcalls : dataSetsOf calls = dataSetsOf (calls.take k) ++
      (calls[k].plotted.dataSets ++ dataSetsOf (calls.drop (k + 1))) := by
    have hcut : calls = calls.take k ++ calls[k] :: calls.drop (k + 1) := by
      rw [List.getElem_cons_drop, List.take_append_drop]
    conv_lhs => rw [hcut]
    simp only [dataSetsOf, List.flatMap_append, List.flatMap_cons]
  rw [hcalls, List.getElem?_append_right (Nat.le_add_right ..), Nat.add_sub_cancel_left,
    List.getElem?_append_left hj, hset]

/-- Directives that go on with a data file. -/
private theorem exists_weaveAll {calls : List PlotCall}
    (hplain : ∀ c ∈ calls, c.plotted.IsPlain c.directive) {f : DataFile}
    {sets : List (List Text)} (hf : f.Holds sets) :
    ∃ splices g, (gnuplot f).weaveAll calls = .ok (splices, .gnuplot g) ∧
      g.Holds (sets ++ dataSetsOf calls) ∧ splices.length = calls.length ∧
      ∀ (k : Nat) (c : PlotCall), calls[k]? = some c → splices[k]? = some (Gnuplot.plotStatement
        f.name (c.plotted.references (sets.length + (dataSetsOf (calls.take k)).length))
        c.lines) := by
  induction calls generalizing f sets with
  | nil => exact ⟨[], f, rfl, by simpa [dataSetsOf] using hf, rfl, fun k c hc => by simp at hc⟩
  | cons c calls ih =>
    have hc := hplain c (List.mem_cons_self ..)
    obtain ⟨splices, g, hweave, hg, hlength, hsplices⟩ :=
      ih (fun c hc => hplain c (List.mem_cons_of_mem _ hc)) (Plotted.holds_write hf hc)
    let splice := Gnuplot.plotStatement f.name (c.plotted.references f.nextIndex) c.lines
    refine ⟨splice :: splices, g, ?_, ?_, by simp [hlength], ?_⟩
    · rw [weaveAll, Plotted.weave_material]
      simp only [bind, Except.bind, hweave]
      rfl
    · simpa [dataSetsOf] using hg
    · intro k call hcall
      cases k with
      | zero =>
        cases hcall
        simp [splice, dataSetsOf, hf.nextIndex_eq]
      | succ k =>
        have hk := hsplices k call hcall
        rw [Plotted.name_write] at hk
        simpa [dataSetsOf, Nat.add_assoc] using hk

/-- All data sets of a sequence of plots are read back from the data file, in their order and with
all their rows. The statement of each directive has an entry for each of its data sets, and the
number in this entry is the position of the data set in the file. -/
theorem weaveAll_dataSets (name : Text) (calls : List PlotCall)
    (hplain : ∀ c ∈ calls, c.plotted.IsPlain c.directive) :
    ∃ splices f, (gnuplot { name }).weaveAll calls = .ok (splices, .gnuplot f) ∧
      DataFile.dataSets f.contents = dataSetsOf calls ∧ splices.length = calls.length ∧
      ∀ (k : Nat) (c : PlotCall) (splice : Splice), calls[k]? = some c →
        splices[k]? = some splice →
        let first := (dataSetsOf (calls.take k)).length
        splice.content.tail.length = c.plotted.dataSets.length ∧
        ∀ (j : Nat) (set : List Text), c.plotted.dataSets[j]? = some set →
          (DataFile.dataSets f.contents)[first + j]? = some set ∧
          ∃ rest, splice.content[j + 1]? = some
            ("    '".toList ++ name ++ "' index ".toList ++ ofNat (first + j) ++ ' ' :: rest) := by
  obtain ⟨splices, f, hweave, hf, hlength, hsplices⟩ := exists_weaveAll hplain (holds_nil name)
  rw [List.nil_append] at hf
  refine ⟨splices, f, hweave, hf.dataSets_eq, hlength, fun k c splice hc hsplice => ?_⟩
  intro first
  have hfirst := hsplices k c hc
  rw [List.length_nil, Nat.zero_add, hsplice] at hfirst
  cases hfirst
  refine ⟨?_, fun j set hset => ⟨?_, ?_⟩⟩
  · rw [Plotted.length_tail_plotStatement, Plotted.length_references]
  · rw [hf.dataSets_eq]
    exact getElem?_dataSetsOf hc hset
  · have hj := (List.getElem?_eq_some_iff.1 hset).1
    exact Plotted.content_plotStatement hj name c.lines

/-- A plot of no rows, one of no curves, and then one of two curves and a further plot: the curves
have the numbers 1 and 2. -/
theorem weaveAll_dataSets_curves :
    let plot (body : Text) : Directive := ⟨.plot, "PLOT ".toList ++ body, body, 0, 1, 0⟩
    let curves (body : Text) : Directive :=
      ⟨.multiPlot, "MULTIPLOT(g) ".toList ++ body, body, 0, 1, 0⟩
    let p : MultiPlot := ⟨[⟨"# g=a".toList, true, [⟨['1'], ['2'], some ['0'], none⟩]⟩,
      ⟨"g=b".toList, true, [⟨['1'], ['3'], none, none⟩, ⟨['2'], "4 #".toList, none, none⟩]⟩], true⟩
    let calls : List PlotCall := [⟨plot "SELECT 1 WHERE 0".toList, .points [], []⟩,
      ⟨curves "SELECT 2 WHERE 0".toList, .curves ⟨[], false⟩, []⟩,
      ⟨curves "SELECT MULTIPLOT, x, y FROM t".toList, .curves p, ["plot x".toList]⟩,
      ⟨plot "SELECT x, y FROM t".toList, .points [[['5'], ['6']]], []⟩]
    ∃ splices f, (gnuplot { name := "d.txt".toList }).weaveAll calls =
        .ok (splices, .gnuplot f) ∧
      DataFile.dataSets f.contents = [[], ["1\t2\t0".toList], ["1\t3".toList, "2\t4 #".toList],
        ["5\t6".toList]] ∧
      splices.length = 4 ∧ ∀ splice, splices[2]? = some splice → splice.content.tail.length = 2 ∧
        ∃ rest, splice.content[2]? = some ("    'd.txt' index 2".toList ++ ' ' :: rest) := by
  intro plot curves p calls
  have hplain : ∀ c ∈ calls, c.plotted.IsPlain c.directive := by
    intro c hc
    simp only [calls, List.mem_cons, List.not_mem_nil, or_false] at hc
    rcases hc with rfl | rfl | rfl | rfl
    · exact ⟨by decide +kernel, by decide +kernel, fun _ h => (by cases h), by decide +kernel⟩
    · refine ⟨by decide +kernel, by decide +kernel, ?_, by decide +kernel⟩
      rintro _ ⟨⟩
      decide
    · refine ⟨by decide +kernel, by decide +kernel, ?_, by decide +kernel⟩
      rintro _ ⟨⟩
      decide +kernel
    · exact ⟨by decide +kernel, by decide +kernel, fun _ h => (by cases h), by decide +kernel⟩
  obtain ⟨splices, f, hweave, hsets, hlength, hindex⟩ :=
    weaveAll_dataSets "d.txt".toList calls hplain
  refine ⟨splices, f, hweave, hsets.trans (by decide +kernel), hlength, fun splice hsplice => ?_⟩
  obtain ⟨hentries, hnumbers⟩ := hindex 2 _ splice rfl hsplice
  obtain ⟨-, rest, hrest⟩ := hnumbers 1 _ rfl
  have hnumber : "    '".toList ++ "d.txt".toList ++ "' index ".toList ++
      ofNat ((dataSetsOf (calls.take 2)).length + 1) = "    'd.txt' index 2".toList := by
    decide +kernel
  rw [hnumber] at hrest
  exact ⟨hentries, rest, hrest⟩

end Output

end QueryWeave
