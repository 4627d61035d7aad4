import Mathlib.Data.List.SplitBy
import QueryWeave.Engine.Fetch
import QueryWeave.Proofs.Traversals

/-!
# Curves as runs of rows

A plot of several curves goes on with a curve as long as the values that tell curves apart stay the
same; it leaves out rows without both coordinates. What comes out is the only way to cut the rows
that are left into runs that are as long as possible (`IsRuns.unique`), one for each curve.

The rows are those that the cursor shows on its way, and their values those in the first column of
each name, so the main statement speaks of no index and of no state of the pass.

Main statement: `Action.gatherCurves_runs`.
-/

namespace QueryWeave

open Text

/-! ## Ways of a cursor -/

namespace Cursor

/-- Steps of a cursor that each lead to a row, with these rows and the cursor after the
last step. -/
inductive Walks : Cursor → List (List Cell) → Cursor → Prop
  | refl (c : Cursor) : Walks c [] c
  | step {c d e : Cursor} {rows : List (List Cell)} :
      c.step = .ok (true, d) → Walks d rows e → Walks c (d.row :: rows) e

variable {c d e : Cursor} {rows : List (List Cell)} {message : Text}

theorem length_row (c : Cursor) : c.row.length = c.columns.length := by
  simp [row]

/-- A step changes nothing but the position. -/
theorem eq_of_step {more : Bool} (h : c.step = .ok (more, d)) :
    c.break? = none ∧ more = decide (c.next < c.rows.length) ∧
      d = { c with position := some (min c.next c.rows.length) } := by
  unfold step at h
  cases hbreak : c.break? with
  | some message => simp only [hbreak] at h; cases h
  | none =>
    simp only [hbreak, Except.ok.injEq, Prod.mk.injEq] at h
    exact ⟨rfl, h.1.symm, h.2.symm⟩

theorem read_of_step (h : c.step = .ok (true, d)) : c.read = (d.row :: d.read.1, d.read.2) := by
  obtain ⟨hbreak, hmore, rfl⟩ := eq_of_step h
  have hnext : c.next < c.rows.length := of_decide_eq_true hmore.symm
  rw [read, hbreak]
  simp only [hnext, if_true, Nat.min_eq_left hnext.le]

theorem read_of_end (h : c.step = .ok (false, d)) : c.read = ([], none) := by
  obtain ⟨hbreak, hmore, -⟩ := eq_of_step h
  rw [read, hbreak]
  simp only [of_decide_eq_false hmore.symm, if_false]

theorem read_of_break (h : c.step = .error message) : c.read = ([], some message) := by
  unfold step at h
  cases hbreak : c.break? with
  | none => simp only [hbreak] at h; cases h
  | some m =>
    simp only [hbreak] at h
    cases h
    rw [read, hbreak]

namespace Walks

/-- The rows that are read are those on the way. -/
theorem read_eq (h : Walks c rows d) : c.read = (rows ++ d.read.1, d.read.2) := by
  induction h with
  | refl c => rfl
  | step hstep _ ih => rw [read_of_step hstep, ih, List.cons_append]

theorem length_of_mem (h : Walks c rows d) : ∀ row ∈ rows, row.length = c.columns.length := by
  induction h with
  | refl c => exact List.forall_mem_nil _
  | step hstep _ ih =>
    obtain ⟨-, -, rfl⟩ := eq_of_step hstep
    exact List.forall_mem_cons.2 ⟨length_row _, ih⟩

end Walks

/-- A cursor comes to the end of its rows, or to a step that fails. -/
theorem exists_walks (c : Cursor) :
    ∃ rows d, Walks c rows d ∧ ((∃ e, d.step = .ok (false, e)) ∨ ∃ m, d.step = .error m) := by
  fun_induction read c with
  | case1 c message hbreak =>
    exact ⟨[], c, .refl c, .inr ⟨message, by rw [step, hbreak]⟩⟩
  | case2 c hbreak hnext d ih =>
    obtain ⟨rows, e, hwalk, hend⟩ := ih
    have hstep : c.step = .ok (true, d) := by
      rw [step, hbreak]
      simp only [hnext, decide_true, Nat.min_eq_left hnext.le, d]
    exact ⟨d.row :: rows, e, .step hstep hwalk, hend⟩
  | case3 c hbreak hnext =>
    refine ⟨[], c, .refl c, .inl ⟨{ c with position := some (min c.next c.rows.length) }, ?_⟩⟩
    rw [step, hbreak]
    simp only [hnext, decide_false]

/-! ## Values by their names -/

/-- The cell of a row in the first column of a name; NULL if there is none. -/
def named (c : Cursor) (row : List Cell) (name : Text) : Cell :=
  ((c.columns.zip row).lookup name).join

/-- Both coordinates of a row are there. -/
def isComplete (c : Cursor) (row : List Cell) : Bool :=
  (c.named row "x").isSome && (c.named row "y").isSome

private theorem lookup_zip {columns : List Text} {row : List Cell}
    (hlength : row.length = columns.length) {name : Text} {j : Nat}
    (h : columns.findIdx? (· == name) = some j) : (columns.zip row).lookup name = row[j]? := by
  induction columns generalizing row j with
  | nil => cases h
  | cons column columns ih =>
    obtain ⟨cell, row, rfl⟩ := List.exists_cons_of_length_eq_add_one hlength
    rw [List.findIdx?_cons] at h
    rw [List.zip_cons_cons, List.lookup_cons]
    -- the first column has the name, or it is sought among the others
    by_cases hname : column = name
    · subst hname
      simp only [beq_self_eq_true, if_true, Option.some.injEq] at h ⊢
      subst h
      rfl
    · simp only [beq_iff_eq, hname, if_false, Option.map_eq_some_iff] at h
      obtain ⟨i, hi, rfl⟩ := h
      simp only [beq_eq_false_iff_ne.2 (Ne.symm hname), List.getElem?_cons_succ]
      exact ih (Nat.succ.inj hlength) hi

/-- The column that is found is the one that the name means. -/
theorem cellOf_eq_named {row : List Cell} (hlength : row.length = c.columns.length) {name : Text}
    {j : Nat} (h : c.findColumn? name = some j) : ResultTable.cellOf row j = c.named row name := by
  rw [ResultTable.cellOf, named, lookup_zip hlength h]

theorem exists_findColumn? {name : Text} (h : c.columns.contains name = true) :
    ∃ j, c.findColumn? name = some j := by
  rw [← Option.isSome_iff_exists, findColumn?, List.findIdx?_isSome]
  simpa using h

theorem findColumn?_eq_none {name : Text} (h : c.columns.contains name = false) :
    c.findColumn? name = none := by
  rw [findColumn?, List.findIdx?_eq_none_iff]
  intro column hcolumn
  refine beq_eq_false_iff_ne.2 fun hname => ?_
  rw [← hname, List.contains_iff_mem.2 hcolumn] at h
  cases h

theorem isSome_findColumn? (name : Text) :
    (c.findColumn? name).isSome = c.columns.contains name := by
  cases h : c.columns.contains name with
  | true =>
    obtain ⟨j, hj⟩ := exists_findColumn? h
    rw [hj, Option.isSome_some]
  | false => rw [findColumn?_eq_none h, Option.isSome_none]

end Cursor

/-! ## Runs -/

/-- A list is cut into runs: every part has elements, all with the same key, and the keys of parts
next to each other differ. -/
structure IsRuns {α κ : Type} (key : α → κ) (l : List α) (runs : List (List α)) : Prop where
  flatten : runs.flatten = l
  nonempty : [] ∉ runs
  same : ∀ run ∈ runs, ∀ a ∈ run, ∀ b ∈ run, key a = key b
  adjacent : runs.IsChain fun run next => ∀ a ∈ run, ∀ b ∈ next, key a ≠ key b

namespace IsRuns

variable {α κ : Type} {key : α → κ} {l : List α} {runs : List (List α)}

theorem nil : IsRuns key [] [] :=
  ⟨rfl, List.not_mem_nil, List.forall_mem_nil _, .nil⟩

/-- An element in front begins a run if its key differs from that of the first run. -/
theorem cons_run (h : IsRuns key l runs) {a : α}
    (ha : ∀ run, runs.head? = some run → ∀ b ∈ run, key a ≠ key b) :
    IsRuns key (a :: l) ([a] :: runs) where
  flatten := by rw [List.flatten_cons, h.flatten, List.singleton_append]
  nonempty hmem := (List.mem_cons.1 hmem).elim (fun h => by cases h) h.nonempty
  same := by
    refine List.forall_mem_cons.2 ⟨?_, h.same⟩
    simp
  adjacent := by
    refine List.isChain_cons.2 ⟨fun run hrun => ?_, h.adjacent⟩
    exact List.forall_mem_singleton.2 (ha run hrun)

/-- An element in front lengthens the first run if it has the key of that run. -/
theorem cons_elem {run : List α} (h : IsRuns key l (run :: runs)) {a : α}
    (ha : ∀ b ∈ run, key a = key b) : IsRuns key (a :: l) ((a :: run) :: runs) where
  flatten := by rw [List.flatten_cons, List.cons_append, ← List.flatten_cons, h.flatten]
  nonempty hmem :=
    (List.mem_cons.1 hmem).elim (fun h => by cases h) fun hmem =>
      h.nonempty (List.mem_cons_of_mem _ hmem)
  same := by
    obtain ⟨hrun, hruns⟩ := List.forall_mem_cons.1 h.same
    refine List.forall_mem_cons.2 ⟨List.forall_mem_cons.2 ⟨?_, fun b hb => ?_⟩, hruns⟩
    · exact List.forall_mem_cons.2 ⟨rfl, ha⟩
    · exact List.forall_mem_cons.2 ⟨(ha b hb).symm, hrun b hb⟩
  adjacent := by
    obtain ⟨hfirst, hruns⟩ := List.isChain_cons.1 h.adjacent
    refine List.isChain_cons.2 ⟨fun next hnext => ?_, hruns⟩
    -- some element is in the run already, and it has the same key
    obtain ⟨b, hb⟩ := List.exists_mem_of_ne_nil run fun hnil =>
      h.nonempty (hnil ▸ List.mem_cons_self ..)
    exact List.forall_mem_cons.2 ⟨fun c hc => ha b hb ▸ hfirst next hnext b hb c hc,
      hfirst next hnext⟩

/-- There is one way to cut a list into runs. -/
theorem unique [DecidableEq κ] (h : IsRuns key l runs) :
    runs = l.splitBy fun a b => key a == key b := by
  refine (List.splitBy_eq_iff.2 ⟨h.flatten.symm, h.nonempty, fun run hrun => ?_, ?_⟩).symm
  · refine List.isChain_iff_getElem.2 fun i hi => beq_iff_eq.2 ?_
    exact h.same run hrun _ (List.getElem_mem _) _ (List.getElem_mem _)
  · refine h.adjacent.imp_of_mem_imp fun run next hrun hnext hkeys => ?_
    have hne : ∀ part ∈ runs, part ≠ [] := fun part hpart hnil => h.nonempty (hnil ▸ hpart)
    exact ⟨hne run hrun, hne next hnext,
      beq_eq_false_iff_ne.2 (hkeys _ (List.getLast_mem _) _ (List.head_mem _))⟩

end IsRuns

/-! ## Curves -/

namespace MultiPlotHeader

/-- A curve has a point for every row of a run, and the legend of the first one. -/
structure IsCurve {α : Type} (view : α → PlotRow) (isPlain : Bool) (run : List α) (s : Series) :
    Prop where
  points : s.points = run.map fun a => (view a).point
  legend : ∀ first, run.head? = some first → s.legend = (view first).legend
  isPlain : s.isPlain = isPlain

/-- The legends of curves are those of their first rows. -/
theorem map_legend_eq {α : Type} {view : α → PlotRow} {isPlain : Bool} {runs : List (List α)}
    {series : List Series} (h : List.Forall₂ (IsCurve view isPlain) runs series)
    {legends : List Text}
    (hlegends : runs.map (fun run => run.head?.map fun a => (view a).legend) =
      legends.map some) : series.map Series.legend = legends := by
  induction h generalizing legends with
  | nil => cases legends <;> simp_all
  | @cons run s runs series hcurve _ ih =>
    obtain _ | ⟨legend, legends⟩ := legends
    · cases hlegends
    · obtain ⟨hfirst, hrest⟩ := List.cons.inj hlegends
      obtain ⟨first, hhead, rfl⟩ := Option.map_eq_some_iff.1 hfirst
      rw [List.map_cons, hcurve.legend first hhead, ih hrest]

/-- The curves that are gathered come from runs. -/
theorem exists_runs {α : Type} (view : α → PlotRow) (isPlain : Bool) (l : List α) :
    ∃ runs, IsRuns (fun a => (view a).key) l runs ∧
      List.Forall₂ (fun run g => (∀ a ∈ run, (view a).key = g.1) ∧ IsCurve view isPlain run g.2)
        runs (gather isPlain (l.map view)) := by
  induction l with
  | nil => exact ⟨[], .nil, .nil⟩
  | cons a l ih =>
    obtain ⟨runs, hruns, hcurves⟩ := ih
    rw [List.map_cons, gather]
    generalize gather isPlain (l.map view) = curves at hcurves ⊢
    have hsingle : IsCurve view isPlain [a] ⟨(view a).legend, isPlain, [(view a).point]⟩ :=
      ⟨rfl, by rintro _ ⟨⟩; rfl, rfl⟩
    have hkey : ∀ b ∈ [a], (view b).key = (view a).key := List.forall_mem_singleton.2 rfl
    cases hcurves with
    | nil =>
      exact ⟨[[a]], hruns.cons_run (fun run hrun => by cases hrun), .cons ⟨hkey, hsingle⟩ .nil⟩
    | @cons run g runs rest hfirst hrest =>
      obtain ⟨key, series⟩ := g
      obtain ⟨hsame, hcurve⟩ := hfirst
      -- the first row joins the first run of the others, or is a run of its own
      by_cases hk : key = (view a).key
      · simp only [hk, if_true]
        refine ⟨(a :: run) :: runs, hruns.cons_elem fun b hb => ?_, .cons ⟨?_, ?_⟩ hrest⟩
        · exact ((hsame b hb).trans hk).symm
        · exact List.forall_mem_cons.2 ⟨rfl, fun b hb => (hsame b hb).trans hk⟩
        · exact ⟨congrArg _ hcurve.points, by rintro _ ⟨⟩; rfl, rfl⟩
      · simp only [hk, if_false]
        refine ⟨[a] :: run :: runs, hruns.cons_run ?_, .cons ⟨hkey, hsingle⟩
          (.cons ⟨hsame, hcurve⟩ hrest)⟩
        rintro _ ⟨⟩ b hb heq
        exact hk ((hsame b hb).symm.trans heq.symm)

/-! ## Columns -/

/-- The columns that a result must have, in the order in which they are sought. -/
def required (h : MultiPlotHeader) : List (Text × ColumnRole) :=
  ("x", .coordinate) :: ("y", .coordinate) :: (h.groups.map (·, .group) ++
    h.legend.column?.toList.map (·, .legend))

/-- The first of these columns that a result does not have. -/
def missing? (h : MultiPlotHeader) (c : Cursor) : Option (Text × ColumnRole) :=
  h.required.find? fun r => !c.columns.contains r.1

/-- The columns stand where a cursor has the names. -/
structure Finds (h : MultiPlotHeader) (c : Cursor) (cols : PlotColumns) : Prop where
  x : c.findColumn? "x" = some cols.x
  y : c.findColumn? "y" = some cols.y
  xError : cols.xError = c.findColumn? "xerr"
  yError : cols.yError = c.findColumn? "yerr"
  groups : List.Forall₂ (fun name j => c.findColumn? name = some j) h.groups cols.groups
  legend : Option.Rel (fun name j => c.findColumn? name = some j) h.legend.column? cols.legend

variable {h : MultiPlotHeader} {c : Cursor} {cols : PlotColumns} {role : ColumnRole}

theorem exists_need {name : Text} (hname : c.columns.contains name = true) (role : ColumnRole) :
    ∃ j, c.findColumn? name = some j ∧ need c name role = .ok j := by
  obtain ⟨j, hj⟩ := Cursor.exists_findColumn? hname
  exact ⟨j, hj, by rw [need, hj]⟩

theorem need_eq_error {name : Text} (hname : c.columns.contains name = false) (role : ColumnRole) :
    need c name role = .error (.missingColumn name role) := by
  rw [need, Cursor.findColumn?_eq_none hname]

theorem exists_mapM_need {names : List Text}
    (hnames : ∀ name ∈ names, c.columns.contains name = true) (role : ColumnRole) :
    ∃ js, names.mapM (fun name => need c name role) = .ok js ∧
      List.Forall₂ (fun name j => c.findColumn? name = some j) names js := by
  simp only [Except.mapM_eq_ok_iff]
  induction names with
  | nil => exact ⟨[], .nil, .nil⟩
  | cons name names ih =>
    obtain ⟨hname, hrest⟩ := List.forall_mem_cons.1 hnames
    obtain ⟨j, hj, hneed⟩ := exists_need hname role
    obtain ⟨js, hjs, hall⟩ := ih hrest
    exact ⟨j :: js, .cons hneed hjs, .cons hj hall⟩

theorem mapM_need_eq_error {names : List Text} {name : Text}
    (hname : names.find? (!c.columns.contains ·) = some name) :
    names.mapM (fun name => need c name role) = .error (.missingColumn name role) := by
  induction names with
  | nil => cases hname
  | cons n names ih =>
    rw [List.mapM_cons]
    cases hn : c.columns.contains n with
    | true =>
      obtain ⟨j, -, hneed⟩ := exists_need hn role
      simp only [List.find?_cons, hn, Bool.not_true] at hname
      simp only [hneed, bind, Except.bind, ih hname]
    | false =>
      simp only [List.find?_cons, hn, Bool.not_false, Option.some.injEq] at hname
      rw [need_eq_error hn, hname]
      rfl

/-- The first column that is missing is the one that is told. -/
theorem columns_eq_error {name : Text} (hmissing : h.missing? c = some (name, role)) :
    h.columns c = .error (.missingColumn name role) := by
  unfold missing? required at hmissing
  unfold columns
  -- the columns are sought one after the other, and the first failure ends the search
  cases hx : c.columns.contains "x".toList
  case false =>
    simp only [List.find?_cons, hx, Bool.not_false, Option.some.injEq, Prod.mk.injEq] at hmissing
    rw [need_eq_error hx, ← hmissing.1, ← hmissing.2]
    rfl
  obtain ⟨x, -, hneedx⟩ := exists_need hx .coordinate
  cases hy : c.columns.contains "y".toList
  case false =>
    simp only [List.find?_cons, hx, hy, Bool.not_true, Bool.not_false, Option.some.injEq,
      Prod.mk.injEq] at hmissing
    rw [hneedx, need_eq_error hy, ← hmissing.1, ← hmissing.2]
    rfl
  obtain ⟨y, -, hneedy⟩ := exists_need hy .coordinate
  simp only [List.find?_cons, hx, hy, Bool.not_true, List.find?_append, List.find?_map,
    Function.comp_def] at hmissing
  simp only [hneedx, hneedy, bind, Except.bind]
  cases hgroup : h.groups.find? (!c.columns.contains ·) with
  | some group =>
    simp only [hgroup, Option.map_some, Option.some_or, Option.some.injEq,
      Prod.mk.injEq] at hmissing
    rw [mapM_need_eq_error hgroup, ← hmissing.1, ← hmissing.2]
  | none =>
    simp only [hgroup, Option.map_none, Option.none_or] at hmissing
    simp only [List.find?_eq_none, Bool.not_eq_true', Bool.not_eq_false] at hgroup
    obtain ⟨js, hjs, -⟩ := exists_mapM_need hgroup .group
    simp only [hjs]
    -- so it is the column of the legends, and there is one
    cases hlegend : h.legend.column? with
    | none => simp [hlegend] at hmissing
    | some legend =>
      simp only [hlegend, Option.toList_some, List.find?_cons, List.find?_nil] at hmissing
      cases hl : c.columns.contains legend with
      | true =>
        simp only [hl, Bool.not_true, Option.map_none] at hmissing
        cases hmissing
      | false =>
        simp only [hl, Bool.not_false, Option.map_some, Option.some.injEq,
          Prod.mk.injEq] at hmissing
        rw [← hmissing.1, ← hmissing.2]
        simp only [need_eq_error hl, Functor.map, Except.map]

/-- With all of the columns, a plot finds their places. -/
theorem exists_columns (hmissing : h.missing? c = none) :
    ∃ cols, h.columns c = .ok cols ∧ Finds h c cols := by
  simp only [missing?, List.find?_eq_none, Bool.not_eq_true', Bool.not_eq_false, required,
    List.forall_mem_cons, List.forall_mem_append, List.forall_mem_map] at hmissing
  obtain ⟨hx, hy, hgroups, hlegend⟩ := hmissing
  obtain ⟨x, hx, hneedx⟩ := exists_need hx .coordinate
  obtain ⟨y, hy, hneedy⟩ := exists_need hy .coordinate
  obtain ⟨groups, hneed, hgroups⟩ := exists_mapM_need hgroups .group
  unfold columns
  simp only [hneedx, hneedy, hneed, bind, Except.bind]
  cases hcolumn : h.legend.column? with
  | none => exact ⟨_, rfl, ⟨hx, hy, rfl, rfl, hgroups, hcolumn ▸ .none⟩⟩
  | some name =>
    obtain ⟨j, hj, hneed⟩ := exists_need (hlegend name (Option.mem_toList.2 hcolumn)) .legend
    refine ⟨⟨x, y, c.findColumn? "xerr", c.findColumn? "yerr", groups, some j⟩, ?_, ?_⟩
    · simp only [hneed, Functor.map, Except.map]
    · exact ⟨hx, hy, rfl, rfl, hgroups, hcolumn ▸ .some hj⟩

/-! ## Rows -/

/-- The error term of a row in a column that a result may have. -/
def errorTerm (c : Cursor) (row : List Cell) (name : Text) : Option Text :=
  if c.columns.contains name then some (c.named row name).text else none

/-- The legend of a curve that begins with a row: the text in the column of the legends or, if there
is none, the columns of the header, each with the text that stands in it. -/
def legendOf (h : MultiPlotHeader) (c : Cursor) (row : List Cell) : Text :=
  match h.legend with
  | .groups => join [','] (h.groups.map fun name => name ++ '=' :: (c.named row name).text)
  | .title => (c.named row "title").text
  | .plainTitle => (c.named row "ptitle").text

/-- What a plot makes of a row with both coordinates. -/
def view (h : MultiPlotHeader) (c : Cursor) (row : List Cell) : PlotRow where
  key := h.groups.map fun name => (c.named row name).text
  legend := h.legendOf c row
  point := {
    x := (c.named row "x").text
    y := (c.named row "y").text
    xError := errorTerm c row "xerr"
    yError := errorTerm c row "yerr" }

theorem groupLegend_map (names : List Text) (value : Text → Text) :
    groupLegend names (names.map value) =
      join [','] (names.map fun name => name ++ '=' :: value name) := by
  rw [groupLegend, List.zipWith_map_right, List.zipWith_self]

namespace Finds

variable {row : List Cell}

theorem textAt_eq (hlength : row.length = c.columns.length) {name : Text} {j : Nat}
    (h : c.findColumn? name = some j) : textAt row j = (c.named row name).text := by
  rw [textAt, Cursor.cellOf_eq_named hlength h]

theorem map_textAt (hlength : row.length = c.columns.length) (name : Text) :
    (c.findColumn? name).map (textAt row) = errorTerm c row name := by
  rw [errorTerm]
  cases hname : c.columns.contains name with
  | true =>
    obtain ⟨j, hj⟩ := Cursor.exists_findColumn? hname
    rw [hj, Option.map_some, textAt_eq hlength hj, if_pos rfl]
  | false => rw [Cursor.findColumn?_eq_none hname, Option.map_none, if_neg (by decide)]

/-- The legends have a column of their own unless they come from the columns of the header. -/
theorem legend_eq (hf : Finds h c cols) (hlength : row.length = c.columns.length) :
    cols.legend.elim (groupLegend h.groups (h.groups.map fun name => (c.named row name).text))
      (textAt row) = h.legendOf c row := by
  have hrel := hf.legend
  unfold legendOf
  cases hsource : h.legend with
  | groups =>
    rw [hsource] at hrel
    cases hcols : cols.legend with
    | none => exact groupLegend_map _ _
    | some j =>
      rw [hcols] at hrel
      cases hrel
  | title | plainTitle =>
    rw [hsource] at hrel
    cases hcols : cols.legend with
    | none =>
      rw [hcols] at hrel
      cases hrel
    | some j =>
      rw [hcols] at hrel
      cases hrel with
      | some hj => exact textAt_eq hlength hj

/-- A row is seen by the names of its columns. -/
theorem plotRow?_eq (hf : Finds h c cols) (hlength : row.length = c.columns.length) :
    h.plotRow? cols row = if c.isComplete row then some (h.view c row) else none := by
  have hkey : cols.groups.map (textAt row) =
      h.groups.map fun name => (c.named row name).text := by
    have hgroups := hf.groups
    generalize cols.groups = js, h.groups = names at hgroups ⊢
    induction hgroups with
    | nil => rfl
    | cons hj _ ih => rw [List.map_cons, List.map_cons, textAt_eq hlength hj, ih]
  have hcomplete : c.isComplete row = true ↔
      ¬ (ResultTable.cellOf row cols.x = none ∨ ResultTable.cellOf row cols.y = none) := by
    rw [Cursor.cellOf_eq_named hlength hf.x, Cursor.cellOf_eq_named hlength hf.y, not_or,
      Cursor.isComplete, Bool.and_eq_true, Option.isSome_iff_ne_none, Option.isSome_iff_ne_none]
  simp only [ plotRow?, hkey, hf.xError, hf.yError, map_textAt hlength, textAt_eq hlength hf.x,
    textAt_eq hlength hf.y]
  by_cases hc : c.isComplete row = true
  · rw [if_pos hc, if_neg (hcomplete.1 hc)]
    rw [view, ← hf.legend_eq hlength]
    cases cols.legend <;> rfl
  · rw [if_neg hc, if_pos (not_not.1 (mt hcomplete.2 hc))]

/-- The rows that are left are the complete ones. -/
theorem filterMap_plotRow? (hf : Finds h c cols) {rows : List (List Cell)}
    (hlength : ∀ row ∈ rows, row.length = c.columns.length) :
    rows.filterMap (h.plotRow? cols) = (rows.filter c.isComplete).map (h.view c) := by
  induction rows with
  | nil => rfl
  | cons row rows ih =>
    obtain ⟨hrow, hrows⟩ := List.forall_mem_cons.1 hlength
    rw [List.filterMap_cons, List.filter_cons, hf.plotRow?_eq hrow, ih hrows]
    split <;> simp_all

end Finds

/-- The curves of a plot are the runs of its complete rows. -/
theorem exists_runs_plotOf (hf : Finds h c cols) {rows : List (List Cell)}
    (hlength : ∀ row ∈ rows, row.length = c.columns.length) :
    ∃ runs, IsRuns (fun row => (h.view c row).key) (rows.filter c.isComplete) runs ∧
      List.Forall₂ (IsCurve (h.view c) (h.legend == .plainTitle)) runs
        (h.plotOf cols rows).series := by
  obtain ⟨runs, hruns, hcurves⟩ :=
    exists_runs (h.view c) (h.legend == .plainTitle) (rows.filter c.isComplete)
  refine ⟨runs, hruns, ?_⟩
  rw [plotOf, hf.filterMap_plotRow? hlength, List.forall₂_map_right_iff]
  exact hcurves.imp fun _ _ h => h.2

end MultiPlotHeader

namespace Action

open MultiPlotHeader

variable {ω κ : Type}

/-- Warnings are always told. -/
private theorem exists_forM_warn (rows : List Nat) (s : Session ω κ) :
    ∃ s', (rows.forM fun i => (warn (.skippedRow i) : Action ω κ Unit)) s = .ok () s' := by
  induction rows generalizing s with
  | nil => exact ⟨s, rfl⟩
  | cons i rows ih => exact ih _

/-- With its columns in place, a plot depends on what is read. -/
private theorem exists_gatherCurves {h : MultiPlotHeader} {c : Cursor} {cols : PlotColumns}
    (hcols : h.columns c = .ok cols) (s : Session ω κ) :
    ∃ s', gatherCurves h c s = match c.read.2 with
      | none => .ok (h.plotOf cols c.read.1) s'
      | some message => .error (.query c.query message) s' := by
  obtain ⟨s', hs'⟩ := exists_forM_warn (h.skipped cols c.next c.read.1) s
  refine ⟨s', ?_⟩
  simp only [gatherCurves, hcols, Except.mapError, ofExcept, bind, EStateM.bind, pure, EStateM.pure,
    hs']
  cases c.read.2 <;> rfl

/-- A plot of several curves fails if a column is missing, and names the first such column. Else it
goes along the rows of the result. If it comes to a row that cannot be read, it fails with what the
database says, and there is no plot. If it comes to the end, there is a plot: the rows with both
coordinates are cut into runs with the same values in the columns of the header, which are as long
as possible, and every run is a curve with all of its points and the legend of its first row. -/
theorem gatherCurves_runs (h : MultiPlotHeader) (c : Cursor) (s : Session ω κ) :
    (∀ name role, h.missing? c = some (name, role) →
      gatherCurves h c s = .error (.shape (.missingColumn name role)) s) ∧
    (h.missing? c = none → ∀ rows d, c.Walks rows d →
      (∀ message, d.step = .error message →
        ∃ s', gatherCurves h c s = .error (.query c.query message) s') ∧
      ∀ e, d.step = .ok (false, e) → ∃ p s' runs, gatherCurves h c s = .ok p s' ∧
        (p.series.map Series.points).flatten =
          (rows.filter c.isComplete).map (fun row => (h.view c row).point) ∧
        IsRuns (fun row => (h.view c row).key) (rows.filter c.isComplete) runs ∧
        List.Forall₂ (IsCurve (h.view c) (h.legend == .plainTitle)) runs p.series ∧
        (p.hasErrors = true ↔ "xerr".toList ∈ c.columns ∨ "yerr".toList ∈ c.columns)) := by
  refine ⟨fun name role hmissing => ?_, fun hmissing rows d hwalk => ?_⟩
  · simp only [gatherCurves, columns_eq_error hmissing]
    rfl
  obtain ⟨cols, hcols, hf⟩ := exists_columns hmissing
  obtain ⟨s', hgather⟩ := exists_gatherCurves hcols s
  rw [hwalk.read_eq] at hgather
  constructor
  · intro message hbreak
    rw [Cursor.read_of_break hbreak] at hgather
    exact ⟨s', hgather⟩
  · intro e hend
    rw [Cursor.read_of_end hend, List.append_nil] at hgather
    obtain ⟨runs, hruns, hcurves⟩ := exists_runs_plotOf hf hwalk.length_of_mem
    refine ⟨_, s', runs, hgather, ?_, hruns, hcurves, ?_⟩
    · -- the points come in the order of the rows
      rw [plotOf, List.map_map, hf.filterMap_plotRow? hwalk.length_of_mem]
      exact (points_gather _ _).trans (List.map_map ..)
    · simp only [plotOf, hf.xError, hf.yError, Cursor.isSome_findColumn?, Bool.or_eq_true,
        List.contains_iff_mem]

/-- Two curves with a row between the rows of the first one that has no coordinate; three curves
with legends from two columns; the same result when a step fails after it, and when there is no
column for a coordinate. -/
theorem gatherCurves_runs_unsorted :
    let h : MultiPlotHeader := ⟨["g".toList], .plainTitle, "SELECT g, x, y, ptitle FROM t".toList⟩
    let listed : MultiPlotHeader :=
      { h with groups := ["g".toList, "ptitle".toList], legend := .groups }
    let row (g : Text) (x y : Cell) (title : Text) : List Cell := [some g, x, y, some title]
    let rows := [row ['a'] (some ['1']) none ['?'], row ['a'] (some ['1']) (some ['2']) ['A'],
      row ['b'] none (some ['3']) ['?'], row ['a'] (some ['4']) (some ['5']) ['?'],
      row ['b'] (some ['6']) (some ['7']) ['B']]
    let c : Cursor :=
      { query := h.query, rows, columns := ["g".toList, ['x'], ['y'], "ptitle".toList] }
    let broken : Cursor := { c with breaksAt := some (5, "interrupted".toList) }
    let other : Cursor := { c with columns := ["g".toList, ['x'], ['z'], "ptitle".toList] }
    let s : Session Unit Unit := ⟨(), (), []⟩
    (∃ p s', gatherCurves h c s = .ok p s' ∧ (p.series.map Series.points).flatten =
        [⟨['1'], ['2'], none, none⟩, ⟨['4'], ['5'], none, none⟩, ⟨['6'], ['7'], none, none⟩] ∧
        p.series.map Series.legend = [['A'], ['B']]) ∧
      (∃ p s', gatherCurves listed c s = .ok p s' ∧ p.series.map Series.legend =
        ["g=a,ptitle=A".toList, "g=a,ptitle=?".toList, "g=b,ptitle=B".toList]) ∧
      (∃ s', gatherCurves h broken s = .error (.query h.query "interrupted".toList) s') ∧
      gatherCurves h other s = .error (.shape (.missingColumn ['y'] .coordinate)) s := by
  intro h listed row rows c broken other s
  have hwalk : c.Walks rows { c with position := some 4 } :=
    .step (d := { c with position := some 0 }) rfl <|
    .step (d := { c with position := some 1 }) rfl <|
    .step (d := { c with position := some 2 }) rfl <|
    .step (d := { c with position := some 3 }) rfl <|
    .step (d := { c with position := some 4 }) rfl (.refl _)
  have hwalk' : broken.Walks rows { broken with position := some 4 } :=
    .step (d := { broken with position := some 0 }) rfl <|
    .step (d := { broken with position := some 1 }) rfl <|
    .step (d := { broken with position := some 2 }) rfl <|
    .step (d := { broken with position := some 3 }) rfl <|
    .step (d := { broken with position := some 4 }) rfl (.refl _)
  refine ⟨?_, ?_, ?_, ?_⟩
  · obtain ⟨p, s', runs, hplot, hpoints, hruns, hcurves, -⟩ :=
      ((gatherCurves_runs h c s).2 (by decide) rows _ hwalk).2 _ rfl
    have hcut : runs = [[rows[1], rows[3]], [rows[4]]] := hruns.unique.trans (by decide +kernel)
    subst hcut
    exact ⟨p, s', hplot, hpoints.trans (by decide +kernel),
      map_legend_eq hcurves (by decide +kernel)⟩
  · obtain ⟨p, s', runs, hplot, -, hruns, hcurves, -⟩ :=
      ((gatherCurves_runs listed c s).2 (by decide) rows _ hwalk).2 _ rfl
    have hcut : runs = [[rows[1]], [rows[3]], [rows[4]]] := hruns.unique.trans (by decide +kernel)
    subst hcut
    exact ⟨p, s', hplot, map_legend_eq hcurves (by decide +kernel)⟩
  · exact ((gatherCurves_runs h broken s).2 (by decide) rows _ hwalk').1 _ rfl
  · exact (gatherCurves_runs h other s).1 _ _ (by decide)

end Action

end QueryWeave
