import QueryWeave.Proofs.DatabasePlaces

/-!
# Commands that only check

A command that checks reads and runs its documents as any other command, and compares what comes of
them with the files where it would be written. Nothing is written, so that the documents are run one
after the other as if nothing stood between them (`Step.rewriteAll`). The data of a document are
compared right after it was run, the target in the end; only databases can have changed anything
until then.

Main statements: `Step.processAll_eq_ok_of_check`, `Invocation.run_check`.
-/

namespace QueryWeave

open Text QueryWeave.Tree

variable {κ : Type} {b : Backend Tree κ} {F : Footprint κ} {t : Tree} {first target : Text}
  {transcript : List Event}

namespace Step

/-! ## All documents of a command -/

/-- Does something, and shows the directory tree that it leaves. -/
def withTree {α : Type} (x : Step κ α) : Step κ (α × Tree) := do
  let y ← x
  return (y, ← tree)

/-- Reads and runs the document from the standard input, and writes nothing. -/
def rewriteInput (b : Backend Tree κ) (a : Arguments) (input : ByteArray) : Step κ Rewritten := do
  match a.kind with
  | none => throw (.usage .noKind)
  | some kind =>
    match Document.ofUtf8? input with
    | none => throw (.access inputName .notText)
    | some d =>
      let (d, o) ← process b a kind inputName d
      return .ofRun inputName [] d o

/-- Reads and runs all documents, and writes nothing. Each one comes with the directory tree right
behind its run. -/
def rewriteAll (b : Backend Tree κ) (a : Arguments) (input : ByteArray) :
    Step κ (List (Rewritten × Tree)) := do
  if a.files.isEmpty then return [← withTree (rewriteInput b a input)]
  else (inputs (← tree) a.files).mapM fun path => withTree (rewrite b a path)

theorem processInput_eq (b : Backend Tree κ) (a : Arguments) (input : ByteArray) :
    processInput b a input = (do
      let r ← rewriteInput b a input
      emitAll a ((a.output.getD ['-'], r.text) :: r.dataTexts)) := by
  unfold processInput rewriteInput
  cases a.kind with
  | none => rfl
  | some kind =>
    cases Document.ofUtf8? input with
    | none => rfl
    | some d =>
      simp only [bind_assoc, pure_bind]
      refine bind_congr fun ⟨d, o⟩ => ?_
      rw [emitAll_cons, ← emitData_eq a inputName]
      rfl

variable {a : Arguments} {path : Path} {s : Text} {desk desk' : Desk κ}

theorem withTree_eq_ok {α : Type} {x : Step κ α} {y : α × Tree} :
    withTree x desk = .ok y desk' ↔ x desk = .ok y.1 desk' ∧ y.2 = desk'.session.world := by
  obtain ⟨z, u⟩ := y
  simp only [withTree, bind_eq_ok, tree_eq_ok, pure_eq_ok, Prod.mk.injEq]
  constructor
  · rintro ⟨z', desk₁, hx, u', _, ⟨rfl, rfl⟩, ⟨rfl, rfl⟩, rfl⟩
    exact ⟨hx, rfl⟩
  · rintro ⟨hx, rfl⟩
    exact ⟨z, desk', hx, _, desk', ⟨rfl, rfl⟩, ⟨rfl, rfl⟩, rfl⟩

/-! ## Checks leave everything as it is -/

theorem emit_eq_ok_of_check (hcheck : a.check = true) : emit a path s desk = .ok () desk' ↔
    desk.session.world.readText path = .ok s ∧ desk = desk' := by
  rw [emit, hcheck, if_pos rfl, check_eq_ok]

theorem emitAll_eq_ok_of_check (hcheck : a.check = true) {texts : List (Path × Text)} :
    emitAll a texts desk = .ok () desk' ↔
      (∀ w ∈ texts, desk.session.world.readText w.1 = .ok w.2) ∧ desk = desk' := by
  induction texts generalizing desk with
  | nil =>
    show EStateM.Result.ok () desk = _ ↔ _
    simp
  | cons w texts ih =>
    simp only [emitAll_cons, bind_eq_ok, emit_eq_ok_of_check hcheck, ih]
    constructor
    · rintro ⟨_, _, ⟨hw, rfl⟩, hrest, rfl⟩
      exact ⟨List.forall_mem_cons.2 ⟨hw, hrest⟩, rfl⟩
    · rintro ⟨hall, rfl⟩
      obtain ⟨hw, hrest⟩ := List.forall_mem_cons.1 hall
      exact ⟨(), _, ⟨hw, rfl⟩, hrest, rfl⟩

namespace Leaves

protected theorem check (path : Path) (s : Text) : Leaves b (check path s) := by
  refine .bind .tree fun u => ?_
  cases u.readText path with
  | error e => exact .throw _
  | ok expected =>
    dsimp only
    split
    · exact .throw _
    · exact .pure _

protected theorem emitAll (hcheck : a.check = true) (texts : List (Path × Text)) :
    Leaves b (emitAll a texts) := by
  induction texts with
  | nil => exact .pure _
  | cons w texts ih =>
    rw [emitAll_cons, emit, hcheck]
    exact .bind (.check _ _) fun _ => ih

protected theorem rewriteInput (a : Arguments) (input : ByteArray) :
    Leaves b (rewriteInput b a input) := by
  unfold rewriteInput
  cases a.kind with
  | none => exact .throw _
  | some kind =>
    cases Document.ofUtf8? input with
    | none => exact .throw _
    | some d => exact .bind (.process _ _ _ _ _) fun _ => .pure _

protected theorem withTree {α : Type} {x : Step κ α} (hx : Leaves b x) : Leaves b (withTree x) :=
  .bind hx fun _ => .bind .tree fun _ => .pure _

/-- A command that checks writes nothing. -/
protected theorem processAll (hcheck : a.check = true) (input : ByteArray) :
    Leaves b (processAll b a input) := by
  unfold processAll
  split
  · rw [processInput_eq]
    exact .bind (.rewriteInput a input) fun _ => .emitAll hcheck _
  · refine .bind .tree fun u => .bind (.mapM fun path => ?_) fun texts => ?_
    · rw [processFile_eq]
      exact .bind (.rewrite b a path) fun _ => .bind (.emitAll hcheck _) fun _ => .pure _
    · cases a.output with
      | none => exact .pure _
      | some target =>
        dsimp only
        rw [emit, hcheck]
        exact .check _ _

end Leaves

/-! ## What is compared -/

variable {paths : List Path} {rs : List Rewritten} {rus : List (Rewritten × Tree)}

/-- With a target, only the data of a document are compared before the next one is run. -/
theorem runs_iff_of_check (hcheck : a.check = true) (hout : a.output = some target) :
    Runs b a paths desk rs desk' ↔ ∃ rus,
      paths.mapM (fun path => withTree (rewrite b a path)) desk = .ok rus desk' ∧
        rs = rus.map Prod.fst ∧ ∀ r ∈ rus, ∀ w ∈ r.1.dataTexts, r.2.readText w.1 = .ok w.2 := by
  induction paths generalizing desk rs with
  | nil =>
    simp only [List.mapM_nil, pure_eq_ok]
    constructor
    · rintro ⟨⟩
      exact ⟨[], ⟨rfl, rfl⟩, rfl, by simp⟩
    · rintro ⟨rus, ⟨rfl, rfl⟩, rfl, -⟩
      exact .nil
  | cons path paths ih =>
    simp only [List.mapM_cons, bind_eq_ok, pure_eq_ok, withTree_eq_ok]
    constructor
    · intro hruns
      cases hruns with
      | cons hr hemit hlater =>
        rw [Rewritten.texts_of_target hout, emitAll_eq_ok_of_check hcheck] at hemit
        obtain ⟨hdata, rfl⟩ := hemit
        obtain ⟨rus, hmap, rfl, hrest⟩ := ih.1 hlater
        exact ⟨_, ⟨(_, _), _, ⟨hr, rfl⟩, rus, _, hmap, rfl, rfl⟩, rfl,
          List.forall_mem_cons.2 ⟨hdata, hrest⟩⟩
    · rintro ⟨_, ⟨⟨r, u⟩, desk₁, ⟨hr, rfl⟩, rus, _, hmap, rfl, rfl⟩, rfl, hall⟩
      obtain ⟨hdata, hrest⟩ := List.forall_mem_cons.1 hall
      refine .cons hr ?_ (ih.2 ⟨rus, hmap, rfl, hrest⟩)
      rw [Rewritten.texts_of_target hout, emitAll_eq_ok_of_check hcheck]
      exact ⟨hdata, rfl⟩

/-- A command that checks is through if all documents can be read and run, and what comes of them is
what stands in the files. -/
theorem processAll_eq_ok_of_check (hcheck : a.check = true) (hout : a.output = some target)
    {input : ByteArray} : processAll b a input desk = .ok () desk' ↔
      ∃ rus, rewriteAll b a input desk = .ok rus desk' ∧
        desk'.session.world.readText target = .ok (rus.flatMap fun r => r.1.text) ∧
        ∀ r ∈ rus, ∀ w ∈ r.1.dataTexts, r.2.readText w.1 = .ok w.2 := by
  by_cases hfiles : a.files = []
  · -- the document from the standard input is compared with the target before its data are
    have hprocess : processAll b a input = processInput b a input := by simp [processAll, hfiles]
    have hrewrite : rewriteAll b a input =
        (do return [← withTree (rewriteInput b a input)]) := by
      simp [rewriteAll, hfiles]
    rw [hprocess, processInput_eq, hrewrite, hout]
    simp only [Option.getD_some, bind_eq_ok, pure_eq_ok, withTree_eq_ok,
      emitAll_eq_ok_of_check hcheck, List.forall_mem_cons]
    constructor
    · rintro ⟨r, desk₁, hr, ⟨htext, hdata⟩, rfl⟩
      exact ⟨[(r, _)], ⟨(r, _), _, ⟨hr, rfl⟩, rfl, rfl⟩, by simpa using htext,
        List.forall_mem_singleton.2 hdata⟩
    · rintro ⟨_, ⟨⟨r, u⟩, desk₁, ⟨hr, rfl⟩, rfl, rfl⟩, htext, hdata⟩
      exact ⟨r, desk₁, hr, ⟨by simpa using htext, List.forall_mem_singleton.1 hdata⟩, rfl⟩
  · have hrewrite : rewriteAll b a input desk = (inputs desk.session.world a.files).mapM
        (fun path => withTree (rewrite b a path)) desk := by
      have hempty : a.files.isEmpty = false := by simpa using hfiles
      simp only [rewriteAll, hempty, Bool.false_eq_true, if_false]
      rfl
    rw [processAll_eq_ok hfiles, hrewrite]
    simp only [Rewritten.targetTexts, hout, Option.toList_some, List.map_singleton,
      emitAll_eq_ok_of_check hcheck, runs_iff_of_check hcheck hout, List.forall_mem_singleton]
    constructor
    · rintro ⟨_, _, ⟨rus, hmap, rfl, hall⟩, htext, rfl⟩
      exact ⟨rus, hmap, by rwa [List.flatMap_map] at htext, hall⟩
    · rintro ⟨rus, hmap, htext, hall⟩
      exact ⟨_, _, ⟨rus, hmap, rfl, hall⟩, by rwa [List.flatMap_map], rfl⟩

/-! ## What the databases have not changed -/

/-- Only databases change the tree while documents are run. -/
theorem changesOnly_of_mapM (hb : b.KeepsTo F t first transcript)
    (hdesk : desk.session.Guarded F t transcript t.node?)
    (h : paths.mapM (fun path => withTree (rewrite b a path)) desk = .ok rus desk')
    (hsub : desk'.session.transcript ⊆ transcript) :
    t.ChangesOnly F.places desk'.session.world ∧ ∀ r ∈ rus, t.ChangesOnly F.places r.2 := by
  induction paths generalizing desk rus with
  | nil =>
    rw [List.mapM_nil, pure_eq_ok] at h
    obtain ⟨rfl, rfl⟩ := h
    exact ⟨(hdesk hsub).changesOnly, by simp⟩
  | cons path paths ih =>
    simp only [List.mapM_cons, bind_eq_ok, pure_eq_ok] at h
    obtain ⟨⟨r, u⟩, desk₁, hr, rus, _, hmap, rfl, rfl⟩ := h
    have hlater : Leaves b (paths.mapM fun path => withTree (rewrite b a path)) :=
      .mapM fun path => .withTree (.rewrite b a path)
    obtain ⟨hr, rfl⟩ := withTree_eq_ok.1 hr
    have hdesk₁ := (Leaves.rewrite b a path).guarded (after_of_ok hr) hb hdesk
    have htold := hlater.transcript_grows (after_of_ok hmap)
    obtain ⟨hend, hrest⟩ := ih hdesk₁ hmap
    exact ⟨hend, List.forall_mem_cons.2
      ⟨(hdesk₁ (List.Subset.trans htold.subset hsub)).changesOnly, hrest⟩⟩

theorem changesOnly_of_rewriteAll (hb : b.KeepsTo F t first transcript)
    (hdesk : desk.session.Guarded F t transcript t.node?) {input : ByteArray}
    (h : rewriteAll b a input desk = .ok rus desk')
    (hsub : desk'.session.transcript ⊆ transcript) :
    t.ChangesOnly F.places desk'.session.world ∧ ∀ r ∈ rus, t.ChangesOnly F.places r.2 := by
  unfold rewriteAll at h
  split at h
  · simp only [bind_eq_ok, pure_eq_ok, withTree_eq_ok] at h
    obtain ⟨⟨r, u⟩, desk₁, ⟨hr, rfl⟩, rfl, rfl⟩ := h
    have hend := ((Leaves.rewriteInput a input).guarded (after_of_ok hr) hb hdesk hsub).changesOnly
    exact ⟨hend, List.forall_mem_singleton.2 hend⟩
  · simp only [bind_eq_ok, tree_eq_ok] at h
    obtain ⟨_, _, ⟨rfl, rfl⟩, hmap⟩ := h
    exact changesOnly_of_mapM hb hdesk hmap hsub

end Step

/-! ## Commands -/

theorem Rewritten.forall_dataTexts_iff {u : Tree} {r : Rewritten} :
    (∀ w ∈ r.dataTexts, u.readText w.1 = .ok w.2) ↔
      ∀ f ∈ r.data, u.readText (r.directory.below f.name) = .ok f.contents := by
  simp [dataTexts]

namespace Invocation

variable {i : Invocation} {a : Arguments}

section

variable (ha : i.arguments? = some a) (hcommand : a.command = none) (hcheck : a.check = true)

include ha hcommand hcheck

/-- A command that checks its documents changes nothing but what belongs to its databases, and
prints nothing. -/
theorem runOn_unchanged_of_check (hdatabases : i.KeepsTo b F a) :
    AgreesOff F.places i.tree.node? (i.runOn b).tree.node? ∧ (i.runOn b).output = [] := by
  by_cases hopens : ∃ t desk, i.Opens b a t desk
  · obtain ⟨t, desk, hopens⟩ := hopens
    have hb := hdatabases t hopens.entered
    have hleaves : Step.Leaves b (Step.processAll b a i.input) := .processAll hcheck i.input
    obtain ⟨exitCode, failure, desk', hafter, hrun⟩ : ∃ exitCode failure desk',
        (Step.processAll b a i.input).after desk = desk' ∧
          i.runOn b = report.closed b i exitCode failure desk' := by
      rw [runOn_eq ha hopens, Step.perform_eq_processAll hcommand]
      cases hprocess : Step.processAll b a i.input desk with
      | ok x desk' => exact ⟨_, _, desk', Step.after_of_ok hprocess, rfl⟩
      | error e desk' => exact ⟨_, _, desk', Step.after_of_error hprocess, rfl⟩
    constructor
    · rw [← node?_of_entered hopens.entered]
      exact agreesOff_closed hdatabases hopens.entered hrun
        (hleaves.guarded hafter hb fun _ => hopens.intact hdatabases)
    · have hprinted := hleaves.output desk
      rw [hafter, hopens.output] at hprinted
      rw [hrun]
      exact hprinted
  · obtain ⟨-, hprinted, hagrees⟩ :=
      runOn_of_not_opens hdatabases ha fun t desk h => hopens ⟨t, desk, h⟩
    exact ⟨hagrees, hprinted⟩

/-- When a command that checks its documents succeeds. -/
theorem exitCode_eq_zero_iff_of_check (hout : a.output = some target) :
    (i.runOn b).exitCode = 0 ↔ ∃ t desk rus desk', i.Opens b a t desk ∧
      Step.rewriteAll b a i.input desk = .ok rus desk' ∧
      desk'.session.world.readText target = .ok (rus.flatMap fun r => r.1.text) ∧
      ∀ r ∈ rus, ∀ f ∈ r.1.data, r.2.readText (r.1.directory.below f.name) = .ok f.contents := by
  rw [exitCode_eq_zero_iff ha, Step.perform_eq_processAll hcommand]
  simp only [Step.processAll_eq_ok_of_check hcheck hout, Rewritten.forall_dataTexts_iff]
  constructor
  · rintro ⟨t, desk, desk', hopens, rus, hrewrite, htext, hdata⟩
    exact ⟨t, desk, rus, desk', hopens, hrewrite, htext, hdata⟩
  · rintro ⟨t, desk, rus, desk', hopens, hrewrite, htext, hdata⟩
    exact ⟨t, desk, desk', hopens, rus, hrewrite, htext, hdata⟩

end

/-- A command that checks its documents changes no file but those of its databases, and prints
nothing. It succeeds if and only if it gets to its database, all documents can be read and run, the
target holds what they are rewritten to, one after the other, and the data of each of them are in
their file. The files are looked at when the documents were run. A file that belongs to no database
holds then what it held in the beginning, as far as the databases keep to what belongs to them. -/
theorem run_check (hdatabases : i.KeepsTo b F a) (hnamed : i.tree.IsNamed)
    (ha : i.arguments? = some a) (hcommand : a.command = none) (hcheck : a.check = true)
    (hout : a.output = some target) :
    (∀ p, ¬ F.places p → (i.runOn b).tree.node? p = i.tree.node? p) ∧ (i.runOn b).output = [] ∧
    ((i.runOn b).exitCode = 0 ↔ ∃ t desk rus desk', i.Opens b a t desk ∧
      Step.rewriteAll b a i.input desk = .ok rus desk' ∧
      desk'.session.world.readText target = .ok (rus.flatMap fun r => r.1.text) ∧
      ∀ r ∈ rus, ∀ f ∈ r.1.data, r.2.readText (r.1.directory.below f.name) = .ok f.contents) ∧
    ∀ t desk rus desk', i.Opens b a t desk → Step.rewriteAll b a i.input desk = .ok rus desk' →
      b.KeepsTo F t (a.database.getD []) desk'.session.transcript →
      ∀ u ∈ desk'.session.world :: rus.map Prod.snd, ∀ path,
        (∀ p, t.resolve path = .ok p → ¬ F.places p) →
        ∀ s, u.readText path = .ok s ↔ t.readText path = .ok s := by
  obtain ⟨hagrees, hprinted⟩ := runOn_unchanged_of_check ha hcommand hcheck hdatabases
  refine ⟨hagrees, hprinted, exitCode_eq_zero_iff_of_check ha hcommand hcheck hout, ?_⟩
  intro t desk rus desk' hopens hrewrite hb u hu path hpath s
  obtain ⟨hend, htrees⟩ := Step.changesOnly_of_rewriteAll hb
    (fun _ => hopens.intact hdatabases) hrewrite (List.Subset.refl _)
  have hchanges : t.ChangesOnly F.places u := by
    rcases List.mem_cons.1 hu with rfl | hu
    · exact hend
    · obtain ⟨r, hr, rfl⟩ := List.mem_map.1 hu
      exact htrees r hr
  exact hchanges.readText_eq_ok (hopens.isNamed hnamed) hpath

/-- A document and its data are what they were rewritten to before. -/
theorem run_check_plot :
    let i := withFiles ["-C".toList, "-o".toList, "out.gp".toList, "x.gp".toList]
      [("x.gp".toList, "# PLOT SELECT 1 AS x, 2 AS y\n".toList),
        ("out.gp".toList, "# PLOT SELECT 1 AS x, 2 AS y\nplot \\\n".toList ++
          "    'x-data.txt' index 0 with linespoints\n".toList),
        ("x-data.txt".toList, fill 80 '#' ++
          "\n# PLOT SELECT 1 AS x, 2 AS y\n#\n1\t2\n\n\n".toList)]
    let a : Arguments := { check := true, output := some "out.gp".toList, files := ["x.gp".toList] }
    i.run.tree.node? ["x.gp".toList] = i.tree.node? ["x.gp".toList] ∧ i.run.output = [] ∧
    ∃ t desk rus desk', i.Opens Connection.backend a t desk ∧
      Step.rewriteAll Connection.backend a i.input desk = .ok rus desk' ∧
      desk'.session.world.readText "out.gp".toList = .ok (rus.flatMap fun r => r.1.text) ∧
      ∀ r ∈ rus, ∀ f ∈ r.1.data,
        r.2.readText (r.1.directory.below f.name) = .ok f.contents := by
  intro i a
  have hmemory : ∀ p, ¬ i.tree.IsDatabase (i.targets a) p :=
    not_isDatabase_of_memory (by decide +kernel)
  obtain ⟨hsame, hprinted, hsuccess, -⟩ := run_check (i := i) (a := a)
    (keepsTo_footprint List.not_mem_nil rfl) List.not_mem_nil (by decide +kernel) rfl rfl rfl
  exact ⟨hsame _ (hmemory _), hprinted, hsuccess.1 (by decide +kernel)⟩

end Invocation

end QueryWeave
