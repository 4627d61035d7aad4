import QueryWeave.Proofs.DataFileContents
import QueryWeave.Proofs.DatabasePlaces

/-!
# What a command leaves

A command over files that succeeds leaves every text that it has written where nothing else was
written later, and everything else as it was, except for what belongs to its databases
(`Invocation.exists_runs_of_success`). In particular, the data of a document are still in the file
that its plot statement names, unless another document of the command has its data in the same file,
or is this file itself: the names of data files are not told apart.

Main statement: `Invocation.run_keeps_data_iff`.
-/

namespace QueryWeave

open Text QueryWeave.Tree

namespace Invocation

variable {κ : Type} {b : Backend Tree κ} {F : Footprint κ} {i : Invocation} {a : Arguments}

/-- What stands in the directory tree after a command over files that succeeds. -/
theorem exists_runs_of_success (hdatabases : i.KeepsTo b F a) (hnamed : i.tree.IsNamed)
    (ha : i.arguments? = some a) (hcommand : a.command = none) (hcheck : a.check = false)
    (hfiles : a.files ≠ []) (hsuccess : (i.runOn b).exitCode = 0) :
    ∃ t desk rs desk', i.Opens b a t desk ∧
      Step.Runs b a (Step.inputs desk.session.world a.files) desk rs desk' ∧
      (∀ r ∈ rs, r.IsRead a t) ∧
      (∀ w ∈ rs.flatMap (Rewritten.texts a), Step.isDash w.1 = false →
        ∃ p, t.resolve w.1 = .ok p) ∧
      AgreesOff F.places (t.after (rs.flatMap (Rewritten.texts a) ++ Rewritten.targetTexts a rs))
        (i.runOn b).tree.node? := by
  obtain ⟨t, desk, desk', hopens, hperform⟩ := (exitCode_eq_zero_iff ha).1 hsuccess
  have hprocess := hperform
  rw [Step.perform_eq_processAll hcommand] at hprocess
  obtain ⟨rs, desk₁, hruns, htarget⟩ := (Step.processAll_eq_ok hfiles).1 hprocess
  have hb := hdatabases t hopens.entered
  have hnamed := hopens.isNamed hnamed
  have hrun : i.runOn b = report.closed b i 0 none desk' := by
    rw [runOn_eq ha hopens, hperform]
    rfl
  have htold : desk₁.session.transcript ⊆ (i.runOn b).transcript := by
    rw [hrun, ← Step.transcript_emitAll htarget]
    exact List.Subset.refl _
  have hstart : desk.session.Guarded F t (i.runOn b).transcript (t.after []) :=
    fun _ => hopens.intact hdatabases
  have hdocuments := hruns.guarded hb hnamed hcheck hstart
  have hend := Step.intact_emitAll hnamed hcheck (hdocuments htold) htarget
  refine ⟨t, desk, rs, desk₁, hopens, hruns, hruns.isRead hb hnamed hcheck hstart htold,
    fun w hw => ?_, agreesOff_closed hdatabases hopens.entered hrun fun _ => hend⟩
  obtain ⟨r, hr, hw⟩ := List.mem_flatMap.1 hw
  exact hruns.exists_place hb hnamed hcheck hstart htold r hr w hw

/-- A document whose run writes a plot statement has data in a file of the name that the statement
says. After a command that succeeds this file, in the directory for the data of the document, holds
just these data if and only if no other text is written to its place later: neither another document
nor the data of one, nor the common target. This is so for every kind of database, unless the file
belongs to one itself. -/
theorem run_keeps_data_iff (hdatabases : i.KeepsTo b F a) (hnamed : i.tree.IsNamed)
    (ha : i.arguments? = some a) (hcommand : a.command = none) (hcheck : a.check = false)
    (hfiles : a.files ≠ []) (hsuccess : (i.runOn b).exitCode = 0) :
    ∃ t desk rs desk', i.Opens b a t desk ∧
      Step.Runs b a (Step.inputs desk.session.world a.files) desk rs desk' ∧
      ∀ rs₁ r rs₂, rs = rs₁ ++ r :: rs₂ → ∃ before behind,
        Step.Runs b a (rs₁.map Rewritten.path) desk rs₁ before ∧
        Step.rewrite b a r.path before = .ok r behind ∧
        (∀ file, Step.Plots b a r.path before file → ∃ f ∈ r.data, f.name = file) ∧
        ∀ f ∈ r.data, ∃ p,
          t.resolve ((a.dataDirectory r.path).below f.name) = .ok p ∧
          (¬ F.places p → ((i.runOn b).tree.node? p = some (.file (toUtf8 f.contents)) ↔
            ∀ s, t.lastText? (rs₂.flatMap (Rewritten.texts a) ++ Rewritten.targetTexts a rs) p =
              some s → s = f.contents)) := by
  obtain ⟨t, desk, rs, desk', hopens, hruns, hread, hplaces, hagrees⟩ :=
    exists_runs_of_success hdatabases hnamed ha hcommand hcheck hfiles hsuccess
  refine ⟨t, desk, rs, desk', hopens, hruns, ?_⟩
  rintro rs₁ r rs₂ rfl
  obtain ⟨before, behind, hbefore, hr⟩ := hruns.exists_rewrite
  refine ⟨before, behind, hbefore, hr, fun file hplots => hplots.exists_mem_data hr, fun f hf => ?_⟩
  have hread := hread r (by simp)
  obtain ⟨-, hname⟩ := hread.data f hf
  -- the data are written right behind the text of their document
  obtain ⟨own, htexts⟩ : ∃ own,
      r.texts a = own ++ [((a.dataDirectory r.path).below f.name, f.contents)] := by
    refine ⟨if a.output.isSome then [] else [(r.path, r.text)], ?_⟩
    rw [Rewritten.texts, Rewritten.dataTexts, hread.directory, Option.mem_def.1 hf]
    rfl
  have hdash : Step.isDash ((a.dataDirectory r.path).below f.name) = false := by
    rw [hname]
    exact DataFile.isDash_below _ _
  obtain ⟨p, hp⟩ := hplaces ((a.dataDirectory r.path).below f.name, f.contents)
    (List.mem_flatMap.2 ⟨r, by simp, by simp [htexts]⟩) hdash
  refine ⟨p, hp, fun hother => ?_⟩
  rw [hagrees p hother,
    ← after_eq_file_iff (rs₁.flatMap (Rewritten.texts a) ++ own) hdash hp]
  simp only [List.flatMap_append, List.flatMap_cons, htexts, List.append_assoc, List.cons_append,
    List.nil_append]

/-- Two documents of which only the first one comes to have a plot statement. -/
def plotted : List (Path × Text) :=
  [("x.gp".toList, "# PLOT SELECT 1 AS x, 2 AS y\n".toList),
    ("x.plt".toList, "# MULTIPLOT(g) SELECT 'a' AS g, NULL AS x, 2 AS y\n".toList)]

/-- Two documents that differ only in their suffixes have their data in one file. -/
theorem run_keeps_data_iff_same_stem :
    let i := withFiles ["x.gp".toList, "x.plt".toList] plotted
    let a : Arguments := { files := i.words }
    ∃ t desk rs desk', i.Opens Connection.backend a t desk ∧
      Step.Runs Connection.backend a (Step.inputs desk.session.world i.words) desk rs desk' ∧
      ∀ rs₁ r rs₂, rs = rs₁ ++ r :: rs₂ → ∀ f ∈ r.data, ∃ p,
        t.resolve (r.path.parent.below f.name) = .ok p ∧
        (i.run.tree.node? p = some (.file (toUtf8 f.contents)) ↔
          ∀ s, t.lastText? (rs₂.flatMap (Rewritten.texts a)) p = some s → s = f.contents) := by
  intro i a
  have hmemory : ∀ p, ¬ i.tree.IsDatabase (i.targets a) p :=
    not_isDatabase_of_memory (by decide +kernel)
  obtain ⟨t, desk, rs, desk', hopens, hruns, hdata⟩ := run_keeps_data_iff (i := i) (a := a)
    (keepsTo_footprint List.not_mem_nil rfl) List.not_mem_nil (by decide +kernel) rfl rfl
    (by decide) (by decide +kernel)
  refine ⟨t, desk, rs, desk', hopens, hruns, fun rs₁ r rs₂ hsplit f hf => ?_⟩
  obtain ⟨-, -, -, -, -, hkept⟩ := hdata rs₁ r rs₂ hsplit
  obtain ⟨p, hp, hkept⟩ := hkept f hf
  have hiff := hkept (hmemory p)
  have hnone : Rewritten.targetTexts a rs = [] := rfl
  rw [hnone, List.append_nil] at hiff
  exact ⟨p, hp, hiff⟩

/-- The first document plots data that it leaves in its file when it is alone. With the second one,
which writes nothing but a header, its statement refers to a data set that is not there any more. -/
theorem run_loses_data :
    let alone := withFiles ["x.gp".toList] plotted
    let both := withFiles ["x.gp".toList, "x.plt".toList] plotted
    alone.run.exitCode = 0 ∧ both.run.exitCode = 0 ∧
    both.run.tree.readText "x.gp".toList = .ok ("# PLOT SELECT 1 AS x, 2 AS y\n".toList ++
      "plot \\\n    'x-data.txt' index 0 with linespoints\n".toList) ∧
    alone.run.tree.readText "x-data.txt".toList = .ok (fill 80 '#' ++
      "\n# PLOT SELECT 1 AS x, 2 AS y\n#\n1\t2\n\n\n".toList) ∧
    both.run.tree.readText "x-data.txt".toList = .ok (fill 80 '#' ++
      "\n# MULTIPLOT(g) SELECT 'a' AS g, NULL AS x, 2 AS y\n#\n".toList) := by
  decide +kernel

end Invocation

end QueryWeave
