import QueryWeave.Proofs.DataFileContents
import QueryWeave.Proofs.DatabasePlaces

/-!
# Commands that fail

A document that cannot be read or run ends a command. What was written for the documents before it
stays, and nothing else is written. If the files that the command is given are told apart from those
that it makes (`Arguments.Separate`), then no document is lost: its file holds either what it held
before, or what the document was rewritten to. The databases can be of any kind that keeps to files
of its own.

Main statement: `Invocation.run_of_failed_document`.
-/

namespace QueryWeave

open Text QueryWeave.Tree

namespace Arguments

variable {κ : Type} {F : Footprint κ}

/-- The files that a command is given are none of those that it makes, and none of its databases. -/
structure Separate (a : Arguments) (F : Footprint κ) (t : Tree) (paths : List Path) : Prop where
  /-- No document is the standard output. -/
  dash : ∀ q ∈ paths, Step.isDash q = false
  /-- No document is the data file of another one. -/
  data : ∀ q ∈ paths, ∀ q' ∈ paths, ∀ p, t.resolve q = .ok p → t.resolve q' ≠ .ok p →
    Step.kindOf a q' = .ok .gnuplot → t.resolve (a.dataPath q') ≠ .ok p
  /-- No document belongs to a database. -/
  database : ∀ q ∈ paths, ∀ p, t.resolve q = .ok p → ¬ F.places p
  /-- The target belongs to no database and is not the data file of a document. -/
  target : ∀ target, a.output = some target → ∀ p, t.resolve target = .ok p →
    ¬ F.places p ∧ ∀ q ∈ paths, Step.kindOf a q = .ok .gnuplot → t.resolve (a.dataPath q) ≠ .ok p

variable {a : Arguments} {t : Tree} {paths : List Path} {r : Rewritten} {p : Place}

/-- With a target, no text but its own is written to its place. -/
theorem Separate.writesAt_target (h : a.Separate F t paths) {target : Path}
    (hout : a.output = some target) (hp : t.resolve target = .ok p) (hr : r.IsRead a t)
    (hmem : r.path ∈ paths) {w : Path × Text} (hw : w ∈ r.texts a) : t.writesAt w.1 p = false := by
  rw [Bool.eq_false_iff, ne_eq, writesAt_iff]
  rintro ⟨-, hplace⟩
  rcases hr.of_mem_texts hw with ⟨hnone, -⟩ | ⟨hkind, hpath⟩
  · cases hnone.symm.trans hout
  · rw [hpath] at hplace
    exact ((h.target target hout p hp).2 _ hmem hkind) hplace

/-- In place, the data of no document are written to the place of a document. -/
theorem Separate.writesAt_data (h : a.Separate F t paths) (hout : a.output = none)
    {q : Path} (hq : q ∈ paths) (hp : t.resolve q = .ok p) (hr : r.IsRead a t)
    (hmem : r.path ∈ paths) {w : Path × Text} (hw : w ∈ r.dataTexts) :
    t.writesAt w.1 p = false := by
  rw [Bool.eq_false_iff, ne_eq, writesAt_iff]
  rintro ⟨-, hplace⟩
  obtain ⟨hkind, hpath⟩ := hr.of_mem_dataTexts hw
  rw [hpath] at hplace
  by_cases hsame : t.resolve r.path = .ok p
  · -- the data of a document do not overwrite the document itself
    have hdirectory : a.dataPath r.path = r.path.parent.below (DataFile.nameFor r.path) := by
      simp [Arguments.dataPath, Arguments.dataDirectory, hout]
    rw [hdirectory] at hplace
    exact resolve_dataFile_ne hr.file hsame hplace
  · exact h.data q hq r.path hmem p hp hsame hkind hplace

/-- In place, what is written for a document changes no document at another place. -/
theorem Separate.writesAt_other (h : a.Separate F t paths) (hout : a.output = none)
    {q : Path} (hq : q ∈ paths) (hp : t.resolve q = .ok p) (hr : r.IsRead a t)
    (hmem : r.path ∈ paths) (hother : t.resolve r.path ≠ .ok p) {w : Path × Text}
    (hw : w ∈ r.texts a) : t.writesAt w.1 p = false := by
  rw [Rewritten.texts_of_inPlace hout] at hw
  rcases List.mem_cons.1 hw with rfl | hw
  · rw [Bool.eq_false_iff, ne_eq, writesAt_iff]
    exact fun hplace => hother hplace.2
  · exact h.writesAt_data hout hq hp hr hmem hw

/-! ### What stands in the files -/

section After

variable {rs rs₁ rs₂ : List Rewritten} {q : Path} (hread : ∀ r ∈ rs, r.IsRead a t)
  (hpaths : ∀ r ∈ rs, r.path ∈ paths)

include hread hpaths

/-- With a target, its place is as it was. -/
theorem Separate.after_target (h : a.Separate F t paths) {target : Path}
    (hout : a.output = some target) (hp : t.resolve target = .ok p) :
    t.after (rs.flatMap (Rewritten.texts a)) p = t.node? p := by
  refine after_of_forall fun w hw => ?_
  obtain ⟨r, hr, hw⟩ := List.mem_flatMap.1 hw
  exact h.writesAt_target hout hp (hread r hr) (hpaths r hr) hw

/-- In place, a document is as it was if none of those that were rewritten stands at its place. -/
theorem Separate.after_other (h : a.Separate F t paths) (hout : a.output = none) (hq : q ∈ paths)
    (hp : t.resolve q = .ok p) (hother : ∀ r ∈ rs, t.resolve r.path ≠ .ok p) :
    t.after (rs.flatMap (Rewritten.texts a)) p = t.node? p := by
  refine after_of_forall fun w hw => ?_
  obtain ⟨r, hr, hw⟩ := List.mem_flatMap.1 hw
  exact h.writesAt_other hout hq hp (hread r hr) (hpaths r hr) (hother r hr) hw

/-- In place, a document holds what it was rewritten to last. -/
theorem Separate.after_rewritten (h : a.Separate F t paths) (hout : a.output = none)
    (hrs : rs = rs₁ ++ r :: rs₂) (hp : t.resolve r.path = .ok p)
    (hother : ∀ r' ∈ rs₂, t.resolve r'.path ≠ .ok p) :
    t.after (rs.flatMap (Rewritten.texts a)) p = some (.file (toUtf8 r.text)) := by
  have hr : r ∈ rs := by simp [hrs]
  have hlater : ∀ r' ∈ rs₂, r' ∈ rs := fun r' hr' => by simp [hrs, hr']
  have htexts : rs.flatMap (Rewritten.texts a) = rs₁.flatMap (Rewritten.texts a) ++
      (r.path, r.text) :: (r.dataTexts ++ rs₂.flatMap (Rewritten.texts a)) := by
    simp [hrs, Rewritten.texts_of_inPlace hout]
  -- neither its own data nor anything that comes later is written to its place
  have hnone : t.lastText? (r.dataTexts ++ rs₂.flatMap (Rewritten.texts a)) p = none := by
    refine lastText?_eq_none_iff.2 fun w hw => ?_
    rcases List.mem_append.1 hw with hw | hw
    · exact h.writesAt_data hout (hpaths r hr) hp (hread r hr) (hpaths r hr) hw
    · obtain ⟨r', hr', hw⟩ := List.mem_flatMap.1 hw
      exact h.writesAt_other hout (hpaths r hr) hp (hread r' (hlater r' hr'))
        (hpaths r' (hlater r' hr')) (hother r' hr') hw
  rw [htexts, after_eq_file_iff _ (h.dash _ (hpaths r hr)) hp]
  intro s hs
  cases hnone.symm.trans hs

end After

end Arguments

/-! ### The end of the command -/

namespace Invocation

variable {κ : Type} {b : Backend Tree κ} {F : Footprint κ} {i : Invocation} {a : Arguments}
  {t : Tree} {desk desk₁ desk₂ : Desk κ} {front back : List Path} {path : Path}
  {rs : List Rewritten} {e : Failure}

/-- A command ends in the first document that cannot be rewritten. -/
theorem runOn_of_rewrite_eq_error (ha : i.arguments? = some a) (hcommand : a.command = none)
    (hfiles : a.files ≠ []) (hopens : i.Opens b a t desk)
    (hinputs : Step.inputs desk.session.world a.files = front ++ path :: back)
    (hruns : Step.Runs b a front desk rs desk₁)
    (hfail : Step.rewrite b a path desk₁ = .error e desk₂) :
    i.runOn b = report.closed b i Report.failureCode (some e) desk₂ := by
  rw [runOn_eq ha hopens, Step.perform_eq_processAll hcommand,
    Step.processAll_eq_error hfiles hinputs hruns hfail]
  rfl

/-- A command over files ends in the first document of which the kind is not known, or which cannot
be read or run. Behind it nothing is written: what stands at a place is what the documents before it
have left there. If documents, target, data files and databases are told apart, then the target is
as it was, and in place so is every document that is not among those before the one that failed,
while these hold what they were rewritten to. -/
theorem run_of_failed_document (hdatabases : i.KeepsTo b F a) (hnamed : i.tree.IsNamed)
    (ha : i.arguments? = some a) (hcommand : a.command = none) (hcheck : a.check = false)
    (hfiles : a.files ≠ []) (hopens : i.Opens b a t desk)
    (hinputs : Step.inputs desk.session.world a.files = front ++ path :: back)
    (hruns : Step.Runs b a front desk rs desk₁)
    (hfail : Step.rewrite b a path desk₁ = .error e desk₂)
    (hseparate : a.Separate F t (front ++ path :: back)) :
    (i.runOn b).exitCode = Report.failureCode ∧ (i.runOn b).failure = some e ∧
    (i.runOn b).output = [] ∧
    (∀ p, ¬ F.places p →
      (i.runOn b).tree.node? p = t.after (rs.flatMap (Rewritten.texts a)) p) ∧
    (∀ target, a.output = some target → ∀ p, t.resolve target = .ok p →
      (i.runOn b).tree.node? p = i.tree.node? p) ∧
    (a.output = none →
      (∀ q ∈ front ++ path :: back, ∀ p, t.resolve q = .ok p →
        (∀ q' ∈ front, t.resolve q' ≠ .ok p) → (i.runOn b).tree.node? p = i.tree.node? p) ∧
      ∀ rs₁ r rs₂, rs = rs₁ ++ r :: rs₂ → ∃ p, t.resolve r.path = .ok p ∧
        ((∀ r' ∈ rs₂, t.resolve r'.path ≠ .ok p) →
          (i.runOn b).tree.node? p = some (.file (toUtf8 r.text)))) := by
  have hrun := runOn_of_rewrite_eq_error ha hcommand hfiles hopens hinputs hruns hfail
  have hb := hdatabases t hopens.entered
  have hnamed := hopens.isNamed hnamed
  have hbefore : t.node? = i.tree.node? := node?_of_entered hopens.entered
  have hleaves := Step.Leaves.rewrite b a path
  have hend := Step.after_of_error hfail
  have htold : desk₁.session.transcript ⊆ (i.runOn b).transcript := by
    rw [hrun]
    exact (hleaves.transcript_grows hend).subset
  have hstart : desk.session.Guarded F t (i.runOn b).transcript (t.after []) :=
    fun _ => hopens.intact hdatabases
  have hdocuments := hruns.guarded hb hnamed hcheck hstart
  have hagrees := agreesOff_closed hdatabases hopens.entered hrun
    (hleaves.guarded hend hb hdocuments)
  have hread := hruns.isRead hb hnamed hcheck hstart htold
  have hfront : ∀ r ∈ rs, r.path ∈ front := fun r hr => by
    rw [← hruns.paths_eq]
    exact List.mem_map_of_mem hr
  have hpaths : ∀ r ∈ rs, r.path ∈ front ++ path :: back := fun r hr =>
    List.mem_append_left _ (hfront r hr)
  -- what is written before the end goes to files, so that nothing is printed
  have hdash : ∀ r ∈ rs, ∀ w ∈ r.texts a, Step.isDash w.1 = false := by
    intro r hr w hw
    rcases (hread r hr).of_mem_texts hw with ⟨-, rfl⟩ | ⟨-, hpath⟩
    · exact hseparate.dash _ (hpaths r hr)
    · rw [hpath]
      exact DataFile.isDash_below _ _
  have hprinted : desk₂.output = [] := by
    rw [← hend, hleaves.output, hruns.output_eq hcheck hdash, hopens.output]
  refine ⟨by rw [hrun]; rfl, by rw [hrun]; rfl, by rw [hrun]; exact hprinted, hagrees,
    fun target htarget p hp => ?_,
    fun hplace => ⟨fun q hq p hp hother => ?_, fun rs₁ r rs₂ hrs => ?_⟩⟩
  · rw [hagrees p (hseparate.target target htarget p hp).1, ← hbefore]
    exact hseparate.after_target hread hpaths htarget hp
  · rw [hagrees p (hseparate.database q hq p hp), ← hbefore]
    exact hseparate.after_other hread hpaths hplace hq hp fun r hr => hother _ (hfront r hr)
  · have hr : r ∈ rs := by simp [hrs]
    obtain ⟨p, hp⟩ := (hread r hr).place
    refine ⟨p, hp, fun hother => ?_⟩
    rw [hagrees p (hseparate.database _ (hpaths r hr) p hp)]
    exact hseparate.after_rewritten hread hpaths hplace hrs hp hother

/-- A file between two documents is none itself: the first document is rewritten, and the last one
stays as it was. -/
theorem run_of_failed_document_unknown_kind :
    let i := withFiles ["a.tex".toList, "b.txt".toList, "c.tex".toList]
      [("a.tex".toList, "% TEXTTABLE SELECT 1 AS x\n".toList),
        ("c.tex".toList, "% TEXTTABLE SELECT 2 AS x\n".toList)]
    let rewritten := "% TEXTTABLE SELECT 1 AS x\n".toList ++
      "+---+\n| x |\n+---+\n| 1 |\n+---+\n% END TEXTTABLE SELECT 1 AS x\n".toList
    i.run.exitCode = 1 ∧ i.run.failure = some (.unknownKind "b.txt".toList) ∧
    i.run.tree.node? ["c.tex".toList] = i.tree.node? ["c.tex".toList] ∧
    i.run.tree.node? ["a.tex".toList] = some (.file (toUtf8 rewritten)) := by
  intro i rewritten
  let a : Arguments := { files := i.words }
  let desk : Desk Connection := ⟨⟨{}, i.tree, []⟩, []⟩
  have hopens : i.Opens Connection.backend a i.tree desk := opens_memory rfl rfl
  have hfront : EStateM.run' (["a.tex".toList].mapM (Step.processFile Connection.backend a)) desk =
      some [[]] := by
    decide +kernel
  obtain ⟨desk₁, hfront⟩ := Step.exists_of_run' hfront
  obtain ⟨rs, hruns, -⟩ := Step.mapM_eq_ok_iff.1 hfront
  have hfirst : EStateM.run' (Step.rewrite Connection.backend a "a.tex".toList) desk =
      some ⟨"a.tex".toList, rewritten, [], none⟩ := by
    decide +kernel
  obtain ⟨desk', hfirst⟩ := Step.exists_of_run' hfirst
  obtain rfl : rs = [⟨"a.tex".toList, rewritten, [], none⟩] := by
    cases hruns with
    | cons hr _ later =>
      cases later
      cases hfirst.symm.trans hr
      rfl
  have hlatex : ∀ q ∈ i.words, Step.kindOf a q ≠ .ok .gnuplot := by decide +kernel
  have hmemory : ∀ p, ¬ i.tree.IsDatabase (i.targets a) p :=
    not_isDatabase_of_memory (by decide +kernel)
  have hinputs : Step.inputs desk.session.world a.files =
      ["a.tex".toList] ++ "b.txt".toList :: ["c.tex".toList] := by decide +kernel
  have hfail : Step.rewrite Connection.backend a "b.txt".toList desk₁ =
      .error (.unknownKind "b.txt".toList) desk₁ := rfl
  obtain ⟨hcode, hfailure, -, -, -, hplace⟩ := run_of_failed_document (i := i) (a := a)
    (keepsTo_footprint List.not_mem_nil rfl) List.not_mem_nil (by decide +kernel) rfl rfl
    (by decide) hopens hinputs hruns hfail
    { dash := by decide +kernel
      data := fun _ _ q' hq' _ _ _ hkind => absurd hkind (hlatex q' hq')
      database := fun _ _ p _ => hmemory p
      target := fun _ h => by cases h }
  obtain ⟨hkept, hwritten⟩ := hplace rfl
  obtain ⟨p, hp, hr⟩ := hwritten [] _ [] rfl
  have hresolve : i.tree.resolve "a.tex".toList = .ok ["a.tex".toList] := by decide +kernel
  cases hresolve.symm.trans hp
  exact ⟨hcode, hfailure, hkept "c.tex".toList (by decide) ["c.tex".toList] (by decide +kernel)
    (by decide +kernel), hr (by simp)⟩

/-- A target that is a database is made when the database is opened. -/
theorem failed_document_makes_target :
    let i := withFiles ["-D".toList, "sqlite:out.tex".toList, "-o".toList, "out.tex".toList,
      "nope.tex".toList] []
    i.run.failure = some (.access "nope.tex".toList .missing) ∧
    i.tree.readText "out.tex".toList = .error .missing ∧
    i.run.tree.readText "out.tex".toList = .ok [] := by
  decide +kernel

end Invocation

end QueryWeave
