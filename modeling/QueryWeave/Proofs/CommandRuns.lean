import QueryWeave.Proofs.DocumentRuns

/-!
# The files of a command

Whatever a command does, it is known what stands in the directory tree: the texts that it has
written so far, and everything else as it was, except for what belongs to its databases
(`Session.Intact`). Running a document keeps that, and every text that is written adds itself. At
its end a command gives its connection up, which again touches its databases alone. What the
databases answer makes no difference.

Main statements: `Step.Runs.guarded`, `Invocation.runOn_eq`, `Invocation.exitCode_eq_zero_iff`,
`Invocation.agreesOff_closed`.
-/

namespace QueryWeave

open Text QueryWeave.Tree

variable {κ : Type} {b : Backend Tree κ} {F : Footprint κ} {t : Tree} {first : Text}
  {transcript : List Event} {old : Place → Option Node}

/-! ## Steps -/

namespace Step

variable {a : Arguments} {path : Path} {s : Text} {r : Rewritten} {desk desk' : Desk κ}
  {texts later : List (Path × Text)}

theorem ofExcept_eq_ok {α : Type} {x : Except Failure α} {y : α} :
    ofExcept x desk = .ok y desk' ↔ x = .ok y ∧ desk = desk' := by
  cases x with
  | error e =>
    show EStateM.Result.error e desk = _ ↔ _
    simp
  | ok z =>
    show EStateM.Result.ok z desk = _ ↔ _
    simp

theorem tree_eq_ok {u : Tree} :
    tree desk = .ok u desk' ↔ desk.session.world = u ∧ desk = desk' := by
  show EStateM.Result.ok desk.session.world desk = _ ↔ _
  simp

/-- The document is run in the session of the desk. -/
theorem process_eq (b : Backend Tree κ) (a : Arguments) (kind : DocumentKind) (name : Text)
    (d : Document) (desk : Desk κ) :
    process b a kind name d desk =
      let (o, session) :=
        Run.process b (Importer.resultLines b) a.settings kind name d desk.session
      match o.failure with
        | none => .ok (o.position.document, o.position.output) { desk with session }
        | some e => .error e { desk with session } :=
  rfl

/-- The desk after a step, whether it succeeds or fails. -/
def after {α : Type} (x : Step κ α) (desk : Desk κ) : Desk κ :=
  match x desk with
  | .ok _ desk | .error _ desk => desk

theorem after_of_ok {α : Type} {x : Step κ α} {y : α} (h : x desk = .ok y desk') :
    x.after desk = desk' := by
  simp only [after, h]

theorem after_of_error {α : Type} {x : Step κ α} {e : Failure} (h : x desk = .error e desk') :
    x.after desk = desk' := by
  simp only [after, h]

/-- A step that writes nothing: it prints nothing, and what no request of a run ends is true of the
session after it if it was true before. -/
structure Leaves (b : Backend Tree κ) {α : Type} (x : Step κ α) : Prop where
  output : ∀ desk, (x.after desk).output = desk.output
  session : ∀ {I}, Session.IsInvariant b I → ∀ desk, I desk.session → I (x.after desk).session

namespace Leaves

variable {α β : Type} {x : Step κ α} {f : α → Step κ β}

/-- A step that does nothing. -/
theorem of_after (h : ∀ desk, x.after desk = desk) : Leaves b x where
  output desk := by rw [h]
  session _ desk hdesk := by rwa [h]

protected theorem pure (y : α) : Leaves b (pure y : Step κ α) := .of_after fun _ => rfl

protected theorem throw (e : Failure) : Leaves b (throw e : Step κ α) := .of_after fun _ => rfl

protected theorem tree : Leaves b (tree : Step κ Tree) := .of_after fun _ => rfl

protected theorem ofExcept (r : Except Failure α) : Leaves b (ofExcept r) := by
  cases r with
  | ok y => exact .pure y
  | error e => exact .throw e

protected theorem bind (hx : Leaves b x) (hf : ∀ y, Leaves b (f y)) : Leaves b (x >>= f) := by
  have hafter : ∀ desk, (x >>= f).after desk = x.after desk ∨
      ∃ y, (x >>= f).after desk = (f y).after (x.after desk) := by
    intro desk
    cases hdesk : x desk with
    | ok y desk₁ => exact .inr ⟨y, by simp only [after, bind, EStateM.bind, hdesk]⟩
    | error e desk₁ => exact .inl (by simp only [after, bind, EStateM.bind, hdesk])
  constructor
  · intro desk
    rcases hafter desk with h | ⟨y, h⟩
    · rw [h, hx.output]
    · rw [h, (hf y).output, hx.output]
  · intro I inv desk hdesk
    rcases hafter desk with h | ⟨y, h⟩
    · rw [h]
      exact hx.session inv desk hdesk
    · rw [h]
      exact (hf y).session inv _ (hx.session inv desk hdesk)

/-- A document is run in the session of the desk. -/
protected theorem process (b : Backend Tree κ) (a : Arguments) (kind : DocumentKind) (name : Text)
    (d : Document) : Leaves b (process b a kind name d) := by
  have hafter : ∀ desk, (process b a kind name d).after desk = { desk with
      session :=
        (Run.process b (Importer.resultLines b) a.settings kind name d desk.session).2 } := by
    intro desk
    unfold after
    rw [process_eq]
    dsimp only
    let o := (Run.process b (Importer.resultLines b) a.settings kind name d desk.session).1
    cases o.failure with
    | none => rfl
    | some e => rfl
  constructor
  · intro desk
    rw [hafter]
  · intro I inv desk hdesk
    rw [hafter]
    exact inv.process a.settings kind name d hdesk

protected theorem rewrite (b : Backend Tree κ) (a : Arguments) (path : Path) :
    Leaves b (rewrite b a path) :=
  .bind (.ofExcept _) fun _ => .bind .tree fun _ => .bind (.ofExcept _) fun _ =>
    .bind (.process _ _ _ _ _) fun _ => .pure _

protected theorem mapM {g : α → Step κ β} {xs : List α} (hg : ∀ y, Leaves b (g y)) :
    Leaves b (xs.mapM g) := by
  induction xs with
  | nil =>
    rw [List.mapM_nil]
    exact .pure _
  | cons y ys ih =>
    rw [List.mapM_cons]
    exact .bind (hg y) fun _ => .bind ih fun _ => .pure _

/-- What was told before such a step is told after it. -/
theorem transcript_grows (hx : Leaves b x) (h : x.after desk = desk') :
    desk.session.transcript <+: desk'.session.transcript :=
  h ▸ hx.session (Session.isInvariant_startsWith b _) desk (List.prefix_refl _)

/-- An intact session stays so. -/
theorem guarded (hx : Leaves b x) (h : x.after desk = desk')
    (hb : b.KeepsTo F t first transcript) (hdesk : desk.session.Guarded F t transcript old) :
    desk'.session.Guarded F t transcript old :=
  h ▸ hx.session (Session.isInvariant_guarded hb old) desk hdesk

end Leaves

/-! ## Writing and checking -/

theorem write_eq_ok : write path s desk = .ok () desk' ↔
    if isDash path then desk' = { desk with output := desk.output ++ s }
    else ∃ p, desk.session.world.writable path = .ok p ∧
      desk' = { desk with
        session := { desk.session with
          world := desk.session.world.put p (.file (toUtf8 s)) } } := by
  cases hdash : isDash path with
  | true =>
    have hwrite : write path s desk = .ok () { desk with output := desk.output ++ s } := by
      simp only [write, hdash]
      rfl
    simp [hwrite, eq_comm]
  | false =>
    simp only [write, hdash, bind_eq_ok, tree_eq_ok, Bool.false_eq_true, if_false]
    unfold writeText
    constructor
    · rintro ⟨u, _, ⟨rfl, rfl⟩, h⟩
      cases hp : desk.session.world.writable path with
      | error e =>
        rw [hp] at h
        cases h
      | ok p =>
        rw [hp] at h
        cases h
        exact ⟨p, rfl, rfl⟩
    · rintro ⟨p, hp, rfl⟩
      refine ⟨_, _, ⟨rfl, rfl⟩, ?_⟩
      rw [hp]
      rfl

theorem check_eq_ok : check path s desk = .ok () desk' ↔
    desk.session.world.readText path = .ok s ∧ desk = desk' := by
  simp only [check, bind_eq_ok, tree_eq_ok]
  constructor
  · rintro ⟨u, _, ⟨rfl, rfl⟩, h⟩
    cases hread : desk.session.world.readText path with
    | error e =>
      rw [hread] at h
      cases h
    | ok expected =>
      rw [hread] at h
      by_cases heq : expected = s
      · subst heq
        simp only [ne_eq, not_true_eq_false, if_false, pure_eq_ok, true_and] at h
        exact ⟨rfl, h⟩
      · simp only [ne_eq, heq, not_false_eq_true, if_true] at h
        cases h
  · rintro ⟨hread, rfl⟩
    refine ⟨_, _, ⟨rfl, rfl⟩, ?_⟩
    rw [hread]
    simp [pure_eq_ok]

/-- Writing and checking are not told. -/
theorem transcript_emitAll (h : emitAll a later desk = .ok () desk') :
    desk'.session.transcript = desk.session.transcript := by
  induction later generalizing desk with
  | nil =>
    obtain ⟨-, rfl⟩ := pure_eq_ok.1 h
    rfl
  | cons w later ih =>
    rw [emitAll_cons, bind_eq_ok] at h
    obtain ⟨_, desk₁, hw, hlater⟩ := h
    rw [ih hlater]
    unfold emit at hw
    split at hw
    · obtain ⟨-, rfl⟩ := check_eq_ok.1 hw
      rfl
    · rw [write_eq_ok] at hw
      split at hw
      · rw [hw]
      · obtain ⟨p, -, rfl⟩ := hw
        rfl

/-- A text that is written is added to those that were written before. -/
theorem intact_write (hnamed : t.IsNamed) (hdesk : desk.session.Intact F t (t.after texts))
    (h : write path s desk = .ok () desk') :
    desk'.session.Intact F t (t.after (texts ++ [(path, s)])) := by
  rw [write_eq_ok] at h
  split at h
  · next hdash =>
    rw [h, after_append_dash hdash]
    exact hdesk
  · next hdash =>
    obtain ⟨p, hp, rfl⟩ := h
    obtain ⟨hresolve, hnode, -⟩ := writable_eq_ok.1 hp
    have hroot := ne_nil_of_node? hnode
    rw [hdesk.same.resolve_eq_ok hnamed] at hresolve
    rw [after_append_singleton (Bool.eq_false_iff.2 hdash) hresolve]
    refine ⟨hdesk.same.trans (.put hroot (fun _ => hnode) (by simp)), hdesk.connection, ?_⟩
    show AgreesOff _ _ (desk.session.world.put p (.file (toUtf8 s))).node?
    rw [node?_put_eq_update desk.session.world (.file (toUtf8 s)) hroot]
    exact hdesk.agrees.update p _

theorem intact_emitAll (hnamed : t.IsNamed) (hcheck : a.check = false)
    (hdesk : desk.session.Intact F t (t.after texts))
    (h : emitAll a later desk = .ok () desk') :
    desk'.session.Intact F t (t.after (texts ++ later)) := by
  induction later generalizing desk texts with
  | nil =>
    obtain ⟨-, rfl⟩ := pure_eq_ok.1 h
    rwa [List.append_nil]
  | cons w later ih =>
    rw [emitAll_cons, bind_eq_ok] at h
    obtain ⟨_, desk₁, hw, hlater⟩ := h
    simp only [emit, hcheck, Bool.false_eq_true, if_false] at hw
    have hdesk₁ := ih (intact_write hnamed hdesk hw) hlater
    rwa [List.append_assoc] at hdesk₁

/-- What is not for the standard output is written to a place. -/
theorem exists_place_of_emitAll (hnamed : t.IsNamed) (hcheck : a.check = false)
    (hdesk : desk.session.Intact F t (t.after texts))
    (h : emitAll a later desk = .ok () desk') :
    ∀ w ∈ later, isDash w.1 = false → ∃ p, t.resolve w.1 = .ok p := by
  induction later generalizing desk texts with
  | nil => simp
  | cons w later ih =>
    rw [emitAll_cons, bind_eq_ok] at h
    obtain ⟨_, desk₁, hw, hlater⟩ := h
    simp only [emit, hcheck, Bool.false_eq_true, if_false] at hw
    intro v hv hdash
    rcases List.mem_cons.1 hv with rfl | hv
    · -- the text was written to a place of the tree as it was then, which has the same directories
      rw [write_eq_ok, hdash] at hw
      obtain ⟨p, hp, -⟩ := hw
      exact ⟨p, (hdesk.same.resolve_eq_ok hnamed).1 (writable_eq_ok.1 hp).1⟩
    · exact ih (intact_write hnamed hdesk hw) hlater v hv hdash

theorem output_emitAll (hcheck : a.check = false) (hdash : ∀ w ∈ later, isDash w.1 = false)
    (h : emitAll a later desk = .ok () desk') : desk'.output = desk.output := by
  induction later generalizing desk with
  | nil =>
    obtain ⟨-, rfl⟩ := pure_eq_ok.1 h
    rfl
  | cons w later ih =>
    rw [emitAll_cons, bind_eq_ok] at h
    obtain ⟨_, desk₁, hw, hlater⟩ := h
    simp only [emit, hcheck, Bool.false_eq_true, if_false] at hw
    rw [write_eq_ok, hdash w (List.mem_cons_self ..)] at hw
    obtain ⟨p, -, rfl⟩ := hw
    have hrest := ih (fun v hv => hdash v (List.mem_cons_of_mem _ hv)) hlater
    exact hrest

/-! ## Documents that are run through -/

namespace Runs

variable {paths : List Path} {rs : List Rewritten}

theorem transcript_grows (h : Runs b a paths desk rs desk') :
    desk.session.transcript <+: desk'.session.transcript := by
  induction h with
  | nil => exact List.prefix_refl _
  | cons rewritten emitted _ ih =>
    have hfirst := (Leaves.rewrite b a _).transcript_grows (after_of_ok rewritten)
    rw [← transcript_emitAll emitted] at hfirst
    exact hfirst.trans ih

/-- Documents that are run through add what is written for them. -/
theorem guarded (hb : b.KeepsTo F t first transcript) (hnamed : t.IsNamed)
    (hcheck : a.check = false) (hdesk : desk.session.Guarded F t transcript (t.after texts))
    (h : Runs b a paths desk rs desk') :
    desk'.session.Guarded F t transcript (t.after (texts ++ rs.flatMap (Rewritten.texts a))) := by
  induction h generalizing texts with
  | nil => simpa using hdesk
  | cons rewritten emitted _ ih =>
    have hfirst := (Leaves.rewrite b a _).guarded (after_of_ok rewritten) hb hdesk
    have hrest := ih fun hsub => intact_emitAll hnamed hcheck
      (hfirst (transcript_emitAll emitted ▸ hsub)) emitted
    rwa [List.append_assoc] at hrest

/-- What is true of a document that is run between two intact sessions is true of all documents. -/
theorem forall_mem (hb : b.KeepsTo F t first transcript) (hnamed : t.IsNamed)
    (hcheck : a.check = false) (hdesk : desk.session.Guarded F t transcript (t.after texts))
    (h : Runs b a paths desk rs desk') (hsub : desk'.session.transcript ⊆ transcript)
    {P : Rewritten → Prop}
    (hone : ∀ {texts path r} {desk₁ desk₂ desk₃ : Desk κ},
      desk₁.session.Intact F t (t.after texts) → desk₂.session.Intact F t (t.after texts) →
        rewrite b a path desk₁ = .ok r desk₂ → emitAll a (r.texts a) desk₂ = .ok () desk₃ → P r) :
    ∀ r ∈ rs, P r := by
  induction h generalizing texts with
  | nil => simp
  | cons rewritten emitted later ih =>
    -- what is told up to here is told at the end
    have htold := List.Subset.trans later.transcript_grows.subset hsub
    rw [transcript_emitAll emitted] at htold
    have hbefore := (Leaves.rewrite b a _).transcript_grows (after_of_ok rewritten)
    have hdesk₁ := hdesk (List.Subset.trans hbefore.subset htold)
    have hdesk₂ := (Leaves.rewrite b a _).guarded (after_of_ok rewritten) hb hdesk htold
    exact List.forall_mem_cons.2 ⟨hone hdesk₁ hdesk₂ rewritten emitted,
      ih (fun _ => intact_emitAll hnamed hcheck hdesk₂ emitted) hsub⟩

theorem exists_place (hb : b.KeepsTo F t first transcript) (hnamed : t.IsNamed)
    (hcheck : a.check = false) (hdesk : desk.session.Guarded F t transcript (t.after texts))
    (h : Runs b a paths desk rs desk') (hsub : desk'.session.transcript ⊆ transcript) :
    ∀ r ∈ rs, ∀ w ∈ r.texts a, isDash w.1 = false → ∃ p, t.resolve w.1 = .ok p :=
  h.forall_mem hb hnamed hcheck hdesk hsub fun _ hdesk₂ _ emitted =>
    exists_place_of_emitAll hnamed hcheck hdesk₂ emitted

/-- Texts for files do not go to the standard output. -/
theorem output_eq (hcheck : a.check = false) (h : Runs b a paths desk rs desk')
    (hdash : ∀ r ∈ rs, ∀ w ∈ r.texts a, isDash w.1 = false) : desk'.output = desk.output := by
  induction h with
  | nil => rfl
  | @cons path _ _ _ desk₁ _ _ _ rewritten emitted _ ih =>
    have hfirst := (Leaves.rewrite b a path).output desk₁
    rw [after_of_ok rewritten] at hfirst
    have hemitted := output_emitAll hcheck (hdash _ (List.mem_cons_self ..)) emitted
    have hrest := ih fun r hr => hdash r (List.mem_cons_of_mem _ hr)
    exact hrest.trans (hemitted.trans hfirst)

end Runs

/-! ## Commands over documents -/

/-- What a command over files does. -/
theorem processAll_of_files (hfiles : a.files ≠ []) (b : Backend Tree κ) (input : ByteArray) :
    processAll b a input = (do
      let texts ← (inputs (← tree) a.files).mapM (processFile b a)
      a.output.elim (pure ()) fun target => emit a target texts.flatten) := by
  have hempty : a.files.isEmpty = false := by simpa using hfiles
  unfold processAll
  simp only [hempty, Bool.false_eq_true, if_false]
  cases a.output <;> rfl

/-- A command over files runs through their documents, and then its target is written. -/
theorem processAll_eq_ok (hfiles : a.files ≠ []) {input : ByteArray} :
    processAll b a input desk = .ok () desk' ↔ ∃ rs desk₁,
      Runs b a (inputs desk.session.world a.files) desk rs desk₁ ∧
        emitAll a (Rewritten.targetTexts a rs) desk₁ = .ok () desk' := by
  have htarget : ∀ rs : List Rewritten, (emitAll a (Rewritten.targetTexts a rs) : Step κ Unit) =
      a.output.elim (pure ()) fun target => emit a target
        (rs.map fun r => if a.output.isSome then r.text else []).flatten := by
    intro rs
    cases hout : a.output with
    | none => simp [Rewritten.targetTexts, hout, emitAll]
    | some target => simp [Rewritten.targetTexts, hout, emitAll, List.flatMap_def]
  simp only [processAll_of_files hfiles, htarget, bind_eq_ok, tree_eq_ok, mapM_eq_ok_iff]
  constructor
  · rintro ⟨u, _, ⟨rfl, rfl⟩, ss, desk₁, ⟨rs, hruns, rfl⟩, hemit⟩
    exact ⟨rs, desk₁, hruns, hemit⟩
  · rintro ⟨rs, desk₁, hruns, hemit⟩
    exact ⟨_, _, ⟨rfl, rfl⟩, _, desk₁, ⟨rs, hruns, rfl⟩, hemit⟩

/-- A command that loads no result lines goes over documents. -/
theorem perform_eq_processAll (hcommand : a.command = none) {input : ByteArray} :
    perform b a input = processAll b a input := by
  simp [perform, hcommand]

/-- Behind documents that are run through, one that cannot be rewritten ends the command. -/
theorem processAll_eq_error (hfiles : a.files ≠ []) {input : ByteArray} {front back : List Path}
    {rs : List Rewritten} {desk₁ desk₂ : Desk κ} {e : Failure}
    (hinputs : inputs desk.session.world a.files = front ++ path :: back)
    (hruns : Runs b a front desk rs desk₁) (hfail : rewrite b a path desk₁ = .error e desk₂) :
    processAll b a input desk = .error e desk₂ := by
  rw [processAll_of_files hfiles]
  refine bind_eq_error.2 (.inr ⟨_, _, tree_eq_ok.2 ⟨rfl, rfl⟩, bind_eq_error.2 (.inl ?_)⟩)
  rw [hinputs]
  exact mapM_eq_error hruns hfail

end Step

/-! ## Commands -/

namespace Invocation

/-- The arguments of a command whose words can be used. -/
def arguments? (i : Invocation) : Option Arguments :=
  (Arguments.ofWords i.words).toOption.map fun a => { a with database := a.database <|> i.database }

/-- The directory tree in which a command works. -/
def entered (i : Invocation) (a : Arguments) : Except Failure Tree :=
  match a.workDirectory with
  | none => .ok i.tree
  | some path => (i.tree.enter path).mapError (.access path)

/-- A command gets to its working directory and to its database. -/
structure Opens (b : Backend Tree κ) (i : Invocation) (a : Arguments) (t : Tree)
    (desk : Desk κ) : Prop where
  entered : i.entered a = .ok t
  connected : b.connect (a.database.getD []) t =
    (.ok desk.session.connection, desk.session.world)
  transcript : desk.session.transcript = []
  output : desk.output = []

/-- The databases of a command keep to what belongs to them, in all that is asked of them from its
beginning to its end. -/
def KeepsTo (b : Backend Tree κ) (F : Footprint κ) (i : Invocation) (a : Arguments) : Prop :=
  ∀ t, i.entered a = .ok t → b.KeepsTo F t (a.database.getD []) (i.runOn b).transcript

/-- What a command leaves when it is through. -/
def report (b : Backend Tree κ) (i : Invocation) : EStateM.Result Failure (Desk κ) Unit → Report
  | .ok _ desk => closed 0 none desk
  | .error e desk => closed Report.failureCode (some e) desk
where
  /-- The connection is given up. -/
  closed (exitCode : Nat) (failure : Option Failure) (desk : Desk κ) : Report :=
    ⟨exitCode, desk.output, failure, desk.session.transcript,
      { b.close desk.session.connection desk.session.world with current := i.tree.current }⟩

variable {i : Invocation} {a : Arguments} {desk desk' : Desk κ}

theorem runOn_of_arguments (h : i.arguments? = some a) : i.runOn b = i.runWith b a := by
  unfold arguments? at h
  unfold runOn
  cases hwords : Arguments.ofWords i.words with
  | error e =>
    rw [hwords] at h
    cases h
  | ok given =>
    rw [hwords] at h
    cases h
    rfl

theorem runWith_eq (b : Backend Tree κ) (i : Invocation) (a : Arguments) :
    i.runWith b a = match i.entered a with
      | .error e => i.stopped Report.failureCode e i.tree
      | .ok t =>
        match b.connect (a.database.getD []) t with
        | (.error e, u) => i.stopped Report.failureCode e u
        | (.ok c, u) => i.report b (Step.perform b a i.input ⟨⟨c, u, []⟩, []⟩) := by
  unfold runWith entered
  dsimp only
  cases a.workDirectory with
  | none =>
    dsimp only
    rcases b.connect (a.database.getD []) i.tree with ⟨e | c, u⟩
    · rfl
    · dsimp only
      cases Step.perform b a i.input ⟨⟨c, u, []⟩, []⟩ <;> rfl
  | some path =>
    dsimp only
    cases (i.tree.enter path).mapError (Failure.access path) with
    | error e => rfl
    | ok t =>
      dsimp only
      rcases b.connect (a.database.getD []) t with ⟨e | c, u⟩
      · rfl
      · dsimp only
        cases Step.perform b a i.input ⟨⟨c, u, []⟩, []⟩ <;> rfl

/-- A command that gets to its database does its work. -/
theorem runOn_eq (ha : i.arguments? = some a) (h : i.Opens b a t desk) :
    i.runOn b = i.report b (Step.perform b a i.input desk) := by
  have hdesk : (⟨⟨desk.session.connection, desk.session.world, []⟩, []⟩ : Desk κ) = desk := by
    rw [← h.transcript, ← h.output]
  rw [runOn_of_arguments ha, runWith_eq, h.entered]
  simp only [h.connected, hdesk]

/-- The working directory of a command is a directory of its tree. -/
theorem entered_eq_ok (h : i.entered a = .ok t) :
    t.nodes = i.tree.nodes ∧ (i.tree.IsNamed → t.IsNamed) := by
  unfold entered at h
  split at h
  · cases h
    exact ⟨rfl, id⟩
  · next path _ =>
    unfold enter at h
    cases hplace : i.tree.resolve path with
    | error e =>
      rw [hplace] at h
      cases h
    | ok p =>
      rw [hplace] at h
      dsimp only at h
      split at h
      · cases h
        exact ⟨rfl, fun hnamed => hnamed.resolve hplace⟩
      · cases h
      · cases h

/-- The working directory changes nothing else. -/
theorem node?_of_entered (h : i.entered a = .ok t) : t.node? = i.tree.node? := by
  funext p
  simp only [node?, (entered_eq_ok h).1]

/-- A command that does not get so far stops: with the tree that it has found, or with what is left
of the attempt to open its database. -/
theorem runOn_eq_stopped (ha : i.arguments? = some a) (h : ∀ t desk, ¬ i.Opens b a t desk) :
    ∃ e u, i.runOn b = i.stopped Report.failureCode e u ∧
      (u = i.tree ∨ ∃ t, i.entered a = .ok t ∧ (b.connect (a.database.getD []) t).2 = u) := by
  have hrun := (runOn_of_arguments ha).trans (runWith_eq b i a)
  cases hentered : i.entered a with
  | error e =>
    rw [hentered] at hrun
    exact ⟨_, _, hrun, .inl rfl⟩
  | ok t =>
    rw [hentered] at hrun
    dsimp only at hrun
    rcases hopen : b.connect (a.database.getD []) t with ⟨e | c, u⟩
    · rw [hopen] at hrun
      exact ⟨_, _, hrun, .inr ⟨t, rfl, by rw [hopen]⟩⟩
    · exact absurd ⟨hentered, hopen, rfl, rfl⟩ (h t ⟨⟨c, u, []⟩, []⟩)

/-- Such a command fails, and changes at most what belongs to its databases. -/
theorem runOn_of_not_opens (hdatabases : i.KeepsTo b F a) (ha : i.arguments? = some a)
    (h : ∀ t desk, ¬ i.Opens b a t desk) :
    (i.runOn b).exitCode = Report.failureCode ∧ (i.runOn b).output = [] ∧
      AgreesOff F.places i.tree.node? (i.runOn b).tree.node? := by
  obtain ⟨e, u, hrun, hu⟩ := runOn_eq_stopped ha h
  rw [hrun]
  refine ⟨rfl, rfl, ?_⟩
  rcases hu with rfl | ⟨t, hentered, rfl⟩
  · exact .refl _ _
  · obtain ⟨hchange, -⟩ :=
      (hdatabases t hentered).connect _ (List.mem_cons_self ..) t (.refl t)
    rw [← node?_of_entered hentered]
    exact hchange.agrees

/-- A command that succeeds got to its database and through its work. -/
theorem exitCode_eq_zero_iff (ha : i.arguments? = some a) : (i.runOn b).exitCode = 0 ↔
    ∃ t desk desk', i.Opens b a t desk ∧ Step.perform b a i.input desk = .ok () desk' := by
  constructor
  · intro h
    by_cases hopens : ∃ t desk, i.Opens b a t desk
    · obtain ⟨t, desk, hopens⟩ := hopens
      rw [runOn_eq ha hopens] at h
      cases hperform : Step.perform b a i.input desk with
      | error e desk' =>
        rw [hperform] at h
        cases h
      | ok x desk' => exact ⟨t, desk, desk', hopens, hperform⟩
    · obtain ⟨e, u, hrun, -⟩ := runOn_eq_stopped ha fun t desk h => hopens ⟨t, desk, h⟩
      rw [hrun] at h
      cases h
  · rintro ⟨t, desk, desk', hopens, hperform⟩
    rw [runOn_eq ha hopens, hperform]
    rfl

/-- Before its first document the session of a command is intact. -/
theorem Opens.intact (hdatabases : i.KeepsTo b F a) (h : i.Opens b a t desk) :
    desk.session.Intact F t t.node? := by
  obtain ⟨hchange, hconnection⟩ :=
    (hdatabases t h.entered).connect _ (List.mem_cons_self ..) t (.refl t)
  rw [h.connected] at hchange hconnection
  exact ⟨hchange.same, hconnection _ rfl, hchange.agrees⟩

theorem Opens.isNamed (h : i.Opens b a t desk) (hnamed : i.tree.IsNamed) : t.IsNamed :=
  (entered_eq_ok h.entered).2 hnamed

/-- At the end of a command only what belongs to its databases is touched. -/
theorem agreesOff_closed (hdatabases : i.KeepsTo b F a) (ht : i.entered a = .ok t)
    {exitCode : Nat} {failure : Option Failure}
    (hrun : i.runOn b = report.closed b i exitCode failure desk)
    (hdesk : desk.session.Guarded F t (i.runOn b).transcript old) :
    AgreesOff F.places old (i.runOn b).tree.node? := by
  -- nothing is added to the transcript any more
  have hintact : desk.session.Intact F t old := by
    apply hdesk
    rw [hrun]
    exact List.Subset.refl _
  have hclose := (hdatabases t ht).close _ _ hintact.connection hintact.same
  rw [hrun]
  exact hintact.agrees.trans hclose.agrees

/-- A command in a directory that holds some files. -/
def withFiles (words : List Text) (files : List (Path × Text)) : Invocation where
  words
  input := .empty
  database := none
  tree := ⟨files.map fun f => (f.1.components, .file (toUtf8 f.2)), []⟩

end Invocation

end QueryWeave
