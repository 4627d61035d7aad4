import QueryWeave.Proofs.Iteration

/-!
# Invariants of sessions

A run changes its session only by what it asks of the database and by what it notes. A property of
sessions that each single request preserves therefore holds after every run, whatever the document
says. A request to go over to another database is made by a directive that is noted before, so the
property may speak about the directives of the transcript.

Main statements: `Session.IsInvariant.walk` and `Session.IsInvariant.process`.
-/

namespace QueryWeave

open Text

variable {ω κ α β : Type}

/-! ## Actions that keep a property -/

namespace Action

/-- The session after an action, whether it succeeds or fails. -/
def after (a : Action ω κ α) (s : Session ω κ) : Session ω κ :=
  match a s with
  | .ok _ t | .error _ t => t

theorem after_of_ok {a : Action ω κ α} {s t : Session ω κ} {x : α} (h : a s = .ok x t) :
    a.after s = t := by
  simp only [after, h]

theorem after_of_error {a : Action ω κ α} {s t : Session ω κ} {e : Failure}
    (h : a s = .error e t) : a.after s = t := by
  simp only [after, h]

theorem after_bind (a : Action ω κ α) (f : α → Action ω κ β) (s : Session ω κ) :
    (a >>= f).after s = match a s with
      | .ok x t => (f x).after t
      | .error _ t => t := by
  simp only [after, bind, EStateM.bind]
  cases a s <;> rfl

/-- The database works on the connection and the files, and then that is noted. -/
theorem after_ask (work : κ × ω → Except Failure α × κ × ω) (event : Bool → Event)
    (s : Session ω κ) :
    (ask work event).after s =
      ({ s with
        connection := (work (s.connection, s.world)).2.1
        world := (work (s.connection, s.world)).2.2 } : Session ω κ).note
          (event (succeeded (work (s.connection, s.world)).1)) := by
  simp only [after, ask]
  rcases work (s.connection, s.world) with ⟨_ | _, c, w⟩ <;> rfl

/-- The new database is opened, the changes of the old one are made to last, and then the old one is
given up. -/
theorem after_connect (b : Backend ω κ) (target : Text) (s : Session ω κ) :
    (connect b target).after s =
      match b.connect target s.world with
      | (.error _, w) => { s with world := w }
      | (.ok new, w) =>
        match commit b { s with world := w } with
        | .error _ t => t
        | .ok _ t => (startTransaction b).after
            ({ t with connection := new, world := b.close t.connection t.world }.note
              (.connected target)) := by
  simp only [after, connect, bind, EStateM.bind]
  rcases b.connect target s.world with ⟨e | new, w⟩
  · rfl
  · dsimp only
    cases commit b { s with world := w } with
    | error e t => rfl
    | ok x t =>
      dsimp only
      rfl

/-- Going over to another database ends when the new one cannot be opened, when the changes of the
old one cannot be made to last, or with the beginning of a transaction on the new one. -/
theorem after_connect_cases {b : Backend ω κ} {target : Text} {s opened : Session ω κ}
    {I : Session ω κ → Prop} (hopened : opened = { s with world := (b.connect target s.world).2 })
    (hfail : I opened) (hcommit : I ((commit b).after opened))
    (hnew : ∀ new, (b.connect target s.world).1 = .ok new →
      I ((startTransaction b).after ({ (commit b).after opened with
        connection := new
        world := b.close ((commit b).after opened).connection ((commit b).after opened).world
      }.note (.connected target)))) :
    I ((connect b target).after s) := by
  rw [after_connect]
  rcases hopen : b.connect target s.world with ⟨e | new, w⟩
  · simpa only [hopened, hopen] using hfail
  · have hnew := hnew new (by rw [hopen])
    simp only [hopened, hopen] at hcommit hnew
    dsimp only
    cases h : commit b { s with world := w } with
    | error e t => rwa [after_of_error h] at hcommit
    | ok x t => rwa [after_of_ok h] at hnew

/-- An action after which a session has a property if it had it before. -/
def Keeps (I : Session ω κ → Prop) (a : Action ω κ α) : Prop := ∀ s, I s → I (a.after s)

namespace Keeps

variable {I : Session ω κ → Prop}

protected theorem pure (a : α) : Keeps I (pure a : Action ω κ α) := fun _ h => h

protected theorem throw (e : Failure) : Keeps I (throw e : Action ω κ α) := fun _ h => h

protected theorem bind {a : Action ω κ α} {f : α → Action ω κ β} (ha : Keeps I a)
    (hf : ∀ x, Keeps I (f x)) : Keeps I (a >>= f) := by
  intro s hs
  have hfirst := ha s hs
  rw [after_bind]
  cases h : a s with
  | error e t => exact after_of_error h ▸ hfirst
  | ok x t => exact hf x t (after_of_ok h ▸ hfirst)

protected theorem ofExcept (r : Except Failure α) : Keeps I (ofExcept r : Action ω κ α) := by
  cases r with
  | ok a => exact .pure a
  | error e => exact .throw e

/-- An action that depends on the files. -/
protected theorem get {f : Session ω κ → Action ω κ α} (hf : ∀ s, Keeps I (f s)) :
    Keeps I (get >>= f) :=
  fun s hs => hf s s hs

protected theorem forM {xs : List β} {f : β → Action ω κ PUnit} (hf : ∀ x, Keeps I (f x)) :
    Keeps I (xs.forM f) := by
  induction xs with
  | nil => exact .pure _
  | cons x xs ih => exact .bind (hf x) fun _ => ih

end Keeps

end Action

/-! ## Invariants -/

/-- A property of sessions that no request of a run ends. -/
structure Session.IsInvariant (b : Backend ω κ) (I : Session ω κ → Prop) : Prop where
  note : ∀ e, Action.Keeps I (Action.note e)
  execute : ∀ sql, Action.Keeps I (Action.execute b sql)
  query : ∀ sql values, Action.Keeps I (Action.query b sql values)
  hasTable : ∀ name, Action.Keeps I (Action.hasTable b name)
  /-- The directive that goes over to another database is noted. -/
  connect : ∀ (d : Directive) (s : Session ω κ), d.keyword = .connect → I s →
    I ((Action.connect b d.body).after (s.note (.began d)))

namespace Session.IsInvariant

variable {b : Backend ω κ} {I : Session ω κ → Prop} (inv : IsInvariant b I)

include inv

/-! ## Fetching -/

theorem queryTable (sql : Text) : Action.Keeps I (Action.queryTable b sql) :=
  .bind (inv.query sql []) fun _ => .ofExcept _

theorem queryFormatted (body : Text) : Action.Keeps I (Action.queryFormatted b body) :=
  .bind (.ofExcept _) fun _ => .bind (inv.queryTable _) fun _ => .pure _

theorem gatherCurves (h : MultiPlotHeader) (c : Cursor) :
    Action.Keeps I (Action.gatherCurves h c) := by
  refine .bind (.ofExcept _) fun cols => .bind (.forM fun i => inv.note _) fun _ => ?_
  cases c.read.2 with
  | none => exact .pure _
  | some message => exact .throw _

/-- Result lines are loaded by requests. -/
theorem resultLines (lines : List Text) (options : ImportOptions) (temporary : Bool) :
    Action.Keeps I (Importer.resultLines b lines options temporary) := by
  have drop : Action.Keeps I (Importer.dropOld b options.table) := by
    refine .bind (inv.hasTable _) fun there => ?_
    cases there with
    | true => exact inv.execute _
    | false => exact .pure _
  have load : Action.Keeps I (do
      Importer.dropOld b options.table
      Action.execute b (Statement.create b.toDialect temporary options.table
        (ResultRow.columns options (ResultRow.ofLines options lines)))
      (ResultRow.ofLines options lines).forM (Importer.insertRow b options.table)
      return (ResultRow.ofLines options lines).length : Action ω κ Nat) :=
    .bind drop fun _ => .bind (inv.execute _) fun _ =>
      .bind (.forM fun _ => .bind (inv.query _ _) fun _ => .pure _) fun _ => .pure _
  unfold Importer.resultLines
  dsimp only
  split
  · exact .bind (.throw _) fun _ => load
  · exact load

theorem importFiles (body : Text) :
    Action.Keeps I (Action.importFiles b (Importer.resultLines b) body) := by
  refine .bind (.ofExcept _) fun options => ?_
  have load : Action.Keeps I (do
      let lines ← Action.ofExcept
        ((readFiles b options.files (← get).world).mapError .importing)
      let _ ← Importer.resultLines b lines options true : Action ω κ Unit) :=
    .get fun _ => .bind (.ofExcept _) fun lines => .bind (inv.resultLines lines options true)
      fun _ => .pure _
  split
  · exact .bind (.throw _) fun _ => load
  · exact load

/-- What a directive asks for in its own database. -/
theorem fetch {d : Directive} (hd : d.keyword ≠ .connect) :
    Action.Keeps I (Action.fetch b (Importer.resultLines b) d) := by
  unfold Action.fetch
  cases hk : d.keyword with
  | range => exact .pure _
  | sql => exact .bind (inv.execute _) fun _ => .pure _
  | importData => exact .bind (inv.importFiles _) fun _ => .pure _
  | connect => exact absurd hk hd
  | textTable => exact .bind (inv.queryTable _) fun _ => .pure _
  | plot => exact .bind (.bind (inv.queryTable _) fun _ => .pure _) fun _ => .pure _
  | multiPlot =>
    exact .bind (.ofExcept _) fun h => .bind (inv.query _ _) fun c =>
      .bind (inv.gatherCurves h c) fun _ => .pure _
  | tabular | tabTable => exact .bind (inv.queryFormatted _) fun _ => .pure _
  | defMacro =>
    exact .bind (inv.queryFormatted _) fun _ => .bind (.ofExcept _) fun _ => .pure _

/-! ## Runs -/

/-- A directive is noted, and then it is carried out. -/
theorem carryOut (d : Directive) (output : Output) (lines : List Text) :
    Action.Keeps I (Run.carryOut b (Importer.resultLines b) d output lines) := by
  intro s hs
  have hfetch : I ((Action.fetch b (Importer.resultLines b) d).after (s.note (.began d))) := by
    by_cases hd : d.keyword = .connect
    · have hconnect := inv.connect d s hd hs
      have hunit : Action.fetch b (Importer.resultLines b) d =
          Action.connect b d.body >>= fun _ => pure .nothing := by
        unfold Action.fetch
        rw [hd]
      -- that nothing is written makes no difference to the session
      rw [hunit, Action.after_bind]
      cases h : Action.connect b d.body (s.note (.began d)) with
      | ok x t => exact Action.after_of_ok h ▸ hconnect
      | error e t => exact Action.after_of_error h ▸ hconnect
    · exact inv.fetch hd _ (inv.note (.began d) s hs)
  have hsession : (Run.carryOut b (Importer.resultLines b) d output lines).after s =
      (Action.fetch b (Importer.resultLines b) d).after (s.note (.began d)) := by
    simp only [Action.after, Run.carryOut_eq]
    cases Action.fetch b (Importer.resultLines b) d (s.note (.began d)) with
    | error e t => rfl
    | ok m t =>
      dsimp only
      cases output.weave d m lines <;> rfl
  rwa [hsession]

theorem told {s : Session ω κ} (hs : I s) (w : Option Warning) : I (s.told w) := by
  cases w with
  | none => exact hs
  | some w => exact inv.note (.warned w) s hs

/-- Every iteration keeps the property, so that it holds where a run ends. -/
theorem walk (p : Position) {s : Session ω κ} (hs : I s) :
    I (Run.walk b (Importer.resultLines b) p s).2 := by
  induction p, s using Run.run_induction b (Importer.resultLines b) with
  | nothing p s hlook => rwa [Run.walk_nothing hlook]
  | passed p s q w hlook ih =>
    rw [Run.walk_passed hlook]
    exact ih (inv.told hs w)
  | failed p s q d e t hlook hfail =>
    rw [Run.walk_failed hlook hfail, ← Action.after_of_error hfail]
    exact inv.carryOut d q.output q.rest s hs
  | carried p s q d splice output t hlook hdone ih =>
    rw [Run.walk_carried hlook hdone]
    apply ih
    rw [← Action.after_of_ok hdone]
    exact inv.carryOut d q.output q.rest s hs

/-- The statements around a run are requests like others. -/
theorem process (settings : Run.Settings) (kind : DocumentKind) (name : Text) (input : Document)
    {s : Session ω κ} (hs : I s) :
    I (Run.process b (Importer.resultLines b) settings kind name input s).2 := by
  have hbegin := inv.execute "BEGIN TRANSACTION" s hs
  generalize hrun : Run.process b (Importer.resultLines b) settings kind name input s = run
  have hcourse := Run.process_course b (Importer.resultLines b) settings kind name input s
  rw [hrun] at hcourse
  cases hcourse with
  | refused opened => exact Action.after_of_error opened ▸ hbegin
  | lasting opened walked closed =>
    have hwalk := inv.walk (Run.start settings kind name input)
      (Action.after_of_ok opened ▸ hbegin)
    rw [walked] at hwalk
    exact Action.after_of_ok closed ▸ inv.execute "COMMIT TRANSACTION" _ hwalk
  | unlasting opened walked closed =>
    have hwalk := inv.walk (Run.start settings kind name input)
      (Action.after_of_ok opened ▸ hbegin)
    rw [walked] at hwalk
    exact Action.after_of_error closed ▸ inv.execute "COMMIT TRANSACTION" _ hwalk
  | @abandoned q t u v e opened walked closed =>
    have hwalk := inv.walk (Run.start settings kind name input)
      (Action.after_of_ok opened ▸ hbegin)
    rw [walked] at hwalk
    have hback := inv.execute "ROLLBACK TRANSACTION" u hwalk
    -- that a transaction cannot be undone is noted
    cases hr : Action.rollBack b u with
    | ok x w =>
      simp only [Action.abandon, hr] at closed
      cases closed
      exact Action.after_of_ok hr ▸ hback
    | error e w =>
      simp only [Action.abandon, hr] at closed
      cases closed
      rw [show Action.execute b "ROLLBACK TRANSACTION".toList = Action.rollBack b from rfl,
        Action.after_of_error hr] at hback
      exact inv.note (.warned (.rollBackFailed e)) w hback

end Session.IsInvariant

end QueryWeave
