import QueryWeave.Engine.Run
import QueryWeave.Proofs.Comments

/-!
# What an action can see

A transcript is written and never read: what an action gives, and what it does to the connection and
to the files, is the same whatever was told before. And only the run itself begins directives, not
the actions by which it carries them out. Two runs that ask the same of equal databases therefore
get the same answers, which is what a second run over the output of a first one rests on.

Main statements: what a directive fetches is confined (`Action.confined_fetch`), given an importer
that is, such as the usual one (`Importer.confined_resultLines`).
-/

namespace QueryWeave

open Text

variable {ω κ α β : Type}

/-! ## Sessions apart from their transcripts -/

/-- The command of the directive that an event begins. -/
def Event.command? : Event → Option Text
  | .began d => some d.command
  | _ => none

namespace Session

/-- The commands of the directives that were begun, the oldest first. -/
def begun (s : Session ω κ) : List Text := s.transcript.filterMap Event.command?

/-- Two sessions that differ in nothing but their transcripts. -/
structure Alike (s s' : Session ω κ) : Prop where
  connection : s.connection = s'.connection
  world : s.world = s'.world

namespace Alike

variable {s s' : Session ω κ}

theorem refl (s : Session ω κ) : Alike s s := ⟨rfl, rfl⟩

theorem trans {t : Session ω κ} (h : Alike s s') (h' : Alike s' t) : Alike s t :=
  ⟨h.connection.trans h'.connection, h.world.trans h'.world⟩

/-- What is noted makes no difference. -/
theorem note (h : Alike s s') (e e' : Event) : Alike (s.note e) (s'.note e') :=
  ⟨h.connection, h.world⟩

end Alike

/-- Events that begin no directive add no command. -/
theorem begun_note {s : Session ω κ} {e : Event} (h : e.command? = none) :
    (s.note e).begun = s.begun := by
  simp [begun, note, h]

/-- A directive that is begun adds its command. -/
theorem begun_note_began (s : Session ω κ) (d : Directive) :
    (s.note (.began d)).begun = s.begun ++ [d.command] := by
  simp [begun, note, Event.command?]

end Session

/-! ## Confined actions -/

namespace Action

/-- A result or a failure, with the session after it. -/
def outcome : Except Failure α → Session ω κ → EStateM.Result Failure (Session ω κ) α
  | .ok a, s => .ok a s
  | .error e, s => .error e s

/-- An action that does not see the transcript and begins no directive. -/
def Confined (a : Action ω κ α) : Prop :=
  ∀ s s' : Session ω κ, s.Alike s' → ∃ r t t', a s = outcome r t ∧ a s' = outcome r t' ∧
    t.Alike t' ∧ t.begun = s.begun ∧ t'.begun = s'.begun

namespace Confined

protected theorem pure (a : α) : Confined (pure a : Action ω κ α) :=
  fun s s' h => ⟨.ok a, s, s', rfl, rfl, h, rfl, rfl⟩

protected theorem throw (e : Failure) : Confined (throw e : Action ω κ α) :=
  fun s s' h => ⟨.error e, s, s', rfl, rfl, h, rfl, rfl⟩

protected theorem bind {a : Action ω κ α} {f : α → Action ω κ β} (ha : Confined a)
    (hf : ∀ x, Confined (f x)) : Confined (a >>= f) := by
  intro s s' h
  obtain ⟨r, t, t', hs, hs', ht, hb, hb'⟩ := ha s s' h
  -- the first action has the same result in both sessions, so both go on in the same way or fail
  show ∃ r t t', EStateM.bind a f s = outcome r t ∧ EStateM.bind a f s' = outcome r t' ∧ _
  cases r with
  | error e =>
    simp only [outcome] at hs hs'
    refine ⟨.error e, t, t', ?_, ?_, ht, hb, hb'⟩
    · simp only [EStateM.bind, hs, outcome]
    · simp only [EStateM.bind, hs', outcome]
  | ok x =>
    simp only [outcome] at hs hs'
    obtain ⟨r, u, u', hx, hx', hu, hbu, hbu'⟩ := hf x t t' ht
    refine ⟨r, u, u', ?_, ?_, hu, hbu.trans hb, hbu'.trans hb'⟩
    · simp only [EStateM.bind, hs, hx]
    · simp only [EStateM.bind, hs', hx']

protected theorem ofExcept (r : Except Failure α) : Confined (ofExcept r : Action ω κ α) := by
  cases r with
  | ok a => exact .pure a
  | error e => exact .throw e

/-- An event that begins no directive. -/
protected theorem note {e : Event} (he : e.command? = none) :
    Confined (note e : Action ω κ Unit) :=
  fun s s' h => ⟨.ok (), s.note e, s'.note e, rfl, rfl, h.note e e, Session.begun_note he,
    Session.begun_note he⟩

/-- The database works on the connection and the files alone. -/
protected theorem ask {work : κ × ω → Except Failure α × κ × ω} {event : Bool → Event}
    (he : ∀ ok, (event ok).command? = none) : Confined (ask work event : Action ω κ α) := by
  intro s s' h
  rcases hwork : work (s.connection, s.world) with ⟨r, c, w⟩
  have hwork' : work (s'.connection, s'.world) = (r, c, w) := by
    rw [← h.connection, ← h.world, hwork]
  -- the work leaves the same connection and the same files, and then it is noted
  have halike : ({ s with connection := c, world := w } : Session ω κ).Alike
      { s' with connection := c, world := w } := ⟨rfl, rfl⟩
  refine ⟨r, ({ s with connection := c, world := w } : Session ω κ).note (event (succeeded r)),
    ({ s' with connection := c, world := w } : Session ω κ).note (event (succeeded r)), ?_, ?_,
    halike.note _ _, Session.begun_note (he _), Session.begun_note (he _)⟩
  · simp only [ask, hwork]
    cases r <;> rfl
  · simp only [ask, hwork']
    cases r <;> rfl

/-- An action that depends on the files. -/
protected theorem world {f : ω → Action ω κ α} (hf : ∀ w, Confined (f w)) :
    Confined (get >>= fun s : Session ω κ => f s.world : Action ω κ α) := by
  intro s s' h
  obtain ⟨r, t, t', hs, hs', hrest⟩ := hf s.world s s' h
  refine ⟨r, t, t', hs, ?_, hrest⟩
  rw [← hs', h.world]
  rfl

protected theorem forM {xs : List β} {f : β → Action ω κ PUnit} (hf : ∀ x, Confined (f x)) :
    Confined (xs.forM f) := by
  induction xs with
  | nil => exact .pure _
  | cons x xs ih => exact .bind (hf x) fun _ => ih

theorem begun_of_ok {a : Action ω κ α} (ha : Confined a) {s t : Session ω κ} {x : α}
    (h : a s = .ok x t) : t.begun = s.begun := by
  obtain ⟨r, u, -, hu, -, -, hbegun, -⟩ := ha s s (.refl s)
  rw [h] at hu
  cases r with
  | ok y =>
    cases hu
    exact hbegun
  | error e => cases hu

theorem begun_of_error {a : Action ω κ α} (ha : Confined a) {s t : Session ω κ} {e : Failure}
    (h : a s = .error e t) : t.begun = s.begun := by
  obtain ⟨r, u, -, hu, -, -, hbegun, -⟩ := ha s s (.refl s)
  rw [h] at hu
  cases r with
  | ok y => cases hu
  | error e' =>
    cases hu
    exact hbegun

end Confined

/-! ## What is asked of the database -/

variable (b : Backend ω κ)

theorem confined_execute (sql : Text) : Confined (execute b sql) := .ask fun _ => rfl

/-- That a transaction cannot be undone is told, and not seen. -/
theorem confined_abandon : Confined (abandon b) := by
  intro s s' h
  obtain ⟨r, t, t', hs, hs', ht, hb, hb'⟩ := confined_execute b "ROLLBACK TRANSACTION" s s' h
  cases r with
  | ok a =>
    refine ⟨.ok (), t, t', ?_, ?_, ht, hb, hb'⟩
    · simp only [abandon, rollBack, hs, outcome]
    · simp only [abandon, rollBack, hs', outcome]
  | error e =>
    refine ⟨.ok (), t.note (.warned (.rollBackFailed e)), t'.note (.warned (.rollBackFailed e)), ?_,
      ?_, ht.note _ _, (Session.begun_note rfl).trans hb, (Session.begun_note rfl).trans hb'⟩
    · simp only [abandon, rollBack, hs, outcome]
    · simp only [abandon, rollBack, hs', outcome]

theorem confined_query (sql : Text) (values : List Text) : Confined (query b sql values) :=
  .ask fun _ => rfl

theorem confined_hasTable (name : Text) : Confined (hasTable b name) := .ask fun _ => rfl

theorem confined_queryTable (sql : Text) : Confined (queryTable b sql) :=
  .bind (confined_query b sql []) fun _ => .ofExcept _

/-- A clause is read before the query is sent. -/
theorem confined_queryFormatted (body : Text) : Confined (queryFormatted b body) :=
  .bind (.ofExcept _) fun _ => .bind (confined_queryTable b _) fun _ => .pure _

theorem confined_queryRows (sql : Text) : Confined (queryRows b sql) :=
  .bind (confined_queryTable b sql) fun _ => .pure _

/-- Rows that are left out are told, and that is all that is told. -/
theorem confined_gatherCurves (h : MultiPlotHeader) (c : Cursor) :
    Confined (gatherCurves h c : Action ω κ MultiPlot) := by
  apply Confined.bind (.ofExcept _)
  intro cols
  apply Confined.bind (.forM fun i => .note rfl)
  intro _
  cases c.read.2 with
  | none => exact .pure _
  | some message => exact .throw _

/-- Going over to another database depends on the old one no more than on its files. -/
theorem confined_connect (target : Text) : Confined (connect b target) := by
  refine .bind ?_ fun new => .bind (confined_execute b _) fun _ => .bind ?_ fun _ =>
    confined_execute b _
  · -- the new connection is opened
    intro s s' h
    rcases hwork : b.connect target s.world with ⟨r, w⟩
    have hwork' : b.connect target s'.world = (r, w) := by rw [← h.world, hwork]
    refine ⟨r, { s with world := w }, { s' with world := w }, ?_, ?_, ⟨h.connection, rfl⟩, rfl, rfl⟩
    · simp only [hwork]
      cases r <;> rfl
    · simp only [hwork']
      cases r <;> rfl
  · -- the old one is closed, whatever it was
    intro s s' h
    have halike : ({ s with connection := new, world := b.close s.connection s.world } :
        Session ω κ).Alike
          { s' with connection := new, world := b.close s'.connection s'.world } :=
      ⟨rfl, by rw [h.connection, h.world]⟩
    exact ⟨.ok (), _, _, rfl, rfl, halike.note _ _, Session.begun_note rfl, Session.begun_note rfl⟩

end Action

/-! ## Imports -/

namespace Importer

/-- An importer whose actions are confined, whatever it is to load. -/
def Confined (importer : Importer ω κ) : Prop :=
  ∀ lines options temporary, Action.Confined (importer lines options temporary)

/-- The usual importer asks the database, and that is all it does. -/
theorem confined_resultLines (b : Backend ω κ) : (resultLines b).Confined := by
  intro lines options temporary
  have drop : Action.Confined (dropOld b options.table) := by
    apply Action.Confined.bind (Action.confined_hasTable b _)
    intro there
    cases there with
    | true => exact Action.confined_execute b _
    | false => exact .pure _
  have load : Action.Confined (do
      dropOld b options.table
      Action.execute b (Statement.create b.toDialect temporary options.table
        (ResultRow.columns options (ResultRow.ofLines options lines)))
      (ResultRow.ofLines options lines).forM (insertRow b options.table)
      return (ResultRow.ofLines options lines).length : Action ω κ Nat) :=
    .bind drop fun _ => .bind (Action.confined_execute b _) fun _ =>
      .bind (.forM fun _ => .bind (Action.confined_query b _ _) fun _ => .pure _) fun _ => .pure _
  -- lines without columns are refused before anything is loaded
  unfold resultLines
  dsimp only
  split
  · exact .bind (.throw _) fun _ => load
  · exact load

end Importer

/-! ## What a directive fetches -/

namespace Action

variable {b : Backend ω κ} {importer : Importer ω κ}

/-- Files are read before their lines are loaded. -/
theorem confined_importFiles (hi : importer.Confined) (body : Text) :
    Confined (importFiles b importer body) := by
  apply Confined.bind (.ofExcept _)
  intro options
  have load : Confined (do
      let lines ← ofExcept ((readFiles b options.files (← get).world).mapError .importing)
      let _ ← importer lines options true : Action ω κ Unit) :=
    .world (f := fun w => do
        let lines ← ofExcept ((readFiles b options.files w).mapError .importing)
        let _ ← importer lines options true) fun w =>
      .bind (.ofExcept _) fun lines => .bind (hi lines options true) fun _ => .pure _
  split
  · exact .bind (.throw _) fun _ => load
  · exact load

/-- Whatever a directive asks for, it is fetched by a confined action. -/
theorem confined_fetch (hi : importer.Confined) (d : Directive) :
    Confined (fetch b importer d) := by
  unfold fetch
  cases d.keyword with
  | range => exact .pure _
  | sql => exact .bind (confined_execute b _) fun _ => .pure _
  | importData => exact .bind (confined_importFiles hi _) fun _ => .pure _
  | connect => exact .bind (confined_connect b _) fun _ => .pure _
  | textTable => exact .bind (confined_queryTable b _) fun _ => .pure _
  | plot => exact .bind (confined_queryRows b _) fun _ => .pure _
  | multiPlot =>
    exact .bind (.ofExcept _) fun h => .bind (confined_query b _ _) fun c =>
      .bind (confined_gatherCurves h c) fun _ => .pure _
  | tabular => exact .bind (confined_queryFormatted b _) fun _ => .pure _
  | tabTable => exact .bind (confined_queryFormatted b _) fun _ => .pure _
  | defMacro =>
    exact .bind (confined_queryFormatted b _) fun _ => .bind (.ofExcept _) fun _ => .pure _

/-- A directive that is carried out in two sessions that are alike, wherever it stands in the two
documents, fetches the same or fails in the same way, and adds its own command alone. -/
theorem fetch_alike (hi : importer.Confined) {s s' : Session ω κ} (h : s.Alike s')
    (d : Directive) (start length : Nat) :
    ∃ r t t', fetch b importer d (s.note (.began d)) = outcome r t ∧
      fetch b importer (d.standingAt start length)
        (s'.note (.began (d.standingAt start length))) = outcome r t' ∧
      t.Alike t' ∧ t.begun = s.begun ++ [d.command] ∧ t'.begun = s'.begun ++ [d.command] := by
  have hsame : fetch b importer (d.standingAt start length) = fetch b importer d := rfl
  obtain ⟨r, t, t', hs, hs', ht, hb, hb'⟩ :=
    confined_fetch (b := b) hi d (s.note (.began d)) (s'.note (.began (d.standingAt start length)))
      (h.note _ _)
  refine ⟨r, t, t', hs, hsame ▸ hs', ht, ?_, ?_⟩
  · rw [hb, Session.begun_note_began]
  · rw [hb', Session.begun_note_began]
    rfl

end Action

end QueryWeave
