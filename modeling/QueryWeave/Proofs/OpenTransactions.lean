import QueryWeave.Proofs.Transactions

/-!
# Transactions that stay open

After a run, or after an import, the connection of the session is to be ready for the next one: no
transaction is under way on it. Whether one is can be read off the transcript. It is begun and ended
by statements that succeed, and a new connection has none.

Whatever fails on the way is followed by a statement that undoes the transaction, with one
exception: if the changes cannot be made to last in the end, nothing undoes them.

Main statement: `Run.isUnderway_iff`.
-/

namespace QueryWeave

open Text

/-! ## Reading a transcript -/

/-- Whether a transaction is under way after an event, given whether one was before. -/
def Event.underwayAfter (underway : Bool) : Event → Bool
  | .executed sql true =>
    if sql = "BEGIN TRANSACTION".toList then true
    else if sql = "COMMIT TRANSACTION".toList ∨ sql = "ROLLBACK TRANSACTION".toList then false
    else underway
  | .connected _ => false
  | _ => underway

/-- Whether a transaction is under way on the connection of a session. -/
def Session.isUnderway {ω κ : Type} (s : Session ω κ) : Bool :=
  s.transcript.foldl Event.underwayAfter false

section Events

variable {underway : Bool} {events : List Event}

/-- Work goes on inside of the transaction. -/
theorem Event.IsWork.underwayAfter {e : Event} (h : e.IsWork) (underway : Bool) :
    e.underwayAfter underway = underway := by
  cases e with
  | executed sql succeeded =>
    have hsql : sql ∉ transactionTexts := h
    simp only [transactionTexts, List.map_cons, List.map_nil, List.mem_cons, List.not_mem_nil,
      or_false, not_or] at hsql
    cases succeeded with
    | true => simp only [Event.underwayAfter, hsql.1, hsql.2.1, hsql.2.2, or_self, if_false]
    | false => rfl
  | connected target => exact h.elim
  | queried | soughtTable | began | warned => rfl

theorem foldl_underwayAfter_work (h : ∀ e ∈ events, e.IsWork) (underway : Bool) :
    events.foldl Event.underwayAfter underway = underway := by
  induction events with
  | nil => rfl
  | cons e events ih =>
    rw [List.foldl_cons, (h e (List.mem_cons_self ..)).underwayAfter]
    exact ih fun e he => h e (List.mem_cons_of_mem _ he)

theorem foldl_underwayAfter_told (h : ∀ e ∈ events, ∃ w, e = .warned w) (underway : Bool) :
    events.foldl Event.underwayAfter underway = underway := by
  apply foldl_underwayAfter_work
  intro e he
  obtain ⟨w, rfl⟩ := h e he
  exact trivial

/-- What is under way is read off what the present connection was asked. -/
theorem Log.foldl_underwayAfter_present (l : Log) (events : List Event) :
    (l.extend events).present.foldl Event.underwayAfter false =
      events.foldl Event.underwayAfter (l.present.foldl Event.underwayAfter false) := by
  induction events generalizing l with
  | nil => rfl
  | cons e events ih =>
    have hadd : (l.add e).present.foldl Event.underwayAfter false =
        e.underwayAfter (l.present.foldl Event.underwayAfter false) := by
      cases e with
      | connected target => rfl
      | executed | queried | soughtTable => exact List.foldl_append
      | began | warned => rfl
    rw [List.foldl_cons, ← hadd]
    exact ih (l.add e)

/-- Where the log of a run is in order, a transaction is under way. -/
theorem Log.IsOpen.foldl_underwayAfter (h : (Log.ofEvents events).IsOpen) :
    events.foldl Event.underwayAfter false = true := by
  obtain ⟨work, hpresent, hwork⟩ := h.present
  have hfold := Log.foldl_underwayAfter_present {} events
  rw [← Log.ofEvents, hpresent, List.foldl_cons, foldl_underwayAfter_work hwork] at hfold
  exact hfold.symm

end Events

namespace Session

variable {ω κ : Type} {s t : Session ω κ} {events : List Event}

theorem isUnderway_append (h : t.transcript = s.transcript ++ events) :
    t.isUnderway = events.foldl Event.underwayAfter s.isUnderway := by
  rw [isUnderway, h, List.foldl_append]
  rfl

end Session

namespace Action

variable {ω κ α : Type} {s : Session ω κ}

/-- The ways in which work in a transaction of its own goes. -/
inductive Course (b : Backend ω κ) (body : Action ω κ α) (s : Session ω κ) :
    Except Failure α → Session ω κ → Prop
  /-- The transaction cannot be opened. -/
  | refused {t : Session ω κ} {e : Failure} (opened : startTransaction b s = .error e t) :
      Course b body s (.error e) t
  /-- The work succeeds, and its changes are made to last. -/
  | lasting {t u v : Session ω κ} {a : α} (opened : startTransaction b s = .ok () t)
      (worked : body t = .ok a u) (closed : commit b u = .ok () v) : Course b body s (.ok a) v
  /-- The work succeeds, but its changes cannot be made to last. -/
  | unlasting {t u v : Session ω κ} {a : α} {e : Failure}
      (opened : startTransaction b s = .ok () t) (worked : body t = .ok a u)
      (closed : commit b u = .error e v) : Course b body s (.error e) v
  /-- The work fails. -/
  | abandoned {t u v : Session ω κ} {e : Failure} (opened : startTransaction b s = .ok () t)
      (worked : body t = .error e u) (closed : abandon b u = .ok () v) :
      Course b body s (.error e) v

theorem inTransaction_course (b : Backend ω κ) (body : Action ω κ α) (s : Session ω κ) :
    ∃ r t, inTransaction b body s = outcome r t ∧ Course b body s r t := by
  simp only [inTransaction, bind, EStateM.bind]
  cases hopen : startTransaction b s with
  | error e t => exact ⟨.error e, t, rfl, .refused hopen⟩
  | ok x t =>
    cases hbody : body t with
    | ok a u =>
      cases hcommit : commit b u with
      | ok y v => exact ⟨.ok a, v, by simp only [hbody, hcommit]; rfl, .lasting hopen hbody hcommit⟩
      | error e v =>
        exact ⟨.error e, v, by simp only [hbody, hcommit]; rfl, .unlasting hopen hbody hcommit⟩
    | error e u =>
      -- undoing the work has no failure of its own
      obtain ⟨v, habandon⟩ := exists_abandon b u
      exact ⟨.error e, v, by simp only [hbody, habandon]; rfl, .abandoned hopen hbody habandon⟩

end Action

namespace Run

variable {ω κ : Type} {b : Backend ω κ} {importer : Importer ω κ}

/-! ## How a transaction ends -/

section Ends

variable {s t u : Session ω κ}

/-- A transaction that could not be begun changes nothing. -/
private theorem isUnderway_of_refused {e : Failure}
    (opened : Action.startTransaction b s = .error e t) :
    t.isUnderway = s.isUnderway ∧ t.transcript.getLast? = some (.opened false) := by
  have ht : t.transcript = s.transcript ++ [.opened false] :=
    Action.transcript_of_execute_error opened
  constructor
  · rw [Session.isUnderway_append ht]
    rfl
  · rw [ht]
    exact List.getLast?_concat

private theorem isUnderway_of_opened (opened : Action.startTransaction b s = .ok () t) :
    t.isUnderway = true := by
  have ht : t.transcript = s.transcript ++ [.opened true] := Action.transcript_of_execute_ok opened
  rw [Session.isUnderway_append ht]
  rfl

private theorem isUnderway_of_committed (closed : Action.commit b s = .ok () t) :
    t.isUnderway = false ∧ t.transcript.getLast? = some (.committed true) := by
  have ht : t.transcript = s.transcript ++ [.committed true] :=
    Action.transcript_of_execute_ok closed
  constructor
  · rw [Session.isUnderway_append ht]
    rfl
  · rw [ht]
    exact List.getLast?_concat

/-- Changes that cannot be made to last leave the transaction as it is. -/
private theorem isUnderway_of_unlasting {e : Failure} (closed : Action.commit b s = .error e t) :
    t.isUnderway = s.isUnderway ∧ t.transcript.getLast? = some (.committed false) := by
  have ht : t.transcript = s.transcript ++ [.committed false] :=
    Action.transcript_of_execute_error closed
  constructor
  · rw [Session.isUnderway_append ht]
    rfl
  · rw [ht]
    exact List.getLast?_concat

/-- A transaction that is undone with success has ended. -/
private theorem isUnderway_of_abandoned {earlier : List Event}
    (hs : s.transcript = u.transcript ++ earlier) (closed : Action.abandon b s = .ok () t)
    (hback : ∀ events, t.transcript = u.transcript ++ events → .rolledBack false ∉ events) :
    t.isUnderway = false ∧ t.transcript.getLast? ≠ some (.committed false) := by
  obtain ⟨ok, told, ht, htold⟩ := Action.abandon_transcript closed
  cases ok with
  | false =>
    have hevents : t.transcript = u.transcript ++ (earlier ++ .rolledBack false :: told) := by
      rw [ht, hs, List.append_assoc]
    exact absurd (List.mem_append_right _ (List.mem_cons_self ..)) (hback _ hevents)
  | true =>
    constructor
    · rw [Session.isUnderway_append ht, List.foldl_cons, foldl_underwayAfter_told htold]
      rfl
    · rw [ht, List.getLast?_append]
      -- the last event is a warning, or else the statement itself
      cases hlast : told.getLast? with
      | none =>
        rw [List.getLast?_eq_none_iff.1 hlast]
        show some (Event.rolledBack true) ≠ some (.committed false)
        decide
      | some e =>
        obtain ⟨w, rfl⟩ := htold e (List.mem_of_getLast? hlast)
        simp [List.getLast?_cons, hlast, Event.committed]

end Ends

/-- An import is one transaction: it leaves this one open exactly if its changes could not be made
to last. -/
private theorem isUnderway_importLines (hi : importer.Works) (lines : List Text)
    (options : ImportOptions) {s : Session ω κ} (hs : s.isUnderway = false) :
    ∃ r t, importLines b importer lines options s = Action.outcome r t ∧
      ((∀ events, t.transcript = s.transcript ++ events → .rolledBack false ∉ events) →
        (t.isUnderway = true ↔ t.transcript.getLast? = some (.committed false))) := by
  obtain ⟨r, t, himport, hcourse⟩ := Action.inTransaction_course b (importer lines options false) s
  refine ⟨r, t, himport, fun hback => ?_⟩
  cases hcourse with
  | refused opened =>
    obtain ⟨hunderway, hlast⟩ := isUnderway_of_refused opened
    rw [hunderway, hs, hlast]
    decide
  | lasting opened worked closed =>
    obtain ⟨hended, hlast⟩ := isUnderway_of_committed closed
    rw [hended, hlast]
    decide
  | @unlasting t u v n e opened worked closed =>
    obtain ⟨hsame, hlast⟩ := isUnderway_of_unlasting closed
    obtain ⟨work, hu, hwork⟩ := (hi lines options false).of_ok worked
    -- the work has left the transaction open, and nothing else comes after it
    have hunderway : u.isUnderway = true := by
      rw [Session.isUnderway_append hu, foldl_underwayAfter_work hwork]
      exact isUnderway_of_opened opened
    rw [hsame, hunderway, hlast]
    decide
  | @abandoned t u v e opened worked closed =>
    obtain ⟨work, hu, -⟩ := (hi lines options false).of_error worked
    have hearlier : u.transcript = s.transcript ++ (.opened true :: work) := by
      rw [hu, Action.transcript_of_execute_ok opened, List.append_assoc]
      rfl
    obtain ⟨hended, hlast⟩ := isUnderway_of_abandoned hearlier closed hback
    simp [hended, hlast]

/-! ## Runs and imports -/

variable {settings : Settings} {kind : DocumentKind} {name : Text} {input : Document}

/-- So is a run: a directive that fails, also where it goes over to another database, is followed by
a statement that undoes the transaction. -/
private theorem isUnderway_process (hi : importer.Works) {s : Session ω κ}
    (hs : s.isUnderway = false)
    (hplain : ∀ d, Begins b importer settings kind name input s d → d.IsPlain)
    (hback : ∀ events, (process b importer settings kind name input s).2.transcript =
      s.transcript ++ events → .rolledBack false ∉ events) :
    (process b importer settings kind name input s).2.isUnderway = true ↔
      (process b importer settings kind name input s).2.transcript.getLast? =
        some (.committed false) := by
  have hcourse := process_course b importer settings kind name input s
  generalize process b importer settings kind name input s = result at hback hcourse
  cases hcourse with
  | refused opened =>
    obtain ⟨hunderway, hlast⟩ := isUnderway_of_refused opened
    rw [hunderway, hs, hlast]
    decide
  | lasting opened walked closed =>
    obtain ⟨hended, hlast⟩ := isUnderway_of_committed closed
    rw [hended, hlast]
    decide
  | @unlasting q t u v e opened walked closed =>
    obtain ⟨hsame, hlast⟩ := isUnderway_of_unlasting closed
    obtain ⟨later, hlater, ⟨-, hu⟩ | ⟨_, _, _, hfailure, -⟩⟩ := walk_log hi hplain opened walked
    · have hunderway : u.isUnderway = true := by
        rw [Session.isUnderway_append hu, hs]
        exact hlater.foldl_underwayAfter
      rw [hsame, hunderway, hlast]
      decide
    · cases hfailure
  | @abandoned q t u v e opened walked closed =>
    obtain ⟨later, -, ⟨hnone, -⟩ | ⟨_, _, sent, -, -, hu⟩⟩ := walk_log hi hplain opened walked
    · cases hnone
    · obtain ⟨hended, hlast⟩ := isUnderway_of_abandoned hu closed hback
      simp [hended, hlast]

/-- Runs and imports that begin without a transaction under way end without one, unless the very
last statement is the one that should have made the changes last, and fails. This takes it for
granted that undoing a transaction does not fail, and that the statements of the directives leave
transactions alone. -/
theorem isUnderway_iff (b : Backend ω κ) (importer : Importer ω κ) (hi : importer.Works)
    (s : Session ω κ) (hs : s.isUnderway = false) :
    (∀ (settings : Settings) (kind : DocumentKind) (name : Text) (input : Document),
      (∀ d, Begins b importer settings kind name input s d → d.IsPlain) →
      let run := process b importer settings kind name input s
      (∀ events, run.2.transcript = s.transcript ++ events → .rolledBack false ∉ events) →
        (run.2.isUnderway = true ↔ run.2.transcript.getLast? = some (.committed false))) ∧
    ∀ (lines : List Text) (options : ImportOptions),
      ∃ r t, importLines b importer lines options s = Action.outcome r t ∧
        ((∀ events, t.transcript = s.transcript ++ events → .rolledBack false ∉ events) →
          (t.isUnderway = true ↔ t.transcript.getLast? = some (.committed false))) := by
  constructor
  · intro settings kind name input hplain run hback
    exact isUnderway_process hi hs hplain hback
  · intro lines options
    exact isUnderway_importLines hi lines options hs

/-- A rehearsal in which no changes can be made to last. -/
def refusingSession : Session Tree Rehearsal where
  connection := .scripted { refused := [("COMMIT TRANSACTION".toList, "disk full".toList)] }
  world := { nodes := [] }

/-- The old changes cannot be made to last where a document goes over to another database. -/
theorem isUnderway_iff_connect :
    let input : Document := ⟨["% SQL UPDATE t SET x = 1".toList, "% CONNECT :memory:".toList]⟩
    let run := process Rehearsal.backend (Importer.resultLines Rehearsal.backend) {} .latex
      "paper".toList input refusingSession
    .committed false ∈ run.2.transcript ∧ run.2.isUnderway = false := by
  intro input run
  have hback : .rolledBack false ∉ run.2.transcript := by decide +kernel
  have hlast : run.2.transcript.getLast? ≠ some (.committed false) := by decide +kernel
  obtain ⟨hrun, -⟩ := isUnderway_iff Rehearsal.backend (Importer.resultLines Rehearsal.backend)
    (Importer.works_resultLines _) refusingSession rfl
  have hiff := hrun {} .latex "paper".toList input (fun d h => h.isPlain (by decide +kernel))
    fun events hevents => by
      have hsame : run.2.transcript = events := hevents
      exact hsame ▸ hback
  refine ⟨by decide +kernel, ?_⟩
  rw [Bool.eq_false_iff]
  exact fun hunderway => hlast (hiff.1 hunderway)

/-- A run of which all directives succeed leaves its transaction open when its changes cannot be
made to last: it fails, but it does not undo them. -/
theorem isUnderway_of_refused_commit :
    let input : Document := ⟨["% SQL INSERT INTO t VALUES (1)".toList]⟩
    let run := process Rehearsal.backend (Importer.resultLines Rehearsal.backend) {} .latex
      "doc".toList input refusingSession
    refusingSession.isUnderway = false ∧
      run.1.failure = some (.query "COMMIT TRANSACTION".toList "disk full".toList) ∧
      run.2.transcript.filter Event.asks = [.opened true,
        .executed "INSERT INTO t VALUES (1)".toList true, .committed false] ∧
      run.2.isUnderway = true := by
  intro input run
  exact ⟨rfl, by decide +kernel, by decide +kernel, by decide +kernel⟩

end Run

end QueryWeave
