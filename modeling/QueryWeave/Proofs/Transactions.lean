import QueryWeave.Proofs.ForwardPass
import QueryWeave.Proofs.Idempotence
import QueryWeave.Proofs.Transcripts

/-!
# Transactions

A run is one transaction, but it can go over to another database on its way, and each of the
databases has to get its own transaction: begun before anything else and, in the end, either made to
last or undone. Every statement that is sent leaves an event in the transcript of the session, so a
run is judged by a log that is kept along the transcript: for every connection the statements that
it has received (`Log`).

## Architecture

Whatever fetches material works inside of the transaction, except for the directive that goes over
to another database, which has four outcomes (`Log.Sent`). One directive keeps the log of a run in
order (`Log.IsOpen.sent`), hence so do all of them (`Run.Reaches.isOpen`), and the last statement of
a run closes the log (`Log.IsOpen.closed`, `Log.IsOpen.undone`).

Main statement: `Run.process_transactions`.
-/

namespace QueryWeave

open Text

/-! ## Logs -/

/-- What was asked of the databases of a run, by connections. -/
structure Log where
  /-- The connections that were given up, the oldest first. -/
  past : List (List Event) := []
  present : List Event := []

namespace Log

def add (l : Log) (e : Event) : Log :=
  match e with
  | .connected _ => ⟨l.past ++ [l.present], []⟩
  | e => if e.asks then { l with present := l.present ++ [e] } else l

def extend (l : Log) (events : List Event) : Log := events.foldl add l

/-- The log of a transcript. -/
def ofEvents (events : List Event) : Log := extend {} events

variable {l : Log} {events : List Event}

theorem extend_append (l : Log) (events later : List Event) :
    l.extend (events ++ later) = (l.extend events).extend later :=
  List.foldl_append

/-- A log holds all that was asked, in order. -/
theorem flatten_extend (l : Log) (events : List Event) :
    (l.extend events).past.flatten ++ (l.extend events).present =
      l.past.flatten ++ l.present ++ events.filter Event.asks := by
  induction events generalizing l with
  | nil => simp [extend]
  | cons e events ih =>
    have hadd : (l.add e).past.flatten ++ (l.add e).present =
        l.past.flatten ++ l.present ++ [e].filter Event.asks := by
      cases e <;> simp [add, Event.asks, List.filter_cons]
    rw [extend, List.foldl_cons, ← extend, ih, hadd, List.append_assoc, ← List.filter_append]
    rfl

/-- Connections that were given up stay in the log. -/
theorem past_extend (l : Log) (events : List Event) :
    l.past <+: (l.extend events).past := by
  induction events generalizing l with
  | nil => exact List.prefix_rfl
  | cons e events ih =>
    have hadd : l.past <+: (l.add e).past := by
      cases e <;> simp [add, Event.asks]
    exact hadd.trans (ih (l.add e))

/-- Work is added to the present connection. -/
theorem extend_work (l : Log) (h : ∀ e ∈ events, e.IsWork) :
    l.extend events = { l with present := l.present ++ events.filter Event.asks } := by
  induction events generalizing l with
  | nil => simp [extend]
  | cons e events ih =>
    have hadd : l.add e = { l with present := l.present ++ [e].filter Event.asks } := by
      have he := h e (List.mem_cons_self ..)
      cases e with
      | connected target => exact he.elim
      | executed | queried | soughtTable | began | warned =>
        simp [add, Event.asks, List.filter_cons]
    rw [extend, List.foldl_cons, ← extend, ih _ fun e he => h e (List.mem_cons_of_mem _ he), hadd]
    rw [List.append_assoc, ← List.filter_append]
    rfl

theorem extend_told (l : Log) (h : ∀ e ∈ events, ∃ w, e = .warned w) : l.extend events = l := by
  induction events with
  | nil => rfl
  | cons e events ih =>
    obtain ⟨w, rfl⟩ := h e (List.mem_cons_self ..)
    exact ih fun e he => h e (List.mem_cons_of_mem _ he)

/-- A transaction that is under way: it was opened, and work was done. -/
def IsUnderway (sent : List Event) : Prop :=
  ∃ work, sent = .opened true :: work ∧ ∀ e ∈ work, e.IsWork

/-- A transaction that was made to last. -/
def IsLasting (sent : List Event) : Prop :=
  ∃ work, sent = .opened true :: work ++ [.committed true] ∧ ∀ e ∈ work, e.IsWork

/-- A transaction that was undone, with success or not. It was under way, could not be made to last,
or could not even be opened. -/
inductive IsUndone : List Event → Prop
  | underway {work : List Event} {ok : Bool} (h : ∀ e ∈ work, e.IsWork) :
      IsUndone (.opened true :: work ++ [.rolledBack ok])
  | unlasting {work : List Event} {ok : Bool} (h : ∀ e ∈ work, e.IsWork) :
      IsUndone (.opened true :: work ++ [.committed false, .rolledBack ok])
  | refused {ok : Bool} : IsUndone [.opened false, .rolledBack ok]

/-- The present transaction is under way, and those before were made to last. -/
structure IsOpen (l : Log) : Prop where
  past : ∀ sent ∈ l.past, IsLasting sent
  present : IsUnderway l.present

/-- What a directive sends, and whether it succeeds. Most of them do work inside of the transaction;
the others go over to another database. -/
inductive Sent : Bool → List Event → Prop
  | work {ok : Bool} {events : List Event} (h : ∀ e ∈ events, e.IsWork) : Sent ok events
  | unlasting : Sent false [.committed false]
  | refused {target : Text} : Sent false [.committed true, .connected target, .opened false]
  | connected {target : Text} : Sent true [.committed true, .connected target, .opened true]

namespace IsOpen

theorem work (h : l.IsOpen) (hevents : ∀ e ∈ events, e.IsWork) : (l.extend events).IsOpen := by
  obtain ⟨work, hpresent, hwork⟩ := h.present
  rw [extend_work l hevents]
  refine ⟨h.past, work ++ events.filter Event.asks, by simp [hpresent], fun e he => ?_⟩
  rcases List.mem_append.1 he with he | he
  · exact hwork e he
  · exact hevents e (List.mem_filter.1 he).1

/-- A connection that is given up after its changes were made to last. -/
theorem isLasting (h : l.IsOpen) :
    ∀ sent ∈ l.past ++ [l.present ++ [.committed true]], IsLasting sent := by
  obtain ⟨work, hpresent, hwork⟩ := h.present
  intro sent hsent
  rcases List.mem_append.1 hsent with hsent | hsent
  · exact h.past sent hsent
  · cases List.mem_singleton.1 hsent
    exact ⟨work, by rw [hpresent], hwork⟩

/-- A directive that succeeds leaves a transaction under way. -/
theorem sent (h : l.IsOpen) (hsent : Sent true events) : (l.extend events).IsOpen := by
  cases hsent with
  | work hevents => exact h.work hevents
  | connected => exact ⟨h.isLasting, [], rfl, by simp⟩

/-- When all is done, the changes of the last transaction are made to last, if the database can. -/
theorem closed (h : l.IsOpen) (ok : Bool) :
    (∀ sent ∈ (l.extend [.committed ok]).past, IsLasting sent) ∧
      (ok = true → IsLasting (l.extend [.committed ok]).present) := by
  refine ⟨h.past, ?_⟩
  rintro rfl
  exact h.isLasting _ (List.mem_append_right _ (List.mem_singleton_self _))

/-- When a directive fails, the transaction that it has left is undone. -/
theorem undone (h : l.IsOpen) (hsent : Sent false events) (ok : Bool) :
    (∀ sent ∈ (l.extend (events ++ [.rolledBack ok])).past, IsLasting sent) ∧
      IsUndone (l.extend (events ++ [.rolledBack ok])).present := by
  rw [extend_append]
  cases hsent with
  | work hevents =>
    obtain ⟨hpast, work, hpresent, hwork⟩ := h.work hevents
    refine ⟨hpast, ?_⟩
    show IsUndone ((l.extend events).present ++ [.rolledBack ok])
    rw [hpresent]
    exact .underway hwork
  | unlasting =>
    obtain ⟨work, hpresent, hwork⟩ := h.present
    refine ⟨h.past, ?_⟩
    show IsUndone (l.present ++ [.committed false] ++ [.rolledBack ok])
    rw [hpresent, List.append_assoc]
    exact .unlasting hwork
  | refused => exact ⟨h.isLasting, .refused⟩

end IsOpen

/-- What comes right before a connection takes the place of another one is that the changes on the
old one were made to last. -/
theorem getLast?_of_connected {before after : List Event} {target : Text}
    (hpast : ∀ sent ∈ (ofEvents (before ++ .connected target :: after)).past, IsLasting sent) :
    (before.filter Event.asks).getLast? = some (.committed true) := by
  have hmem :
      (ofEvents before).present ∈ (ofEvents (before ++ .connected target :: after)).past := by
    rw [ofEvents, extend_append]
    exact (past_extend ((ofEvents before).add (.connected target)) after).subset
      (List.mem_append_right _ (List.mem_singleton_self _))
  obtain ⟨work, hpresent, -⟩ := hpast _ hmem
  have hall : (ofEvents before).past.flatten ++ (ofEvents before).present =
      before.filter Event.asks := flatten_extend {} before
  rw [← hall, hpresent, ← List.append_assoc]
  exact List.getLast?_concat

end Log

/-! ## Directives -/

namespace Action

variable {ω κ : Type}

/-- To go over to another database has four outcomes: nothing is sent if the new one cannot be
opened, and otherwise the old transaction comes to its end before the new one is begun. -/
theorem sent_connect (b : Backend ω κ) (target : Text) (s : Session ω κ) :
    ∃ r t events, connect b target s = outcome r t ∧ t.transcript = s.transcript ++ events ∧
      Log.Sent (succeeded r) events := by
  rcases hopen : b.connect target s.world with ⟨e | new, world⟩
  · refine ⟨.error e, { s with world }, [], ?_, (List.append_nil _).symm, .work (by simp)⟩
    simp only [connect, bind, EStateM.bind, hopen, outcome]
  · obtain ⟨r, t, hcommit, ht⟩ := execute_transcript b "COMMIT TRANSACTION" { s with world }
    cases r with
    | error e =>
      refine ⟨.error e, t, _, ?_, ht, .unlasting⟩
      simp only [connect, bind, EStateM.bind, hopen, commit, hcommit, outcome]
    | ok x =>
      let s₂ : Session ω κ :=
        { t with connection := new, world := b.close t.connection t.world }.note (.connected target)
      obtain ⟨r, u, hbegin, hu⟩ := execute_transcript b "BEGIN TRANSACTION" s₂
      refine ⟨r, u, [.committed true, .connected target, .opened (succeeded r)], ?_, ?_, ?_⟩
      · simp only [connect, bind, EStateM.bind, hopen, commit, hcommit, outcome]
        exact hbegin
      · rw [hu]
        simp [s₂, Session.note, ht, Event.committed, Event.opened, succeeded]
      · cases r with
        | ok y => exact .connected
        | error e => exact .refused

end Action

namespace Run

variable {ω κ : Type} {b : Backend ω κ} {importer : Importer ω κ}

/-- A directive begins, and then it sends what keeps the log in order. -/
theorem sent_carryOut (hi : importer.Works) {d : Directive} (hd : d.IsPlain) (output : Output)
    (lines : List Text) (s : Session ω κ) :
    ∃ r t events, carryOut b importer d output lines s = Action.outcome r t ∧
      t.transcript = s.transcript ++ .began d :: events ∧ Log.Sent (Action.succeeded r) events := by
  have began : ∀ {t : Session ω κ} {events : List Event},
      t.transcript = (s.note (.began d)).transcript ++ events →
        t.transcript = s.transcript ++ .began d :: events := by
    intro t events ht
    rw [ht, Session.note, List.append_assoc]
    rfl
  rw [carryOut_eq]
  by_cases hconnect : d.keyword = .connect
  · -- nothing is written by the directive, so that it succeeds with the new connection
    obtain ⟨r, t, events, hr, ht, hsent⟩ := Action.sent_connect b d.body (s.note (.began d))
    have hfetch : Action.fetch b importer d (s.note (.began d)) =
        Action.outcome (r.map fun _ => .nothing) t := by
      unfold Action.fetch
      rw [hconnect]
      simp only [bind, EStateM.bind, hr]
      cases r <;> rfl
    rw [hfetch]
    cases r with
    | error e => exact ⟨.error e, t, events, rfl, began ht, hsent⟩
    | ok x => exact ⟨.ok _, t, events, rfl, began ht, hsent⟩
  · obtain ⟨r, t, events, hfetch, ht, hwork⟩ :=
      Action.notes_fetch (b := b) hi hd hconnect (s.note (.began d))
    rw [hfetch]
    cases r with
    | error e => exact ⟨.error e, t, events, rfl, began ht, .work hwork⟩
    | ok m =>
      simp only [Action.outcome]
      cases output.weave d m lines with
      | error e => exact ⟨.error _, t, events, rfl, began ht, .work hwork⟩
      | ok change => exact ⟨.ok change, t, events, rfl, began ht, .work hwork⟩

/-- An iteration keeps the log in order. -/
theorem Advance.isOpen (hi : importer.Works) {p q : Position} {s t : Session ω κ}
    (hplain : ∀ d r, p.look = .due d r → d.IsPlain) (h : Advance b importer p s q t) {l : Log}
    (hl : l.IsOpen) :
    ∃ events, t.transcript = s.transcript ++ events ∧ (l.extend events).IsOpen := by
  cases h with
  | @passed _ _ w look =>
    cases w with
    | none => exact ⟨[], (List.append_nil _).symm, hl⟩
    | some warning => exact ⟨[.warned warning], rfl, hl.work (by simp [Event.IsWork])⟩
  | @carried r _ _ d splice output look done =>
    obtain ⟨x, u, events, hx, hu, hsent⟩ :=
      sent_carryOut (b := b) hi (hplain d r look) r.output r.rest s
    rw [done] at hx
    cases x with
    | error e => cases hx
    | ok change =>
      cases hx
      refine ⟨.began d :: events, hu, ?_⟩
      show (l.extend events).IsOpen
      exact hl.sent hsent

/-- A number of iterations does so. -/
theorem Reaches.isOpen (hi : importer.Works) {n : Nat} {p q : Position} {s t : Session ω κ}
    (h : Reaches b importer n p s q t)
    (hplain : ∀ m p' u d r, Reaches b importer m p s p' u → p'.look = .due d r → d.IsPlain)
    {l : Log} (hl : l.IsOpen) :
    ∃ events, t.transcript = s.transcript ++ events ∧ (l.extend events).IsOpen := by
  induction h generalizing l with
  | refl => exact ⟨[], (List.append_nil _).symm, hl⟩
  | step first _ ih =>
    obtain ⟨events, hfirst, hopen⟩ := first.isOpen hi (fun d r => hplain 0 _ _ d r .refl) hl
    obtain ⟨later, hlater, hlast⟩ :=
      ih (fun m p' u d r hreach => hplain (m + 1) p' u d r (.step first hreach)) hopen
    refine ⟨events ++ later, ?_, ?_⟩
    · rw [hlater, hfirst, List.append_assoc]
    · rw [Log.extend_append]
      exact hlast

/-- A run keeps the log in order, up to a directive that fails. -/
theorem walk_isOpen (hi : importer.Works) (p : Position) (s : Session ω κ)
    (hplain : ∀ n q t d r, Reaches b importer n p s q t → q.look = .due d r → d.IsPlain)
    {l : Log} (hl : l.IsOpen) {o : Outcome} {u : Session ω κ}
    (walked : walk b importer p s = (o, u)) :
    ∃ events, (l.extend events).IsOpen ∧
      (o.failure = none ∧ u.transcript = s.transcript ++ events ∨
        ∃ d cause sent, o.failure = some (o.position.located d cause) ∧ Log.Sent false sent ∧
          u.transcript = s.transcript ++ (events ++ sent)) := by
  obtain ⟨n, q, t, hreach, hend⟩ := exists_ending b importer p s
  obtain ⟨events, ht, hopen⟩ := hreach.isOpen hi hplain hl
  rw [walked] at hend
  cases hend with
  | finished => exact ⟨events, hopen, .inl ⟨rfl, ht⟩⟩
  | @failed r _ _ d cause look failed =>
    obtain ⟨x, v, sent, hx, hv, hsent⟩ :=
      sent_carryOut (b := b) hi (hplain n q t d r hreach look) r.output r.rest t
    rw [failed] at hx
    cases x with
    | ok change => cases hx
    | error e =>
      cases hx
      refine ⟨events ++ [.began d], ?_, .inr ⟨d, cause, sent, rfl, hsent, ?_⟩⟩
      · rw [Log.extend_append]
        exact hopen
      · rw [hv, ht]
        simp

/-! ## Whole documents -/

/-- In the run of a document, the directive `d` is carried out. -/
def Begins (b : Backend ω κ) (importer : Importer ω κ) (settings : Settings) (kind : DocumentKind)
    (name : Text) (input : Document) (s : Session ω κ) (d : Directive) : Prop :=
  ∃ t n p u q, Action.startTransaction b s = .ok () t ∧
    Reaches b importer n (start settings kind name input) t p u ∧ p.look = .due d q

end Run

/-- The directive of a block, if it is one. -/
def CommentClass.directive? : CommentClass → Option Directive
  | .directive d => some d
  | .unknown _ | .plain => none

/-- The directives that stand at the lines of a document. -/
def Document.directives (d : Document) (style : CommentStyle) : List Directive :=
  (List.range d.size).filterMap fun i =>
    (d.block? style i).bind fun block => block.classify.directive?

namespace Run

variable {ω κ : Type} {b : Backend ω κ} {importer : Importer ω κ}
variable {settings : Settings} {kind : DocumentKind} {name : Text} {input : Document}
  {s : Session ω κ}

/-- The directives that are carried out in a run stand in its document. -/
theorem Begins.exists_mem_directives {d : Directive}
    (h : Begins b importer settings kind name input s d) :
    ∃ start length, d.standingAt start length ∈ input.directives ⟨kind.marker⟩ := by
  obtain ⟨t, n, p, u, q, -, hreach, look⟩ := h
  obtain ⟨line, block, length, -, hline, -, hblock, hclass⟩ := hreach.remains.block?_of_due look
  obtain ⟨hi, -⟩ := List.getElem?_eq_some_iff.1 hline
  refine ⟨p.inputLine input, length, List.mem_filterMap.2 ⟨_, List.mem_range.2 hi, ?_⟩⟩
  rw [hblock, Option.bind_some, hclass]
  rfl

/-- What is asked of the directives of a run can be checked on its document. -/
theorem Begins.isPlain (hplain : ∀ d ∈ input.directives ⟨kind.marker⟩, d.IsPlain) {d : Directive}
    (h : Begins b importer settings kind name input s d) : d.IsPlain := by
  obtain ⟨i, length, hmem⟩ := h.exists_mem_directives
  show (d.standingAt i length).IsPlain
  exact hplain _ hmem

/-- From the opening of its transaction on, a run keeps the log in order. -/
theorem walk_log (hi : importer.Works)
    (hplain : ∀ d, Begins b importer settings kind name input s d → d.IsPlain) {t u : Session ω κ}
    {o : Outcome} (opened : Action.startTransaction b s = .ok () t)
    (walked : walk b importer (start settings kind name input) t = (o, u)) :
    ∃ later, (Log.ofEvents (.opened true :: later)).IsOpen ∧
      (o.failure = none ∧ u.transcript = s.transcript ++ .opened true :: later ∨
        ∃ d cause sent, o.failure = some (o.position.located d cause) ∧ Log.Sent false sent ∧
          u.transcript = s.transcript ++ .opened true :: (later ++ sent)) := by
  have hstart : (Log.ofEvents [.opened true]).IsOpen :=
    ⟨fun sent hsent => absurd hsent List.not_mem_nil, [], rfl, by simp⟩
  have ht : t.transcript = s.transcript ++ [.opened true] :=
    Action.transcript_of_execute_ok opened
  obtain ⟨later, hlater, hend⟩ := walk_isOpen hi (start settings kind name input) t
    (fun n q t' d r hreach look => hplain d ⟨t, n, q, t', r, opened, hreach, look⟩) hstart walked
  refine ⟨later, hlater, ?_⟩
  rw [ht, List.append_assoc] at hend
  rcases hend with ⟨hnone, hu⟩ | ⟨d, cause, sent, hfailure, hsent, hu⟩
  · exact .inl ⟨hnone, hu⟩
  · rw [List.append_assoc] at hu
    exact .inr ⟨d, cause, sent, hfailure, hsent, hu⟩

/-- A run takes one course. -/
theorem walk_unique {p : Position} {t t' u u' : Session ω κ} {o o' : Outcome}
    (opened : Action.startTransaction b s = .ok () t) (walked : walk b importer p t = (o, u))
    (opened' : Action.startTransaction b s = .ok () t')
    (walked' : walk b importer p t' = (o', u')) :
    o = o' ∧ u = u' := by
  rw [opened] at opened'
  cases opened'
  rw [walked] at walked'
  cases walked'
  exact ⟨rfl, rfl⟩

/-- When all directives are carried out, the transaction on the last connection is closed. -/
theorem log_of_closed (hi : importer.Works)
    (hplain : ∀ d, Begins b importer settings kind name input s d → d.IsPlain) {t u v : Session ω κ}
    {q : Position} {ok : Bool} (opened : Action.startTransaction b s = .ok () t)
    (walked : walk b importer (start settings kind name input) t = (⟨q, none⟩, u))
    (closed : v.transcript = u.transcript ++ [.committed ok]) :
    ∃ later, v.transcript = s.transcript ++ .opened true :: later ∧
      (∀ sent ∈ (Log.ofEvents (.opened true :: later)).past, Log.IsLasting sent) ∧
      (ok = true → Log.IsLasting (Log.ofEvents (.opened true :: later)).present) := by
  obtain ⟨later, hlater, ⟨-, hu⟩ | ⟨_, _, _, hfailure, -⟩⟩ := walk_log hi hplain opened walked
  · have hclosed := hlater.closed ok
    rw [Log.ofEvents, ← Log.extend_append] at hclosed
    refine ⟨later ++ [Event.committed ok], ?_, hclosed⟩
    rw [closed, hu, List.append_assoc]
    rfl
  · cases hfailure

/-- When a directive fails, the transaction on the connection that is left is undone. -/
theorem log_of_abandoned (hi : importer.Works)
    (hplain : ∀ d, Begins b importer settings kind name input s d → d.IsPlain) {t u v : Session ω κ}
    {q : Position} {e : Failure} (opened : Action.startTransaction b s = .ok () t)
    (walked : walk b importer (start settings kind name input) t = (⟨q, some e⟩, u))
    (closed : Action.abandon b u = .ok () v) :
    ∃ later, v.transcript = s.transcript ++ .opened true :: later ∧
      (∀ sent ∈ (Log.ofEvents (.opened true :: later)).past, Log.IsLasting sent) ∧
      Log.IsUndone (Log.ofEvents (.opened true :: later)).present ∧
      (∃ d cause, e = q.located d cause) ∧
      ∃ ok told, v.transcript = u.transcript ++ .rolledBack ok :: told ∧
        ∀ x ∈ told, ∃ w, x = .warned w := by
  obtain ⟨later, hlater, ⟨hnone, -⟩ | ⟨d, cause, sent, hfailure, hsent, hu⟩⟩ :=
    walk_log hi hplain opened walked
  · cases hnone
  · obtain ⟨ok, told, hv, htold⟩ := Action.abandon_transcript closed
    obtain ⟨hpast, hpresent⟩ := hlater.undone hsent ok
    -- a failure to undo is only told, so that it is not in the log
    have hevents : Log.ofEvents (.opened true :: (later ++ (sent ++ [.rolledBack ok] ++ told))) =
        (Log.ofEvents (.opened true :: later)).extend (sent ++ [.rolledBack ok]) := by
      rw [← Log.extend_told ((Log.ofEvents (.opened true :: later)).extend _) htold]
      rw [Log.ofEvents, Log.ofEvents, ← Log.extend_append, ← Log.extend_append, List.append_assoc]
      rfl
    rw [← hevents] at hpast hpresent
    refine ⟨_, ?_, hpast, hpresent, ⟨d, cause, Option.some.inj hfailure⟩, ok, told, hv, htold⟩
    rw [hv, hu]
    simp

/-- A run is one transaction on each connection, if its directives send no transaction statements of
their own. It is opened before anything else is sent, and nothing else is when this fails. Every
connection that is given up has its changes made to last, directly before the next one takes its
place. If the run succeeds, so has the last connection; if a directive fails, the changes on the
connection that is left then are undone by the last statement of the run, and it is the directive
that the run fails with. -/
theorem process_transactions (b : Backend ω κ) (importer : Importer ω κ) (hi : importer.Works)
    (settings : Settings) (kind : DocumentKind) (name : Text) (input : Document)
    (s : Session ω κ)
    (hplain : ∀ d, Begins b importer settings kind name input s d → d.IsPlain) :
    let first := start settings kind name input
    let run := process b importer settings kind name input s
    ∃ events, run.2.transcript = s.transcript ++ events ∧
      (∃ ok later, events = .opened ok :: later ∧
        (ok = false → later = [] ∧ run.1.failure ≠ none)) ∧
      (∀ sent ∈ (Log.ofEvents events).past, Log.IsLasting sent) ∧
      (∀ before target after, events = before ++ .connected target :: after →
        (before.filter Event.asks).getLast? = some (.committed true)) ∧
      (run.1.failure = none → Log.IsLasting (Log.ofEvents events).present) ∧
      ∀ t q e u, Action.startTransaction b s = .ok () t →
        walk b importer first t = (⟨q, some e⟩, u) →
        run.1.failure = some e ∧ (∃ d cause, e = q.located d cause) ∧
          Log.IsUndone (Log.ofEvents events).present ∧
          ∃ ok told, run.2.transcript = u.transcript ++ .rolledBack ok :: told ∧
            ∀ x ∈ told, ∃ w, x = .warned w := by
  intro first run
  have hcourse := process_course b importer settings kind name input s
  generalize hrun : process b importer settings kind name input s = result at hcourse
  have hresult : run = result := hrun
  rw [hresult]
  have connected : ∀ {events}, (∀ sent ∈ (Log.ofEvents events).past, Log.IsLasting sent) →
      ∀ before target after, events = before ++ .connected target :: after →
        (before.filter Event.asks).getLast? = some (.committed true) := by
    rintro events hpast before target after rfl
    exact Log.getLast?_of_connected hpast
  cases hcourse with
  | refused opened =>
    have hpast : ∀ sent ∈ (Log.ofEvents [.opened false]).past, Log.IsLasting sent :=
      fun sent hsent => absurd hsent List.not_mem_nil
    refine ⟨[.opened false], Action.transcript_of_execute_error opened,
      ⟨false, [], rfl, fun _ => ⟨rfl, nofun⟩⟩, hpast, connected hpast, nofun, ?_⟩
    intro t' q e' u opened'
    rw [opened] at opened'
    cases opened'
  | lasting opened walked closed =>
    obtain ⟨later, hlater, hpast, hpresent⟩ :=
      log_of_closed hi hplain opened walked (Action.transcript_of_execute_ok closed)
    refine ⟨_, hlater, ⟨true, later, rfl, nofun⟩, hpast, connected hpast, fun _ => hpresent rfl, ?_⟩
    intro t' q e' u opened' walked'
    cases (walk_unique opened walked opened' walked').1
  | unlasting opened walked closed =>
    obtain ⟨later, hlater, hpast, -⟩ :=
      log_of_closed hi hplain opened walked (Action.transcript_of_execute_error closed)
    refine ⟨_, hlater, ⟨true, later, rfl, nofun⟩, hpast, connected hpast, nofun, ?_⟩
    intro t' q e' u opened' walked'
    cases (walk_unique opened walked opened' walked').1
  | abandoned opened walked closed =>
    obtain ⟨later, hlater, hpast, hpresent, hlocated, hundone⟩ :=
      log_of_abandoned hi hplain opened walked closed
    refine ⟨_, hlater, ⟨true, later, rfl, nofun⟩, hpast, connected hpast, nofun, ?_⟩
    intro t' q e' u opened' walked'
    obtain ⟨⟨⟩, rfl⟩ := walk_unique opened walked opened' walked'
    exact ⟨rfl, hlocated, hpresent, hundone⟩

/-- A document that goes over to another database and fails there. -/
theorem process_transactions_connect :
    let input : Document := ⟨["% SQL UPDATE t SET x = 1".toList, "% CONNECT :memory:".toList,
      "% SQL UPDATE t SET x = 2".toList]⟩
    let run := process Rehearsal.backend (Importer.resultLines Rehearsal.backend) {} .latex
      "paper".toList input (Rehearsal.session [])
    ∃ events, run.2.transcript = events ∧ (Log.ofEvents events).past.length = 1 ∧
      (∀ sent ∈ (Log.ofEvents events).past, Log.IsLasting sent) ∧
      Log.IsUndone (Log.ofEvents events).present := by
  intro input run
  have hopen : Action.startTransaction Rehearsal.backend (Rehearsal.session []) =
      .ok () ((Rehearsal.session []).note (.opened true)) := rfl
  have hlength : (Log.ofEvents run.2.transcript).past.length = 1 := by decide +kernel
  obtain ⟨events, hevents, -, hpast, -, -, hfailed⟩ := process_transactions Rehearsal.backend
    (Importer.resultLines Rehearsal.backend) (Importer.works_resultLines _) {} .latex
    "paper".toList input (Rehearsal.session []) fun d h => h.isPlain (by decide +kernel)
  have htranscript : run.2.transcript = events := hevents
  refine ⟨events, htranscript, htranscript ▸ hlength, hpast, ?_⟩
  rcases hwalk : walk Rehearsal.backend (Importer.resultLines Rehearsal.backend)
    (start {} .latex "paper".toList input) ((Rehearsal.session []).note (.opened true)) with
    ⟨⟨q, failure⟩, u⟩
  have hfails : (walk Rehearsal.backend (Importer.resultLines Rehearsal.backend)
      (start {} .latex "paper".toList input)
      ((Rehearsal.session []).note (.opened true))).1.failure.isSome = true := by decide +kernel
  rw [hwalk] at hfails
  obtain ⟨e, rfl⟩ := Option.isSome_iff_exists.1 hfails
  exact (hfailed _ q e u hopen hwalk).2.2.1

end Run

end QueryWeave
