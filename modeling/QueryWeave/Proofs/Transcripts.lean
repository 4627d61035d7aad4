import QueryWeave.Proofs.Confinement

/-!
# What actions tell

A transcript says what was asked of a database. Most actions of a run work inside of its
transaction: what they tell is no transaction statement, and the connection stays the same
(`Action.Notes Event.IsWork`). The only directive that does more is the one that goes over to
another database.

Main statement: `Action.notes_fetch`.
-/

namespace QueryWeave

open Text

/-! ## Events -/

/-- The statements by which a run handles its transactions. -/
def transactionTexts : List Text :=
  ["BEGIN TRANSACTION", "COMMIT TRANSACTION", "ROLLBACK TRANSACTION"].map String.toList

/-- Statements are told apart by the two letters that they begin with. -/
theorem not_mem_transactionTexts {sql : Text} {c d : Char} (h : sql.take 2 = [c, d])
    (hne : [c, d] ∉ transactionTexts.map (List.take 2)) : sql ∉ transactionTexts := by
  intro hmem
  rw [← h] at hne
  exact hne (List.mem_map_of_mem hmem)

namespace Event

def opened (succeeded : Bool) : Event := .executed "BEGIN TRANSACTION".toList succeeded

def committed (succeeded : Bool) : Event := .executed "COMMIT TRANSACTION".toList succeeded

def rolledBack (succeeded : Bool) : Event := .executed "ROLLBACK TRANSACTION".toList succeeded

/-- Whether the database was asked for something. -/
def asks : Event → Bool
  | .executed .. | .queried .. | .soughtTable _ => true
  | .connected _ | .began _ | .warned _ => false

/-- Whether the event leaves transactions and connections alone. -/
def IsWork : Event → Prop
  | .executed sql _ | .queried sql _ _ => sql ∉ transactionTexts
  | .connected _ => False
  | .soughtTable _ | .began _ | .warned _ => True

end Event

/-! ## What actions note -/

namespace Action

variable {ω κ α β : Type} {P : Event → Prop}

/-- An action that adds to the transcript what has a property, and nothing else. -/
def Notes (P : Event → Prop) (a : Action ω κ α) : Prop :=
  ∀ s : Session ω κ, ∃ r t events, a s = outcome r t ∧ t.transcript = s.transcript ++ events ∧
    ∀ e ∈ events, P e

namespace Notes

protected theorem pure (a : α) : Notes P (pure a : Action ω κ α) :=
  fun s => ⟨.ok a, s, [], rfl, (List.append_nil _).symm, by simp⟩

protected theorem throw (e : Failure) : Notes P (throw e : Action ω κ α) :=
  fun s => ⟨.error e, s, [], rfl, (List.append_nil _).symm, by simp⟩

protected theorem bind {a : Action ω κ α} {f : α → Action ω κ β} (ha : Notes P a)
    (hf : ∀ s x t, a s = .ok x t → Notes P (f x)) : Notes P (a >>= f) := by
  intro s
  obtain ⟨r, t, events, hs, ht, hevents⟩ := ha s
  show ∃ r t events, EStateM.bind a f s = outcome r t ∧ _
  cases r with
  | error e =>
    simp only [outcome] at hs
    exact ⟨.error e, t, events, by simp only [EStateM.bind, hs, outcome], ht, hevents⟩
  | ok x =>
    simp only [outcome] at hs
    obtain ⟨r, u, later, hx, hu, hlater⟩ := hf s x t hs t
    refine ⟨r, u, events ++ later, by simp only [EStateM.bind, hs, hx], ?_, fun e he => ?_⟩
    · rw [hu, ht, List.append_assoc]
    · exact (List.mem_append.1 he).elim (hevents e) (hlater e)

protected theorem ofExcept (r : Except Failure α) : Notes P (ofExcept r : Action ω κ α) := by
  cases r with
  | ok a => exact .pure a
  | error e => exact .throw e

protected theorem note {e : Event} (he : P e) : Notes P (note e : Action ω κ Unit) :=
  fun s => ⟨.ok (), s.note e, [e], rfl, rfl, by simpa using he⟩

protected theorem ask {work : κ × ω → Except Failure α × κ × ω} {event : Bool → Event}
    (he : ∀ ok, P (event ok)) : Notes P (ask work event : Action ω κ α) := by
  intro s
  rcases hwork : work (s.connection, s.world) with ⟨r, c, w⟩
  refine ⟨r, ({ s with connection := c, world := w } : Session ω κ).note (event (succeeded r)),
    [event (succeeded r)], ?_, rfl, by simpa using he _⟩
  simp only [ask, hwork]
  cases r <;> rfl

protected theorem get {f : Session ω κ → Action ω κ α} (hf : ∀ s, Notes P (f s)) :
    Notes P (get >>= f) :=
  fun s => hf s s

protected theorem forM {xs : List β} {f : β → Action ω κ PUnit} (hf : ∀ x ∈ xs, Notes P (f x)) :
    Notes P (xs.forM f) := by
  induction xs with
  | nil => exact .pure _
  | cons x xs ih =>
    exact .bind (hf x (List.mem_cons_self ..)) fun _ _ _ _ =>
      ih fun y hy => hf y (List.mem_cons_of_mem _ hy)

/-- What an action has noted, whether it succeeds -/
theorem of_ok {a : Action ω κ α} (h : Notes P a) {s t : Session ω κ} {x : α}
    (hs : a s = .ok x t) :
    ∃ events, t.transcript = s.transcript ++ events ∧ ∀ e ∈ events, P e := by
  obtain ⟨r, u, events, hu, htranscript, hevents⟩ := h s
  rw [hs] at hu
  cases r with
  | ok y =>
    cases hu
    exact ⟨events, htranscript, hevents⟩
  | error e => cases hu

/-- or fails. -/
theorem of_error {a : Action ω κ α} (h : Notes P a) {s t : Session ω κ} {e : Failure}
    (hs : a s = .error e t) :
    ∃ events, t.transcript = s.transcript ++ events ∧ ∀ e ∈ events, P e := by
  obtain ⟨r, u, events, hu, htranscript, hevents⟩ := h s
  rw [hs] at hu
  cases r with
  | ok y => cases hu
  | error e =>
    cases hu
    exact ⟨events, htranscript, hevents⟩

end Notes

/-- What is read without the database is known where the action goes on. -/
theorem of_ofExcept_mapError {ε : Type} {r : Except ε α} {f : ε → Failure} {s t : Session ω κ}
    {x : α} (h : ofExcept (r.mapError f) s = .ok x t) : r = .ok x := by
  cases r with
  | ok y =>
    cases h
    rfl
  | error e => cases h

/-! ## Work -/

variable (b : Backend ω κ)

theorem notes_execute {sql : Text} (h : sql ∉ transactionTexts) :
    Notes Event.IsWork (execute b sql) := .ask fun _ => h

theorem notes_query {sql : Text} (h : sql ∉ transactionTexts) (values : List Text) :
    Notes Event.IsWork (query b sql values) := .ask fun _ => h

theorem notes_queryTable {sql : Text} (h : sql ∉ transactionTexts) :
    Notes Event.IsWork (queryTable b sql) := by
  apply Notes.bind (notes_query b h [])
  intro _ c _ _
  exact .ofExcept _

theorem notes_queryFormatted {body : Text}
    (h : ∀ clause sql, Clause.ofQuery body = .ok (clause, sql) → sql ∉ transactionTexts) :
    Notes Event.IsWork (queryFormatted b body) := by
  have hsplit : Notes Event.IsWork (splitClause body : Action ω κ (Clause × Text)) := .ofExcept _
  apply hsplit.bind
  rintro s ⟨clause, sql⟩ t hread
  apply (notes_queryTable b (h clause sql (of_ofExcept_mapError hread))).bind
  intro _ _ _ _
  exact .pure _

theorem notes_gatherCurves (h : MultiPlotHeader) (c : Cursor) :
    Notes Event.IsWork (gatherCurves h c : Action ω κ MultiPlot) := by
  apply Notes.bind (.ofExcept _)
  intro _ cols _ _
  apply Notes.bind (.forM fun i _ => .note trivial)
  intro _ _ _ _
  cases c.read.2 with
  | none => exact .pure _
  | some message => exact .throw _

end Action

namespace Importer

variable {ω κ : Type}

/-- An importer that only works inside of the transaction. -/
def Works (importer : Importer ω κ) : Prop :=
  ∀ lines options temporary, Action.Notes Event.IsWork (importer lines options temporary)

theorem works_resultLines (b : Backend ω κ) : (resultLines b).Works := by
  intro lines options temporary
  have hdrop : Statement.drop b.toDialect options.table ∉ transactionTexts :=
    not_mem_transactionTexts rfl (by decide)
  have hcreate : ∀ columns, Statement.create b.toDialect temporary options.table columns ∉
      transactionTexts := fun columns => not_mem_transactionTexts rfl (by decide)
  have hinsert : ∀ row, Statement.insert b.toDialect options.table row ∉ transactionTexts :=
    fun row => not_mem_transactionTexts rfl (by decide)
  have drop : Action.Notes Event.IsWork (dropOld b options.table) := by
    apply Action.Notes.bind (.ask fun _ => trivial)
    intro _ there _ _
    cases there with
    | true => exact Action.notes_execute b hdrop
    | false => exact .pure _
  have load : Action.Notes Event.IsWork (do
      dropOld b options.table
      Action.execute b (Statement.create b.toDialect temporary options.table
        (ResultRow.columns options (ResultRow.ofLines options lines)))
      (ResultRow.ofLines options lines).forM (insertRow b options.table)
      return (ResultRow.ofLines options lines).length : Action ω κ Nat) :=
    .bind drop fun _ _ _ _ => .bind (Action.notes_execute b (hcreate _)) fun _ _ _ _ =>
      .bind (.forM fun row _ => .bind (Action.notes_query b (hinsert row) _) fun _ _ _ _ =>
        .pure _) fun _ _ _ _ => .pure _
  unfold resultLines
  dsimp only
  split
  · exact .bind (.throw _) fun _ _ _ _ => load
  · exact load

end Importer

/-- The statement that a directive sends to the database, if it gets so far. -/
def Directive.sql? (d : Directive) : Option Text :=
  match d.keyword with
  | .sql | .textTable | .plot => some d.body
  | .tabular | .tabTable | .defMacro => (Clause.ofQuery d.body).toOption.map Prod.snd
  | .multiPlot => (MultiPlotHeader.read d.body).toOption.map MultiPlotHeader.query
  | .range | .importData | .connect => none

/-- A directive whose statement is no transaction statement. -/
def Directive.IsPlain (d : Directive) : Prop := ∀ sql ∈ d.sql?, sql ∉ transactionTexts

instance (d : Directive) : Decidable d.IsPlain :=
  inferInstanceAs (Decidable (∀ sql ∈ d.sql?, sql ∉ transactionTexts))

namespace Action

variable {ω κ : Type} {b : Backend ω κ} {importer : Importer ω κ}

theorem notes_importFiles (hi : importer.Works) (body : Text) :
    Notes Event.IsWork (importFiles b importer body) := by
  apply Notes.bind (.ofExcept _)
  intro _ options _ _
  have load : Notes Event.IsWork (do
      let lines ← ofExcept ((readFiles b options.files (← get).world).mapError .importing)
      let _ ← importer lines options true : Action ω κ Unit) :=
    .get fun s => .bind (.ofExcept _) fun _ lines _ _ =>
      .bind (hi lines options true) fun _ _ _ _ => .pure _
  split
  · exact .bind (.throw _) fun _ _ _ _ => load
  · exact load

/-- Whatever a directive fetches, it works inside of the transaction, unless it goes over to another
database. -/
theorem notes_fetch (hi : importer.Works) {d : Directive} (hd : d.IsPlain)
    (hconnect : d.keyword ≠ .connect) : Notes Event.IsWork (fetch b importer d) := by
  -- the statement behind a clause is known only if the clause can be read
  have formatted : (∀ sql ∈ (Clause.ofQuery d.body).toOption.map Prod.snd,
      sql ∉ transactionTexts) → Notes Event.IsWork (queryFormatted b d.body) := by
    intro h
    apply notes_queryFormatted
    intro clause sql hclause
    apply h
    rw [hclause]
    rfl
  unfold Directive.IsPlain Directive.sql? at hd
  unfold fetch
  cases hk : d.keyword <;> simp only [hk] at hd ⊢
  case range => exact .pure _
  case sql => exact .bind (notes_execute b (hd _ rfl)) fun _ _ _ _ => .pure _
  case importData => exact .bind (notes_importFiles hi _) fun _ _ _ _ => .pure _
  case connect => exact absurd hk hconnect
  case textTable => exact .bind (notes_queryTable b (hd _ rfl)) fun _ _ _ _ => .pure _
  case plot =>
    exact .bind (.bind (notes_queryTable b (hd _ rfl)) fun _ _ _ _ => .pure _)
      fun _ _ _ _ => .pure _
  case multiPlot =>
    refine .bind (.ofExcept _) fun _ h _ hread => ?_
    have hquery : h.query ∉ transactionTexts := by
      apply hd
      rw [of_ofExcept_mapError hread]
      rfl
    exact .bind (notes_query b hquery []) fun _ c _ _ =>
      .bind (notes_gatherCurves h c) fun _ _ _ _ => .pure _
  case tabular | tabTable => exact .bind (formatted hd) fun _ _ _ _ => .pure _
  case defMacro =>
    exact .bind (formatted hd) fun _ _ _ _ => .bind (.ofExcept _) fun _ _ _ _ => .pure _

/-! ## Single statements -/

/-- What is asked of a database is told once, whatever the answer. -/
theorem ask_transcript {α : Type} (work : κ × ω → Except Failure α × κ × ω) (event : Bool → Event)
    (s : Session ω κ) :
    ∃ r t, ask work event s = outcome r t ∧
      t.transcript = s.transcript ++ [event (succeeded r)] := by
  rcases hwork : work (s.connection, s.world) with ⟨r, c, w⟩
  refine ⟨r, ({ s with connection := c, world := w } : Session ω κ).note (event (succeeded r)),
    ?_, rfl⟩
  simp only [ask, hwork]
  cases r <;> rfl

theorem execute_transcript (b : Backend ω κ) (sql : Text) (s : Session ω κ) :
    ∃ r t, execute b sql s = outcome r t ∧
      t.transcript = s.transcript ++ [.executed sql (succeeded r)] :=
  ask_transcript (b.execute sql) (.executed sql) s

theorem transcript_of_execute_ok {b : Backend ω κ} {sql : Text} {s t : Session ω κ}
    (h : execute b sql s = .ok () t) : t.transcript = s.transcript ++ [.executed sql true] := by
  obtain ⟨r, u, hr, hu⟩ := execute_transcript b sql s
  rw [h] at hr
  cases r with
  | ok x =>
    cases hr
    exact hu
  | error e => cases hr

theorem transcript_of_execute_error {b : Backend ω κ} {sql : Text} {s t : Session ω κ}
    {e : Failure} (h : execute b sql s = .error e t) :
    t.transcript = s.transcript ++ [.executed sql false] := by
  obtain ⟨r, u, hr, hu⟩ := execute_transcript b sql s
  rw [h] at hr
  cases r with
  | ok x => cases hr
  | error e =>
    cases hr
    exact hu

/-- A transaction is abandoned by one statement, and it is only told if that fails. -/
theorem abandon_transcript {b : Backend ω κ} {s t : Session ω κ} (h : abandon b s = .ok () t) :
    ∃ ok told, t.transcript = s.transcript ++ .rolledBack ok :: told ∧
      ∀ x ∈ told, ∃ w, x = .warned w := by
  obtain ⟨r, u, hback, hu⟩ := execute_transcript b "ROLLBACK TRANSACTION" s
  cases r with
  | ok x =>
    simp only [abandon, rollBack, hback, outcome] at h
    cases h
    exact ⟨true, [], hu, by simp⟩
  | error e =>
    simp only [abandon, rollBack, hback, outcome] at h
    cases h
    refine ⟨false, [.warned (.rollBackFailed e)], ?_, by simp⟩
    show u.transcript ++ [.warned (.rollBackFailed e)] = _
    rw [hu, List.append_assoc]
    rfl

end Action

end QueryWeave
