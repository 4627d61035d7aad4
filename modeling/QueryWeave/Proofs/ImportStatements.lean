import Mathlib.Data.List.Forall2
import QueryWeave.Database.Rehearsal
import QueryWeave.Proofs.Transcripts

/-!
# Statements of an import

An import sends a plan: it removes an old table, creates the new one, and inserts the rows of the
lines that are kept, one statement each and in the order of the lines. The plan is made before
anything is sent, it is sent statement by statement, and the first failure ends it. So no row is
lost or loaded twice, and lines without a field leave the database as it is.

Main statement: `Importer.resultLines_sends`.
-/

namespace QueryWeave

open Text

/-! ## Kept lines -/

namespace ResultRow

/-- A line that begins with a marker and a blank. -/
def IsMarked (line : Text) : Prop :=
  ∃ marker ∈ markers, ∃ c rest, isBlank c = true ∧ line = marker ++ c :: rest

theorem afterMarker?_eq_some_iff {line marker rest : Text} :
    afterMarker? line marker = some rest ↔
      ∃ c, isBlank c = true ∧ line = marker ++ c :: rest := by
  unfold afterMarker?
  constructor
  · intro h
    split at h
    · next c tail hafter =>
      split at h
      · next hc =>
        cases h
        exact ⟨c, hc, after?_eq_some_iff.1 hafter⟩
      · cases h
    · cases h
  · rintro ⟨c, hc, rfl⟩
    simp only [after?_append, hc, if_true]

theorem isMarked_iff {line : Text} :
    IsMarked line ↔ (markers.findSome? (afterMarker? line)).isSome = true := by
  rw [List.findSome?_isSome_iff]
  constructor
  · rintro ⟨marker, hmarker, c, rest, hc, hline⟩
    exact ⟨marker, hmarker, by rw [afterMarker?_eq_some_iff.2 ⟨c, hc, hline⟩]; rfl⟩
  · rintro ⟨marker, hmarker, h⟩
    obtain ⟨rest, hrest⟩ := Option.isSome_iff_exists.1 h
    obtain ⟨c, hc, hline⟩ := afterMarker?_eq_some_iff.1 hrest
    exact ⟨marker, hmarker, c, rest, hc, hline⟩

/-- A line that counts: a marked one, or any line if all of them count. -/
def Counts (options : ImportOptions) (line : Text) : Prop :=
  options.allLines = true ∨ IsMarked line

instance (options : ImportOptions) (line : Text) : Decidable (Counts options line) :=
  decidable_of_iff (options.allLines = true ∨
    (markers.findSome? (afterMarker? line)).isSome = true) (or_congr_right isMarked_iff.symm)

theorem isSome_ofLine?_iff {options : ImportOptions} {line : Text} :
    (ofLine? options line).isSome = true ↔ Counts options line := by
  rw [Counts, isMarked_iff, ofLine?, Option.isSome_map, payload?]
  cases markers.findSome? (afterMarker? line) with
  | some rest => simp
  | none => cases options.allLines <;> simp

/-- The lines that are loaded: those that count, each text once if repeated lines are dropped. -/
def kept (options : ImportOptions) (lines : List Text) : List Text :=
  let counting := lines.filter fun line => Counts options line
  if options.noDuplicates then counting.eraseDups else counting

end ResultRow

/-- It makes no difference whether repetitions are dropped before or after a choice. -/
theorem eraseDups_filter {α : Type} [BEq α] [LawfulBEq α] (p : α → Bool) (xs : List α) :
    (xs.filter p).eraseDups = xs.eraseDups.filter p := by
  -- the rest without the repetitions of the first element is shorter, but it is no part of the list
  induction hn : xs.length using Nat.strongRecOn generalizing xs with
  | ind n ih =>
    cases xs with
    | nil => rfl
    | cons x xs =>
      have hshorter : (xs.filter (! · == x)).length < n := by
        rw [← hn, List.length_cons]
        exact Nat.lt_succ_of_le (List.length_filter_le ..)
      have hrest := ih _ hshorter _ rfl
      rw [List.eraseDups_cons]
      by_cases hx : p x = true
      · rw [List.filter_cons_of_pos hx, List.filter_cons_of_pos hx, List.eraseDups_cons, ← hrest,
          List.filter_filter, List.filter_filter]
        simp only [Bool.and_comm]
      · -- an element that is not chosen takes no chosen one with it
        rw [List.filter_cons_of_neg hx, List.filter_cons_of_neg hx, ← hrest, List.filter_filter]
        congr 1
        apply List.filter_congr
        intro y _
        by_cases hy : y = x
        · rw [hy]
          simp [hx]
        · simp [hy]

namespace ResultRow

variable {options : ImportOptions} {lines : List Text}

/-- The assignments of a line that counts. -/
def assignments (options : ImportOptions) (line : Text) : ResultRow :=
  (ofLine? options line).getD []

theorem ofLine?_eq_some {line : Text} (h : Counts options line) :
    ofLine? options line = some (assignments options line) := by
  obtain ⟨row, hrow⟩ := Option.isSome_iff_exists.1 (isSome_ofLine?_iff.2 h)
  rw [assignments, hrow]
  rfl

theorem counting_eq (options : ImportOptions) (lines : List Text) :
    counting options lines =
      (lines.filter fun line => Counts options line).map
        fun line => (line, assignments options line) := by
  induction lines with
  | nil => rfl
  | cons line lines ih =>
    rw [counting, List.filterMap_cons, ← counting, ih]
    by_cases h : Counts options line
    · simp [h, ofLine?_eq_some h]
    · have hnone : ofLine? options line = none := by
        rw [← Option.not_isSome_iff_eq_none, isSome_ofLine?_iff]
        exact h
      simp [h, hnone]

/-- Of repeated lines the first one is kept, unless the line was seen before. -/
theorem distinct_map (f : Text → ResultRow) (seen lines : List Text) :
    distinct seen (lines.map fun line => (line, f line)) =
      (lines.filter (!seen.contains ·)).eraseDups.map fun line => (line, f line) := by
  induction lines generalizing seen with
  | nil => rfl
  | cons line lines ih =>
    rw [List.map_cons, distinct]
    split
    · next hseen => rw [ih, List.filter_cons_of_neg (by simpa using hseen)]
    · next hnew =>
      rw [ih, List.filter_cons_of_pos (by simpa using hnew), List.eraseDups_cons, List.map_cons,
        List.filter_filter]
      congr 4
      funext other
      rw [List.contains_cons, Bool.not_or]

/-- A row is loaded for every line that is kept, in the order of the lines. -/
theorem ofLines_eq (options : ImportOptions) (lines : List Text) :
    ofLines options lines = (kept options lines).map (assignments options) := by
  simp only [ofLines, kept, counting_eq]
  split
  · have hall : ∀ xs : List Text, xs.filter (fun line => !([] : List Text).contains line) = xs :=
      fun xs => List.filter_eq_self.2 fun _ _ => rfl
    rw [distinct_map, hall, List.map_map]
    rfl
  · rw [List.map_map]
    rfl

theorem mem_kept_iff {line : Text} :
    line ∈ kept options lines ↔ line ∈ lines ∧ Counts options line := by
  have hfilter : line ∈ lines.filter (fun line => Counts options line) ↔
      line ∈ lines ∧ Counts options line := by
    rw [List.mem_filter, decide_eq_true_iff]
  unfold kept
  dsimp only
  split
  · rw [List.mem_eraseDups, hfilter]
  · exact hfilter

/-- Dropping repetitions while lines are loaded is dropping them before. -/
theorem ofLines_noDuplicates (h : options.noDuplicates = true) :
    ofLines options lines = ofLines { options with noDuplicates := false } lines.eraseDups := by
  have hkept : kept options lines =
      kept { options with noDuplicates := false } lines.eraseDups := by
    simp only [kept, h, if_true, Bool.false_eq_true, if_false]
    exact eraseDups_filter _ lines
  rw [ofLines_eq, ofLines_eq, hkept]
  rfl

end ResultRow

/-! ## Sending statements -/

/-- A statement of an import, with the values for its placeholders if it has any. -/
inductive ImportStatement
  | execute (sql : Text)
  | query (sql : Text) (values : List Text)
  deriving DecidableEq, Repr

variable {ω κ : Type}

namespace ImportStatement

/-- Sends the statement. -/
def send (b : Backend ω κ) : ImportStatement → Action ω κ Unit
  | .execute sql => Action.execute b sql
  | .query sql values => do let _ ← Action.query b sql values

/-- What is told about the statement. -/
def event : ImportStatement → Bool → Event
  | .execute sql => .executed sql
  | .query sql values => .queried sql values

/-- A statement that is sent is told. -/
theorem send_transcript (b : Backend ω κ) (st : ImportStatement) (s : Session ω κ) :
    ∃ r t, st.send b s = Action.outcome r t ∧
      t.transcript = s.transcript ++ [st.event (Action.succeeded r)] := by
  cases st with
  | execute sql => exact Action.execute_transcript b sql s
  | query sql values =>
    obtain ⟨r, t, hr, ht⟩ := Action.ask_transcript (b.query sql values) (.queried sql values) s
    refine ⟨r.map fun _ => (), t, ?_, ?_⟩
    · show EStateM.bind (Action.ask _ _) _ s = _
      simp only [EStateM.bind, hr]
      cases r <;> rfl
    · rw [ht]
      cases r <;> rfl

end ImportStatement

/-- The statements are sent one after the other, and all of them succeed. -/
inductive AllSent (b : Backend ω κ) :
    List ImportStatement → Session ω κ → Session ω κ → Prop
  | nil (s : Session ω κ) : AllSent b [] s s
  | cons {st : ImportStatement} {sts : List ImportStatement} {s t u : Session ω κ}
      (hst : st.send b s = .ok () t) (hsts : AllSent b sts t u) : AllSent b (st :: sts) s u

theorem AllSent.transcript_eq {b : Backend ω κ} {sts : List ImportStatement}
    {s t : Session ω κ} (h : AllSent b sts s t) :
    t.transcript = s.transcript ++ sts.map (·.event true) := by
  induction h with
  | nil s => simp
  | @cons st sts s t u hst _ ih =>
    obtain ⟨r, t', hr, ht⟩ := st.send_transcript b s
    rw [hst] at hr
    cases r with
    | error e => cases hr
    | ok x =>
      cases hr
      rw [ih, ht, List.append_assoc]
      rfl

/-- Either all statements are sent, or they are sent up to the first one that fails. -/
theorem forM_send (b : Backend ω κ) (sts : List ImportStatement) (s : Session ω κ) :
    (∃ t, AllSent b sts s t ∧ sts.forM (·.send b) s = .ok () t) ∨
      ∃ before st after t e u, sts = before ++ st :: after ∧ AllSent b before s t ∧
        st.send b t = .error e u ∧ sts.forM (·.send b) s = .error e u := by
  induction sts generalizing s with
  | nil => exact .inl ⟨s, .nil s, rfl⟩
  | cons st sts ih =>
    have hstep : (st :: sts).forM (·.send b) s =
        EStateM.bind (st.send b) (fun _ => sts.forM (·.send b)) s := rfl
    rw [hstep]
    obtain ⟨r, t, hr, -⟩ := st.send_transcript b s
    cases r with
    | error e =>
      -- the first statement fails, and so does the whole with the same failure
      refine .inr ⟨[], st, sts, s, e, t, rfl, .nil s, hr, ?_⟩
      simp only [EStateM.bind, hr, Action.outcome]
    | ok x =>
      have hbind : EStateM.bind (st.send b) (fun _ => sts.forM (·.send b)) s =
          sts.forM (·.send b) t := by
        simp only [EStateM.bind, hr, Action.outcome]
      rw [hbind]
      obtain ⟨u, hall, hrun⟩ | ⟨before, st', after, u, e, v, rfl, hall, hfail, hrun⟩ := ih t
      · exact .inl ⟨u, .cons hr hall, hrun⟩
      · exact .inr ⟨st :: before, st', after, u, e, v, rfl, .cons hr hall, hfail, hrun⟩

/-- What is told of statements that are sent one after the other, up to any of them and at most to
the first one that fails. -/
inductive Told : List ImportStatement → List Event → Prop
  | nothing (sts : List ImportStatement) : Told sts []
  | failed (st : ImportStatement) (sts : List ImportStatement) : Told (st :: sts) [st.event false]
  | sent {st : ImportStatement} {sts : List ImportStatement} {events : List Event}
    (h : Told sts events) : Told (st :: sts) (st.event true :: events)

namespace Told

variable {sts front back : List ImportStatement} {events : List Event}

theorem all (sts : List ImportStatement) : Told sts (sts.map (·.event true)) := by
  induction sts with
  | nil => exact .nothing []
  | cons st sts ih => exact .sent ih

theorem stopped (before : List ImportStatement) (st : ImportStatement)
    (after : List ImportStatement) :
    Told (before ++ st :: after) (before.map (·.event true) ++ [st.event false]) := by
  induction before with
  | nil => exact .failed st after
  | cons first before ih => exact .sent ih

theorem length_le (h : Told sts events) : events.length ≤ sts.length := by
  induction h with
  | nothing => exact Nat.zero_le _
  | failed => exact Nat.succ_le_succ (Nat.zero_le _)
  | sent _ ih => exact Nat.succ_le_succ ih

/-- Whatever is told is told of one of the statements. -/
theorem exists_of_mem (h : Told sts events) {e : Event} (he : e ∈ events) :
    ∃ st ∈ sts, ∃ ok, e = st.event ok := by
  induction h with
  | nothing => cases he
  | failed st sts => exact ⟨st, List.mem_cons_self .., false, List.mem_singleton.1 he⟩
  | @sent st sts events _ ih =>
    rcases List.mem_cons.1 he with rfl | he
    · exact ⟨st, List.mem_cons_self .., true, rfl⟩
    · obtain ⟨st', hst', ok, hok⟩ := ih he
      exact ⟨st', List.mem_cons_of_mem _ hst', ok, hok⟩

/-- Something is told of the last statements only if the first ones were all sent. -/
theorem of_append (h : Told (front ++ back) events) :
    ∃ told more, events = told ++ more ∧ Told front told ∧ Told back more ∧
      (more ≠ [] → told = front.map (·.event true)) := by
  induction front generalizing events with
  | nil => exact ⟨[], events, rfl, .nothing [], h, fun _ => rfl⟩
  | cons st front ih =>
    cases h with
    | nothing => exact ⟨[], [], rfl, .nothing _, .nothing _, nofun⟩
    | failed => exact ⟨_, [], rfl, .failed st front, .nothing _, nofun⟩
    | @sent _ _ events h =>
      obtain ⟨told, more, rfl, hfront, hback, hall⟩ := ih h
      refine ⟨st.event true :: told, more, rfl, .sent hfront, hback, ?_⟩
      intro hmore
      rw [List.map_cons, hall hmore]

/-- The entries are those of the statements that were sent, in their order. -/
theorem forall₂_take (h : Told sts events) :
    List.Forall₂ (fun st e => ∃ ok, e = st.event ok) (sts.take events.length) events := by
  induction h with
  | nothing => exact .nil
  | failed => exact .cons ⟨false, rfl⟩ .nil
  | sent _ ih => exact .cons ⟨true, rfl⟩ ih

end Told

/-! ## The plan of an import -/

/-- The lines that are kept have a field for the columns, which are those of the first line alone if
the options say so. -/
def YieldsField (options : ImportOptions) (lines : List Text) : Prop :=
  let kept := ResultRow.kept options lines
  ∃ line ∈ if options.firstLine then kept.take 1 else kept,
    ∃ row, ResultRow.ofLine? options line = some row ∧ row ≠ []

/-- What a type is called in a statement. -/
inductive ColumnType.IsCalled : ColumnType → Text → Prop
  | integer : IsCalled .integer "BIGINT".toList
  | decimal : IsCalled .decimal "DOUBLE PRECISION".toList
  | text : IsCalled .text "VARCHAR".toList

theorem ColumnType.isCalled_iff {t : ColumnType} {s : Text} : t.IsCalled s ↔ s = t.name := by
  constructor
  · rintro (_ | _ | _) <;> rfl
  · rintro rfl
    cases t with
    | integer => exact .integer
    | decimal => exact .decimal
    | text => exact .text

/-- The text creates a table that has the columns in their order, each one with its type. -/
def IsCreation (d : Dialect) (temporary : Bool) (table : Text) (columns : List (Text × ColumnType))
    (sql : Text) : Prop :=
  ∃ written,
    sql = "CREATE ".toList ++ (if temporary then "TEMPORARY ".toList else []) ++ "TABLE ".toList ++
      d.quote table ++ " (".toList ++ join [',', ' '] written ++ [')'] ∧
    List.Forall₂ (fun c w => ∃ type, c.2.IsCalled type ∧ w = d.quote c.1 ++ ' ' :: type)
      columns written

theorem isCreation_iff {d : Dialect} {temporary : Bool} {table : Text}
    {columns : List (Text × ColumnType)} {sql : Text} :
    IsCreation d temporary table columns sql ↔
      sql = Statement.create d temporary table columns := by
  have hcolumn : ∀ (c : Text × ColumnType) w,
      (∃ type, c.2.IsCalled type ∧ w = d.quote c.1 ++ ' ' :: type) ↔ Statement.column d c = w := by
    intro c w
    simp [ColumnType.isCalled_iff, Statement.column, eq_comm]
  have hwritten : ∀ written,
      List.Forall₂ (fun c w => Statement.column d c = w) columns written ↔
        columns.map (Statement.column d) = written := by
    intro written
    rw [← List.forall₂_map_left_iff, List.forall₂_eq_eq_eq]
  simp only [IsCreation, hcolumn, hwritten, exists_eq_right']
  rfl

/-- The statement inserts a row: the value at every position goes to the key at this position. -/
def Inserts (d : Dialect) (table : Text) (row : ResultRow) (st : ImportStatement) : Prop :=
  ∃ names placeholders values,
    st = .query ("INSERT INTO ".toList ++ d.quote table ++ " (".toList ++ join [','] names ++
      ") VALUES (".toList ++ join [','] placeholders ++ [')']) values ∧
    names.length = row.length ∧ placeholders.length = row.length ∧ values.length = row.length ∧
    ∀ k key value, row[k]? = some (key, value) → names[k]? = some (d.quote key) ∧
      placeholders[k]? = some (d.placeholder k) ∧ values[k]? = some value

namespace ImportStatement

/-- The statement that inserts a row. -/
def insertion (d : Dialect) (table : Text) (row : ResultRow) : ImportStatement :=
  .query (Statement.insert d table row) (row.map Prod.snd)

theorem inserts_insertion (d : Dialect) (table : Text) (row : ResultRow) :
    Inserts d table row (insertion d table row) := by
  refine ⟨row.map fun a => d.quote a.1, (List.range row.length).map d.placeholder,
    row.map Prod.snd, ?_, by simp, by simp, by simp, ?_⟩
  · unfold insertion Statement.insert
    rfl
  · intro k key value hk
    have hlt : k < row.length := (List.getElem?_eq_some_iff.1 hk).1
    have hrange : (List.range row.length)[k]? = some k := by simp [hlt]
    simp only [List.getElem?_map, hk, hrange, Option.map_some, and_self]

/-- There is no other statement that inserts a row. -/
theorem eq_insertion {d : Dialect} {table : Text} {row : ResultRow} {st : ImportStatement}
    (h : Inserts d table row st) : st = insertion d table row := by
  obtain ⟨names, placeholders, values, rfl, hnames, hplaceholders, hvalues, hrow⟩ := h
  have hat : ∀ k (hk : k < row.length), names[k]? = some (d.quote (row[k]).1) ∧
      placeholders[k]? = some (d.placeholder k) ∧ values[k]? = some (row[k]).2 :=
    fun k hk => hrow k _ _ (List.getElem?_eq_getElem hk)
  -- texts that agree at the positions of the row are the same
  have hsame : ∀ {xs ys : List Text}, xs.length = row.length → ys.length = row.length →
      (∀ k < row.length, xs[k]? = ys[k]?) → xs = ys := by
    intro xs ys hxs hys h
    refine List.ext_getElem? fun k => ?_
    by_cases hk : k < row.length
    · exact h k hk
    · rw [List.getElem?_eq_none (by omega), List.getElem?_eq_none (by omega)]
  have hnames : names = row.map fun a => d.quote a.1 :=
    hsame hnames (by simp) fun k hk => by rw [(hat k hk).1]; simp [hk]
  have hplaceholders : placeholders = (List.range row.length).map d.placeholder :=
    hsame hplaceholders (by simp) fun k hk => by rw [(hat k hk).2.1]; simp [hk]
  have hvalues : values = row.map Prod.snd :=
    hsame hvalues (by simp) fun k hk => by rw [(hat k hk).2.2]; simp [hk]
  rw [hnames, hplaceholders, hvalues]
  rfl

/-- The statements of an import: an old table is removed if it is there. -/
def plan (d : Dialect) (table : Text) (there : Bool) (create : Text)
    (inserts : List ImportStatement) : List ImportStatement :=
  (if there then [.execute ("DROP TABLE ".toList ++ d.quote table)] else []) ++
    .execute create :: inserts

end ImportStatement

namespace ResultRow

/-- A column that is known stays, so there is none only if there is no assignment. -/
theorem foldl_addColumn_eq_nil_iff {assignments : List (Text × Text)}
    {columns : List (Text × ColumnType)} :
    assignments.foldl addColumn columns = [] ↔ assignments = [] ∧ columns = [] := by
  have hne : ∀ (cs : List (Text × ColumnType)) a, addColumn cs a ≠ [] := by
    intro cs a
    cases cs with
    | nil => exact List.cons_ne_nil _ _
    | cons c cs =>
      rw [addColumn]
      split <;> exact List.cons_ne_nil _ _
  induction assignments generalizing columns with
  | nil => simp
  | cons a assignments ih =>
    rw [List.foldl_cons]
    exact ih.trans (by simp [hne])

theorem columns_eq_nil_iff {options : ImportOptions} {lines : List Text} :
    columns options (ofLines options lines) = [] ↔ ¬ YieldsField options lines := by
  -- the columns come from the rows of the lines that `YieldsField` looks at
  have hrows : (if options.firstLine then (ofLines options lines).take 1
        else ofLines options lines) =
      (if options.firstLine then (kept options lines).take 1 else kept options lines).map
        (assignments options) := by
    rw [ofLines_eq]
    split
    · exact List.map_take.symm
    · rfl
  have hrow : ∀ line ∈ (if options.firstLine then (kept options lines).take 1
      else kept options lines), ofLine? options line = some (assignments options line) := by
    intro line hline
    have hkept : line ∈ kept options lines := by
      split at hline
      · exact List.mem_of_mem_take hline
      · exact hline
    exact ofLine?_eq_some (mem_kept_iff.1 hkept).2
  rw [columns, foldl_addColumn_eq_nil_iff, hrows, YieldsField]
  simp only [and_true, List.flatten_eq_nil_iff, List.forall_mem_map]
  constructor
  · rintro h ⟨line, hline, row, hsome, hne⟩
    rw [hrow line hline] at hsome
    cases hsome
    exact hne (h line hline)
  · intro h line hline
    exact Classical.byContradiction fun hne => h ⟨line, hline, _, hrow line hline, hne⟩

end ResultRow

namespace Importer

open ImportStatement

/-- An import is the plan. -/
theorem resultLines_eq (b : Backend ω κ) (lines : List Text) (options : ImportOptions)
    (temporary : Bool) :
    let rows := ResultRow.ofLines options lines
    let columns := ResultRow.columns options rows
    resultLines b lines options temporary =
      if columns.isEmpty then throw (.importing (.noLines options.table))
      else do
        let there ← Action.hasTable b options.table
        (plan b.toDialect options.table there
          (Statement.create b.toDialect temporary options.table columns)
          (rows.map (insertion b.toDialect options.table))).forM (·.send b)
        return rows.length := by
  intro rows columns
  have hrows : (rows.map (insertion b.toDialect options.table)).forM (·.send b) =
      rows.forM (insertRow b options.table) := List.forM_map
  have hplan : ∀ there,
      (plan b.toDialect options.table there
        (Statement.create b.toDialect temporary options.table columns)
        (rows.map (insertion b.toDialect options.table))).forM (·.send b) =
      (do
        (if there then Action.execute b (Statement.drop b.toDialect options.table) else pure ())
        Action.execute b (Statement.create b.toDialect temporary options.table columns)
        rows.forM (insertRow b options.table)) := by
    intro there
    have hcons : ∀ st sts, (st :: sts : List ImportStatement).forM (·.send b) =
        (do st.send b; sts.forM (·.send b)) := fun _ _ => List.forM_cons
    -- the removal of the old table stands in front of the plan or is missing
    cases there with
    | true =>
      show ((_ :: _ :: _ : List ImportStatement).forM (·.send b)) = _
      rw [hcons, hcons, hrows]
      rfl
    | false =>
      show ((_ :: _ : List ImportStatement).forM (·.send b)) = _
      rw [hcons, hrows]
      rfl
  simp only [hplan]
  unfold resultLines dropOld
  dsimp only
  split
  · rfl
  · simp only [bind_assoc]
    rfl

/-- How an import goes whose lines have fields, with what is told of it: the database is asked for
the table, and then the plan is sent, up to its end or to the first statement that fails. -/
inductive Sends (b : Backend ω κ) (table : Text) (plan : Bool → List ImportStatement) (count : Nat)
    (s : Session ω κ) : EStateM.Result Failure (Session ω κ) Nat → Prop
  | unasked {e : Failure} {t : Session ω κ} (hasked : Action.hasTable b table s = .error e t)
    (htold : t.transcript = s.transcript ++ [.soughtTable table]) :
    Sends b table plan count s (.error e t)
  | all {there : Bool} {t u : Session ω κ} (hasked : Action.hasTable b table s = .ok there t)
    (hsent : AllSent b (plan there) t u)
    (htold : u.transcript =
      s.transcript ++ .soughtTable table :: (plan there).map (·.event true)) :
    Sends b table plan count s (.ok count u)
  | stopped {there : Bool} {before after : List ImportStatement} {st : ImportStatement}
    {e : Failure} {t u v : Session ω κ} (hasked : Action.hasTable b table s = .ok there t)
    (hplan : plan there = before ++ st :: after) (hsent : AllSent b before t u)
    (hfailed : st.send b u = .error e v)
    (htold : v.transcript = s.transcript ++
      .soughtTable table :: (before.map (·.event true) ++ [st.event false])) :
    Sends b table plan count s (.error e v)

theorem sends_plan (b : Backend ω κ) (table : Text) (plan : Bool → List ImportStatement)
    (count : Nat) (s : Session ω κ) :
    Sends b table plan count s ((do
      let there ← Action.hasTable b table
      (plan there).forM (·.send b)
      return count : Action ω κ Nat) s) := by
  obtain ⟨r, t, hasked, htold⟩ :=
    Action.ask_transcript (b.hasTable table) (fun _ => .soughtTable table) s
  change Action.hasTable b table s = _ at hasked
  show Sends b table plan count s (EStateM.bind (Action.hasTable b table) (fun there =>
    EStateM.bind ((plan there).forM (·.send b)) fun _ => EStateM.pure count) s)
  cases r with
  | error e =>
    simp only [EStateM.bind, hasked, Action.outcome]
    exact .unasked hasked htold
  | ok there =>
    simp only [EStateM.bind, hasked, Action.outcome]
    obtain ⟨u, hsent, hrun⟩ | ⟨before, st, after, u, e, v, hplan, hsent, hfailed, hrun⟩ :=
      forM_send b (plan there) t
    · rw [hrun]
      refine .all hasked hsent ?_
      rw [hsent.transcript_eq, htold, List.append_assoc]
      rfl
    · rw [hrun]
      refine .stopped hasked hplan hsent hfailed ?_
      obtain ⟨r, v', hr, hv⟩ := st.send_transcript b u
      rw [hfailed] at hr
      cases r with
      | ok x => cases hr
      | error e' =>
        cases hr
        rw [hv, hsent.transcript_eq, htold, List.append_assoc, List.append_assoc]
        rfl

/-- What is told of an import: if the database answers the first question, it is told of the
statements of the plan. -/
theorem Sends.told {b : Backend ω κ} {table : Text} {plan : Bool → List ImportStatement}
    {count : Nat} {s t : Session ω κ} {r : Except Failure Nat}
    (h : Sends b table plan count s (Action.outcome r t)) :
    (∃ e, r = .error e ∧ t.transcript = s.transcript ++ [.soughtTable table]) ∨
      ∃ there events, t.transcript = s.transcript ++ .soughtTable table :: events ∧
        Told (plan there) events ∧
        ∀ n, r = .ok n → n = count ∧ events = (plan there).map (·.event true) := by
  generalize hresult : Action.outcome r t = result at h
  cases h with
  | unasked hasked htold =>
    cases r with
    | ok n => cases hresult
    | error e =>
      cases hresult
      exact .inl ⟨_, rfl, htold⟩
  | @all there _ _ hasked hsent htold =>
    cases r with
    | error e => cases hresult
    | ok n =>
      cases hresult
      refine .inr ⟨there, _, htold, .all _, ?_⟩
      intro n hn
      cases hn
      exact ⟨rfl, rfl⟩
  | @stopped there before after st _ _ _ _ hasked hparts hsent hfailed htold =>
    cases r with
    | ok n => cases hresult
    | error e =>
      cases hresult
      refine .inr ⟨there, _, htold, ?_, nofun⟩
      rw [hparts]
      exact .stopped before st after

theorem sends_of_yieldsField (b : Backend ω κ) {lines : List Text} {options : ImportOptions}
    (temporary : Bool) (h : YieldsField options lines) (s : Session ω κ) :
    let rows := ResultRow.ofLines options lines
    Sends b options.table (fun there => plan b.toDialect options.table there
        (Statement.create b.toDialect temporary options.table (ResultRow.columns options rows))
        (rows.map (insertion b.toDialect options.table))) rows.length s
      (resultLines b lines options temporary s) := by
  intro rows
  have hcolumns : ¬ (ResultRow.columns options rows).isEmpty := by
    rw [List.isEmpty_iff, ResultRow.columns_eq_nil_iff]
    exact not_not_intro h
  have hcourse := resultLines_eq b lines options temporary
  dsimp only at hcourse
  rw [hcourse, if_neg hcolumns]
  exact sends_plan b options.table _ _ s

/-- An import whose kept lines give no field fails before anything is asked of the database. Else
its statements are the removal of an old table, the creation of the new one and an insertion for
every line that is kept, in their order; the first failure is the one that is reported, and nothing
is sent after it. So it makes no difference whether repeated lines are dropped by the import or
before. -/
theorem resultLines_sends (b : Backend ω κ) (lines : List Text) (options : ImportOptions)
    (temporary : Bool) :
    (¬ YieldsField options lines → ∀ s : Session ω κ, resultLines b lines options temporary s =
      .error (.importing (.noLines options.table)) s) ∧
    (YieldsField options lines → ∃ create inserts,
      IsCreation b.toDialect temporary options.table
        (ResultRow.columns options (ResultRow.ofLines options lines)) create ∧
      List.Forall₂ (fun line st => ∃ row, ResultRow.ofLine? options line = some row ∧
        Inserts b.toDialect options.table row st) (ResultRow.kept options lines) inserts ∧
      ∀ s : Session ω κ, Sends b options.table
        (fun there => plan b.toDialect options.table there create inserts) inserts.length s
        (resultLines b lines options temporary s)) ∧
    (options.noDuplicates = true → resultLines b lines options temporary =
      resultLines b lines.eraseDups { options with noDuplicates := false } temporary) := by
  have hcourse := resultLines_eq b lines options temporary
  dsimp only at hcourse
  refine ⟨fun hnone s => ?_, fun hyields => ?_, fun hdrop => ?_⟩
  · have hcolumns := ResultRow.columns_eq_nil_iff.2 hnone
    rw [hcourse, hcolumns]
    rfl
  · refine ⟨_, (ResultRow.ofLines options lines).map (insertion b.toDialect options.table),
      isCreation_iff.2 rfl, ?_, fun s => ?_⟩
    · rw [ResultRow.ofLines_eq, List.map_map, List.forall₂_map_right_iff, List.forall₂_same]
      exact fun line hline => ⟨_, ResultRow.ofLine?_eq_some (ResultRow.mem_kept_iff.1 hline).2,
        inserts_insertion _ _ _⟩
    · rw [List.length_map]
      exact sends_of_yieldsField b temporary hyields s
  · have hagain := resultLines_eq b lines.eraseDups { options with noDuplicates := false } temporary
    dsimp only at hagain
    rw [hcourse, hagain, ← ResultRow.ofLines_noDuplicates hdrop]
    rfl

/-- Of four lines one is not marked and one is repeated, so two rows are inserted. -/
theorem resultLines_sends_repeated :
    let options : ImportOptions := { noDuplicates := true, table := "t".toList }
    let lines := ["RESULT a=1 b=2", "note", "RESULT a=1 b=2", "# RESULT b=3"].map String.toList
    let create := "CREATE TEMPORARY TABLE \"t\" (\"a\" BIGINT, \"b\" BIGINT)".toList
    let inserts : List ImportStatement :=
      [.query "INSERT INTO \"t\" (\"a\",\"b\") VALUES (?1,?2)".toList ["1".toList, "2".toList],
        .query "INSERT INTO \"t\" (\"b\") VALUES (?1)".toList ["3".toList]]
    YieldsField options lines ∧
      ∀ s : Session Tree Rehearsal, Sends Rehearsal.backend options.table
        (fun there => (if there then [.execute "DROP TABLE \"t\"".toList] else []) ++
          .execute create :: inserts) 2 s
        (resultLines Rehearsal.backend lines options true s) := by
  intro options lines create inserts
  have hkept : ResultRow.kept options lines =
      ["RESULT a=1 b=2", "# RESULT b=3"].map String.toList := by
    decide +kernel
  have hfirst : ResultRow.ofLine? options "RESULT a=1 b=2".toList =
      some [("a".toList, "1".toList), ("b".toList, "2".toList)] := by
    decide +kernel
  have hsecond : ResultRow.ofLine? options "# RESULT b=3".toList =
      some [("b".toList, "3".toList)] := by
    decide +kernel
  have hyields : YieldsField options lines := by
    refine ⟨"RESULT a=1 b=2".toList, ?_, _, hfirst, by decide⟩
    rw [hkept]
    exact List.mem_cons_self ..
  obtain ⟨sql, sts, hcreate, hinserts, hsends⟩ :=
    (resultLines_sends Rehearsal.backend lines options true).2.1 hyields
  rw [hkept] at hinserts
  cases hinserts with
  | cons hone hmore =>
    cases hmore with
    | cons htwo hnone =>
      cases hnone
      obtain ⟨row, hrow, hone⟩ := hone
      obtain ⟨row', hrow', htwo⟩ := htwo
      cases hfirst.symm.trans hrow
      cases hsecond.symm.trans hrow'
      have hsql : Statement.create Rehearsal.backend.toDialect true options.table
          (ResultRow.columns options (ResultRow.ofLines options lines)) = create := by
        decide +kernel
      have hsts : [insertion Rehearsal.backend.toDialect options.table
            [("a".toList, "1".toList), ("b".toList, "2".toList)],
          insertion Rehearsal.backend.toDialect options.table [("b".toList, "3".toList)]] =
          inserts := by
        decide +kernel
      rw [isCreation_iff.1 hcreate, hsql, eq_insertion hone, eq_insertion htwo, hsts] at hsends
      exact ⟨hyields, hsends⟩

end Importer

end QueryWeave
