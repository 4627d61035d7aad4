import QueryWeave.Proofs.ImportColumns

/-!
# Columns of inserted rows

An import inserts a row for every line that is kept. Which columns an insertion names is told here
by reading the names off its text, with the rule that a doubled quote inside of quotes stands for
one. Read so, an insertion names the keys of its line in their order. They are columns of the
created table, unless the columns come from the first line alone; but there are none if the line has
no field, and a key that the line repeats is named twice.

Main statements: `Importer.resultLines_inserts`, and `Importer.resultLines_inserts_no_column` for a
line without a field, which ends the import.
-/

namespace QueryWeave

open Text

/-! ## Reading names -/

namespace Text

/-- A quoted text is read back if the quote behind it is not doubled. -/
theorem unquote?_doubled {q : Char} (s : Text) {rest : Text} (hrest : ∀ c ∈ rest.head?, c ≠ q) :
    unquote? q (doubled q s ++ q :: rest) = some (s, rest) := by
  induction s with
  | nil =>
    cases rest with
    | nil => simp [doubled, unquote?]
    | cons c rest => simp [doubled, unquote?, hrest c rfl]
  | cons c s ih =>
    by_cases hc : c = q
    · have hwhole : doubled q (c :: s) ++ q :: rest = q :: q :: (doubled q s ++ q :: rest) := by
        simp [doubled, hc]
      rw [hwhole, unquote?, if_pos rfl, if_pos rfl, ih, hc]
      rfl
    · have hwhole : doubled q (c :: s) ++ q :: rest = c :: (doubled q s ++ q :: rest) := by
        simp [doubled, hc]
      rw [hwhole]
      -- the text goes on behind the character, at least with the closing quote
      cases htail : doubled q s ++ q :: rest with
      | nil => exact absurd htail (List.append_ne_nil_of_right_ne_nil _ (List.cons_ne_nil _ _))
      | cons d t =>
        rw [unquote?, if_neg hc, ← htail, ih]
        rfl

theorem length_of_unquote? {q : Char} {s a r : Text} (h : unquote? q s = some (a, r)) :
    r.length < s.length := by
  fun_induction unquote? q s generalizing a with
  | case1 => cases h
  | case2 =>
    cases h
    exact Nat.zero_lt_one
  | case3 => cases h
  | case4 s ih =>
    obtain ⟨⟨b, t⟩, hrest, heq⟩ := Option.map_eq_some_iff.1 h
    cases heq
    have hlt := ih hrest
    simp only [List.length_cons]
    omega
  | case5 d s hd =>
    cases h
    exact Nat.lt_succ_self _
  | case6 c d s hc ih =>
    obtain ⟨⟨b, t⟩, hrest, heq⟩ := Option.map_eq_some_iff.1 h
    cases heq
    exact Nat.lt_succ_of_lt (ih hrest)

end Text

namespace Statement

/-- The name between quotes at the beginning of a text, and the rest. -/
def quotedName? : Text → Option (Text × Text)
  | [] => none
  | c :: s => if c = '"' then unquote? '"' s else none

theorem length_of_quotedName? {s a r : Text} (h : quotedName? s = some (a, r)) :
    r.length < s.length := by
  cases s with
  | nil => cases h
  | cons c s =>
    rw [quotedName?] at h
    split at h
    · exact Nat.lt_succ_of_lt (length_of_unquote? h)
    · cases h

/-- The names between quotes at the beginning of a text, with commas between them, up to a closing
parenthesis. -/
def quotedNames? (s : Text) : Option (List Text) :=
  match _h : quotedName? s with
  | some (a, ',' :: r) => (quotedNames? r).map (a :: ·)
  | some (a, ')' :: _) => some [a]
  | _ => none
termination_by s.length
decreasing_by
  have hlt := length_of_quotedName? _h
  rw [List.length_cons] at hlt
  omega

/-- The names of the columns of an insertion, read off its text. -/
def insertedNames? (sql : Text) : Option (List Text) := do
  let (_, rest) ← quotedName? (← after? "INSERT INTO " sql)
  let columns ← after? " (" rest
  if columns.head? = some ')' then return [] else quotedNames? columns

/-- A name ends with its closing quote. -/
theorem quotedName?_name (s : Text) {rest : Text} (hrest : ∀ c ∈ rest.head?, c ≠ '"') :
    quotedName? (name s ++ rest) = some (s, rest) := by
  have hwhole : name s ++ rest = '"' :: (doubled '"' s ++ '"' :: rest) := by
    simp [name, quoted]
  rw [hwhole, quotedName?, if_pos rfl]
  exact unquote?_doubled s hrest

/-- What is read after a name is decided by the character behind it. -/
theorem quotedNames?_of_name {s a r : Text} {c : Char} (h : quotedName? s = some (a, c :: r)) :
    quotedNames? s =
      if c = ',' then (quotedNames? r).map (a :: ·) else if c = ')' then some [a] else none := by
  rw [quotedNames?]
  split
  · next hcomma =>
    cases h.symm.trans hcomma
    rfl
  · next hclose =>
    cases h.symm.trans hclose
    rfl
  · next hcomma hclose =>
    rw [if_neg, if_neg]
    · rintro rfl
      exact hclose a r h
    · rintro rfl
      exact hcomma a r h

/-- Names are read back in their order. -/
theorem quotedNames?_join {names : List Text} (hne : names ≠ []) (rest : Text) :
    quotedNames? (join [','] (names.map name) ++ ')' :: rest) = some names := by
  induction names with
  | nil => exact absurd rfl hne
  | cons first names ih =>
    cases names with
    | nil =>
      have hread : quotedName? (name first ++ ')' :: rest) = some (first, ')' :: rest) :=
        quotedName?_name first (by simp)
      exact quotedNames?_of_name hread
    | cons second names =>
      have hwhole : join [','] ((first :: second :: names).map name) ++ ')' :: rest =
          name first ++ ',' :: (join [','] ((second :: names).map name) ++ ')' :: rest) := by
        simp [join]
      have hread : quotedName? (name first ++
          ',' :: (join [','] ((second :: names).map name) ++ ')' :: rest)) =
          some (first, ',' :: (join [','] ((second :: names).map name) ++ ')' :: rest)) :=
        quotedName?_name first (by simp)
      rw [hwhole, quotedNames?_of_name hread, if_pos rfl, ih (List.cons_ne_nil _ _)]
      rfl

/-- An insertion up to the names of its columns. -/
theorem exists_insert_eq {d : Dialect} (hquote : d.quote = name) (table : Text)
    (row : ResultRow) : ∃ rest,
    insert d table row = "INSERT INTO ".toList ++ (name table ++ ' ' :: '(' ::
      (join [','] ((row.map Prod.fst).map name) ++ ')' :: rest)) := by
  refine ⟨" VALUES (".toList ++
    join [','] ((List.range row.length).map d.placeholder) ++ [')'], ?_⟩
  have hnames : (row.map Prod.fst).map name = row.map fun a => name a.1 := List.map_map
  rw [hnames]
  unfold insert
  simp only [hquote, List.append_assoc]
  rfl

/-- An insertion names the keys of its row. -/
theorem insertedNames?_insert {d : Dialect} (hquote : d.quote = name) (table : Text)
    (row : ResultRow) : insertedNames? (insert d table row) = some (row.map Prod.fst) := by
  obtain ⟨rest, hwhole⟩ := exists_insert_eq hquote table row
  generalize hcolumns : join [','] ((row.map Prod.fst).map name) ++ ')' :: rest = columns at hwhole
  have hname : quotedName? (name table ++ ' ' :: '(' :: columns) =
      some (table, ' ' :: '(' :: columns) := by
    apply quotedName?_name
    rintro _ ⟨⟩
    decide
  have hopen : after? " (" (' ' :: '(' :: columns) = some columns := rfl
  rw [hwhole]
  simp only [insertedNames?, after?_append, hname, hopen, Option.bind_eq_bind, Option.bind_some]
  rw [← hcolumns]
  cases row with
  | nil => rfl
  | cons a row =>
    have hfirst : ∀ names : List Text,
        (join [','] ((a.1 :: names).map name) ++ ')' :: rest).head? = some '"' := by
      intro names
      cases names <;> rfl
    rw [List.map_cons, hfirst, if_neg (by decide)]
    exact quotedNames?_join (List.cons_ne_nil _ _) rest

end Statement

/-! ## The insertions of an import -/

variable {ω κ : Type}

/-- Every action ends, with a result or a failure. -/
theorem Action.exists_outcome {α : Type} (a : Action ω κ α) (s : Session ω κ) :
    ∃ r t, a s = Action.outcome r t := by
  cases h : a s with
  | ok x t => exact ⟨.ok x, t, rfl⟩
  | error e t => exact ⟨.error e, t, rfl⟩

namespace Importer

open ImportStatement

/-- An insertion names at least one column and none twice, and only columns of the created table
unless these come from the first line alone. -/
def NamesColumns (options : ImportOptions) (columns : List (Text × ColumnType)) (sql : Text) :
    Prop :=
  ∃ names, Statement.insertedNames? sql = some names ∧ names ≠ [] ∧ names.Nodup ∧
    (options.firstLine = false → names ⊆ columns.map Prod.fst)

/-- A row was inserted for the line, or was not accepted. The insertion is as it should be exactly
if the line has a field and sets no key twice. -/
def InsertsLine (options : ImportOptions) (columns : List (Text × ColumnType)) (line : Text)
    (e : Event) : Prop :=
  ∃ row sql values ok, ResultRow.ofLine? options line = some row ∧ e = .queried sql values ok ∧
    (NamesColumns options columns sql ↔ row ≠ [] ∧ (row.map Prod.fst).Nodup)

/-- The keys of a kept line are columns of the table. -/
theorem keys_subset_columns {options : ImportOptions} (h : options.firstLine = false)
    {lines : List Text} {line : Text} (hline : line ∈ ResultRow.kept options lines) :
    (ResultRow.assignments options line).map Prod.fst ⊆
      (ResultRow.columns options (ResultRow.ofLines options lines)).map Prod.fst := by
  intro key hkey
  rw [(ResultRow.isColumnsOf_ofLines h lines).keys, List.mem_eraseDups]
  obtain ⟨a, ha, rfl⟩ := List.mem_map.1 hkey
  exact List.mem_map_of_mem (List.mem_flatMap.2 ⟨line, hline, ha⟩)

theorem insertsLine_insertion {d : Dialect} (hquote : d.quote = Statement.name)
    {options : ImportOptions} {lines : List Text} {line : Text}
    (hline : line ∈ ResultRow.kept options lines) (ok : Bool) :
    InsertsLine options (ResultRow.columns options (ResultRow.ofLines options lines)) line
      ((insertion d options.table (ResultRow.assignments options line)).event ok) := by
  refine ⟨_, _, _, ok, ResultRow.ofLine?_eq_some (ResultRow.mem_kept_iff.1 hline).2, rfl, ?_⟩
  constructor
  · rintro ⟨names, hnames, hne, hdistinct, -⟩
    cases (Statement.insertedNames?_insert hquote _ _).symm.trans hnames
    exact ⟨fun hnil => hne (List.map_eq_nil_iff.2 hnil), hdistinct⟩
  · rintro ⟨hne, hdistinct⟩
    refine ⟨_, Statement.insertedNames?_insert hquote _ _, ?_, hdistinct, ?_⟩
    · exact fun hnil => hne (List.map_eq_nil_iff.1 hnil)
    · exact fun hfirst => keys_subset_columns hfirst hline

/-- The insertions come behind everything else. -/
theorem plan_append (d : Dialect) (table : Text) (there : Bool) (create : Text)
    (inserts : List ImportStatement) :
    plan d table there create inserts = plan d table there create [] ++ inserts := by
  unfold plan
  rw [List.append_assoc]
  rfl

/-- Nothing is queried before the insertions. -/
theorem not_queried_of_plan {d : Dialect} {table create : Text} {there : Bool}
    {events : List Event} (h : Told (plan d table there create []) events) (sql : Text)
    (values : List Text) (ok : Bool) : .queried sql values ok ∉ events := by
  intro hmem
  obtain ⟨st, hst, ok', hevent⟩ := h.exists_of_mem hmem
  rcases List.mem_append.1 hst with hst | hst
  · split at hst
    · rw [List.mem_singleton.1 hst] at hevent
      cases hevent
    · cases hst
  · rw [List.mem_singleton.1 hst] at hevent
    cases hevent

/-- The insertions that are told of are those of the first kept lines. -/
theorem forall₂_insertsLine {d : Dialect} (hquote : d.quote = Statement.name)
    {options : ImportOptions} {lines : List Text} {events : List Event}
    (h : Told ((ResultRow.ofLines options lines).map (insertion d options.table)) events) :
    List.Forall₂
      (InsertsLine options (ResultRow.columns options (ResultRow.ofLines options lines)))
      ((ResultRow.kept options lines).take events.length) events := by
  have htaken := h.forall₂_take
  rw [ResultRow.ofLines_eq, List.map_map, ← List.map_take, List.forall₂_map_left_iff] at htaken
  have hkept : ∀ line ∈ (ResultRow.kept options lines).take events.length,
      line ∈ ResultRow.kept options lines := fun line hline => List.mem_of_mem_take hline
  refine ((List.forall₂_and_left _ _).2 ⟨hkept, htaken⟩).imp ?_
  rintro line e ⟨hline, ok, rfl⟩
  exact insertsLine_insertion hquote hline ok

/-- Rows are inserted after the table was created, one for each kept line, in the order of the
lines, up to the last one or to the first that the database does not accept. Each insertion names
columns of the table, at least one and none twice, exactly if its line has a field and sets no key
twice. -/
theorem resultLines_inserts (b : Backend ω κ) (hquote : b.quote = Statement.name)
    (lines : List Text) (options : ImportOptions) (temporary : Bool) (s : Session ω κ) :
    let columns := ResultRow.columns options (ResultRow.ofLines options lines)
    ∃ r t before inserts create, resultLines b lines options temporary s = Action.outcome r t ∧
      t.transcript = s.transcript ++ (before ++ inserts) ∧
      (∀ sql values ok, .queried sql values ok ∉ before) ∧
      IsCreation b.toDialect temporary options.table columns create ∧
      (inserts ≠ [] → .executed create true ∈ before) ∧
      List.Forall₂ (InsertsLine options columns)
        ((ResultRow.kept options lines).take inserts.length) inserts ∧
      ∀ n, r = .ok n → inserts.length = (ResultRow.kept options lines).length := by
  intro columns
  obtain ⟨r, t, hrun⟩ := Action.exists_outcome (resultLines b lines options temporary) s
  refine ⟨r, t, ?_⟩
  by_cases hyields : YieldsField options lines
  · have hsends := sends_of_yieldsField b temporary hyields s
    rw [hrun] at hsends
    rcases hsends.told with ⟨e, rfl, htold⟩ | ⟨there, events, htold, hevents, hall⟩
    · -- the database did not even say whether there is an old table
      exact ⟨_, [], _, hrun, by rw [htold, List.append_nil], by simp, isCreation_iff.2 rfl, nofun,
        .nil, nofun⟩
    · rw [plan_append] at hevents hall
      obtain ⟨told, inserts, rfl, hfront, hinserts, hcreated⟩ := hevents.of_append
      refine ⟨.soughtTable options.table :: told, inserts, _, hrun, htold, ?_,
        isCreation_iff.2 rfl, ?_, forall₂_insertsLine hquote hinserts, ?_⟩
      · intro sql values ok hmem
        rcases List.mem_cons.1 hmem with hmem | hmem
        · cases hmem
        · exact not_queried_of_plan hfront sql values ok hmem
      · intro hne
        rw [hcreated hne]
        apply List.mem_cons_of_mem
        apply List.mem_map.2
        exact ⟨_, List.mem_append_right _ (List.mem_singleton_self _), rfl⟩
      · intro n hn
        -- everything is told of the plan, and of its parts no more than they have statements
        have hlength := congrArg List.length (hall n hn).2
        have htoldLength := hfront.length_le
        have hinsertsLength := hinserts.length_le
        have hrows : (ResultRow.ofLines options lines).length =
            (ResultRow.kept options lines).length := by
          rw [ResultRow.ofLines_eq, List.length_map]
        simp only [List.length_append, List.length_map] at hlength hinsertsLength
        omega
  · have hnone := (resultLines_sends b lines options temporary).1 hyields s
    rw [hrun] at hnone
    cases r with
    | ok n => cases hnone
    | error e =>
      cases hnone
      exact ⟨[], [], _, hrun, by simp, by simp, isCreation_iff.2 rfl, nofun, .nil, nofun⟩

/-- The one insertion of an import is of a line that sets a key twice: it names a column twice. -/
theorem resultLines_inserts_repeated_key :
    let options : ImportOptions := { table := "t".toList }
    let lines := ["RESULT a=1 a=2".toList]
    let columns := ResultRow.columns options (ResultRow.ofLines options lines)
    let s : Session Tree Rehearsal := ⟨.scripted {}, ⟨[], []⟩, []⟩
    ∃ t before sql values ok, resultLines Rehearsal.backend lines options false s = .ok 1 t ∧
      t.transcript = before ++ [.queried sql values ok] ∧ ¬ NamesColumns options columns sql := by
  intro options lines columns s
  have hone : EStateM.run' (fun _ => resultLines Rehearsal.backend lines options false s) s =
      some 1 := by
    decide +kernel
  obtain ⟨r, t, before, inserts, -, hrun, htold, -, -, -, hinserts, hall⟩ :=
    resultLines_inserts Rehearsal.backend rfl lines options false s
  rw [hrun] at hone
  cases r with
  | error e => cases hone
  | ok n =>
    cases hone
    have hrow : ResultRow.ofLine? options "RESULT a=1 a=2".toList =
        some [("a".toList, "1".toList), ("a".toList, "2".toList)] := by
      decide +kernel
    have hkept : ResultRow.kept options lines = lines := by
      decide +kernel
    rw [hkept] at hinserts hall
    obtain ⟨insert, rfl⟩ := List.length_eq_one_iff.1 (hall 1 rfl)
    obtain ⟨⟨row, sql, values, ok, hof, rfl, hnames⟩, -⟩ := List.forall₂_cons.1 hinserts
    cases hrow.symm.trans hof
    exact ⟨t, before, sql, values, ok, hrun, htold, fun h => absurd (hnames.1 h).2 (by decide)⟩

/-- A bare marker behind a usable line has an insertion that names no column, which the database
refuses; so the import fails. -/
theorem resultLines_inserts_no_column :
    let options : ImportOptions := { table := "t".toList }
    let lines := ["RESULT a=1", "RESULT "].map String.toList
    let columns := ResultRow.columns options (ResultRow.ofLines options lines)
    let s : Session Tree Connection := ⟨{}, ⟨[], []⟩, []⟩
    YieldsField options lines ∧
      (∃ e t, resultLines Connection.backend lines options false s = .error e t ∧
        t.transcript = [.soughtTable "t".toList,
          .executed "CREATE TABLE \"t\" (\"a\" BIGINT)".toList true,
          .queried "INSERT INTO \"t\" (\"a\") VALUES (?1)".toList ["1".toList] true,
          .queried "INSERT INTO \"t\" () VALUES ()".toList [] false]) ∧
      ¬ NamesColumns options columns "INSERT INTO \"t\" () VALUES ()".toList := by
  intro options lines columns s
  have hyields : YieldsField options lines :=
    ⟨"RESULT a=1".toList, by decide +kernel, _, rfl, by decide +kernel⟩
  refine ⟨hyields, ?_, ?_⟩
  · obtain ⟨r, t, hrun⟩ := Action.exists_outcome
      (resultLines Connection.backend lines options false) s
    have htold : (match resultLines Connection.backend lines options false s with
        | .ok _ t => (true, t.transcript)
        | .error _ t => (false, t.transcript)) = (false, [.soughtTable "t".toList,
          .executed "CREATE TABLE \"t\" (\"a\" BIGINT)".toList true,
          .queried "INSERT INTO \"t\" (\"a\") VALUES (?1)".toList ["1".toList] true,
          .queried "INSERT INTO \"t\" () VALUES ()".toList [] false]) := by
      decide +kernel
    rw [hrun] at htold ⊢
    cases r with
    | ok n => cases htold
    | error e => exact ⟨e, t, rfl, (Prod.mk.inj htold).2⟩
  · rintro ⟨names, hnames, hne, -⟩
    have hinsert : "INSERT INTO \"t\" () VALUES ()".toList =
        Statement.insert Connection.dialect "t".toList [] := by
      decide
    rw [hinsert, Statement.insertedNames?_insert rfl] at hnames
    cases hnames
    exact hne rfl

end Importer

end QueryWeave
