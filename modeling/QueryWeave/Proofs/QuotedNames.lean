import QueryWeave.Proofs.InsertedColumns
import QueryWeave.Proofs.WrittenNumbers

/-!
# Names in the statements of an import

The names of a table and of its columns can be any texts, with quotes, commas and parentheses in
them, and yet they cannot change the statements that they stand in. A statement is read here in two
steps. The first one knows nothing but the rule of quoted names: it cuts a text at them
(`Statement.cutNames?`). The second one looks at the texts between the names, which say what the
statement does and hold the types and the placeholders (`Statement.read?`).

Main statement: `Statement.read_back_any_names`.
-/

namespace QueryWeave

open Text

namespace Statement

open Connection (dialect)

/-! ## Cutting a text at its names -/

/-- The text before the first name between quotes, and every such name with the text behind it up to
the next one. A quote that is not closed cannot be read. -/
def cutNames? : Text → Option (Text × List (Text × Text))
  | [] => some ([], [])
  | c :: s =>
    if c = '"' then
      match _h : unquote? '"' s with
      | some (a, r) => (cutNames? r).map fun (behind, more) => ([], (a, behind) :: more)
      | none => none
    else (cutNames? s).map fun (lead, more) => (c :: lead, more)
termination_by s => s.length
decreasing_by
  · have hlt := length_of_unquote? _h
    rw [List.length_cons]
    omega
  · simp

/-- The text that stands outside of quotes. -/
def outside? (s : Text) : Option Text :=
  (cutNames? s).map fun (lead, parts) => lead ++ parts.flatMap Prod.snd

theorem outside?_of_cut {s lead : Text} {parts : List (Text × Text)}
    (h : cutNames? s = some (lead, parts)) :
    outside? s = some (lead ++ parts.flatMap Prod.snd) := by
  rw [outside?, h]
  rfl

/-- A text with names, each between quotes and with a text behind it. -/
def withNames (lead : Text) (parts : List (Text × Text)) : Text :=
  lead ++ parts.flatMap fun p => name p.1 ++ p.2

theorem cutNames?_append {w : Text} (hw : '"' ∉ w) (s : Text) :
    cutNames? (w ++ s) = (cutNames? s).map fun (lead, more) => (w ++ lead, more) := by
  induction w with
  | nil => simp
  | cons c w ih =>
    have hc : c ≠ '"' := fun heq => hw (heq ▸ List.mem_cons_self ..)
    rw [List.cons_append, cutNames?, if_neg hc, ih fun hmem => hw (List.mem_cons_of_mem _ hmem),
      Option.map_map]
    rfl

/-- A name ends at its closing quote if no other quote follows that. -/
theorem cutNames?_name (a : Text) {s : Text} (hs : ∀ c ∈ s.head?, c ≠ '"') :
    cutNames? (name a ++ s) =
      (cutNames? s).map fun (behind, more) => ([], (a, behind) :: more) := by
  have hwhole : name a ++ s = '"' :: (doubled '"' a ++ '"' :: s) := by simp [name, quoted]
  have hread := unquote?_doubled a hs
  rw [hwhole, cutNames?, if_pos rfl]
  split
  · next b r h =>
    cases hread.symm.trans h
    rfl
  · next h => cases hread.symm.trans h

/-- Names are cut out again if something stands between each of them and the next one. -/
theorem cutNames?_withNames {lead : Text} {parts : List (Text × Text)} (hlead : '"' ∉ lead)
    (hbehind : ∀ p ∈ parts, '"' ∉ p.2) (hbetween : ∀ p ∈ parts.dropLast, p.2 ≠ []) :
    cutNames? (withNames lead parts) = some (lead, parts) := by
  induction parts generalizing lead with
  | nil =>
    rw [withNames, cutNames?_append hlead]
    simp [cutNames?]
  | cons p parts ih =>
    have hp : '"' ∉ p.2 := hbehind p (List.mem_cons_self ..)
    have hwhole : withNames lead (p :: parts) = lead ++ (name p.1 ++ withNames p.2 parts) := by
      simp [withNames]
    -- behind the name comes the text that belongs to it, or nothing at all
    have hhead : ∀ c ∈ (withNames p.2 parts).head?, c ≠ '"' := by
      intro c hc
      rw [withNames, List.head?_append] at hc
      cases hcase : p.2 with
      | cons d t =>
        rw [hcase] at hc hp
        cases hc
        exact fun heq => hp (heq ▸ List.mem_cons_self ..)
      | nil =>
        cases parts with
        | nil =>
          rw [hcase] at hc
          cases hc
        | cons q parts => exact absurd hcase (hbetween p (by simp))
    have hrest := ih hp (fun q hq => hbehind q (List.mem_cons_of_mem _ hq)) (by
      intro q hq
      cases parts with
      | nil => cases hq
      | cons r parts => exact hbetween q (List.mem_cons_of_mem _ hq))
    rw [hwhole, cutNames?_append hlead, cutNames?_name _ hhead, hrest]
    simp

/-! ## Lists of names -/

/-- Parts with a separator behind each but the last one, which has a closing text behind it. -/
def closed (separator closing : Text) : List (Text × Text) → List (Text × Text)
  | [] => []
  | [p] => [(p.1, p.2 ++ closing)]
  | p :: q :: parts => (p.1, p.2 ++ separator) :: closed separator closing (q :: parts)

section Closed

variable (separator closing : Text)

/-- Joined parts and the closing text behind them, however a name is written. -/
theorem join_append_closing (f : Text → Text) {parts : List (Text × Text)} (hne : parts ≠ []) :
    join separator (parts.map fun p => f p.1 ++ p.2) ++ closing =
      (closed separator closing parts).flatMap fun p => f p.1 ++ p.2 := by
  fun_induction closed separator closing parts with
  | case1 => exact absurd rfl hne
  | case2 p => simp [join]
  | case3 p q parts ih =>
    have hrest := ih (List.cons_ne_nil _ _)
    simp only [List.map_cons] at hrest
    simp only [List.map_cons, join, List.flatMap_cons, List.append_assoc, hrest]

/-- Parts without their names. -/
theorem flatMap_snd_closed {parts : List (Text × Text)} (hne : parts ≠ []) :
    (closed separator closing parts).flatMap Prod.snd =
      join separator (parts.map Prod.snd) ++ closing :=
  (join_append_closing separator closing (fun _ => []) hne).symm

theorem closed_ne_nil {parts : List (Text × Text)} (hne : parts ≠ []) :
    closed separator closing parts ≠ [] := by
  fun_cases closed separator closing parts with
  | case1 => exact absurd rfl hne
  | case2 p => exact List.cons_ne_nil _ _
  | case3 p q parts => exact List.cons_ne_nil _ _

variable {separator closing}

/-- Behind every name stands what belongs to it, and then the separator or the closing text. -/
theorem exists_of_mem_closed {parts : List (Text × Text)} {p : Text × Text}
    (h : p ∈ closed separator closing parts) :
    ∃ q ∈ parts, p.1 = q.1 ∧ (p.2 = q.2 ++ separator ∨ p.2 = q.2 ++ closing) := by
  fun_induction closed separator closing parts with
  | case1 => cases h
  | case2 q =>
    rw [List.mem_singleton.1 h]
    exact ⟨q, List.mem_singleton_self q, rfl, .inr rfl⟩
  | case3 q r parts ih =>
    rcases List.mem_cons.1 h with rfl | h
    · exact ⟨q, List.mem_cons_self .., rfl, .inl rfl⟩
    · obtain ⟨q', hq', hp⟩ := ih h
      exact ⟨q', List.mem_cons_of_mem _ hq', hp⟩

end Closed

/-! ## Reading a statement -/

/-- What a statement of an import says. -/
inductive TableStatement
  | drop (table : Text)
  | create (temporary : Bool) (table : Text) (columns : List (Text × ColumnType))
  /-- Placeholders are told by their numbers. -/
  | insert (table : Text) (columns : List Text) (placeholders : List Nat)
  deriving DecidableEq, Repr

/-- The type that stands behind the name of a column, between a blank and a given text. -/
def type? (closing behind : Text) : Option ColumnType :=
  [.integer, .decimal, .text].find? fun t => ' ' :: t.name ++ closing == behind

/-- The columns of a new table, from their names and the texts behind them. -/
def columns? : List (Text × Text) → Option (List (Text × ColumnType))
  | [] => none
  | [(a, behind)] => (type? [')'] behind).map fun t => [(a, t)]
  | (a, behind) :: parts => do
    let t ← type? [',', ' '] behind
    return (a, t) :: (← columns? parts)

/-- The columns of a new row, and the text behind the last one. -/
def names? : List (Text × Text) → Option (List Text × Text)
  | [] => none
  | [(a, behind)] => some ([a], behind)
  | (a, behind) :: parts =>
    if behind = [','] then (names? parts).map fun (columns, last) => (a :: columns, last) else none

/-- The number of a placeholder. -/
def placeholder? : Text → Option Nat
  | '?' :: s => digits? s
  | _ => none

/-- The placeholders in the text behind the name of the last column. -/
def placeholders? (behind : Text) : Option (List Nat) := do
  let (inside, rest) ← cut? ')' (← after? ") VALUES (" behind)
  if rest = [] then (inside.splitOn ',').mapM placeholder? else none

/-- Reads a statement of an import: the text before the name of its table says which one it is. -/
def read? (sql : Text) : Option TableStatement :=
  match cutNames? sql with
  | some (lead, [(table, [])]) =>
    if lead = "DROP TABLE ".toList then some (.drop table) else none
  | some (lead, (table, [' ', '(']) :: parts) =>
    if lead = "CREATE TABLE ".toList then (columns? parts).map (.create false table)
    else if lead = "CREATE TEMPORARY TABLE ".toList then
      (columns? parts).map (.create true table)
    else if lead = "INSERT INTO ".toList then do
      let (columns, behind) ← names? parts
      return .insert table columns (← placeholders? behind)
    else none
  | _ => none

/-! ## The statements of an import -/

theorem quote_notMem_name (t : ColumnType) : '"' ∉ t.name := by
  cases t <;> decide

theorem notMem_placeholder {c : Char} (hc : isDigit c = false) (hmark : c ≠ '?') (i : Nat) :
    c ∉ placeholder i := by
  intro hmem
  rcases List.mem_cons.1 hmem with heq | hmem
  · exact hmark heq
  · exact not_mem_ofNat hc hmem

/-- The placeholders of a row, and the parentheses around them. -/
def marks (n : Nat) : Text :=
  ") VALUES (".toList ++ (join [','] ((List.range n).map placeholder) ++ [')'])

theorem notMem_join_placeholders {c : Char} (hc : isDigit c = false) (hmark : c ≠ '?')
    (hcomma : c ≠ ',') (n : Nat) : c ∉ join [','] ((List.range n).map placeholder) := by
  intro hmem
  rcases mem_join hmem with hmem | ⟨x, hx, hmem⟩
  · exact hcomma (List.mem_singleton.1 hmem)
  · obtain ⟨i, -, rfl⟩ := List.mem_map.1 hx
    exact notMem_placeholder hc hmark i hmem

theorem quote_notMem_marks (n : Nat) : '"' ∉ marks n := by
  have hjoin := notMem_join_placeholders (c := '"') (by decide) (by decide) (by decide) n
  unfold marks
  simp [hjoin]

theorem marks_ne_nil (n : Nat) : marks n ≠ [] :=
  List.append_ne_nil_of_left_ne_nil (by decide) _

/-- What stands before the name of a new table. -/
def creation (temporary : Bool) : Text :=
  "CREATE ".toList ++ (if temporary then "TEMPORARY ".toList else []) ++ "TABLE ".toList

section Texts

variable (table : Text)

theorem create_eq (temporary : Bool) {columns : List (Text × ColumnType)} (hne : columns ≠ []) :
    create dialect temporary table columns = withNames (creation temporary)
      ((table, [' ', '(']) ::
        closed [',', ' '] [')'] (columns.map fun c => (c.1, ' ' :: c.2.name))) := by
  have hparts : (columns.map fun c => (c.1, ' ' :: c.2.name)) ≠ [] := by simpa using hne
  have hclosed := join_append_closing [',', ' '] [')'] name hparts
  rw [List.map_map] at hclosed
  have hcolumns : columns.map (column dialect) = columns.map
      ((fun p : Text × Text => name p.1 ++ p.2) ∘ fun c => (c.1, ' ' :: c.2.name)) := rfl
  unfold create creation
  rw [withNames, List.flatMap_cons, ← hclosed, hcolumns]
  simp only [List.append_assoc]
  rfl

theorem insert_eq {row : ResultRow} (hne : row ≠ []) :
    insert dialect table row = withNames "INSERT INTO ".toList
      ((table, [' ', '(']) :: closed [','] (marks row.length) (row.map fun a => (a.1, []))) := by
  have hparts : (row.map fun a => (a.1, ([] : Text))) ≠ [] := by simpa using hne
  have hclosed := join_append_closing [','] (marks row.length) name hparts
  rw [List.map_map] at hclosed
  have hnames : row.map ((fun p : Text × Text => name p.1 ++ p.2) ∘ fun a => (a.1, [])) =
      row.map fun a => name a.1 := by
    simp
  rw [withNames, List.flatMap_cons, ← hclosed, hnames]
  unfold insert marks
  simp only [List.append_assoc]
  rfl

theorem cutNames?_drop :
    cutNames? (drop dialect table) = some ("DROP TABLE ".toList, [(table, [])]) := by
  have hquote : dialect.quote table = name table := rfl
  have hdrop : drop dialect table = withNames "DROP TABLE ".toList [(table, [])] := by
    unfold drop
    simp [withNames, hquote]
  rw [hdrop]
  exact cutNames?_withNames (by decide) (by simp) (by simp)

theorem cutNames?_create (temporary : Bool) {columns : List (Text × ColumnType)}
    (hne : columns ≠ []) :
    cutNames? (create dialect temporary table columns) = some (creation temporary,
      (table, [' ', '(']) ::
        closed [',', ' '] [')'] (columns.map fun c => (c.1, ' ' :: c.2.name))) := by
  rw [create_eq table temporary hne]
  apply cutNames?_withNames
  · cases temporary <;> decide
  · intro p hp
    rcases List.mem_cons.1 hp with rfl | hp
    · exact (by decide : '"' ∉ [' ', '('])
    · obtain ⟨q, hq, -, hbehind⟩ := exists_of_mem_closed hp
      obtain ⟨c, -, rfl⟩ := List.mem_map.1 hq
      rcases hbehind with hbehind | hbehind <;> simp [hbehind, quote_notMem_name]
  · intro p hp
    rcases List.mem_cons.1 (List.dropLast_subset _ hp) with rfl | hp
    · exact List.cons_ne_nil _ _
    · obtain ⟨q, -, -, hbehind⟩ := exists_of_mem_closed hp
      rcases hbehind with hbehind | hbehind <;> simp [hbehind]

theorem cutNames?_insert {row : ResultRow} (hne : row ≠ []) :
    cutNames? (insert dialect table row) = some ("INSERT INTO ".toList,
      (table, [' ', '(']) :: closed [','] (marks row.length) (row.map fun a => (a.1, []))) := by
  rw [insert_eq table hne]
  apply cutNames?_withNames
  · decide
  · intro p hp
    rcases List.mem_cons.1 hp with rfl | hp
    · exact (by decide : '"' ∉ [' ', '('])
    · obtain ⟨q, hq, -, hbehind⟩ := exists_of_mem_closed hp
      obtain ⟨a, -, rfl⟩ := List.mem_map.1 hq
      rcases hbehind with hbehind | hbehind <;> simp [hbehind, quote_notMem_marks]
  · intro p hp
    rcases List.mem_cons.1 (List.dropLast_subset _ hp) with rfl | hp
    · exact List.cons_ne_nil _ _
    · obtain ⟨q, -, -, hbehind⟩ := exists_of_mem_closed hp
      rcases hbehind with hbehind | hbehind <;> simp [hbehind, marks_ne_nil]

end Texts

/-! ## Columns and placeholders -/

/-- A statement with a list in parentheses behind the name of its table. -/
theorem read?_of_cut {sql lead table : Text} {parts : List (Text × Text)}
    (h : cutNames? sql = some (lead, (table, [' ', '(']) :: parts)) :
    read? sql =
      if lead = "CREATE TABLE ".toList then (columns? parts).map (.create false table)
      else if lead = "CREATE TEMPORARY TABLE ".toList then
        (columns? parts).map (.create true table)
      else if lead = "INSERT INTO ".toList then do
        let (columns, behind) ← names? parts
        return .insert table columns (← placeholders? behind)
      else none := by
  unfold read?
  rw [h]
  cases parts <;> rfl

/-- A column is read from its type with the right text behind it. -/
theorem columns?_closed {columns : List (Text × ColumnType)} (hne : columns ≠ []) :
    columns? (closed [',', ' '] [')'] (columns.map fun c => (c.1, ' ' :: c.2.name))) =
      some columns := by
  induction columns with
  | nil => exact absurd rfl hne
  | cons c columns ih =>
    obtain ⟨a, t⟩ := c
    cases columns with
    | nil =>
      have ht : type? [')'] (' ' :: t.name ++ [')']) = some t := by cases t <;> rfl
      exact congrArg (Option.map fun t => [(a, t)]) ht
    | cons d columns =>
      have ht : type? [',', ' '] (' ' :: t.name ++ [',', ' ']) = some t := by cases t <;> rfl
      have hrest := ih (List.cons_ne_nil _ _)
      simp only [List.map_cons] at hrest
      simp only [List.map_cons, closed]
      rw [columns?, ht, hrest]
      · rfl
      · exact closed_ne_nil _ _ (List.cons_ne_nil _ _)

theorem names?_closed (last : Text) {names : List Text} (hne : names ≠ []) :
    names? (closed [','] last (names.map fun a => (a, []))) = some (names, last) := by
  induction names with
  | nil => exact absurd rfl hne
  | cons a names ih =>
    cases names with
    | nil => rfl
    | cons b names =>
      have hrest := ih (List.cons_ne_nil _ _)
      simp only [List.map_cons] at hrest
      simp only [List.map_cons, closed]
      rw [names?, hrest]
      · rfl
      · exact closed_ne_nil _ _ (List.cons_ne_nil _ _)

theorem placeholder?_placeholder (i : Nat) : placeholder? (placeholder i) = some (i + 1) :=
  digits?_ofNat (i + 1)

theorem placeholders?_marks {n : Nat} (hn : n ≠ 0) :
    placeholders? (marks n) = some ((List.range n).map (· + 1)) := by
  have hcut : cut? ')' (join [','] ((List.range n).map placeholder) ++ [')']) =
      some (join [','] ((List.range n).map placeholder), []) :=
    cut?_eq_some_iff.2
      ⟨rfl, notMem_join_placeholders (by decide) (by decide) (by decide) n⟩
  have hsplit : (join [','] ((List.range n).map placeholder)).splitOn ',' =
      (List.range n).map placeholder := by
    refine splitOn_join (by simpa using hn) ?_
    intro x hx
    obtain ⟨i, -, rfl⟩ := List.mem_map.1 hx
    exact notMem_placeholder (by decide) (by decide) i
  have hall : ∀ is : List Nat,
      (is.map placeholder).mapM placeholder? = some (is.map (· + 1)) := by
    intro is
    induction is with
    | nil => rfl
    | cons i is ih => simp [placeholder?_placeholder, ih]
  unfold placeholders? marks
  simp only [after?_append, Option.bind_eq_bind, Option.bind_some, hcut, hsplit, hall, if_true]

/-! ## Main statement -/

/-- The names of a table and its columns stand between quotes and nowhere else: whatever they are, a
statement of an import says what it should about the table, the columns in their order, and their
types or placeholders, and the text outside of its quotes does not depend on the names. -/
theorem read_back_any_names (table : Text) :
    (read? (drop dialect table) = some (.drop table) ∧
      outside? (drop dialect table) = some "DROP TABLE ".toList) ∧
    (∀ (temporary : Bool) (columns : List (Text × ColumnType)), columns ≠ [] →
      read? (create dialect temporary table columns) = some (.create temporary table columns) ∧
      outside? (create dialect temporary table columns) = some (creation temporary ++ [' ', '('] ++
        join [',', ' '] (columns.map fun c => ' ' :: c.2.name) ++ [')'])) ∧
    ∀ row : ResultRow, row ≠ [] →
      read? (insert dialect table row) = some (.insert table (row.map Prod.fst)
        ((List.range row.length).map (· + 1))) ∧
      outside? (insert dialect table row) = some ("INSERT INTO ".toList ++ [' ', '('] ++
        join [','] (row.map fun _ => []) ++ marks row.length) := by
  refine ⟨⟨?_, ?_⟩, fun temporary columns hne => ⟨?_, ?_⟩, fun row hne => ⟨?_, ?_⟩⟩
  · unfold read?
    rw [cutNames?_drop]
    exact if_pos rfl
  · exact outside?_of_cut (cutNames?_drop table)
  · rw [read?_of_cut (cutNames?_create table temporary hne), columns?_closed hne]
    cases temporary <;> rfl
  · rw [outside?_of_cut (cutNames?_create table temporary hne), List.flatMap_cons,
      flatMap_snd_closed _ _ (by simpa using hne), List.map_map]
    simp only [List.append_assoc]
    rfl
  · -- behind the names of the columns nothing but commas stands, up to the placeholders
    have hkeys : row.map Prod.fst ≠ [] := by simpa using hne
    have hnames : names? (closed [','] (marks row.length) (row.map fun a => (a.1, []))) =
        some (row.map Prod.fst, marks row.length) := by
      simpa [Function.comp_def] using names?_closed (marks row.length) hkeys
    have hmarks := placeholders?_marks (n := row.length) (by simpa using hne)
    rw [read?_of_cut (cutNames?_insert table hne), if_neg (by decide), if_neg (by decide),
      if_pos rfl]
    simp only [hnames, hmarks, Option.bind_eq_bind, Option.bind_some]
    rfl
  · rw [outside?_of_cut (cutNames?_insert table hne), List.flatMap_cons,
      flatMap_snd_closed _ _ (by simpa using hne), List.map_map]
    simp only [List.append_assoc]
    rfl

/-- Names that look like the end of a name, the end of a list or another column. -/
theorem read_back_hard_names :
    let table : Text := "\"; (\""
    let columns : List (Text × ColumnType) :=
      [([], .integer), (['"'], .text), (", \"x\" BIGINT)".toList, .decimal)]
    let row : ResultRow := columns.map fun c => (c.1, ['1'])
    columns ≠ [] ∧ row ≠ [] ∧
      read? (create dialect true table columns) = some (.create true table columns) ∧
      read? (insert dialect table row) =
        some (.insert table [[], ['"'], ", \"x\" BIGINT)".toList] [1, 2, 3]) :=
  ⟨List.cons_ne_nil _ _, List.cons_ne_nil _ _,
    ((read_back_any_names _).2.1 true _ (List.cons_ne_nil _ _)).1,
    ((read_back_any_names _).2.2 _ (List.cons_ne_nil _ _)).1⟩

end Statement

end QueryWeave
