import QueryWeave.Reformat.Clause

/-!
# Reading REFORMAT clauses

A clause is a row of keys. A key may take a value, which follows it after an optional equals sign
and is either a word without blanks or text in balanced parentheses. The keys that select rows or
columns take number ranges and then, as their value, settings in parentheses.
-/

namespace QueryWeave

open Text

namespace Clause

/-! ## Lexical level -/

/-- A character of a key. -/
def isKeyChar (c : Char) : Bool := isLetter c || isDigit c

/-- The key after blanks, and what follows it; nothing at the end of the clause. -/
def nextKey (clause s : Text) : Except ClauseError (Option (Text × Text)) :=
  match dropBlanks s with
  | [] => .ok none
  | c :: r =>
    if isKeyChar c then .ok (some (c :: r.takeWhile isKeyChar, r.dropWhile isKeyChar))
    else .error (.unexpected c clause)

/-- Whether a character belongs to the numbers of a selector. -/
def isArgumentChar (c : Char) : Bool := c != '=' && c != '('

/-- The text after blanks up to an equals sign or a parenthesis, and what follows it. -/
def argument (s : Text) : Text × Text :=
  ((dropBlanks s).takeWhile isArgumentChar, (dropBlanks s).dropWhile isArgumentChar)

/-- The text up to the parenthesis that closes one before it, and what follows that parenthesis,
where `depth` more parentheses are open. -/
def balanced? : (depth : Nat) → Text → Option (Text × Text)
  | _, [] => none
  | depth, c :: s =>
    if c = '(' then (balanced? (depth + 1) s).map fun (a, r) => (c :: a, r)
    else if c = ')' then
      match depth with
      | 0 => some ([], s)
      | depth + 1 => (balanced? depth s).map fun (a, r) => (c :: a, r)
    else (balanced? depth s).map fun (a, r) => (c :: a, r)

/-- A value that starts here, and what follows it. -/
def plainValue (s : Text) : Except ClauseError (Text × Text) :=
  match s with
  | '(' :: r =>
    match balanced? 0 r with
    | some v => .ok v
    | none => .error .unbalanced
  | s => .ok (s.takeWhile (!isBlank ·), s.dropWhile (!isBlank ·))

/-- The value of a key, and what follows it. -/
def value (s : Text) : Except ClauseError (Text × Text) :=
  match dropBlanks s with
  | '=' :: r => plainValue (dropBlanks r)
  | r => plainValue r

/-- The value of a key whose value must follow an equals sign. -/
def assigned (s : Text) : Except ClauseError (Option Text × Text) :=
  match dropBlanks s with
  | '=' :: r => (plainValue (dropBlanks r)).map fun (v, rest) => (some v, rest)
  | _ => .ok (none, s)

/-! ## What is read is used up -/

theorem length_dropWhile_le {α : Type} (p : α → Bool) (s : List α) :
    (s.dropWhile p).length ≤ s.length :=
  (List.dropWhile_suffix p).length_le

theorem length_lt_of_nextKey {clause s key rest : Text}
    (h : nextKey clause s = .ok (some (key, rest))) : rest.length < s.length := by
  have hs := length_dropWhile_le isBlank s
  unfold nextKey dropBlanks at h
  split at h
  · simp at h
  · next c r hr =>
    split at h
    · have hr' := length_dropWhile_le isKeyChar r
      simp only [Except.ok.injEq, Option.some.injEq, Prod.mk.injEq] at h
      rw [hr, List.length_cons] at hs
      rw [← h.2]
      omega
    · simp at h

theorem length_argument_le (s : Text) : (argument s).2.length ≤ s.length :=
  Nat.le_trans (length_dropWhile_le _ _) (length_dropWhile_le _ _)

theorem length_balanced_le {depth : Nat} {s a r : Text} (h : balanced? depth s = some (a, r)) :
    r.length ≤ s.length := by
  induction s generalizing depth a with
  | nil => simp [balanced?] at h
  | cons c s ih =>
    have step : ∀ {d : Nat}, ((balanced? d s).map fun (a, r) => (c :: a, r)) = some (a, r) →
        r.length ≤ (c :: s).length := by
      intro d h
      obtain ⟨⟨a', r'⟩, h', e⟩ := Option.map_eq_some_iff.1 h
      simp only [Prod.mk.injEq] at e
      have := ih (e.2 ▸ h')
      simp only [List.length_cons]
      omega
    unfold balanced? at h
    split at h
    · exact step h
    · split at h
      · cases depth with
        | zero =>
          simp only [Option.some.injEq, Prod.mk.injEq] at h
          simp [← h.2]
        | succ d => exact step h
      · exact step h

theorem length_plainValue_le {s v r : Text} (h : plainValue s = .ok (v, r)) :
    r.length ≤ s.length := by
  unfold plainValue at h
  split at h
  · split at h
    · next hv =>
      simp only [Except.ok.injEq] at h
      have := length_balanced_le (h ▸ hv)
      simp only [List.length_cons]
      omega
    · simp at h
  · simp only [Except.ok.injEq, Prod.mk.injEq] at h
    rw [← h.2]
    exact length_dropWhile_le _ _

theorem length_value_le {s v r : Text} (h : value s = .ok (v, r)) : r.length ≤ s.length := by
  have hs := length_dropWhile_le isBlank s
  unfold value dropBlanks at h
  split at h
  · next r' hr =>
    have h₁ := length_plainValue_le h
    have h₂ := length_dropWhile_le isBlank r'
    rw [hr, List.length_cons] at hs
    omega
  · exact Nat.le_trans (length_plainValue_le h) hs

theorem length_assigned_le {s r : Text} {v : Option Text} (h : assigned s = .ok (v, r)) :
    r.length ≤ s.length := by
  have hs := length_dropWhile_le isBlank s
  unfold assigned dropBlanks at h
  split at h
  · next r' hr =>
    cases hp : plainValue (List.dropWhile isBlank r') with
    | error e => simp [hp, Except.map] at h
    | ok p =>
      simp only [hp, Except.map, Except.ok.injEq, Prod.mk.injEq] at h
      have h₁ := length_plainValue_le (s := List.dropWhile isBlank r') (v := p.1) (r := p.2) hp
      have h₂ := length_dropWhile_le isBlank r'
      rw [hr, List.length_cons] at hs
      rw [← h.2]
      omega
  · simp only [Except.ok.injEq, Prod.mk.injEq] at h
    simp [← h.2]

/-! ## Settings -/

/-- A number that must be valid. -/
def checked {α : Type} (key v : Text) (read : Text → Option α) : Except ClauseError α :=
  match read v with
  | some a => .ok a
  | none => .error (.badValue key v)

/-- A style by one of its names. -/
def style (key v : Text) : Except ClauseError Highlight :=
  if v = [] ∨ v = "none".toList then .ok .none
  else if v = "bold".toList ∨ v = "bf".toList then .ok .bold
  else if v = "emph".toList ∨ v = "em".toList then .ok .emph
  else .error (.badStyle key v)

/-- A setting whose key takes no value. -/
def flag? (key : Text) : Option Setting :=
  if key = "escape".toList then some .escape
  else if key = "floor".toList then some (.rounding .floor)
  else if key = "ceil".toList then some (.rounding .ceil)
  else none

/-- How the value of a key is understood, for keys that need one. -/
def valued? (key : Text) : Option (Text → Except ClauseError Setting) :=
  if key = "round".toList then some fun v =>
    if v = "floor".toList then .ok (.rounding .floor)
    else if v = "ceil".toList then .ok (.rounding .ceil)
    else (checked key v (int? (Nat.pow 2 31))).map fun n => .rounding (.places n)
  else if key = "precision".toList then some fun v =>
    (checked key v (nat? limit64)).map .precision
  else if key = "width".toList then some fun v => (checked key v (nat? limit64)).map .width
  else if key = "digits".toList then some fun v =>
    match checked key v (nat? (Nat.pow 2 32)) with
    | .ok n => if 2 ≤ n ∧ n ≤ 4 then .ok (.digits n) else .error (.badDigits n)
    | .error e => .error e
  else if key = "min".toList ∨ key = "minimum".toList then some fun v => (style key v).map .least
  else if key = "max".toList ∨ key = "maximum".toList then some fun v =>
    (style key v).map .greatest
  else none

/-- The setting that a key begins, and what follows it; nothing if no setting has this key. -/
def setting (key rest : Text) : Except ClauseError (Option (Setting × Text)) :=
  match flag? key with
  | some s => .ok (some (s, rest))
  | none =>
    match valued? key with
    | some understand =>
      match value rest with
      | .ok (v, rest) => (understand v).map fun s => some (s, rest)
      | .error e => .error e
    | none =>
      if key = "group".toList ∨ key = "grouping".toList then
        match assigned rest with
        | .ok (separator, rest) => .ok (some (.group separator, rest))
        | .error e => .error e
      else .ok none

theorem length_setting_le {key rest r : Text} {s : Setting}
    (h : setting key rest = .ok (some (s, r))) : r.length ≤ rest.length := by
  unfold setting at h
  split at h
  · simp only [Except.ok.injEq, Option.some.injEq, Prod.mk.injEq] at h
    simp [← h.2]
  · split at h
    · next understand _ =>
      split at h
      · next v rest' hv =>
        cases hu : understand v with
        | error e => simp [hu, Except.map] at h
        | ok s' =>
          simp only [hu, Except.map, Except.ok.injEq, Option.some.injEq, Prod.mk.injEq] at h
          rw [← h.2]
          exact length_value_le hv
      · simp at h
    · split at h
      · split at h
        · next hv =>
          simp only [Except.ok.injEq, Option.some.injEq, Prod.mk.injEq] at h
          rw [← h.2]
          exact length_assigned_le hv
        · simp at h
      · simp at h

/-- The settings of chosen rows or columns, from the rest `s` of their text `whole`. -/
def settings (whole s : Text) : Except ClauseError (List Setting) :=
  match hk : nextKey whole s with
  | .error e => .error e
  | .ok none => .ok []
  | .ok (some (key, rest)) =>
    match hs : setting key rest with
    | .error e => .error e
    | .ok none => .error (.unknownLineKey key)
    | .ok (some (x, rest')) =>
      have := Nat.lt_of_le_of_lt (length_setting_le hs) (length_lt_of_nextKey hk)
      (settings whole rest').map (x :: ·)
termination_by s.length

/-! ## Items -/

/-- The axis that a key selects. -/
def axis? (key : Text) : Option Axis :=
  if key = "row".toList ∨ key = "rows".toList then some .row
  else if key ∈ ["col", "cols", "column", "columns"].map String.toList then some .column
  else none

/-- The item that a key begins, and what follows it. -/
def item (key rest : Text) : Except ClauseError (ClauseItem × Text) :=
  match axis? key with
  | some axis =>
    -- the numbers end where the value begins, and are read before it
    match Ranges.read (argument rest).1 with
    | .error e => .error e
    | .ok ranges =>
      match value (argument rest).2 with
      | .error e => .error e
      | .ok (v, rest') => (settings v v).map fun xs => (.lines axis ranges xs, rest')
  | none =>
    match setting key rest with
    | .error e => .error e
    | .ok none => .error (.unknownKey key)
    | .ok (some (x, rest')) => .ok (.overall x, rest')

theorem length_item_le {key rest r : Text} {x : ClauseItem}
    (h : item key rest = .ok (x, r)) : r.length ≤ rest.length := by
  unfold item at h
  split at h
  · split at h
    · simp at h
    · split at h
      · simp at h
      · next v rest' hv =>
        cases hs : settings v v with
        | error e => simp [hs, Except.map] at h
        | ok xs =>
          simp only [hs, Except.map, Except.ok.injEq, Prod.mk.injEq] at h
          rw [← h.2]
          exact Nat.le_trans (length_value_le hv) (length_argument_le rest)
  · split at h
    · simp at h
    · simp at h
    · next hs =>
      simp only [Except.ok.injEq, Prod.mk.injEq] at h
      rw [← h.2]
      exact length_setting_le hs

/-- The items of a clause, from the rest `s` of its text `whole`. -/
def items (whole s : Text) : Except ClauseError Clause :=
  match hk : nextKey whole s with
  | .error e => .error e
  | .ok none => .ok []
  | .ok (some (key, rest)) =>
    match hi : item key rest with
    | .error e => .error e
    | .ok (x, rest') =>
      have := Nat.lt_of_le_of_lt (length_item_le hi) (length_lt_of_nextKey hk)
      (items whole rest').map (x :: ·)
termination_by s.length

/-- Reads the text inside the parentheses of a clause. -/
def read (s : Text) : Except ClauseError Clause := items s s

/-- Takes a clause off the beginning of a query: the clause and the rest of the query, trimmed. A
query without a clause has the empty one. -/
def ofQuery (query : Text) : Except ClauseError (Clause × Text) :=
  let query := trim query
  match after? "REFORMAT" query with
  | none => .ok ([], query)
  | some rest =>
    match trimStart rest with
    | '(' :: rest =>
      match balanced? 0 rest with
      | none => .error .unbalanced
      | some (clause, remainder) => (read (trim clause)).map fun c => (c, trim remainder)
    | _ => .error .noParentheses

end Clause

end QueryWeave
