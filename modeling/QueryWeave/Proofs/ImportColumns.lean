import Mathlib.Data.List.Induction
import QueryWeave.Proofs.ImportStatements

/-!
# Columns of an import

The table of an import has a column for every key of the lines that are kept, and its type is the
narrowest one that fits all values of the key. What fits is told by a grammar of numbers, which the
scanner is shown to follow on every text. The type of a column depends on nothing but the set of the
values of its key, so the order of the lines does not matter, and more lines can only widen it.

Main statement: `Importer.resultLines_columns`.
-/

namespace QueryWeave

open Text

namespace ColumnType

/-! ## Numbers -/

/-- An optional sign. -/
inductive IsSign : Text → Prop
  | none : IsSign []
  | plus : IsSign ['+']
  | minus : IsSign ['-']

/-- Nothing but digits. -/
def IsDigits (s : Text) : Prop := ∀ c ∈ s, isDigit c = true

/-- One or more digits after an optional sign. -/
def IsWhole (s : Text) : Prop :=
  ∃ sign digits, IsSign sign ∧ IsDigits digits ∧ digits ≠ [] ∧ s = sign ++ digits

/-- An optional exponent: a letter and a whole number. -/
inductive IsExponent : Text → Prop
  | none : IsExponent []
  | some {e : Char} {n : Text} (he : e = 'e' ∨ e = 'E') (hn : IsWhole n) : IsExponent (e :: n)

/-- Digits around a decimal point, on at least one side of it, between an optional sign and an
optional exponent. -/
def IsDecimal (s : Text) : Prop :=
  ∃ sign whole fraction exponent, IsSign sign ∧ IsDigits whole ∧ IsDigits fraction ∧
    (whole ≠ [] ∨ fraction ≠ []) ∧ IsExponent exponent ∧
    s = sign ++ (whole ++ '.' :: (fraction ++ exponent))

theorem exists_sign (s : Text) : ∃ sign, IsSign sign ∧ s = sign ++ unsigned s := by
  unfold unsigned
  split
  · exact ⟨['+'], .plus, rfl⟩
  · exact ⟨['-'], .minus, rfl⟩
  · exact ⟨[], .none, rfl⟩

/-- A sign is taken off, and nothing else. -/
theorem unsigned_append {sign s : Text} (hsign : IsSign sign)
    (hs : ∀ c ∈ s.head?, c ≠ '+' ∧ c ≠ '-') : unsigned (sign ++ s) = s := by
  cases hsign with
  | plus => rfl
  | minus => rfl
  | none =>
    cases s with
    | nil => rfl
    | cons c s =>
      obtain ⟨hplus, hminus⟩ := hs c rfl
      show unsigned (c :: s) = c :: s
      unfold unsigned
      split
      · next heq => exact absurd (List.cons.inj heq).1 hplus
      · next heq => exact absurd (List.cons.inj heq).1 hminus
      · rfl

theorem not_sign_of_isDigit {c : Char} (h : isDigit c = true) : c ≠ '+' ∧ c ≠ '-' := by
  constructor <;> (rintro rfl; cases h)

theorem IsDigits.unsigned_append {sign s : Text} (hsign : IsSign sign) (hs : IsDigits s) :
    unsigned (sign ++ s) = s :=
  ColumnType.unsigned_append hsign fun c hc => not_sign_of_isDigit (hs c (List.mem_of_mem_head? hc))

theorem isExponent_iff {s : Text} : isExponent s = true ↔ IsWhole s := by
  rw [isExponent, Bool.and_eq_true, Bool.not_eq_true', List.isEmpty_eq_false_iff, List.all_eq_true]
  constructor
  · rintro ⟨hne, hdigits⟩
    obtain ⟨sign, hsign, hs⟩ := exists_sign s
    exact ⟨sign, unsigned s, hsign, hdigits, hne, hs⟩
  · rintro ⟨sign, digits, hsign, hdigits, hne, rfl⟩
    rw [hdigits.unsigned_append hsign]
    exact ⟨hne, hdigits⟩

/-- Digits are read up to what follows them. -/
theorem IsDigits.split {s : Text} (hs : IsDigits s) (rest : Text)
    (hrest : ∀ c ∈ rest.head?, isDigit c = false) :
    (s ++ rest).takeWhile isDigit = s ∧ (s ++ rest).dropWhile isDigit = rest :=
  takeWhile_dropWhile_append rest hs hrest

theorem isDigits_takeWhile (s : Text) : IsDigits (s.takeWhile isDigit) :=
  fun c hc => List.all_eq_true.1 List.all_takeWhile c hc

theorem IsExponent.head?_eq {s : Text} (h : IsExponent s) : ∀ c ∈ s.head?, isDigit c = false := by
  cases h with
  | none => simp
  | some he hn =>
    intro c hc
    cases Option.mem_some.1 hc
    rcases he with rfl | rfl <;> decide

theorem afterWhole_eq_integer_iff {whole rest : Text} :
    afterWhole whole rest = integer ↔ rest = [] ∧ whole ≠ [] := by
  unfold afterWhole
  split
  · cases whole <;> simp
  · next rest =>
    split
    · simp
    · split
      · simp
      · split <;> simp
  · simp

/-- What may follow the digits of a decimal number up to its point. -/
theorem afterWhole_eq_decimal_iff {whole rest : Text} :
    afterWhole whole rest = decimal ↔ ∃ fraction exponent, IsDigits fraction ∧
      (whole ≠ [] ∨ fraction ≠ []) ∧ IsExponent exponent ∧
        rest = '.' :: (fraction ++ exponent) := by
  constructor
  · intro h
    unfold afterWhole at h
    split at h
    · split at h <;> cases h
    · next rest =>
      split at h
      · cases h
      · next hmantissa =>
        -- the digits on both sides of the point are not both missing
        have hne : whole ≠ [] ∨ rest.takeWhile isDigit ≠ [] := by
          rw [List.isEmpty_iff, List.append_eq_nil_iff] at hmantissa
          exact not_and_or.1 hmantissa
        refine ⟨rest.takeWhile isDigit, rest.dropWhile isDigit, isDigits_takeWhile rest, hne, ?_,
          by rw [List.takeWhile_append_dropWhile]⟩
        split at h
        · next hrest =>
          rw [hrest]
          exact .none
        · next c e hrest =>
          split at h
          · next hexponent =>
            rw [hrest]
            exact .some hexponent.1 (isExponent_iff.1 hexponent.2)
          · cases h
    · cases h
  · rintro ⟨fraction, exponent, hfraction, hne, hexponent, rfl⟩
    obtain ⟨htake, hdrop⟩ := hfraction.split exponent hexponent.head?_eq
    have hmantissa : ¬ (whole ++ fraction).isEmpty := by
      rw [List.isEmpty_iff, List.append_eq_nil_iff]
      exact not_and_or.2 hne
    simp only [afterWhole, htake, hdrop, if_neg hmantissa]
    cases hexponent with
    | none => rfl
    | some he hn => simp only [he, isExponent_iff.2 hn, and_self, if_true]

/-- A value is read as a whole number exactly if it is one, -/
theorem ofValue_eq_integer_iff {s : Text} : ofValue s = integer ↔ IsWhole s := by
  rw [ofValue, afterWhole_eq_integer_iff]
  constructor
  · rintro ⟨hrest, hne⟩
    obtain ⟨sign, hsign, hs⟩ := exists_sign s
    have hall : unsigned s = (unsigned s).takeWhile isDigit := by
      conv => lhs; rw [← List.takeWhile_append_dropWhile (p := isDigit) (l := unsigned s)]
      rw [hrest, List.append_nil]
    exact ⟨sign, (unsigned s).takeWhile isDigit, hsign, isDigits_takeWhile _, hne, hall ▸ hs⟩
  · rintro ⟨sign, digits, hsign, hdigits, hne, rfl⟩
    obtain ⟨htake, hdrop⟩ := hdigits.split [] (by simp)
    rw [List.append_nil] at htake hdrop
    rw [hdigits.unsigned_append hsign, htake, hdrop]
    exact ⟨rfl, hne⟩

/-- and as a decimal number exactly if it is one of these. -/
theorem ofValue_eq_decimal_iff {s : Text} : ofValue s = decimal ↔ IsDecimal s := by
  rw [ofValue, afterWhole_eq_decimal_iff]
  constructor
  · rintro ⟨fraction, exponent, hfraction, hne, hexponent, hrest⟩
    obtain ⟨sign, hsign, hs⟩ := exists_sign s
    refine ⟨sign, (unsigned s).takeWhile isDigit, fraction, exponent, hsign, isDigits_takeWhile _,
      hfraction, hne, hexponent, ?_⟩
    rw [← hrest, List.takeWhile_append_dropWhile]
    exact hs
  · rintro ⟨sign, whole, fraction, exponent, hsign, hwhole, hfraction, hne, hexponent, rfl⟩
    -- the number begins with a digit or with its point, and neither of them is a sign
    have hpoint : ∀ c ∈ (whole ++ '.' :: (fraction ++ exponent)).head?, c ≠ '+' ∧ c ≠ '-' := by
      cases whole with
      | nil => simp
      | cons d whole =>
        intro c hc
        cases Option.mem_some.1 hc
        exact not_sign_of_isDigit (hwhole d (List.mem_cons_self ..))
    obtain ⟨htake, hdrop⟩ := hwhole.split ('.' :: (fraction ++ exponent))
      fun c hc => Option.mem_some.1 hc ▸ by decide
    rw [unsigned_append hsign hpoint, htake, hdrop]
    exact ⟨fraction, exponent, hfraction, hne, hexponent, rfl⟩

/-! ## The narrowest type -/

/-- The type fits the values, and no narrower one does. -/
def Narrowest (values : List Text) : ColumnType → Prop
  | .integer => ∀ v ∈ values, IsWhole v
  | .decimal => (∀ v ∈ values, IsWhole v ∨ IsDecimal v) ∧ ∃ v ∈ values, ¬ IsWhole v
  | .text => ∃ v ∈ values, ¬ IsWhole v ∧ ¬ IsDecimal v

theorem rank_wider (t u : ColumnType) : (t.wider u).rank = max t.rank u.rank := by
  cases t <;> cases u <;> rfl

theorem wider_eq (t u : ColumnType) : t.wider u = t ∨ t.wider u = u := by
  cases t <;> cases u <;> simp [wider, rank]

theorem rank_injective {t u : ColumnType} (h : t.rank = u.rank) : t = u := by
  cases t <;> cases u <;> first | rfl | cases h

/-- The narrowest type is the widest one of a value. -/
theorem narrowest_iff {values : List Text} {t : ColumnType} :
    Narrowest values t ↔ (∀ v ∈ values, (ofValue v).rank ≤ t.rank) ∧
      (t = integer ∨ ∃ v ∈ values, ofValue v = t) := by
  have hwhole : ∀ v, IsWhole v ↔ (ofValue v).rank ≤ 0 := by
    intro v
    rw [← ofValue_eq_integer_iff]
    cases ofValue v <;> simp [rank]
  have hnumber : ∀ v, IsWhole v ∨ IsDecimal v ↔ (ofValue v).rank ≤ 1 := by
    intro v
    rw [← ofValue_eq_integer_iff, ← ofValue_eq_decimal_iff]
    cases ofValue v <;> simp [rank]
  have htext : ∀ v, ¬ IsWhole v ∧ ¬ IsDecimal v ↔ ofValue v = text := by
    intro v
    rw [← ofValue_eq_integer_iff, ← ofValue_eq_decimal_iff]
    cases ofValue v <;> simp
  cases t with
  | integer => simp [Narrowest, hwhole, rank]
  | decimal =>
    simp only [Narrowest, hnumber, rank, reduceCtorEq, false_or]
    refine and_congr_right fun hall => exists_congr fun v => and_congr_right fun hv => ?_
    have hle := hall v hv
    rw [hwhole]
    revert hle
    cases ofValue v <;> simp [rank]
  | text =>
    simp only [Narrowest, htext, rank, reduceCtorEq, false_or]
    refine (and_iff_right fun v _ => ?_).symm
    cases ofValue v <;> decide

/-- One more value makes the type wide enough for it. -/
theorem Narrowest.concat {values : List Text} {t : ColumnType} (h : Narrowest values t)
    (v : Text) : Narrowest (values ++ [v]) (t.wider (ofValue v)) := by
  rw [narrowest_iff] at h ⊢
  obtain ⟨hfits, hleast⟩ := h
  constructor
  · intro w hw
    rw [rank_wider]
    rcases List.mem_append.1 hw with hw | hw
    · exact Nat.le_trans (hfits w hw) (Nat.le_max_left ..)
    · rw [List.mem_singleton.1 hw]
      exact Nat.le_max_right ..
  · rcases wider_eq t (ofValue v) with heq | heq
    · rw [heq]
      exact hleast.imp_right fun ⟨w, hw, hwt⟩ => ⟨w, List.mem_append_left _ hw, hwt⟩
    · rw [heq]
      exact .inr ⟨v, List.mem_append_right _ (List.mem_singleton_self v), rfl⟩

theorem narrowest_singleton (v : Text) : Narrowest [v] (ofValue v) := by
  rw [narrowest_iff]
  refine ⟨fun w hw => ?_, .inr ⟨v, List.mem_singleton_self v, rfl⟩⟩
  exact Nat.le_of_eq (congrArg (fun u => (ofValue u).rank) (List.mem_singleton.1 hw))

/-- More values can only widen the type. -/
theorem Narrowest.rank_le {values more : List Text} {t u : ColumnType} (h : Narrowest values t)
    (h' : Narrowest more u) (hsub : values ⊆ more) : t.rank ≤ u.rank := by
  rw [narrowest_iff] at h h'
  rcases h.2 with rfl | ⟨v, hv, rfl⟩
  · exact Nat.zero_le _
  · exact h'.1 v (hsub hv)

theorem Narrowest.unique {values : List Text} {t u : ColumnType} (h : Narrowest values t)
    (h' : Narrowest values u) : t = u :=
  rank_injective (Nat.le_antisymm (h.rank_le h' (List.Subset.refl _))
    (h'.rank_le h (List.Subset.refl _)))

end ColumnType

/-! ## Columns -/

namespace ResultRow

/-- The values of a key, in order. -/
def valuesOf (key : Text) (assignments : List (Text × Text)) : List Text :=
  (assignments.filter (·.1 = key)).map Prod.snd

/-- The columns of assignments: one for each of their keys, in the order in which the keys appear
first, with the narrowest types. -/
structure IsColumnsOf (assignments : List (Text × Text)) (columns : List (Text × ColumnType)) :
    Prop where
  keys : columns.map Prod.fst = (assignments.map Prod.fst).eraseDups
  distinct : (columns.map Prod.fst).Nodup
  narrowest : ∀ key t, (key, t) ∈ columns →
    ColumnType.Narrowest (valuesOf key assignments) t

theorem map_fst_addColumn (columns : List (Text × ColumnType)) (a : Text × Text) :
    (addColumn columns a).map Prod.fst =
      if a.1 ∈ columns.map Prod.fst then columns.map Prod.fst
      else columns.map Prod.fst ++ [a.1] := by
  induction columns with
  | nil => simp [addColumn]
  | cons c columns ih =>
    obtain ⟨key, t⟩ := c
    rw [addColumn]
    by_cases hkey : key = a.1
    · simp [hkey]
    · simp only [hkey, if_false, List.map_cons, ih, List.mem_cons, Ne.symm hkey, false_or]
      split <;> rfl

/-- A column after one more assignment is another column, or a wider one, or a new one. -/
theorem mem_addColumn {columns : List (Text × ColumnType)} {a : Text × Text}
    (hdistinct : (columns.map Prod.fst).Nodup) {key : Text} {t : ColumnType}
    (h : (key, t) ∈ addColumn columns a) :
    (key ≠ a.1 ∧ (key, t) ∈ columns) ∨
      (key = a.1 ∧ ∃ u, (key, u) ∈ columns ∧ t = u.wider (.ofValue a.2)) ∨
      (key = a.1 ∧ key ∉ columns.map Prod.fst ∧ t = .ofValue a.2) := by
  induction columns with
  | nil =>
    cases List.mem_singleton.1 h
    exact .inr (.inr ⟨rfl, List.not_mem_nil, rfl⟩)
  | cons c columns ih =>
    obtain ⟨first, u⟩ := c
    obtain ⟨hfirst, hdistinct⟩ := List.nodup_cons.1 hdistinct
    have hother : (key, t) ∈ columns → key ≠ first := by
      intro hmem heq
      have hkey : key ∈ columns.map Prod.fst := List.mem_map_of_mem (f := Prod.fst) hmem
      exact hfirst (heq ▸ hkey)
    rw [addColumn] at h
    split at h
    · next heq =>
      -- the first column is the one of the key, and the others stay as they are
      rcases List.mem_cons.1 h with h | h
      · cases h
        exact .inr (.inl ⟨heq, u, List.mem_cons_self .., rfl⟩)
      · exact .inl ⟨heq ▸ hother h, List.mem_cons_of_mem _ h⟩
    · next hne =>
      rcases List.mem_cons.1 h with h | h
      · cases h
        exact .inl ⟨hne, List.mem_cons_self ..⟩
      · rcases ih hdistinct h with ⟨hkey, hmem⟩ | ⟨hkey, v, hmem, ht⟩ | ⟨hkey, hnew, ht⟩
        · exact .inl ⟨hkey, List.mem_cons_of_mem _ hmem⟩
        · exact .inr (.inl ⟨hkey, v, List.mem_cons_of_mem _ hmem, ht⟩)
        · refine .inr (.inr ⟨hkey, ?_, ht⟩)
          rw [List.map_cons, List.mem_cons, not_or]
          exact ⟨fun heq => hne (heq.symm.trans hkey), hnew⟩

theorem valuesOf_concat (key : Text) (assignments : List (Text × Text)) (a : Text × Text) :
    valuesOf key (assignments ++ [a]) =
      if a.1 = key then valuesOf key assignments ++ [a.2] else valuesOf key assignments := by
  rw [valuesOf, List.filter_append]
  split
  · next h => simp [valuesOf, h]
  · next h => simp [valuesOf, h]

/-- One more assignment keeps a list of columns right. -/
theorem IsColumnsOf.addColumn {assignments : List (Text × Text)}
    {columns : List (Text × ColumnType)} (h : IsColumnsOf assignments columns) (a : Text × Text) :
    IsColumnsOf (assignments ++ [a]) (addColumn columns a) where
  keys := by
    rw [map_fst_addColumn, List.map_append, List.eraseDups_append, h.keys]
    by_cases hmem : a.1 ∈ assignments.map Prod.fst
    · rw [if_pos (List.mem_eraseDups.2 hmem)]
      simp [List.removeAll, hmem]
    · rw [if_neg fun hmem' => hmem (List.mem_eraseDups.1 hmem')]
      simp [List.removeAll, hmem, List.eraseDups_cons]
  distinct := by
    rw [map_fst_addColumn]
    split
    · exact h.distinct
    · next hnew =>
      refine List.nodup_append.2 ⟨h.distinct, by simp, fun key hkey other hother => ?_⟩
      rw [List.mem_singleton.1 hother]
      exact fun heq => hnew (heq ▸ hkey)
  narrowest := by
    intro key t hmem
    rw [valuesOf_concat]
    rcases mem_addColumn h.distinct hmem with ⟨hkey, hold⟩ | ⟨rfl, u, hold, rfl⟩ | ⟨rfl, hnew, rfl⟩
    · rw [if_neg hkey.symm]
      exact h.narrowest key t hold
    · rw [if_pos rfl]
      exact (h.narrowest _ u hold).concat a.2
    · have hnone : valuesOf a.1 assignments = [] := by
        rw [h.keys, List.mem_eraseDups] at hnew
        rw [valuesOf, List.map_eq_nil_iff, List.filter_eq_nil_iff]
        intro b hb hkey
        exact hnew (of_decide_eq_true hkey ▸ List.mem_map_of_mem (f := Prod.fst) hb)
      rw [if_pos rfl, hnone]
      exact ColumnType.narrowest_singleton a.2

/-- The columns of rows are those of their assignments, unless they come from the first
row alone. -/
theorem isColumnsOf_columns {options : ImportOptions} (h : options.firstLine = false)
    (rows : List ResultRow) : IsColumnsOf rows.flatten (columns options rows) := by
  rw [columns, h]
  show IsColumnsOf rows.flatten (rows.flatten.foldl addColumn [])
  -- the columns grow at the end of the assignments, where the fold takes the next one
  induction rows.flatten using List.reverseRecOn with
  | nil => exact ⟨rfl, List.nodup_nil, fun _ _ h => absurd h List.not_mem_nil⟩
  | append_singleton assignments a ih =>
    rw [List.foldl_append]
    exact ih.addColumn a

end ResultRow

/-! ## The created table -/

namespace Importer

open ImportStatement

variable {ω κ : Type} {b : Backend ω κ} {options : ImportOptions}

/-- What is told of an import that is sent: it executes nothing but the removal of an old table and
the creation of the new one, which it has executed if it succeeds. -/
theorem Sends.executed {sql : Text} {rows : List ResultRow} {count : Nat} {s t : Session ω κ}
    {r : Except Failure Nat}
    (h : Sends b options.table (fun there => plan b.toDialect options.table there sql
      (rows.map (insertion b.toDialect options.table))) count s (Action.outcome r t)) :
    ∃ events, t.transcript = s.transcript ++ events ∧
      (∀ text ok, .executed text ok ∈ events →
        text = "DROP TABLE ".toList ++ b.quote options.table ∨ text = sql) ∧
      (∀ n, r = .ok n → .executed sql true ∈ events) := by
  have hplan : ∀ there st, st ∈ plan b.toDialect options.table there sql
      (rows.map (insertion b.toDialect options.table)) →
        ∀ ok text ok', st.event ok = .executed text ok' →
          text = "DROP TABLE ".toList ++ b.quote options.table ∨ text = sql := by
    intro there st hst ok text ok' hevent
    rcases List.mem_append.1 hst with hst | hst
    · split at hst
      · rw [List.mem_singleton.1 hst] at hevent
        cases hevent
        exact .inl rfl
      · exact absurd hst List.not_mem_nil
    · rcases List.mem_cons.1 hst with rfl | hst
      · cases hevent
        exact .inr rfl
      · obtain ⟨row, -, rfl⟩ := List.mem_map.1 hst
        cases hevent
  rcases h.told with ⟨e, rfl, htold⟩ | ⟨there, events, htold, hevents, hall⟩
  · exact ⟨_, htold, by simp, by simp⟩
  · refine ⟨_, htold, ?_, ?_⟩
    · intro text ok hmem
      rcases List.mem_cons.1 hmem with hmem | hmem
      · cases hmem
      · obtain ⟨st, hst, ok', hevent⟩ := hevents.exists_of_mem hmem
        exact hplan there st hst ok' text ok hevent.symm
    · intro n hn
      -- the creation stands in the plan, whether there is an old table or not
      rw [(hall n hn).2]
      apply List.mem_cons_of_mem
      apply List.mem_map.2
      exact ⟨.execute sql, List.mem_append_right _ (List.mem_cons_self ..), rfl⟩

/-- The import of the lines creates its table with the columns, and executes no other statement but
the removal of an old table. -/
def Creates (b : Backend ω κ) (lines : List Text) (options : ImportOptions) (temporary : Bool)
    (columns : List (Text × ColumnType)) : Prop :=
  ∃ create, IsCreation b.toDialect temporary options.table columns create ∧
    ∀ (s t : Session ω κ) (r : Except Failure Nat),
      resultLines b lines options temporary s = Action.outcome r t →
      ∃ events, t.transcript = s.transcript ++ events ∧
        (∀ sql ok, .executed sql ok ∈ events →
          sql = "DROP TABLE ".toList ++ b.quote options.table ∨ sql = create) ∧
        (∀ n, r = .ok n → .executed create true ∈ events)

theorem creates_of_yieldsField (b : Backend ω κ) {lines : List Text} (temporary : Bool)
    (h : YieldsField options lines) : Creates b lines options temporary
      (ResultRow.columns options (ResultRow.ofLines options lines)) := by
  refine ⟨_, isCreation_iff.2 rfl, fun s t r hrun => ?_⟩
  have hsends := sends_of_yieldsField b temporary h s
  rw [hrun] at hsends
  exact hsends.executed

end Importer

namespace ResultRow

variable {options : ImportOptions} {lines more : List Text}

/-- The assignments of the lines that are kept, in order. -/
def keptAssignments (options : ImportOptions) (lines : List Text) : List (Text × Text) :=
  (kept options lines).flatMap (assignments options)

theorem isColumnsOf_ofLines (h : options.firstLine = false) (lines : List Text) :
    IsColumnsOf (keptAssignments options lines) (columns options (ofLines options lines)) := by
  have hcolumns := isColumnsOf_columns h (ofLines options lines)
  rw [ofLines_eq] at hcolumns ⊢
  rwa [← List.flatMap_def] at hcolumns

theorem kept_subset (h : lines ⊆ more) : kept options lines ⊆ kept options more := by
  intro line hline
  obtain ⟨hmem, hcounts⟩ := mem_kept_iff.1 hline
  exact mem_kept_iff.2 ⟨h hmem, hcounts⟩

theorem keptAssignments_subset (options : ImportOptions) (h : lines ⊆ more) :
    keptAssignments options lines ⊆ keptAssignments options more := by
  intro a ha
  obtain ⟨line, hline, ha⟩ := List.mem_flatMap.1 ha
  exact List.mem_flatMap.2 ⟨line, kept_subset h hline, ha⟩

/-- More assignments keep the columns, and can only widen them. -/
theorem IsColumnsOf.exists_wider {as bs : List (Text × Text)} {cs ds : List (Text × ColumnType)}
    (hcs : IsColumnsOf as cs) (hds : IsColumnsOf bs ds) (hsub : as ⊆ bs) {key : Text}
    {t : ColumnType} (h : (key, t) ∈ cs) : ∃ u, (key, u) ∈ ds ∧ t.rank ≤ u.rank := by
  have hkey : key ∈ as.map Prod.fst := by
    rw [← List.mem_eraseDups, ← hcs.keys]
    exact List.mem_map_of_mem (f := Prod.fst) h
  have hkey' : key ∈ ds.map Prod.fst := by
    rw [hds.keys, List.mem_eraseDups]
    exact List.map_subset Prod.fst hsub hkey
  obtain ⟨⟨_, u⟩, hu, rfl⟩ := List.mem_map.1 hkey'
  refine ⟨u, hu, (hcs.narrowest _ t h).rank_le (hds.narrowest _ u hu) ?_⟩
  apply List.map_subset
  intro a ha
  obtain ⟨ha, hkey⟩ := List.mem_filter.1 ha
  exact List.mem_filter.2 ⟨hsub ha, hkey⟩

/-- There is one list of columns of some assignments. -/
theorem IsColumnsOf.unique {as : List (Text × Text)} {cs ds : List (Text × ColumnType)}
    (hcs : IsColumnsOf as cs) (hds : IsColumnsOf as ds) : cs = ds := by
  have hkeys : cs.map Prod.fst = ds.map Prod.fst := hcs.keys.trans hds.keys.symm
  have hlength : cs.length = ds.length := by simpa using congrArg List.length hkeys
  refine List.ext_getElem hlength fun k hk hk' => ?_
  have hkey : (cs[k]).1 = (ds[k]).1 := by
    have hat := List.getElem_of_eq hkeys (by simpa using hk)
    simpa using hat
  -- the types at a position are the narrowest ones for the values of one key
  have hc := hcs.narrowest (cs[k]).1 (cs[k]).2 (List.getElem_mem hk)
  have hd := hds.narrowest (ds[k]).1 (ds[k]).2 (List.getElem_mem hk')
  rw [← hkey] at hd
  exact Prod.ext hkey (hc.unique hd)

/-- The columns of the same assignments in another order have the same types. -/
theorem IsColumnsOf.subset {as bs : List (Text × Text)} {cs ds : List (Text × ColumnType)}
    (hcs : IsColumnsOf as cs) (hds : IsColumnsOf bs ds) (hsub : as ⊆ bs) (hsub' : bs ⊆ as) :
    cs ⊆ ds := by
  rintro ⟨key, t⟩ h
  obtain ⟨u, hu, htu⟩ := hcs.exists_wider hds hsub h
  obtain ⟨v, hv, huv⟩ := hds.exists_wider hcs hsub' hu
  cases (hcs.narrowest key v hv).unique (hcs.narrowest key t h)
  rw [ColumnType.rank_injective (Nat.le_antisymm htu huv)]
  exact hu

end ResultRow

theorem YieldsField.mono {options : ImportOptions} {lines more : List Text}
    (hfirst : options.firstLine = false) (hsub : lines ⊆ more) (h : YieldsField options lines) :
    YieldsField options more := by
  obtain ⟨line, hline, hrow⟩ := h
  rw [hfirst] at hline
  refine ⟨line, ?_, hrow⟩
  rw [hfirst]
  exact ResultRow.kept_subset hsub hline

namespace Importer

variable {ω κ : Type}

/-- Unless the types come from the first line alone, the created table has one column for every key
of the kept lines, in the order of their first appearance, with the narrowest type for its values.
If there are more lines, the columns stay and can only become wider, and if the lines come in
another order, no column changes its type. -/
theorem resultLines_columns (b : Backend ω κ) {options : ImportOptions}
    (hfirst : options.firstLine = false) (temporary : Bool) {lines : List Text}
    (hyields : YieldsField options lines) :
    ∃ columns, Creates b lines options temporary columns ∧
      ResultRow.IsColumnsOf (ResultRow.keptAssignments options lines) columns ∧
      (∀ more, lines ⊆ more → ∃ wider, Creates b more options temporary wider ∧
        ResultRow.IsColumnsOf (ResultRow.keptAssignments options more) wider ∧
        ∀ key t, (key, t) ∈ columns → ∃ u, (key, u) ∈ wider ∧ t.rank ≤ u.rank) ∧
      (∀ permuted, lines.Perm permuted → ∃ same, Creates b permuted options temporary same ∧
        ResultRow.IsColumnsOf (ResultRow.keptAssignments options permuted) same ∧
        ∀ column, column ∈ same ↔ column ∈ columns) := by
  have hcolumns := ResultRow.isColumnsOf_ofLines hfirst lines
  refine ⟨_, creates_of_yieldsField b temporary hyields, hcolumns, fun more hsub => ?_,
    fun permuted hperm => ?_⟩
  · have hwider := ResultRow.isColumnsOf_ofLines hfirst more
    refine ⟨_, creates_of_yieldsField b temporary (hyields.mono hfirst hsub), hwider,
      fun key t h => ?_⟩
    exact hcolumns.exists_wider hwider (ResultRow.keptAssignments_subset options hsub) h
  · have hsame := ResultRow.isColumnsOf_ofLines hfirst permuted
    refine ⟨_, creates_of_yieldsField b temporary (hyields.mono hfirst hperm.subset), hsame,
      fun column => ?_⟩
    have hforth := ResultRow.keptAssignments_subset options hperm.subset
    have hback := ResultRow.keptAssignments_subset options hperm.symm.subset
    exact ⟨fun h => hsame.subset hcolumns hback hforth h,
      fun h => hcolumns.subset hsame hforth hback h⟩

/-- A column of whole numbers becomes one of decimal numbers, and a lone point is text. -/
theorem resultLines_columns_widened :
    let options : ImportOptions := { table := "t".toList }
    let lines := ["RESULT n=1 s=.5", "RESULT n=-2.e+3 s=.", "# RESULT n=7 flag"].map String.toList
    let create := "CREATE TEMPORARY TABLE \"t\" ".toList ++
      "(\"n\" DOUBLE PRECISION, \"s\" VARCHAR, \"flag\" BIGINT)".toList
    options.firstLine = false ∧ YieldsField options lines ∧
      ∀ (s t : Session Tree Rehearsal) (r : Except Failure Nat),
        resultLines Rehearsal.backend lines options true s = Action.outcome r t →
        ∃ events, t.transcript = s.transcript ++ events ∧
          (∀ sql ok, .executed sql ok ∈ events →
            sql = "DROP TABLE \"t\"".toList ∨ sql = create) ∧
          (∀ n, r = .ok n → .executed create true ∈ events) := by
  intro options lines create
  have hyields : YieldsField options lines :=
    ⟨"RESULT n=1 s=.5".toList, by decide +kernel, _, rfl, by decide +kernel⟩
  obtain ⟨columns, ⟨sql, hsql, hcreates⟩, hcolumns, -⟩ :=
    resultLines_columns Rehearsal.backend rfl true hyields
  have hcreate : Statement.create Rehearsal.backend.toDialect true options.table
      (ResultRow.columns options (ResultRow.ofLines options lines)) = create := by
    decide +kernel
  rw [isCreation_iff.1 hsql, hcolumns.unique (ResultRow.isColumnsOf_ofLines rfl lines), hcreate]
    at hcreates
  exact ⟨rfl, hyields, hcreates⟩

end Importer

end QueryWeave
