import QueryWeave.Proofs.ClauseReading

/-!
# Clauses of queries

A query can begin with a clause in parentheses. The scan for the end of the clause counts the
parentheses that are open; here the end is told without a count, by the grammar of balanced text,
and the two are shown to agree on every text. So the clause goes up to the parenthesis that matches
its first one, and whatever stands behind that is the query, its own parentheses included.

Main statement: `Clause.ofQuery_eq_iff`.
-/

namespace QueryWeave

open Text

namespace Clause

/-! ## Matching parentheses -/

/-- Text behind an open parenthesis and `depth` more before it, up to the place where the first of
them is closed: balanced pieces, with a closing parenthesis between any two of them. -/
inductive Closes : (depth : Nat) → Text → Prop
  | here {s : Text} (hs : Balanced s) : Closes 0 s
  | outer {depth : Nat} {s t : Text} (hs : Balanced s) (ht : Closes depth t) :
    Closes (depth + 1) (s ++ ')' :: t)

namespace Closes

/-- Balanced text in front opens nothing that it does not close. -/
theorem append {depth : Nat} {s t : Text} (hs : Balanced s) (ht : Closes depth t) :
    Closes depth (s ++ t) := by
  cases ht with
  | here ht => exact .here (hs.append ht)
  | @outer depth t u ht hu =>
    rw [← List.append_assoc]
    exact .outer (hs.append ht) hu

/-- A parenthesis that is opened in front is closed by the first one that closes. -/
theorem opened {depth : Nat} {s : Text} (h : Closes (depth + 1) s) : Closes depth ('(' :: s) := by
  cases h with
  | @outer _ t u ht hu =>
    have hpair : Balanced ('(' :: t ++ ')' :: []) := .nested ht .nil
    have hwhole : '(' :: (t ++ ')' :: u) = ('(' :: t ++ ')' :: []) ++ u := by simp
    rw [hwhole]
    exact append hpair hu

end Closes

/-- The scan ends at a closing parenthesis, and what it has passed closes all that is open. -/
theorem closes_of_balanced? {depth : Nat} {s a r : Text} (h : balanced? depth s = some (a, r)) :
    s = a ++ ')' :: r ∧ Closes depth a := by
  -- the depth goes up and down on the way, so the induction is on the text at every depth
  induction s generalizing depth a with
  | nil => cases h
  | cons c s ih =>
    unfold balanced? at h
    split at h
    · next hopen =>
      obtain ⟨⟨b, t⟩, hrest, heq⟩ := Option.map_eq_some_iff.1 h
      cases heq
      obtain ⟨rfl, hb⟩ := ih hrest
      rw [hopen]
      exact ⟨rfl, hb.opened⟩
    · next hopen =>
      split at h
      · next hclose =>
        rw [hclose] at h ⊢
        cases depth with
        | zero =>
          -- this is the parenthesis that matches
          cases h
          exact ⟨rfl, .here .nil⟩
        | succ depth =>
          obtain ⟨⟨b, t⟩, hrest, heq⟩ := Option.map_eq_some_iff.1 h
          cases heq
          obtain ⟨rfl, hb⟩ := ih hrest
          exact ⟨rfl, .outer .nil hb⟩
      · next hclose =>
        obtain ⟨⟨b, t⟩, hrest, heq⟩ := Option.map_eq_some_iff.1 h
        cases heq
        obtain ⟨rfl, hb⟩ := ih hrest
        exact ⟨rfl, .append (.plain hopen hclose .nil) hb⟩

/-- The scan finds the parenthesis before which the text is balanced. -/
theorem balanced?_eq_some_iff {s a r : Text} :
    balanced? 0 s = some (a, r) ↔ s = a ++ ')' :: r ∧ Balanced a := by
  constructor
  · intro h
    obtain ⟨hs, ha⟩ := closes_of_balanced? h
    cases ha with
    | here ha => exact ⟨hs, ha⟩
  · rintro ⟨rfl, ha⟩
    exact ha.balanced?_close r

/-- The scan fails if no parenthesis matches. -/
theorem balanced?_eq_none_iff {s : Text} :
    balanced? 0 s = none ↔ ∀ a r, s = a ++ ')' :: r → ¬ Balanced a := by
  rw [Option.eq_none_iff_forall_ne_some]
  constructor
  · intro h a r hs ha
    exact h (a, r) (balanced?_eq_some_iff.2 ⟨hs, ha⟩)
  · rintro h ⟨a, r⟩ hsome
    obtain ⟨hs, ha⟩ := balanced?_eq_some_iff.1 hsome
    exact h a r hs ha

/-! ## Splitting a query -/

/-- How a query is split into its clause and the rest. -/
inductive Splits (query : Text) : Except ClauseError (Clause × Text) → Prop
  /-- Without the word there is no clause. -/
  | bare (hword : ¬ "REFORMAT".toList <+: trim query) : Splits query (.ok ([], trim query))
  /-- Behind the word and white space no parenthesis is opened. -/
  | unopened {rest : Text} (hword : trim query = "REFORMAT".toList ++ rest)
    (hopen : ¬ ['('] <+: trimStart rest) : Splits query (.error .noParentheses)
  /-- A parenthesis is opened, and none matches it. -/
  | unclosed {rest inside : Text} (hword : trim query = "REFORMAT".toList ++ rest)
    (hopen : trimStart rest = '(' :: inside)
    (hclose : ∀ clause remainder, inside = clause ++ ')' :: remainder → ¬ Balanced clause) :
    Splits query (.error .unbalanced)
  /-- The clause is what stands between two parentheses that match, and the query what follows. -/
  | clause {rest inside clause remainder : Text}
    (hword : trim query = "REFORMAT".toList ++ rest) (hopen : trimStart rest = '(' :: inside)
    (hclose : inside = clause ++ ')' :: remainder) (hclause : Balanced clause) :
    Splits query ((read (trim clause)).map fun c => (c, trim remainder))

theorem splits_ofQuery (query : Text) : Splits query (ofQuery query) := by
  unfold ofQuery
  dsimp only
  split
  · next hnone =>
    apply Splits.bare
    rintro ⟨rest, hrest⟩
    rw [after?_eq_some_iff.2 hrest.symm] at hnone
    cases hnone
  · next rest hrest =>
    have hword := after?_eq_some_iff.1 hrest
    split
    · next inside hopen =>
      split
      · next hnone => exact .unclosed hword hopen (balanced?_eq_none_iff.1 hnone)
      · next clause remainder hsome =>
        obtain ⟨hclose, hclause⟩ := balanced?_eq_some_iff.1 hsome
        exact .clause hword hopen hclose hclause
    · next hopen =>
      apply Splits.unopened hword
      rintro ⟨inside, hinside⟩
      exact hopen inside hinside.symm

/-- There is one way to split a query. -/
theorem Splits.ofQuery_eq {query : Text} {r : Except ClauseError (Clause × Text)}
    (h : Splits query r) : ofQuery query = r := by
  cases h with
  | bare hword =>
    have hnone : after? "REFORMAT" (trim query) = none := by
      rw [Option.eq_none_iff_forall_ne_some]
      intro rest hrest
      exact hword ⟨rest, (after?_eq_some_iff.1 hrest).symm⟩
    simp only [ofQuery, hnone]
  | unopened hword hopen =>
    simp only [ofQuery, after?_eq_some_iff.2 hword]
    split
    · next inside hinside => exact absurd ⟨inside, hinside.symm⟩ hopen
    · rfl
  | unclosed hword hopen hclose =>
    simp only [ofQuery, after?_eq_some_iff.2 hword, hopen, balanced?_eq_none_iff.2 hclose]
  | clause hword hopen hclose hclause =>
    simp only [ofQuery, after?_eq_some_iff.2 hword, hopen,
      balanced?_eq_some_iff.2 ⟨hclose, hclause⟩]

/-- A query without the word is taken as it is, trimmed, with the empty clause. Behind the word and
white space, a parenthesis must be opened, and another one must match it. What they enclose is read
as the clause, and everything behind them is the query; both are trimmed. -/
theorem ofQuery_eq_iff {query : Text} {r : Except ClauseError (Clause × Text)} :
    ofQuery query = r ↔ Splits query r := by
  constructor
  · rintro rfl
    exact splits_ofQuery query
  · exact Splits.ofQuery_eq

/-- The parentheses of a separator and those of the query do not end the clause. -/
example : (ofQuery "REFORMAT (group=(())) SELECT f(x), ')' FROM (t)".toList).toOption =
    some ([.overall (.group (some "()".toList))], "SELECT f(x), ')' FROM (t)".toList) := by
  decide +kernel

end Clause

end QueryWeave
