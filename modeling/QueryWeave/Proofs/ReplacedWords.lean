import QueryWeave.Proofs.WrittenNumbers

/-!
# Replaced words

A text is looked through from the left, and every occurrence of a word gives way to another text. So
the text falls into the pieces before, between and behind the occurrences, and these stay as they
are: what comes out is the pieces joined by the new text, as the old one is the pieces joined by the
word.

The pieces are met in two ways. Where the first character of the word stands nowhere else in it, the
word cannot overlap itself, and pieces are whatever does not hold the word
(`replaceWord_eq_iff`). Where that character does not occur in the pieces, the word can be any
(`replaceWord_join_append`).

Main statement: `Text.replaceWord_eq_iff`.
-/

namespace QueryWeave.Text

variable {w : Char} {ws new : Text}

/-! ## Before an occurrence, and at it -/

theorem after?_eq_none {word s : Text} (h : ¬ word <+: s) : after? word s = none := by
  rw [Option.eq_none_iff_forall_ne_some]
  intro rest hrest
  exact h ⟨rest, (after?_eq_some_iff.1 hrest).symm⟩

theorem replaceWord_word (rest : Text) :
    replaceWord w ws new (w :: ws ++ rest) = new ++ replaceWord w ws new rest := by
  have hafter : after? (w :: ws) (w :: (ws ++ rest)) = some rest := after?_append (w :: ws) rest
  rw [List.cons_append, replaceWord]
  split
  · next r hr =>
    rw [hafter] at hr
    cases hr
    rfl
  · next hr =>
    rw [hafter] at hr
    cases hr

theorem replaceWord_cons {c : Char} {s : Text} (h : ¬ w :: ws <+: c :: s) :
    replaceWord w ws new (c :: s) = c :: replaceWord w ws new s := by
  have hafter := after?_eq_none h
  rw [replaceWord]
  split
  · next r hr =>
    rw [hafter] at hr
    cases hr
  · rfl

/-- What the word does not begin in stays as it is. -/
theorem replaceWord_append {p rest : Text} (h : ∀ q, q ≠ [] → q <:+ p → ¬ w :: ws <+: q ++ rest) :
    replaceWord w ws new (p ++ rest) = p ++ replaceWord w ws new rest := by
  induction p with
  | nil => rfl
  | cons c p ih =>
    have hhead := h (c :: p) (List.cons_ne_nil c p) List.suffix_rfl
    have hrest := ih fun q hne hq => h q hne (hq.trans (List.suffix_cons c p))
    rw [List.cons_append] at hhead ⊢
    rw [replaceWord_cons hhead, hrest, List.cons_append]

/-- Where the first character of the word does not occur, the word does not begin. -/
theorem replaceWord_append_of_notMem {p : Text} (h : w ∉ p) (rest : Text) :
    replaceWord w ws new (p ++ rest) = p ++ replaceWord w ws new rest := by
  apply replaceWord_append
  intro q hne hq hbegins
  obtain ⟨c, q, rfl⟩ := List.exists_cons_of_ne_nil hne
  obtain ⟨rfl, -⟩ := List.cons_prefix_cons.1 hbegins
  exact h (hq.mem (List.mem_cons_self ..))

/-- Without the word, there is nothing to be replaced. -/
theorem replaceWord_of_free {s : Text} (h : ¬ w :: ws <:+: s) : replaceWord w ws new s = s := by
  have hend : ∀ q, q ≠ [] → q <:+ s → ¬ w :: ws <+: q ++ [] := by
    intro q _ hq hbegins
    rw [List.append_nil] at hbegins
    exact h (hbegins.isInfix.trans hq.isInfix)
  have hreplace : replaceWord w ws new (s ++ []) = s ++ replaceWord w ws new [] :=
    replaceWord_append hend
  rwa [List.append_nil, replaceWord, List.append_nil] at hreplace

/-- Any word is replaced between pieces in which its first character does not occur. -/
theorem replaceWord_join_append {pieces : List Text} (h : ∀ p ∈ pieces, w ∉ p) (rest : Text) :
    replaceWord w ws new (join (w :: ws) pieces ++ rest) =
      join new pieces ++ replaceWord w ws new rest := by
  induction pieces with
  | nil => rfl
  | cons p pieces ih =>
    obtain ⟨hp, hpieces⟩ := List.forall_mem_cons.1 h
    cases pieces with
    | nil => exact replaceWord_append_of_notMem hp rest
    | cons r pieces =>
      simp only [join, List.append_assoc]
      rw [replaceWord_append_of_notMem hp, replaceWord_word, ih hpieces]

/-- Without a separator, texts are joined end to end. -/
theorem join_nil_left (xs : List Text) : join [] xs = xs.flatten := by
  cases xs with
  | nil => rfl
  | cons s xs => simp [join_cons, List.flatMap_def]

/-! ## Pieces -/

/-- The pieces before, between and behind the occurrences of a word in a text. -/
structure IsCutAt (word s : Text) (pieces : List Text) : Prop where
  ne_nil : pieces ≠ []
  join : join word pieces = s
  free : ∀ p ∈ pieces, ¬ word <:+: p

/-- Between a piece and an occurrence behind it, the word does not begin either. -/
theorem not_begins_behind (hw : w ∉ ws) {p : Text} (hp : ¬ w :: ws <:+: p) (rest : Text) :
    ∀ q, q ≠ [] → q <:+ p → ¬ w :: ws <+: q ++ (w :: ws ++ rest) := by
  intro q hne hq hbegins
  rcases Nat.lt_or_ge q.length (w :: ws).length with hlt | hle
  · -- its beginning would be the end of the piece, and its first character would come once more
    obtain ⟨t, ht⟩ := List.prefix_of_prefix_length_le (List.prefix_append q _) hbegins
      (Nat.le_of_lt hlt)
    rw [← ht, List.prefix_append_right_inj] at hbegins
    obtain ⟨c, q, rfl⟩ := List.exists_cons_of_ne_nil hne
    cases t with
    | nil => simp [← ht] at hlt
    | cons d t =>
      obtain ⟨rfl, rfl⟩ := List.cons.inj ht
      obtain ⟨rfl, -⟩ := List.cons_prefix_cons.1 hbegins
      exact hw (List.mem_append_right q (List.mem_cons_self ..))
  · -- the word would stand in the piece
    have hword : w :: ws <+: q :=
      List.prefix_of_prefix_length_le hbegins (List.prefix_append ..) hle
    exact hp (hword.isInfix.trans hq.isInfix)

/-- Pieces that do not hold the word stay as they are. -/
theorem replaceWord_join (hw : w ∉ ws) {pieces : List Text}
    (h : ∀ p ∈ pieces, ¬ w :: ws <:+: p) :
    replaceWord w ws new (join (w :: ws) pieces) = join new pieces := by
  induction pieces with
  | nil => simp [join, replaceWord]
  | cons p pieces ih =>
    obtain ⟨hp, hpieces⟩ := List.forall_mem_cons.1 h
    cases pieces with
    | nil => exact replaceWord_of_free hp
    | cons r pieces =>
      rw [join, join, List.append_assoc, List.append_assoc,
        replaceWord_append (not_begins_behind hw hp _), replaceWord_word, ih hpieces]

/-- Every text can be cut at the occurrences of a word, from the left on. -/
theorem exists_isCutAt (w : Char) (ws s : Text) : ∃ pieces, IsCutAt (w :: ws) s pieces := by
  induction s using replaceWord.induct w ws with
  | case1 => exact ⟨[[]], by simp, rfl, by simp⟩
  | case2 c s rest hafter ih =>
    -- the word comes first, and the first piece is empty
    obtain ⟨pieces, hpieces⟩ := ih
    obtain ⟨p, ps, rfl⟩ := List.exists_cons_of_ne_nil hpieces.ne_nil
    refine ⟨[] :: p :: ps, List.cons_ne_nil _ _, ?_,
      List.forall_mem_cons.2 ⟨by simp, hpieces.free⟩⟩
    rw [join, hpieces.join, List.nil_append, after?_eq_some_iff.1 hafter]
  | case3 c s hafter ih =>
    -- another character goes before the first piece
    obtain ⟨pieces, hpieces⟩ := ih
    obtain ⟨p, ps, rfl⟩ := List.exists_cons_of_ne_nil hpieces.ne_nil
    obtain ⟨hp, hps⟩ := List.forall_mem_cons.1 hpieces.free
    have hs : join (w :: ws) ((c :: p) :: ps) = c :: s := by
      rw [join_cons, List.cons_append, ← join_cons, hpieces.join]
    refine ⟨(c :: p) :: ps, List.cons_ne_nil _ _, hs, List.forall_mem_cons.2 ⟨?_, hps⟩⟩
    intro hheld
    rcases List.infix_cons_iff.1 hheld with hbegins | hheld
    · obtain ⟨rest, hrest⟩ := hbegins
      have hfirst : after? (w :: ws) (c :: s) = some (rest ++ ps.flatMap (w :: ws ++ ·)) := by
        rw [after?_eq_some_iff, ← hs, join_cons, ← hrest, List.append_assoc]
      rw [hafter] at hfirst
      cases hfirst
    · exact hp hheld

/-- A word that does not overlap itself is replaced in the only way in which the text can be cut at
it. -/
theorem replaceWord_eq_iff (hw : w ∉ ws) {s t : Text} :
    replaceWord w ws new s = t ↔ ∃ pieces, IsCutAt (w :: ws) s pieces ∧ join new pieces = t := by
  constructor
  · rintro rfl
    obtain ⟨pieces, hpieces⟩ := exists_isCutAt w ws s
    exact ⟨pieces, hpieces, by rw [← hpieces.join, replaceWord_join hw hpieces.free]⟩
  · rintro ⟨pieces, hpieces, rfl⟩
    rw [← hpieces.join, replaceWord_join hw hpieces.free]

end QueryWeave.Text
