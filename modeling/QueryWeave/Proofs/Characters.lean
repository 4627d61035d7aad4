import QueryWeave.Document.Basic
import QueryWeave.Fragment.Latex
import QueryWeave.Text.Escape
import QueryWeave.Text.Integer

/-!
# Characters of written texts

A line is recognised again because certain characters do not occur in what was written into it: no
newline in a line, no brace between the coordinates of a plot. The lemmas of this module say where
the characters of a text come from when it is joined, escaped or laid out.
-/

namespace QueryWeave

open Text

namespace Fragment

/-- A text is one line exactly if it has no newline. -/
theorem isOneLine_iff {s : Text} : isOneLine s = true ↔ '\n' ∉ s := by
  simp [isOneLine]

end Fragment

namespace Text

/-- The text has neither an opening nor a closing brace. -/
def NoBrace (s : Text) : Prop := ∀ c ∈ s, c ≠ '\x7b' ∧ c ≠ '\x7d'

-- the characters of the text are tried, and not all that there are
instance (s : Text) : Decidable (NoBrace s) :=
  List.decidableBAll (fun c => c ≠ '\x7b' ∧ c ≠ '\x7d') s

/-! ## Joining -/

/-- The characters of joined texts are theirs and those of the separator. -/
theorem mem_join {separator : Text} {xs : List Text} {c : Char} (h : c ∈ join separator xs) :
    c ∈ separator ∨ ∃ x ∈ xs, c ∈ x := by
  fun_induction join separator xs with
  | case1 => cases h
  | case2 s => exact .inr ⟨s, List.mem_singleton_self s, h⟩
  | case3 s t r ih =>
    rcases List.mem_append.1 h with hs | hr
    · rcases List.mem_append.1 hs with hs | hsep
      · exact .inr ⟨s, List.mem_cons_self .., hs⟩
      · exact .inl hsep
    · rcases ih hr with hsep | ⟨x, hx, hc⟩
      · exact .inl hsep
      · exact .inr ⟨x, List.mem_cons_of_mem _ hx, hc⟩

/-- The pieces of a text hold the characters of the text that do not separate them. -/
theorem mem_splitOnP {p : Char → Bool} {s piece : Text} {c : Char} (h : piece ∈ s.splitOnP p)
    (hc : c ∈ piece) : c ∈ s ∧ p c = false := by
  induction s generalizing piece with
  | nil =>
    simp only [List.splitOnP_nil, List.mem_singleton] at h
    rw [h] at hc
    cases hc
  | cons d s ih =>
    -- a separator begins a new piece, and any other character goes before the first one
    rw [List.splitOnP_cons_eq_if_modifyHead] at h
    split at h
    · rcases List.mem_cons.1 h with rfl | h
      · cases hc
      · exact ⟨List.mem_cons_of_mem _ (ih h hc).1, (ih h hc).2⟩
    · next hd =>
      cases hs : s.splitOnP p with
      | nil => exact absurd hs (List.splitOnP_ne_nil p s)
      | cons first more =>
        rw [hs] at ih h
        rcases List.mem_cons.1 h with rfl | h
        · rcases List.mem_cons.1 hc with rfl | hc
          · exact ⟨List.mem_cons_self .., Bool.eq_false_iff.2 hd⟩
          · have hfirst := ih (List.mem_cons_self ..) hc
            exact ⟨List.mem_cons_of_mem _ hfirst.1, hfirst.2⟩
        · have hmore := ih (List.mem_cons_of_mem _ h) hc
          exact ⟨List.mem_cons_of_mem _ hmore.1, hmore.2⟩

/-- Characters of a class come first, and the others after them. -/
theorem takeWhile_dropWhile_append {p : Char → Bool} {s : Text} (rest : Text)
    (hs : ∀ c ∈ s, p c = true) (hrest : ∀ c ∈ rest.head?, p c = false) :
    (s ++ rest).takeWhile p = s ∧ (s ++ rest).dropWhile p = rest := by
  induction s with
  | nil =>
    cases rest with
    | nil => exact ⟨rfl, rfl⟩
    | cons c r => simp [hrest c rfl]
  | cons c s ih =>
    obtain ⟨htake, hdrop⟩ := ih fun d hd => hs d (List.mem_cons_of_mem _ hd)
    have hc := hs c (List.mem_cons_self ..)
    simp [hc, htake, hdrop]

/-- The only white space of collapsed text are the spaces between its words. -/
theorem mem_collapse {s : Text} {c : Char} (h : c ∈ collapse s) :
    c = ' ' ∨ c ∈ s ∧ isWhite c = false := by
  rcases mem_join h with hc | ⟨word, hword, hc⟩
  · exact .inl (List.mem_singleton.1 hc)
  · exact .inr (mem_splitOnP (List.mem_filter.1 hword).1 hc)

namespace NoBrace

theorem collapse {s : Text} (h : NoBrace s) : NoBrace (Text.collapse s) := by
  intro c hc
  rcases mem_collapse hc with rfl | ⟨hc, -⟩
  · decide
  · exact h c hc

theorem append {s t : Text} (hs : NoBrace s) (ht : NoBrace t) : NoBrace (s ++ t) :=
  fun c h => (List.mem_append.1 h).elim (hs c) (ht c)

theorem join {separator : Text} {xs : List Text} (hseparator : NoBrace separator)
    (h : ∀ x ∈ xs, NoBrace x) : NoBrace (Text.join separator xs) := by
  intro c hc
  rcases mem_join hc with hc | ⟨x, hx, hc⟩
  · exact hseparator c hc
  · exact h x hx c hc

theorem flatMap {α : Type} {xs : List α} {f : α → Text} (h : ∀ x ∈ xs, NoBrace (f x)) :
    NoBrace (xs.flatMap f) := by
  intro c hc
  obtain ⟨x, hx, hc⟩ := List.mem_flatMap.1 hc
  exact h x hx c hc

end NoBrace

/-! ## Trimming -/

/-- There is nothing but white space in the text. -/
def IsSpace (s : Text) : Prop := ∀ c ∈ s, isWhite c = true

instance (s : Text) : Decidable (IsSpace s) :=
  List.decidableBAll (fun c => isWhite c = true) s

/-- The text `s` is `t` with white space around it. -/
def IsPadded (s t : Text) : Prop :=
  ∃ before after, IsSpace before ∧ IsSpace after ∧ s = before ++ t ++ after

theorem not_mem_of_isSpace {s : Text} (h : IsSpace s) {c : Char} (hc : isWhite c = false) :
    c ∉ s := by
  intro hmem
  rw [h c hmem] at hc
  cases hc

theorem mem_of_isPadded {s t : Text} {c : Char} (h : IsPadded s t) (hc : isWhite c = false)
    (hmem : c ∈ s) : c ∈ t := by
  obtain ⟨before, after, hbefore, hafter, rfl⟩ := h
  rcases List.mem_append.1 hmem with hmem | hmem
  · rcases List.mem_append.1 hmem with hmem | hmem
    · exact absurd hmem (not_mem_of_isSpace hbefore hc)
    · exact hmem
  · exact absurd hmem (not_mem_of_isSpace hafter hc)

/-- The part that is dropped at the front is of the class. -/
private theorem exists_dropWhile (p : Char → Bool) (s : Text) :
    ∃ before, (∀ c ∈ before, p c = true) ∧ s = before ++ s.dropWhile p :=
  ⟨s.takeWhile p, List.all_eq_true.1 List.all_takeWhile, List.takeWhile_append_dropWhile.symm⟩

/-- Behind the trimmed text comes nothing but white space. -/
private theorem exists_trimStart (s : Text) :
    ∃ after, IsSpace after ∧ trimStart s = trim s ++ after := by
  obtain ⟨after, hafter, ht⟩ := exists_dropWhile isWhite (trimStart s).reverse
  refine ⟨after.reverse, by simpa [IsSpace] using hafter, ?_⟩
  rw [← List.reverse_inj, ht]
  simp [trim, trimEnd, dropEndWhile]

/-- Trimming takes white space off, and nothing else. -/
theorem isPadded_trim (s : Text) : IsPadded s (trim s) := by
  obtain ⟨before, hbefore, hs⟩ := exists_dropWhile isWhite s
  obtain ⟨after, hafter, hend⟩ := exists_trimStart s
  refine ⟨before, after, hbefore, hafter, ?_⟩
  rw [List.append_assoc, ← hend]
  exact hs

/-- The text is not empty, and neither begins nor ends with white space. -/
structure IsBare (s : Text) : Prop where
  ne_nil : s ≠ []
  first : ∀ c ∈ s.head?, isWhite c = false
  last : ∀ c ∈ s.getLast?, isWhite c = false

instance (s : Text) : Decidable (IsBare s) :=
  decidable_of_iff (s ≠ [] ∧ s.head?.all (!isWhite ·) = true ∧ s.getLast?.all (!isWhite ·) = true)
    (by
      simp only [Option.all_eq_true, Bool.not_eq_true']
      exact ⟨fun ⟨hne, hfirst, hlast⟩ => ⟨hne, hfirst, hlast⟩,
        fun h => ⟨h.ne_nil, h.first, h.last⟩⟩)

/-- A text that is bare is found again between white space. -/
theorem IsBare.trim_eq {s t : Text} (ht : IsBare t) (h : IsPadded s t) : trim s = t := by
  obtain ⟨before, after, hbefore, hafter, rfl⟩ := h
  have hhead : ∀ c ∈ (t ++ after).head?, isWhite c = false := by
    obtain ⟨d, r, rfl⟩ := List.exists_cons_of_ne_nil ht.ne_nil
    exact ht.first
  have hstart : trimStart (before ++ t ++ after) = t ++ after := by
    rw [List.append_assoc]
    exact (takeWhile_dropWhile_append _ hbefore hhead).2
  have hlast : ∀ c ∈ t.reverse.head?, isWhite c = false := by
    intro c hc
    rw [List.head?_reverse] at hc
    exact ht.last c hc
  have hspace : ∀ c ∈ after.reverse, isWhite c = true := fun c hc =>
    hafter c (List.mem_reverse.1 hc)
  rw [trim, hstart, trimEnd, dropEndWhile, List.reverse_append,
    (takeWhile_dropWhile_append _ hspace hlast).2, List.reverse_reverse]

/-- Text without white space is found again between white space. -/
theorem trim_of_isPadded {s t : Text} (h : IsPadded s t) (hne : t ≠ [])
    (ht : ∀ c ∈ t, isWhite c = false) : trim s = t :=
  IsBare.trim_eq ⟨hne, fun c hc => ht c (List.mem_of_mem_head? hc),
    fun c hc => ht c (List.mem_of_getLast? hc)⟩ h

theorem trim_subset (s : Text) : trim s ⊆ s := by
  obtain ⟨before, after, -, -, hs⟩ := isPadded_trim s
  intro c hc
  rw [hs]
  exact List.mem_append_left _ (List.mem_append_right _ hc)

/-- Text without white space has nothing to be trimmed. -/
theorem trim_eq_self {s : Text} (h : ∀ c ∈ s, isWhite c = false) : trim s = s := by
  cases s with
  | nil => rfl
  | cons c r => exact trim_of_isPadded ⟨[], [], nofun, nofun, by simp⟩ (List.cons_ne_nil c r) h

/-- A trimmed text does not end in white space. -/
theorem isWhite_of_getLast?_trim {s : Text} {c : Char} (h : (trim s).getLast? = some c) :
    isWhite c = false := by
  rw [trim, trimEnd, dropEndWhile, List.getLast?_reverse] at h
  simpa [h] using List.head?_dropWhile_not isWhite (trimStart s).reverse

/-- What is left when a text is trimmed is bare, unless nothing is left. -/
theorem isBare_trim {s : Text} (h : trim s ≠ []) : IsBare (trim s) := by
  refine ⟨h, fun c hc => ?_, fun c hc => isWhite_of_getLast?_trim hc⟩
  obtain ⟨after, -, hstart⟩ := exists_trimStart s
  have hhead : (s.dropWhile isWhite).head? = some c := by
    rw [← trimStart, hstart, List.head?_append, hc, Option.some_or]
  simpa [hhead] using List.head?_dropWhile_not isWhite s

/-! ## Escaping, indentation and digits -/

/-- Markup has a newline only for a newline. -/
theorem newline_mem_latexEscape {s : Text} (h : '\n' ∈ latexEscape s) : '\n' ∈ s := by
  obtain ⟨c, hc, hn⟩ := List.mem_flatMap.1 h
  -- no markup for a character has a newline, so it can only be the character itself
  have hsame : '\n' = c := by
    unfold latexChar at hn
    split at hn
    · simp at hn
    · split at hn
      · rcases List.mem_cons.1 hn with hn | hn
        · simp at hn
        · exact List.mem_singleton.1 hn
      · split at hn
        · simp at hn
        · split at hn
          · simp at hn
          · exact List.mem_singleton.1 hn
  exact hsame ▸ hc

theorem newline_mem_indented {n : Nat} {line : Text} :
    '\n' ∈ Document.indented n line ↔ '\n' ∈ line := by
  simp [Document.indented, fill]

theorem isDigit_of_mem_ofNat {n : Nat} {c : Char} (h : c ∈ ofNat n) : isDigit c = true := by
  have hdigit : c.isDigit = true := Nat.isDigit_of_mem_toDigits (by decide) (by decide) h
  simpa [isDigit, Char.isDigit, Char.le_def] using hdigit

end Text

end QueryWeave
