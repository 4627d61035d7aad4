import QueryWeave.Proofs.Characters

/-!
# Where lines end

A document is written with a newline after every line and read by cutting its text at newlines, one
carriage return before a newline being a part of the line end. So the lines that are read back are
those that were written just if none of them has a newline or ends in a carriage return.

Main statement: `Document.ofText_toText_iff`.
-/

namespace QueryWeave

open Text

namespace Text

/-- A text that is one line, also when it is written and read back. -/
structure IsLine (s : Text) : Prop where
  newline : '\n' ∉ s
  ending : s.getLast? ≠ some '\r'

theorem isLine_iff {s : Text} : IsLine s ↔ '\n' ∉ s ∧ s.getLast? ≠ some '\r' :=
  ⟨fun h => ⟨h.newline, h.ending⟩, fun h => ⟨h.1, h.2⟩⟩

instance (s : Text) : Decidable (IsLine s) := decidable_of_iff _ isLine_iff.symm

/-- The end of a line is a line. -/
theorem IsLine.of_suffix {s t : Text} (h : IsLine s) (ht : t <:+ s) : IsLine t := by
  obtain ⟨pre, rfl⟩ := ht
  refine ⟨fun hmem => h.newline (List.mem_append_right _ hmem), fun hlast => h.ending ?_⟩
  rw [List.getLast?_append, hlast]
  rfl

theorem isLine_indented_iff {n : Nat} {line : Text} :
    IsLine (Document.indented n line) ↔ IsLine line := by
  rw [isLine_iff, isLine_iff, newline_mem_indented]
  refine and_congr_right fun _ => not_congr ?_
  rw [Document.indented, List.getLast?_append]
  -- an empty line ends in a space now, if it is indented
  cases line.getLast? with
  | none => simp [fill, List.getLast?_replicate]
  | some c => simp

/-! ## Reading what was written -/

theorem dropReturn_subset (s : Text) : dropReturn s ⊆ s := by
  fun_induction dropReturn s with
  | case1 => simp
  | case2 => simp
  | case3 c => simp
  | case4 c d s ih => exact List.cons_subset_cons c ih

theorem dropReturn_eq_self_iff {s : Text} : dropReturn s = s ↔ s.getLast? ≠ some '\r' := by
  fun_induction dropReturn s with
  | case1 => simp
  | case2 => simp
  | case3 c h => simp [h]
  | case4 c d s ih =>
    rw [List.getLast?_cons_cons, List.cons.injEq, ih]
    simp

/-- The pieces between the newlines of lines are the lines, and nothing after the last newline. -/
theorem splitOn_unlines {ls : List Text} (h : ∀ l ∈ ls, '\n' ∉ l) :
    (unlines ls).splitOn '\n' = ls ++ [[]] := by
  induction ls with
  | nil => rfl
  | cons l ls ih =>
    have hl : l.splitOnP (· == '\n') = [l] := by
      apply List.splitOnP_eq_singleton
      rintro c hc
      simpa using fun heq : c = '\n' => h l (List.mem_cons_self ..) (heq ▸ hc)
    rw [unlines_cons, List.splitOn, List.splitOnP_append_cons _ _ (by simp), hl,
      ← List.splitOn, ih fun m hm => h m (List.mem_cons_of_mem _ hm)]
    rfl

theorem linesOfPieces_append_nil (ps : List Text) :
    linesOfPieces (ps ++ [[]]) = ps.map dropReturn := by
  induction ps with
  | nil => rfl
  | cons p ps ih =>
    -- the pieces go on after this one, be it with the empty one
    cases ps with
    | nil => rfl
    | cons q ps =>
      rw [List.map_cons, ← ih]
      rfl

/-- Lines without newlines lose no more than a carriage return. -/
theorem lines_unlines {ls : List Text} (h : ∀ l ∈ ls, '\n' ∉ l) :
    lines (unlines ls) = ls.map dropReturn := by
  rw [lines, splitOn_unlines h, linesOfPieces_append_nil]

theorem newline_mem_splitOn {s piece : Text} (h : piece ∈ s.splitOn '\n') : '\n' ∉ piece :=
  fun hmem => absurd (mem_splitOnP h hmem).2 (by decide)

/-- No line of a text has a newline. -/
theorem newline_mem_lines {s l : Text} (h : l ∈ lines s) : '\n' ∉ l := by
  have cut : ∀ ps : List Text, (∀ p ∈ ps, '\n' ∉ p) → ∀ l ∈ linesOfPieces ps, '\n' ∉ l := by
    intro ps
    fun_induction linesOfPieces ps with
    | case1 => simp
    | case2 => simp
    | case3 p => simp
    | case4 p q ps ih =>
      intro hps l hl
      rcases List.mem_cons.1 hl with rfl | hl
      · exact fun hmem => hps p (List.mem_cons_self ..) (dropReturn_subset p hmem)
      · exact ih (fun r hr => hps r (List.mem_cons_of_mem _ hr)) l hl
  exact cut _ (fun p hp => newline_mem_splitOn hp) l h

/-- Lines are read back as they are just if each of them is one. -/
theorem lines_unlines_eq_iff {ls : List Text} :
    lines (unlines ls) = ls ↔ ∀ l ∈ ls, IsLine l := by
  constructor
  · intro h l hl
    have hnewline : ∀ m ∈ ls, '\n' ∉ m := fun m hm => newline_mem_lines (h.symm ▸ hm)
    -- then nothing else than the carriage returns can have been lost
    rw [lines_unlines hnewline] at h
    have hself := List.map_eq_map_iff.1 (h.trans (List.map_id' ls).symm) l hl
    exact ⟨hnewline l hl, dropReturn_eq_self_iff.1 hself⟩
  · intro h
    rw [lines_unlines fun l hl => (h l hl).newline]
    have hmap : ls.map dropReturn = ls.map fun l => l :=
      List.map_congr_left fun l hl => dropReturn_eq_self_iff.2 (h l hl).ending
    rw [hmap, List.map_id']

end Text

/-- A document is read back as it was written just if it is a sequence of lines. -/
theorem Document.ofText_toText_iff {d : Document} :
    ofText d.toText = d ↔ ∀ line ∈ d.lines, IsLine line := by
  rw [← lines_unlines_eq_iff]
  exact ⟨fun h => congrArg Document.lines h, fun h => congrArg Document.mk h⟩

/-! ## Where newlines come from -/

/-- Some text has a newline. -/
def HasNewline (texts : List Text) : Prop := ∃ s ∈ texts, '\n' ∈ s

instance (texts : List Text) : Decidable (HasNewline texts) :=
  inferInstanceAs (Decidable (∃ s ∈ texts, '\n' ∈ s))

/-- Some text ends in a carriage return. -/
def HasReturn (texts : List Text) : Prop := ∃ s ∈ texts, s.getLast? = some '\r'

instance (texts : List Text) : Decidable (HasReturn texts) :=
  inferInstanceAs (Decidable (∃ s ∈ texts, s.getLast? = some '\r'))

theorem forall_isLine_iff {ls : List Text} :
    (∀ l ∈ ls, IsLine l) ↔ ¬ HasNewline ls ∧ ¬ HasReturn ls := by
  simp only [isLine_iff, HasNewline, HasReturn, not_exists, not_and]
  exact ⟨fun h => ⟨fun l hl => (h l hl).1, fun l hl => (h l hl).2⟩,
    fun h l hl => ⟨h.1 l hl, h.2 l hl⟩⟩

section Collections

variable {α : Type} {s : Text} {texts others : List Text} {xs : List α} {f : α → List Text}
  {g : α → Text}

@[simp] theorem hasNewline_nil : ¬ HasNewline [] := by simp [HasNewline]

@[simp] theorem hasNewline_cons : HasNewline (s :: texts) ↔ '\n' ∈ s ∨ HasNewline texts := by
  simp [HasNewline]

@[simp] theorem hasNewline_append :
    HasNewline (texts ++ others) ↔ HasNewline texts ∨ HasNewline others := by
  simp [HasNewline, or_and_right, exists_or]

@[simp] theorem hasNewline_flatMap : HasNewline (xs.flatMap f) ↔ ∃ x ∈ xs, HasNewline (f x) := by
  simp only [HasNewline, List.mem_flatMap]
  exact ⟨fun ⟨s, ⟨x, hx, hs⟩, h⟩ => ⟨x, hx, s, hs, h⟩, fun ⟨x, hx, s, hs, h⟩ => ⟨s, ⟨x, hx, hs⟩, h⟩⟩

@[simp] theorem hasNewline_map : HasNewline (xs.map g) ↔ ∃ x ∈ xs, '\n' ∈ g x := by
  simp only [HasNewline, List.mem_map]
  exact ⟨fun ⟨s, ⟨x, hx, hs⟩, h⟩ => ⟨x, hx, hs ▸ h⟩, fun ⟨x, hx, h⟩ => ⟨g x, ⟨x, hx, rfl⟩, h⟩⟩

@[simp] theorem hasReturn_nil : ¬ HasReturn [] := by simp [HasReturn]

@[simp] theorem hasReturn_cons :
    HasReturn (s :: texts) ↔ s.getLast? = some '\r' ∨ HasReturn texts := by
  simp [HasReturn]

@[simp] theorem hasReturn_map :
    HasReturn (xs.map g) ↔ ∃ x ∈ xs, (g x).getLast? = some '\r' := by
  simp only [HasReturn, List.mem_map]
  exact ⟨fun ⟨s, ⟨x, hx, hs⟩, h⟩ => ⟨x, hx, hs ▸ h⟩, fun ⟨x, hx, h⟩ => ⟨g x, ⟨x, hx, rfl⟩, h⟩⟩

@[simp] theorem hasReturn_filterMap {h : α → Option Text} : HasReturn (xs.filterMap h) ↔
    ∃ x ∈ xs, ∃ s, h x = some s ∧ s.getLast? = some '\r' := by
  simp only [HasReturn, List.mem_filterMap]
  exact ⟨fun ⟨s, ⟨x, hx, hs⟩, h⟩ => ⟨x, hx, s, hs, h⟩, fun ⟨x, hx, s, hs, h⟩ => ⟨s, ⟨x, hx, hs⟩, h⟩⟩

end Collections

end QueryWeave
