import Mathlib.Data.Finset.Sort
import QueryWeave.Proofs.WrittenNumbers

/-!
# The grammar of number ranges

Rows and columns are selected with lists such as `3,4 - 7,10-11`. Which texts are such lists is told
here by a grammar for the pieces between the commas, and reading is shown to accept those texts and
no others, as far as the numbers fit into 64 bits and no range is reversed. The ranges that are read
stand for a set of numbers, and a set that is written in any way is read back.

Main statement: `Ranges.read_denotes`.
-/

namespace QueryWeave

open Text

namespace Text

/-! ## Numerals -/

/-- The text is one or more digits, and `n` is their value in base ten. -/
structure IsNumeral (s : Text) (n : Nat) : Prop where
  ne_nil : s ≠ []
  isDigit : ∀ c ∈ s, isDigit c = true
  value : Nat.ofDigitChars 10 s 0 = n

theorem digits?_eq_some_iff {s : Text} {n : Nat} : digits? s = some n ↔ IsNumeral s n := by
  unfold digits?
  rw [digitsValue_eq]
  constructor
  · intro h
    split at h
    · next hs =>
      cases h
      exact ⟨hs.1, List.all_eq_true.1 hs.2, rfl⟩
    · cases h
  · intro h
    rw [if_pos ⟨h.ne_nil, List.all_eq_true.2 h.isDigit⟩, h.value]

namespace IsNumeral

variable {s : Text} {n : Nat}

theorem isWhite (h : IsNumeral s n) {c : Char} (hc : c ∈ s) : isWhite c = false :=
  isWhite_of_isDigit (h.isDigit c hc)

theorem not_mem (h : IsNumeral s n) {c : Char} (hc : Text.isDigit c = false) : c ∉ s := by
  intro hmem
  rw [h.isDigit c hmem] at hc
  cases hc

end IsNumeral

end Text

namespace Ranges

/-! ## The grammar -/

/-- A number stands for itself, and two numbers with a hyphen between them, and white space around
it if any, for the range from one to the other. -/
inductive IsItem : Text → Nat × Nat → Prop
  | single {s : Text} {n : Nat} (h : IsNumeral s n) : IsItem s (n, n)
  | range {s before after t : Text} {low high : Nat} (hlow : IsNumeral s low)
    (hbefore : IsSpace before) (hafter : IsSpace after) (hhigh : IsNumeral t high) :
    IsItem (s ++ before ++ '-' :: after ++ t) (low, high)

/-- What stands between two commas: an item, and white space around it. -/
def IsPiece (s : Text) (r : Nat × Nat) : Prop := ∃ t, IsPadded s t ∧ IsItem t r

/-- Both numbers have 64 bits, and the range is not reversed. -/
def Fits (r : Nat × Nat) : Prop := r.1 < limit64 ∧ r.2 < limit64 ∧ r.1 ≤ r.2

instance (r : Nat × Nat) : Decidable (Fits r) :=
  inferInstanceAs (Decidable (r.1 < limit64 ∧ r.2 < limit64 ∧ r.1 ≤ r.2))

/-! ## Reading follows the grammar -/

theorem number_trim_eq_ok_iff {whole s : Text} {n : Nat} :
    number whole (trim s) = .ok n ↔ n < limit64 ∧ ∃ t, IsPadded s t ∧ IsNumeral t n := by
  constructor
  · intro h
    unfold number at h
    split at h
    · cases h
    · next m hm =>
      split at h
      · next hlt =>
        cases h
        exact ⟨hlt, trim s, isPadded_trim s, digits?_eq_some_iff.1 hm⟩
      · cases h
  · rintro ⟨hlt, t, hpadded, ht⟩
    rw [trim_of_isPadded hpadded ht.ne_nil fun _ hc => ht.isWhite hc]
    simp only [number, digits?_eq_some_iff.2 ht, hlt, if_true]

/-- A range is read from the two numbers around its first hyphen. -/
theorem item_eq_ok_iff_of_cut {whole s first second : Text} {r : Nat × Nat}
    (hcut : cut? '-' s = some (first, second)) :
    item whole s = .ok r ↔ number whole (trim first) = .ok r.1 ∧
      number whole (trim second) = .ok r.2 ∧ r.1 ≤ r.2 := by
  obtain ⟨low, high⟩ := r
  simp only [item, hcut]
  cases number whole (trim first) with
  | error e => simp [bind, Except.bind]
  | ok m =>
    cases number whole (trim second) with
    | error e => simp [bind, Except.bind]
    | ok n =>
      simp only [bind, Except.bind, Except.ok.injEq]
      split
      · next hlt =>
        simp only [reduceCtorEq, false_iff]
        omega
      · next hle =>
        simp only [Except.ok.injEq, Prod.mk.injEq]
        omega

/-- A piece is read just if it is one of the grammar, and its numbers fit. -/
theorem item_eq_ok_iff {whole s : Text} {r : Nat × Nat} :
    item whole s = .ok r ↔ IsPiece s r ∧ Fits r := by
  constructor
  · intro h
    cases hcut : cut? '-' s with
    | none =>
      simp only [item, hcut] at h
      cases hn : number whole (trim s) with
      | error e =>
        rw [hn] at h
        cases h
      | ok n =>
        rw [hn] at h
        cases h
        obtain ⟨hlt, t, hpadded, ht⟩ := number_trim_eq_ok_iff.1 hn
        exact ⟨⟨t, hpadded, .single ht⟩, hlt, hlt, Nat.le_refl n⟩
    | some p =>
      obtain ⟨first, second⟩ := p
      obtain ⟨hlow, hhigh, hle⟩ := (item_eq_ok_iff_of_cut hcut).1 h
      obtain ⟨hlowlt, t, ⟨before, inner, hbefore, hinner, rfl⟩, ht⟩ := number_trim_eq_ok_iff.1 hlow
      obtain ⟨hhighlt, u, ⟨inner', after, hinner', hafter, rfl⟩, hu⟩ :=
        number_trim_eq_ok_iff.1 hhigh
      obtain ⟨rfl, -⟩ := cut?_eq_some_iff.1 hcut
      -- the white space next to the hyphen belongs to the range, and the rest surrounds it
      refine ⟨⟨t ++ inner ++ '-' :: inner' ++ u, ?_, .range ht hinner hinner' hu⟩,
        hlowlt, hhighlt, hle⟩
      exact ⟨before, after, hbefore, hafter, by simp⟩
  · rintro ⟨⟨t, ⟨before, after, hbefore, hafter, rfl⟩, ht⟩, hlow, hhigh, hle⟩
    cases ht with
    | @single t n ht =>
      have hhyphen : '-' ∉ before ++ t ++ after := by
        simp only [List.mem_append, not_or]
        refine ⟨⟨not_mem_of_isSpace hbefore ?_, ht.not_mem ?_⟩, not_mem_of_isSpace hafter ?_⟩ <;>
          decide
      have hnumber : number whole (trim (before ++ t ++ after)) = .ok n :=
        number_trim_eq_ok_iff.2 ⟨hlow, t, ⟨before, after, hbefore, hafter, rfl⟩, ht⟩
      simp only [item, cut?_eq_none hhyphen, hnumber]
      rfl
    | @range s inner inner' t low high hs hinner hinner' ht =>
      have hcut : cut? '-' (before ++ (s ++ inner ++ '-' :: inner' ++ t) ++ after) =
          some (before ++ s ++ inner, inner' ++ t ++ after) := by
        rw [cut?_eq_some_iff]
        refine ⟨by simp, ?_⟩
        simp only [List.mem_append, not_or]
        refine ⟨⟨not_mem_of_isSpace hbefore ?_, hs.not_mem ?_⟩, not_mem_of_isSpace hinner ?_⟩ <;>
          decide
      rw [item_eq_ok_iff_of_cut hcut]
      refine ⟨?_, ?_, hle⟩
      · exact number_trim_eq_ok_iff.2 ⟨hlow, s, ⟨before, inner, hbefore, hinner, rfl⟩, hs⟩
      · exact number_trim_eq_ok_iff.2 ⟨hhigh, t, ⟨inner', after, hinner', hafter, rfl⟩, ht⟩

/-- A list is read piece by piece. -/
theorem read_eq_ok_iff {s : Text} {rs : Ranges} :
    read s = .ok rs ↔ List.Forall₂ IsPiece (s.splitOn ',') rs ∧ ∀ r ∈ rs, Fits r := by
  rw [read, Except.mapM_eq_ok_iff]
  simp only [item_eq_ok_iff]
  exact forall₂_and_right_iff

/-! ## The set of numbers -/

/-- The ranges cover what lies in one of them. -/
theorem covers_iff {rs : Ranges} {n : Nat} :
    rs.covers n = true ↔ ∃ r ∈ rs, r.1 ≤ n ∧ n ≤ r.2 := by
  simp [covers]

/-- A sorted list without its repetitions is strictly ascending. -/
theorem pairwise_eraseDups {xs : List Nat} (h : xs.Pairwise (· ≤ ·)) :
    xs.eraseDups.Pairwise (· < ·) := by
  -- the head goes out of the rest altogether, so the induction is on the length
  induction hn : xs.length using Nat.strongRecOn generalizing xs with
  | ind n ih =>
    cases xs with
    | nil => exact .nil
    | cons x xs =>
      rw [List.eraseDups_cons]
      obtain ⟨hx, hxs⟩ := List.pairwise_cons.1 h
      apply List.Pairwise.cons
      · intro y hy
        obtain ⟨hmem, hne⟩ := List.mem_filter.1 (List.mem_eraseDups.1 hy)
        have hle := hx y hmem
        have hne' : y ≠ x := by simpa using hne
        omega
      · apply ih (xs.filter fun y => !y == x).length _ (hxs.filter _) rfl
        have hle := List.length_filter_le (fun y => !y == x) xs
        rw [List.length_cons] at hn
        omega

theorem pairwise_toSorted (rs : Ranges) : rs.toSorted.Pairwise (· < ·) := by
  apply pairwise_eraseDups
  exact List.pairwise_mergeSort' _ _

theorem mem_toSorted {rs : Ranges} {n : Nat} :
    n ∈ rs.toSorted ↔ ∃ r ∈ rs, r.1 ≤ n ∧ n ≤ r.2 := by
  have hrange : ∀ r : Nat × Nat,
      n ∈ (List.range (r.2 + 1 - r.1)).map (r.1 + ·) ↔ r.1 ≤ n ∧ n ≤ r.2 := by
    intro r
    rw [List.mem_map]
    constructor
    · rintro ⟨i, hi, rfl⟩
      have := List.mem_range.1 hi
      omega
    · intro h
      exact ⟨n - r.1, List.mem_range.2 (by omega), by omega⟩
  rw [toSorted, List.mem_eraseDups, List.mem_mergeSort, List.mem_flatMap]
  exact exists_congr fun r => and_congr_right fun _ => hrange r

/-! ## Writing a set -/

/-- The ranges are a way to write the set: none is reversed, and together they are its numbers. -/
structure Spells (rs : Ranges) (numbers : Finset Nat) : Prop where
  le : ∀ r ∈ rs, r.1 ≤ r.2
  mem_iff : ∀ n, n ∈ numbers ↔ ∃ r ∈ rs, r.1 ≤ n ∧ n ≤ r.2

/-- Every set can be written, number by number. -/
theorem exists_spells (numbers : Finset Nat) : ∃ rs, Spells rs numbers := by
  refine ⟨numbers.toList.map fun n => (n, n), ?_, ?_⟩
  · intro r hr
    obtain ⟨n, -, rfl⟩ := List.mem_map.1 hr
    exact Nat.le_refl n
  · intro n
    constructor
    · intro hn
      exact ⟨(n, n), List.mem_map.2 ⟨n, Finset.mem_toList.2 hn, rfl⟩, Nat.le_refl n, Nat.le_refl n⟩
    · rintro ⟨r, hr, hlow, hhigh⟩
      obtain ⟨m, hm, rfl⟩ := List.mem_map.1 hr
      have hsame : m = n := Nat.le_antisymm hlow hhigh
      exact hsame ▸ Finset.mem_toList.1 hm

namespace Spells

variable {rs : Ranges} {numbers : Finset Nat}

/-- A set of numbers of 64 bits is written with such numbers. -/
theorem isWritable (h : Spells rs numbers) (hne : numbers.Nonempty)
    (hlimit : ∀ n ∈ numbers, n < limit64) : rs.IsWritable := by
  constructor
  · rintro rfl
    obtain ⟨n, hn⟩ := hne
    obtain ⟨r, hr, -⟩ := (h.mem_iff n).1 hn
    cases hr
  · intro r hr
    have hle := h.le r hr
    exact ⟨hle, hlimit r.2 ((h.mem_iff r.2).2 ⟨r, hr, hle, Nat.le_refl _⟩)⟩

theorem toFinset_toSorted (h : Spells rs numbers) : rs.toSorted.toFinset = numbers := by
  ext n
  rw [List.mem_toFinset, mem_toSorted, h.mem_iff]

end Spells

/-- Exactly the texts whose pieces between commas are numbers and ranges are read, if the numbers
have 64 bits and no range is reversed. What is read stands for the numbers in its ranges, which are
listed in ascending order. A set of numbers that is not empty can be written as a list of ranges,
and is read back however it is written. -/
theorem read_denotes :
    (∀ (s : Text) (rs : Ranges),
      read s = .ok rs ↔ List.Forall₂ IsPiece (s.splitOn ',') rs ∧ ∀ r ∈ rs, Fits r) ∧
    (∀ rs : Ranges, rs.toSorted.Pairwise (· < ·) ∧
      ∀ n, (n ∈ rs.toSorted ↔ ∃ r ∈ rs, r.1 ≤ n ∧ n ≤ r.2) ∧
        (rs.covers n = true ↔ n ∈ rs.toSorted)) ∧
    ∀ numbers : Finset Nat, numbers.Nonempty → (∀ n ∈ numbers, n < limit64) →
      (∃ rs, Spells rs numbers) ∧
      ∀ rs, Spells rs numbers →
        ∃ rs', read rs.write = .ok rs' ∧ rs'.toSorted.toFinset = numbers := by
  refine ⟨fun s rs => read_eq_ok_iff, ?_, ?_⟩
  · intro rs
    refine ⟨pairwise_toSorted rs, ?_⟩
    intro n
    exact ⟨mem_toSorted, covers_iff.trans mem_toSorted.symm⟩
  · intro numbers hne hlimit
    refine ⟨exists_spells numbers, ?_⟩
    intro rs hrs
    exact ⟨rs, read_write (hrs.isWritable hne hlimit), hrs.toFinset_toSorted⟩

/-- White space and leading zeros are read over, and four numbers that are written as a range and a
number are read back. -/
theorem read_denotes_range_and_number :
    (∃ rs, read "\t3 -  5 ,09".toList = .ok rs ∧ rs = [(3, 5), (9, 9)] ∧
      List.Forall₂ IsPiece ("\t3 -  5 ,09".toList.splitOn ',') rs) ∧
    ({3, 4, 5, 9} : Finset Nat).Nonempty ∧ (∀ n ∈ ({3, 4, 5, 9} : Finset Nat), n < limit64) ∧
    Spells [(3, 5), (9, 9)] {3, 4, 5, 9} ∧
    ∃ rs', read (write [(3, 5), (9, 9)]) = .ok rs' ∧ rs'.toSorted.toFinset = {3, 4, 5, 9} := by
  have hread : read "\t3 -  5 ,09".toList = .ok [(3, 5), (9, 9)] := by rfl
  have hlimit : ∀ n ∈ ({3, 4, 5, 9} : Finset Nat), n < limit64 := by decide
  have hspells : Spells [(3, 5), (9, 9)] {3, 4, 5, 9} := by
    constructor
    · decide
    · intro n
      simp only [Finset.mem_insert, Finset.mem_singleton, List.mem_cons, List.not_mem_nil,
        or_false, exists_eq_or_imp, exists_eq_left]
      omega
  refine ⟨⟨_, hread, rfl, ?_⟩, by decide, hlimit, hspells, ?_⟩
  · exact ((read_denotes.1 _ _).1 hread).1
  · exact (read_denotes.2.2 {3, 4, 5, 9} (by decide) hlimit).2 _ hspells

end Ranges

end QueryWeave
