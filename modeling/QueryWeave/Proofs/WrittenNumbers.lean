import QueryWeave.Proofs.Characters
import QueryWeave.Proofs.Traversals
import QueryWeave.Reformat.Ranges

/-!
# Reading written numbers

A number that is written in digits is read back as it was, with or without a sign, if it fits into
the type that it is read as. So is a list of numbers and ranges, which is taken apart at its commas
and dashes, since digits are neither of them.

Main statements: `Text.nat?_ofNat` and `Text.int?_ofInt` for single numbers, `Ranges.read_write` for
lists.
-/

namespace QueryWeave

open Text

namespace Text

/-! ## Numbers -/

/-- Digits are read in base ten. -/
theorem digitsValue_eq (s : Text) : digitsValue s = Nat.ofDigitChars 10 s 0 := by
  rw [Nat.ofDigitChars_eq_foldl]
  rfl

@[simp] theorem digitsValue_ofNat (n : Nat) : digitsValue (ofNat n) = n := by
  rw [digitsValue_eq]
  exact Nat.ofDigitChars_toDigits (by decide) (by decide)

theorem ofNat_ne_nil (n : Nat) : ofNat n ≠ [] := Nat.toDigits_ne_nil

@[simp] theorem digits?_ofNat (n : Nat) : digits? (ofNat n) = some n := by
  have hall : (ofNat n).all isDigit = true := List.all_eq_true.2 fun _ => isDigit_of_mem_ofNat
  simp only [digits?, ofNat_ne_nil, hall, digitsValue_ofNat, ne_eq, not_false_eq_true, and_self,
    if_true]

/-- The digits of a number have no other character. -/
theorem not_mem_ofNat {n : Nat} {c : Char} (h : isDigit c = false) : c ∉ ofNat n := by
  intro hmem
  rw [isDigit_of_mem_ofNat hmem] at h
  cases h

theorem isWhite_of_isDigit {c : Char} (h : isDigit c = true) : isWhite c = false := by
  obtain ⟨hlow, hhigh⟩ : 48 ≤ c.toNat ∧ c.toNat ≤ 57 := by
    simpa [isDigit, Char.le_def, UInt32.le_iff_toNat_le] using h
  simp only [isWhite, Bool.or_eq_false_iff, Bool.and_eq_false_iff, decide_eq_false_iff_not,
    beq_eq_false_iff_ne]
  omega

/-- A number begins with a digit. -/
theorem exists_ofNat_eq_cons (n : Nat) : ∃ c r, ofNat n = c :: r ∧ isDigit c = true := by
  cases h : ofNat n with
  | nil => exact absurd h (ofNat_ne_nil n)
  | cons c r =>
    have hmem : c ∈ ofNat n := by
      rw [h]
      exact List.mem_cons_self ..
    exact ⟨c, r, rfl, isDigit_of_mem_ofNat hmem⟩

theorem nat?_ofNat {limit n : Nat} (h : n < limit) : nat? limit (ofNat n) = some n := by
  obtain ⟨c, r, hcons, hc⟩ := exists_ofNat_eq_cons n
  have hplus : c ≠ '+' := by
    rintro rfl
    cases hc
  have hread : nat? limit (ofNat n) = (digits? (ofNat n)).filter (· < limit) := by
    rw [hcons]
    unfold nat?
    split
    · next heq =>
      cases heq
      exact absurd rfl hplus
    · rfl
  rw [hread, digits?_ofNat]
  simp [h]

theorem int?_ofInt {limit : Nat} {i : Int} (hlow : -(limit : Int) ≤ i) (hhigh : i < limit) :
    int? limit (ofInt i) = some i := by
  unfold ofInt
  split
  · next hneg =>
    have hle : i.natAbs ≤ limit := by omega
    have hsame : -(i.natAbs : Int) = i := by omega
    have hread : int? limit ('-' :: ofNat i.natAbs) = some (-(i.natAbs : Int)) := by
      simp only [int?, digits?_ofNat, Option.filter, hle, decide_true, if_true]
      rfl
    rw [hread, hsame]
  · next hpos =>
    have hlt : i.natAbs < limit := by omega
    have hsame : (i.natAbs : Int) = i := by omega
    obtain ⟨c, r, hcons, hc⟩ := exists_ofNat_eq_cons i.natAbs
    have hread : int? limit (ofNat i.natAbs) =
        ((digits? (ofNat i.natAbs)).filter (· < limit)).map fun (n : Nat) => (n : Int) := by
      rw [hcons]
      unfold int?
      split
      · next heq =>
        cases heq
        cases hc
      · next heq =>
        cases heq
        cases hc
      · cases (digits? (c :: r)).filter (· < limit) <;> rfl
    rw [hread, digits?_ofNat]
    simp [Option.filter, hlt, hsame]

/-- The characters that a number with a sign is written with. -/
theorem isDigit_or_eq_of_mem_ofInt {i : Int} {c : Char} (h : c ∈ ofInt i) :
    isDigit c = true ∨ c = '-' := by
  unfold ofInt at h
  split at h
  · rcases List.mem_cons.1 h with h | h
    · exact .inr h
    · exact .inl (isDigit_of_mem_ofNat h)
  · exact .inl (isDigit_of_mem_ofNat h)

theorem ofInt_ne_nil (i : Int) : ofInt i ≠ [] := by
  unfold ofInt
  split
  · exact List.cons_ne_nil _ _
  · exact ofNat_ne_nil _

/-! ## Cutting -/

theorem cut?_eq_none {c : Char} {s : Text} (h : c ∉ s) : cut? c s = none := by
  cases hcut : cut? c s with
  | none => rfl
  | some p =>
    obtain ⟨hs, -⟩ := cut?_eq_some_iff.1 hcut
    exact absurd (by rw [hs]; simp) h

theorem notMem_of_cut?_eq_none {c : Char} {s : Text} (h : cut? c s = none) : c ∉ s := by
  intro hmem
  obtain ⟨a, b, rfl, ha⟩ := List.eq_append_cons_of_mem hmem
  rw [cut?_eq_some_iff.2 ⟨rfl, ha⟩] at h
  cases h

/-- Joined texts are the first one and then the others, each behind a separator. -/
theorem join_cons (separator s : Text) (xs : List Text) :
    join separator (s :: xs) = s ++ xs.flatMap (separator ++ ·) := by
  induction xs generalizing s with
  | nil => simp [join]
  | cons t xs ih => simp [join, ih t, List.append_assoc]

theorem join_eq_intercalate (separator : Text) (xs : List Text) :
    join separator xs = separator.intercalate xs := by
  fun_induction join separator xs with
  | case1 => rfl
  | case2 s => simp [List.intercalate]
  | case3 s t r ih => rw [ih, List.intercalate_cons_cons]

/-- Texts that were joined with a character are taken apart at it. -/
theorem splitOn_join {c : Char} {xs : List Text} (hne : xs ≠ []) (h : ∀ x ∈ xs, c ∉ x) :
    (join [c] xs).splitOn c = xs := by
  rw [join_eq_intercalate, List.splitOn_intercalate c h hne]

/-- The pieces of a text make the text when they are joined again. -/
theorem join_splitOn (c : Char) (s : Text) : join [c] (s.splitOn c) = s := by
  rw [join_eq_intercalate, List.intercalate_splitOn]

end Text

/-! ## Lists of ranges -/

namespace Ranges

/-- Ranges that can be written: they are not reversed, and their numbers have 64 bits. -/
def IsWritable (rs : Ranges) : Prop := rs ≠ [] ∧ ∀ r ∈ rs, r.1 ≤ r.2 ∧ r.2 < limit64

theorem number_ofNat (whole : Text) {n : Nat} (h : n < limit64) :
    number whole (trim (ofNat n)) = .ok n := by
  have htrim : trim (ofNat n) = ofNat n := by
    apply trim_eq_self
    intro c hc
    exact isWhite_of_isDigit (isDigit_of_mem_ofNat hc)
  rw [htrim, number, digits?_ofNat]
  simp only [h, if_true]

theorem item_writeItem (whole : Text) {r : Nat × Nat} (h : r.1 ≤ r.2 ∧ r.2 < limit64) :
    item whole (writeItem r) = .ok r := by
  obtain ⟨low, high⟩ := r
  obtain ⟨hle, hhigh⟩ := h
  have hlow : low < limit64 := Nat.lt_of_le_of_lt hle hhigh
  have hdash : ∀ n, '-' ∉ ofNat n := fun n => not_mem_ofNat (by decide)
  by_cases hsame : low = high
  · subst hsame
    simp only [writeItem, if_true, item, cut?_eq_none (hdash low), number_ofNat whole hlow]
    rfl
  · have hcut : cut? '-' (ofNat low ++ '-' :: ofNat high) = some (ofNat low, ofNat high) :=
      cut?_eq_some_iff.2 ⟨rfl, hdash low⟩
    simp only [writeItem, hsame, if_false, item, hcut, number_ofNat whole hlow,
      number_ofNat whole hhigh]
    show (if high < low then _ else _) = _
    rw [if_neg (by omega)]

/-- The characters that a range is written with. -/
theorem isDigit_or_eq_of_mem_writeItem {r : Nat × Nat} {c : Char} (h : c ∈ writeItem r) :
    isDigit c = true ∨ c = '-' := by
  obtain ⟨low, high⟩ := r
  simp only [writeItem] at h
  split at h
  · exact .inl (isDigit_of_mem_ofNat h)
  · rcases List.mem_append.1 h with h | h
    · exact .inl (isDigit_of_mem_ofNat h)
    · rcases List.mem_cons.1 h with h | h
      · exact .inr h
      · exact .inl (isDigit_of_mem_ofNat h)

/-- The characters that a list of ranges is written with. -/
theorem isDigit_or_eq_of_mem_write {rs : Ranges} {c : Char} (h : c ∈ rs.write) :
    isDigit c = true ∨ c = '-' ∨ c = ',' := by
  rcases mem_join h with h | ⟨x, hx, h⟩
  · exact .inr (.inr (List.mem_singleton.1 h))
  · obtain ⟨r, -, rfl⟩ := List.mem_map.1 hx
    exact (isDigit_or_eq_of_mem_writeItem h).imp_right .inl

/-- Ranges that are written are read back. -/
theorem read_write {rs : Ranges} (h : rs.IsWritable) : read rs.write = .ok rs := by
  have hcomma : ∀ x ∈ rs.map writeItem, ',' ∉ x := by
    intro x hx hmem
    obtain ⟨r, -, rfl⟩ := List.mem_map.1 hx
    exact absurd (isDigit_or_eq_of_mem_writeItem hmem) (by decide)
  have hitems : List.Forall₂ (fun x r => item rs.write x = .ok r) (rs.map writeItem) rs := by
    rw [List.forall₂_map_left_iff, List.forall₂_same]
    intro r hr
    exact item_writeItem rs.write (h.2 r hr)
  have hsplit : rs.write.splitOn ',' = rs.map writeItem :=
    splitOn_join (by simpa using h.1) hcomma
  rw [read, hsplit]
  exact Except.mapM_eq_ok_iff.2 hitems

end Ranges

end QueryWeave
