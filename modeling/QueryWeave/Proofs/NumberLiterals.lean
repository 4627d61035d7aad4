import QueryWeave.Proofs.ImportColumns
import QueryWeave.Proofs.NumberRanges

/-!
# Literals of numbers

What a cell must look like to be a number: white space around a literal, which is a whole number
that an exponent can follow, or a number with a decimal point. The parts of a literal are those in
which the type of a column is told.

Main statement: `exists_literal_of_isNumber`.
-/

namespace QueryWeave

open Text ColumnType

/-- A number in decimal notation. -/
inductive IsNumberLiteral : Text → Prop
  | whole {n e : Text} (hn : IsWhole n) (he : IsExponent e) : IsNumberLiteral (n ++ e)
  | decimal {s : Text} (hs : IsDecimal s) : IsNumberLiteral s

/-! ## Reading -/

namespace Numeral

variable {s : Text}

theorem exists_sign (s : Text) : ∃ before, IsSign before ∧ s = before ++ (sign s).2 := by
  unfold sign
  split
  · exact ⟨['-'], .minus, rfl⟩
  · exact ⟨['+'], .plus, rfl⟩
  · exact ⟨[], .none, rfl⟩

theorem isExponent_of_exponent? {e : Int} (h : exponent? s = some e) : IsExponent s := by
  unfold exponent? at h
  split at h
  · exact .none
  · next c r =>
    split at h
    · next hletter =>
      obtain ⟨_, hvalue, -⟩ := Option.map_eq_some_iff.1 h
      obtain ⟨n, hn, -⟩ := Option.bind_eq_some_iff.1 hvalue
      obtain ⟨before, hbefore, hr⟩ := exists_sign r
      have hdigits := digits?_eq_some_iff.1 hn
      exact .some hletter ⟨before, (sign r).2, hbefore, hdigits.isDigit, hdigits.ne_nil, hr⟩
    · cases h

theorem isNumberLiteral_of_unsigned? {before : Text} (hbefore : IsSign before) {negative : Bool}
    {n : Numeral} (h : unsigned? negative s = some n) : IsNumberLiteral (before ++ s) := by
  have hs : s.takeWhile isDigit ++ s.dropWhile isDigit = s := List.takeWhile_append_dropWhile
  have hwhole : IsDigits (s.takeWhile isDigit) := isDigits_takeWhile s
  unfold unsigned? at h
  dsimp only at h
  split at h
  · next t ht =>
    split at h
    · cases h
    · next hne =>
      obtain ⟨e, he, -⟩ := Option.map_eq_some_iff.1 h
      -- digits on one side of the point are enough
      have hsides : s.takeWhile isDigit ≠ [] ∨ t.takeWhile isDigit ≠ [] := by
        rw [List.append_eq_nil_iff] at hne
        exact not_and_or.1 hne
      refine .decimal ⟨before, s.takeWhile isDigit, t.takeWhile isDigit, t.dropWhile isDigit,
        hbefore, hwhole, isDigits_takeWhile t, hsides, isExponent_of_exponent? he, ?_⟩
      rw [List.takeWhile_append_dropWhile, ← ht, hs]
  · split at h
    · cases h
    · next hne =>
      obtain ⟨e, he, -⟩ := Option.map_eq_some_iff.1 h
      rw [List.append_nil] at hne
      rw [← hs, ← List.append_assoc]
      exact .whole ⟨before, _, hbefore, hwhole, hne, rfl⟩ (isExponent_of_exponent? he)

/-- What is read as a numeral is a literal. -/
theorem isNumberLiteral_of_read? {n : Numeral} (h : read? s = some n) : IsNumberLiteral s := by
  obtain ⟨before, hbefore, hs⟩ := exists_sign s
  rw [hs]
  exact isNumberLiteral_of_unsigned? hbefore h

/-- A character of a numeral. -/
def isPart (c : Char) : Bool := isDigit c || "+-.eE".toList.contains c

theorem isPart_of_isDigit {c : Char} (h : isDigit c = true) : isPart c = true := by
  rw [isPart, h, Bool.true_or]

end Numeral

/-- A cell that is a number is a literal between white space. -/
theorem exists_literal_of_isNumber {s : Text} (h : isNumber s = true) :
    ∃ t, IsPadded s t ∧ IsNumberLiteral t := by
  obtain ⟨x, hx⟩ := Option.isSome_iff_exists.1 h
  obtain ⟨-, n, hn⟩ := number?_eq_some hx
  exact ⟨trim s, isPadded_trim s, Numeral.isNumberLiteral_of_read? hn⟩

/-! ## Characters -/

section Characters

variable {s : Text} {c : Char}

theorem IsSign.isPart (h : IsSign s) (hc : c ∈ s) : Numeral.isPart c = true := by
  cases h with
  | none => cases hc
  | plus =>
    rw [List.mem_singleton.1 hc]
    decide
  | minus =>
    rw [List.mem_singleton.1 hc]
    decide

theorem IsDigits.isPart (h : IsDigits s) (hc : c ∈ s) : Numeral.isPart c = true :=
  Numeral.isPart_of_isDigit (h c hc)

theorem IsWhole.isPart (h : IsWhole s) (hc : c ∈ s) : Numeral.isPart c = true := by
  obtain ⟨sign, digits, hsign, hdigits, -, rfl⟩ := h
  rcases List.mem_append.1 hc with hc | hc
  · exact IsSign.isPart hsign hc
  · exact IsDigits.isPart hdigits hc

theorem IsExponent.isPart (h : IsExponent s) (hc : c ∈ s) : Numeral.isPart c = true := by
  cases h with
  | none => cases hc
  | some he hn =>
    rcases List.mem_cons.1 hc with rfl | hc
    · rcases he with rfl | rfl <;> decide
    · exact IsWhole.isPart hn hc

theorem IsDecimal.isPart (h : IsDecimal s) (hc : c ∈ s) : Numeral.isPart c = true := by
  obtain ⟨sign, whole, fraction, exponent, hsign, hwhole, hfraction, -, hexponent, rfl⟩ := h
  rcases List.mem_append.1 hc with hc | hc
  · exact IsSign.isPart hsign hc
  · rcases List.mem_append.1 hc with hc | hc
    · exact IsDigits.isPart hwhole hc
    · rcases List.mem_cons.1 hc with rfl | hc
      · decide
      · rcases List.mem_append.1 hc with hc | hc
        · exact IsDigits.isPart hfraction hc
        · exact IsExponent.isPart hexponent hc

/-- The characters of a literal are digits, signs, points and the letter of an exponent. -/
theorem IsNumberLiteral.isPart (h : IsNumberLiteral s) (hc : c ∈ s) : Numeral.isPart c = true := by
  cases h with
  | whole hn he =>
    rcases List.mem_append.1 hc with hc | hc
    · exact IsWhole.isPart hn hc
    · exact IsExponent.isPart he hc
  | decimal hs => exact IsDecimal.isPart hs hc

/-- Between white space, there is only that besides. -/
theorem isPart_or_isWhite_of_isPadded {t : Text} (hs : IsPadded s t) (ht : IsNumberLiteral t)
    (hc : c ∈ s) : Numeral.isPart c = true ∨ isWhite c = true := by
  obtain ⟨before, after, hbefore, hafter, rfl⟩ := hs
  rcases List.mem_append.1 hc with hc | hc
  · rcases List.mem_append.1 hc with hc | hc
    · exact .inr (hbefore c hc)
    · exact .inl (ht.isPart hc)
  · exact .inr (hafter c hc)

end Characters

end QueryWeave
