import QueryWeave.Number.Magnitude
import QueryWeave.Proofs.ImportColumns
import QueryWeave.Proofs.ReplacedWords

/-!
# Groups of three digits

The digits before the point are written in groups of three, from the point on to the left. The
separators are set in one pass from the left, by the number of digits that are still to come; what
this gives is the only way to cut the digits into groups of three that leaves a first group of one
to three digits (`IsGrouping.unique`). Nothing else about the number changes, so that it is found
again when the separators are taken out.

Main statement: `PlainNumeral.groupThousands_text`.
-/

namespace QueryWeave

open Text ColumnType

/-! ## Groups -/

/-- Digits are cut into groups: every group has three of them but for the first, which has one to
three. -/
structure IsGrouping (digits first : Text) (groups : List Text) : Prop where
  flatten : first ++ groups.flatten = digits
  ne_nil : first ≠ []
  length_first : first.length ≤ 3
  length : ∀ g ∈ groups, g.length = 3

namespace IsGrouping

variable {digits first first' : Text} {groups groups' : List Text}

theorem length_digits (h : IsGrouping digits first groups) :
    digits.length = first.length + 3 * groups.length := by
  have hlengths : groups.map List.length = groups.map fun _ => 3 := List.map_congr_left h.length
  rw [← h.flatten, List.length_append, List.length_flatten, hlengths, List.map_const',
    List.sum_replicate_nat, Nat.mul_comm]

/-- There is one way to cut digits into groups. -/
theorem unique (h : IsGrouping digits first groups) (h' : IsGrouping digits first' groups') :
    first = first' ∧ groups = groups' := by
  have hlength := h.length_digits
  rw [h'.length_digits] at hlength
  have hpos := List.length_pos_iff.2 h.ne_nil
  have hpos' := List.length_pos_iff.2 h'.ne_nil
  have hle := h.length_first
  have hle' := h'.length_first
  -- the number of digits in the first group is told by the number of all digits
  have hfirst : first.length = first'.length := by omega
  have hgroups : groups.length = groups'.length := by omega
  obtain ⟨heq, hflatten⟩ := List.append_inj (h.flatten.trans h'.flatten.symm) hfirst
  refine ⟨heq, List.eq_iff_flatten_eq.2 ⟨hflatten, ?_⟩⟩
  rw [List.map_congr_left h.length, List.map_congr_left h'.length, List.map_const',
    List.map_const', hgroups]

end IsGrouping

/-- One pass over digits cuts them into groups with separators between them. -/
theorem exists_isGrouping_grouped (separator : Text) {digits : Text} (hne : digits ≠ []) :
    ∃ first groups, IsGrouping digits first groups ∧
      groupThousands.grouped separator digits = join separator (first :: groups) := by
  fun_induction groupThousands.grouped separator digits with
  | case1 => exact absurd rfl hne
  | case2 c => exact ⟨[c], [], ⟨rfl, by simp, by simp, by simp⟩, rfl⟩
  | case3 c d s hmod ih =>
    -- the digits after this one fill their groups, and it is a group of its own
    obtain ⟨first, groups, h, hgrouped⟩ := ih (List.cons_ne_nil d s)
    have hfirst : first.length = 3 := by
      have hlength := h.length_digits
      have hpos := List.length_pos_iff.2 h.ne_nil
      have hle := h.length_first
      omega
    refine ⟨[c], first :: groups, ⟨?_, by simp, by simp, ?_⟩, ?_⟩
    · rw [List.flatten_cons, h.flatten, List.singleton_append]
    · exact List.forall_mem_cons.2 ⟨hfirst, h.length⟩
    · rw [hgrouped]
      rfl
  | case4 c d s hmod ih =>
    -- there is room for this digit in the first group
    obtain ⟨first, groups, h, hgrouped⟩ := ih (List.cons_ne_nil d s)
    have hroom : first.length < 3 := by
      have hlength := h.length_digits
      have hle := h.length_first
      omega
    refine ⟨c :: first, groups, ⟨?_, by simp, hroom, h.length⟩, ?_⟩
    · rw [List.cons_append, h.flatten]
    · rw [hgrouped, join_cons, join_cons, List.cons_append]

/-! ## Numerals -/

/-- A number in digits: a minus sign if it is negative, one or more digits, and the digits after the
point if there is one. -/
structure PlainNumeral where
  negative : Bool
  whole : Text
  fraction : Option Text
  ne_nil : whole ≠ []
  isDigits_whole : IsDigits whole
  isDigits_fraction : ∀ digits ∈ fraction, IsDigits digits

namespace PlainNumeral

variable (n : PlainNumeral)

/-- The point and the digits after it. -/
def tail : Text := n.fraction.elim [] ('.' :: ·)

/-- The number as it is written. -/
def text : Text := Double.signedText n.negative (n.whole ++ n.tail)

/-! ## Grouped numerals -/

theorem takeWhile_dropWhile_point :
    (n.whole ++ n.tail).takeWhile (· != '.') = n.whole ∧
      (n.whole ++ n.tail).dropWhile (· != '.') = n.tail := by
  apply takeWhile_dropWhile_append
  · intro c hc
    rw [bne_iff_ne]
    rintro rfl
    exact absurd (n.isDigits_whole '.' hc) (by decide)
  · intro c hc
    rw [tail] at hc
    cases hfraction : n.fraction with
    | none =>
      rw [hfraction] at hc
      cases hc
    | some digits =>
      rw [hfraction] at hc
      cases hc
      rfl

theorem head?_whole : (n.whole ++ n.tail).head? ≠ some '-' := by
  obtain ⟨c, s, hwhole⟩ := List.exists_cons_of_ne_nil n.ne_nil
  rw [hwhole, List.cons_append, List.head?_cons]
  intro hc
  have hdigit := n.isDigits_whole c (hwhole ▸ List.mem_cons_self ..)
  rw [Option.some.inj hc] at hdigit
  exact absurd hdigit (by decide)

/-- The sign and the fraction stay, and the digits between them are grouped. -/
theorem groupThousands_eq (separator : Text) :
    groupThousands separator n.text =
      Double.signedText n.negative (groupThousands.grouped separator n.whole ++ n.tail) := by
  obtain ⟨hwhole, htail⟩ := n.takeWhile_dropWhile_point
  cases hsign : n.negative with
  | true =>
    rw [text, hsign]
    simp only [Double.signedText, if_true]
    rw [groupThousands_minus, hwhole, htail]
  | false =>
    rw [text, hsign]
    simp only [Double.signedText, Bool.false_eq_true, if_false]
    rw [groupThousands_of_head?_ne separator n.head?_whole, hwhole, htail]

/-- A character that no numeral has does not occur in this one. -/
theorem notMem_of_foreign {c : Char} (hdigit : isDigit c = false) (hpoint : c ≠ '.') :
    c ∉ n.whole ∧ c ∉ n.tail := by
  have hdigits : ∀ s, IsDigits s → c ∉ s := by
    intro s hs hc
    rw [hs c hc] at hdigit
    cases hdigit
  refine ⟨hdigits _ n.isDigits_whole, ?_⟩
  rw [tail]
  cases hfraction : n.fraction with
  | none => exact List.not_mem_nil
  | some digits =>
    refine List.not_mem_cons_of_ne_of_not_mem hpoint (hdigits digits ?_)
    exact n.isDigits_fraction digits (hfraction ▸ rfl)

/-- Without the separators, the number is what it was. -/
theorem replaceWord_groupThousands {c : Char} {rest : Text} (hdigit : isDigit c = false)
    (hpoint : c ≠ '.') (hsign : c ≠ '-') :
    replaceWord c rest [] (groupThousands (c :: rest) n.text) = n.text := by
  obtain ⟨hwhole, htail⟩ := n.notMem_of_foreign hdigit hpoint
  obtain ⟨first, groups, h, hgrouped⟩ := exists_isGrouping_grouped (c :: rest) n.ne_nil
  have hpieces : ∀ p ∈ first :: groups, c ∉ p := by
    intro p hp hc
    refine hwhole ?_
    rw [← h.flatten, ← List.flatten_cons]
    exact List.mem_flatten_of_mem hp hc
  have hunsigned : replaceWord c rest [] (groupThousands.grouped (c :: rest) n.whole ++ n.tail) =
      n.whole ++ n.tail := by
    have hfree : ¬ c :: rest <:+: n.tail := fun hheld => htail (hheld.mem (List.mem_cons_self ..))
    rw [hgrouped, replaceWord_join_append hpieces, replaceWord_of_free hfree, join_nil_left,
      List.flatten_cons, h.flatten]
  rw [groupThousands_eq, text]
  cases n.negative with
  | true =>
    have hminus : c ∉ ['-'] := fun hc => hsign (List.mem_singleton.1 hc)
    have hsigned : ∀ s : Text, replaceWord c rest [] ('-' :: s) = '-' :: replaceWord c rest [] s :=
      replaceWord_append_of_notMem hminus
    simp only [Double.signedText, if_true]
    rw [hsigned, hunsigned]
  | false => exact hunsigned

/-- Of a number that is grouped, the digits before the point are cut into groups, in the only way in
which all have three digits but for a first one of one to three; these are joined by the separator,
between the sign and the fraction as they were. If no character of the separator can stand in a
number, taking the separators out gives the number back. -/
theorem groupThousands_text (n : PlainNumeral) (separator : Text) :
    (∃ first groups,
      (∀ first' groups', IsGrouping n.whole first' groups' ↔ first' = first ∧ groups' = groups) ∧
      groupThousands separator n.text =
        Double.signedText n.negative (join separator (first :: groups) ++ n.tail)) ∧
    ∀ c rest, separator = c :: rest →
      (∀ d ∈ separator, isDigit d = false ∧ d ≠ '.' ∧ d ≠ '-') →
      replaceWord c rest [] (groupThousands separator n.text) = n.text := by
  constructor
  · obtain ⟨first, groups, h, hgrouped⟩ := exists_isGrouping_grouped separator n.ne_nil
    refine ⟨first, groups, fun first' groups' => ⟨fun h' => h'.unique h, ?_⟩, ?_⟩
    · rintro ⟨rfl, rfl⟩
      exact h
    · rw [groupThousands_eq, hgrouped]
  · rintro c rest rfl hforeign
    obtain ⟨hdigit, hpoint, hsign⟩ := hforeign c (List.mem_cons_self ..)
    exact n.replaceWord_groupThousands hdigit hpoint hsign

/-- Six digits and a fraction, with a separator of two characters. -/
theorem groupThousands_text_two_characters :
    let n : PlainNumeral :=
      ⟨true, "123456".toList, some "7890".toList, by decide, List.all_eq_true.1 (by decide),
        by rintro _ ⟨⟩; exact List.all_eq_true.1 (by decide)⟩
    IsGrouping n.whole "123".toList ["456".toList] ∧
      groupThousands "\\,".toList n.text = "-123\\,456.7890".toList ∧
      replaceWord '\\' [','] [] "-123\\,456.7890".toList = "-123456.7890".toList := by
  intro n
  obtain ⟨⟨first, groups, honly, hgrouped⟩, hremoved⟩ := groupThousands_text n "\\,".toList
  have h : IsGrouping n.whole "123".toList ["456".toList] :=
    ⟨by decide, by decide, by decide, by decide⟩
  obtain ⟨rfl, rfl⟩ := (honly _ _).1 h
  have hback := hremoved '\\' [','] rfl (by simp [isDigit])
  rw [hgrouped] at hback
  exact ⟨h, hgrouped, hback⟩

end PlainNumeral

end QueryWeave
