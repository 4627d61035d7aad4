import QueryWeave.Proofs.CellText
import QueryWeave.Proofs.Comments
import QueryWeave.Proofs.NumberLiterals

/-!
# Escaped tables

Under a clause that escapes all cells, the cells of a table cannot disturb the rows that they stand
in: the only ampersands that LaTeX sees are those between the cells, the only double backslash is
the one that ends the row, and no percent sign begins a comment. That a character stands behind a
backslash is not visible from the character alone, and two texts could combine where they meet; the
grammar `Text.Escaped` gives every backslash the character that it belongs to, so that escaped texts
can be put next to each other.

Main statement: `RowStyle.escaped_tables`.
-/

namespace QueryWeave

open Text

namespace Text

/-! ## Characters behind a backslash -/

/-- How often `c` stands in the text, not counting where it follows a backslash directly. Whether
the text itself follows one is told by `behind`. -/
def bareCount (c : Char) : (behind : Bool) → Text → Nat
  | _, [] => 0
  | behind, d :: s => (if d = c ∧ behind = false then 1 else 0) + bareCount c (d == '\\') s

/-- Text in which every backslash is followed by a character that belongs to it and is no backslash
itself. The special characters stand nowhere else. -/
inductive Escaped (special : Text) : Text → Prop
  | nil : Escaped special []
  | plain {c : Char} {s : Text} (hc : c ≠ '\\') (hspecial : c ∉ special) (hs : Escaped special s) :
    Escaped special (c :: s)
  | escape {c : Char} {s : Text} (hc : c ≠ '\\') (hs : Escaped special s) :
    Escaped special ('\\' :: c :: s)

namespace Escaped

variable {special s t : Text}

theorem append (hs : Escaped special s) (ht : Escaped special t) : Escaped special (s ++ t) := by
  induction hs with
  | nil => exact ht
  | plain hc hspecial _ ih => exact .plain hc hspecial ih
  | escape hc _ ih => exact .escape hc ih

theorem of_forall (h : ∀ c ∈ s, c ≠ '\\' ∧ c ∉ special) : Escaped special s := by
  induction s with
  | nil => exact .nil
  | cons c s ih =>
    obtain ⟨hc, hspecial⟩ := h c (List.mem_cons_self ..)
    exact .plain hc hspecial (ih fun d hd => h d (List.mem_cons_of_mem _ hd))

/-- Text without a backslash or a special character, as it can be decided. -/
theorem of_all (h : (s.all fun c => c != '\\' && !special.contains c) = true) :
    Escaped special s := by
  apply of_forall
  simpa using h

/-- Fewer characters may be special. -/
theorem mono {fewer : Text} (hsub : fewer ⊆ special) (h : Escaped special s) : Escaped fewer s := by
  induction h with
  | nil => exact .nil
  | plain hc hspecial _ ih => exact .plain hc (fun hmem => hspecial (hsub hmem)) ih
  | escape hc _ ih => exact .escape hc ih

theorem flatMap {f : Char → Text} (h : ∀ c ∈ s, Escaped special (f c)) :
    Escaped special (s.flatMap f) := by
  induction s with
  | nil => exact .nil
  | cons c s ih =>
    have hc := h c (List.mem_cons_self ..)
    exact hc.append (ih fun d hd => h d (List.mem_cons_of_mem _ hd))

theorem join {separator : Text} {xs : List Text} (hseparator : Escaped special separator)
    (h : ∀ x ∈ xs, Escaped special x) : Escaped special (Text.join separator xs) := by
  fun_induction Text.join separator xs with
  | case1 => exact .nil
  | case2 s => exact h s (List.mem_singleton_self s)
  | case3 s t r ih =>
    have hs := h s (List.mem_cons_self ..)
    exact (hs.append hseparator).append (ih fun x hx => h x (List.mem_cons_of_mem _ hx))

/-- Escaped text does not end with a backslash that is still to be followed, so what comes behind it
is counted as if it stood alone. -/
theorem bareCount_append (hs : Escaped special s) (c : Char) (t : Text) :
    bareCount c false (s ++ t) = bareCount c false s + bareCount c false t := by
  induction hs with
  | nil => simp [bareCount]
  | @plain d s hd _ _ ih =>
    have hbehind : (d == '\\') = false := beq_eq_false_iff_ne.2 hd
    simp only [List.cons_append, bareCount, hbehind, ih, Nat.add_assoc]
  | @escape d s hd _ ih =>
    have hbehind : (d == '\\') = false := beq_eq_false_iff_ne.2 hd
    simp only [List.cons_append, bareCount, hbehind, ih, Nat.add_assoc]

/-- Special characters stand only behind backslashes. -/
theorem bareCount_eq_zero (hs : Escaped special s) {c : Char} (hc : c ∈ special) (hne : c ≠ '\\') :
    bareCount c false s = 0 := by
  induction hs with
  | nil => rfl
  | @plain d s hd hspecial _ ih =>
    have hother : d ≠ c := fun hsame => hspecial (hsame ▸ hc)
    have hbehind : (d == '\\') = false := beq_eq_false_iff_ne.2 hd
    simp only [bareCount, hother, hbehind, ih, false_and, if_false]
  | @escape d s hd _ ih =>
    have hbehind : (d == '\\') = false := beq_eq_false_iff_ne.2 hd
    simp [bareCount, hne.symm, hbehind, ih]

/-- There are no two backslashes in a row, not even with one that follows the text. -/
theorem not_pair_infix (hs : Escaped special s) : ¬ ['\\', '\\'] <:+: s ++ ['\\'] := by
  -- the pair would begin with a backslash, and its second one is neither the character that belongs
  -- to the first one nor anything behind that
  induction hs with
  | nil => decide
  | @plain c s hc _ _ ih =>
    rw [List.cons_append, List.infix_cons_iff, not_or]
    refine ⟨?_, ih⟩
    intro hprefix
    exact hc (List.cons_prefix_cons.1 hprefix).1.symm
  | @escape c s hc _ ih =>
    rw [List.cons_append, List.cons_append, List.infix_cons_iff, List.infix_cons_iff, not_or,
      not_or]
    refine ⟨?_, ?_, ih⟩
    · intro hprefix
      exact hc (List.cons_prefix_cons.1 (List.cons_prefix_cons.1 hprefix).2).1.symm
    · intro hprefix
      exact hc (List.cons_prefix_cons.1 hprefix).1.symm

/-- Behind blanks and escaped text no special character comes first. -/
theorem head?_dropBlanks_append (hs : Escaped special s) {c : Char} (hc : c ∈ special)
    (hne : c ≠ '\\') (ht : (dropBlanks t).head? ≠ some c) :
    (dropBlanks (s ++ t)).head? ≠ some c := by
  induction hs with
  | nil => exact ht
  | @plain d s hd hspecial _ ih =>
    rw [List.cons_append, dropBlanks, List.dropWhile_cons]
    split
    · exact ih
    · intro hhead
      cases hhead
      exact hspecial hc
  | escape => exact fun hhead => hne (Option.some.inj hhead).symm

end Escaped

/-- Between texts without a bare ampersand, those of the separators are left. -/
theorem bareCount_join {special : Text} (hspecial : '&' ∈ special) {xs : List Text} (hxs : xs ≠ [])
    (h : ∀ x ∈ xs, Escaped special x) :
    bareCount '&' false (join " & " xs) + 1 = xs.length := by
  have hcell : ∀ x ∈ xs, bareCount '&' false x = 0 := fun x hx =>
    (h x hx).bareCount_eq_zero hspecial (by decide)
  have hseparator : Escaped [] " & ".toList := .of_all (by decide)
  fun_induction join (" & " : Text) xs with
  | case1 => exact absurd rfl hxs
  | case2 s => rw [hcell s (List.mem_singleton_self s), List.length_singleton]
  | case3 s t r ih =>
    have hs := h s (List.mem_cons_self ..)
    have hrest := ih (List.cons_ne_nil _ _) (fun x hx => h x (List.mem_cons_of_mem _ hx))
      fun x hx => hcell x (List.mem_cons_of_mem _ hx)
    have hone : bareCount '&' false " & ".toList = 1 := by decide
    rw [List.append_assoc, hs.bareCount_append, hseparator.bareCount_append,
      hcell s (List.mem_cons_self ..), hone, List.length_cons, ← hrest]
    omega

/-! ## Escaping -/

/-- The character that is meant behind a backslash, and the rest: one of three that have a name, or
the next one. -/
def ofCommand? (s : Text) : Option (Char × Text) :=
  match after? "textbackslash\x7b\x7d" s, after? "textasciitilde\x7b\x7d" s,
      after? "textasciicircum\x7b\x7d" s with
  | some r, _, _ => some ('\\', r)
  | none, some r, _ => some ('~', r)
  | none, none, some r => some ('^', r)
  | none, none, none => s.head?.map fun c => (c, s.tail)

/-- The character that a text of markup begins with, and the rest. -/
def ofLatex? : Text → Option (Char × Text)
  | [] => none
  | c :: s => if c = '\\' then ofCommand? s else some (c, s)

/-- The markup of a character is recognised before any text. -/
theorem ofLatex?_latexChar (c : Char) (s : Text) : ofLatex? (latexChar c ++ s) = some (c, s) := by
  unfold latexChar
  split
  · next hc =>
    rw [hc]
    rfl
  · next hbackslash =>
    split
    · next hc =>
      -- none of the names begins with such a character
      have hname : ∀ name : Text, after? ('t' :: name) (c :: s) = none := by
        intro name
        have hne : 't' ≠ c := by
          rintro rfl
          exact absurd hc (by decide)
        simp only [after?, hne, if_false]
      show ofCommand? (c :: s) = some (c, s)
      unfold ofCommand?
      rw [show after? "textbackslash\x7b\x7d" (c :: s) = none from hname _,
        show after? "textasciitilde\x7b\x7d" (c :: s) = none from hname _,
        show after? "textasciicircum\x7b\x7d" (c :: s) = none from hname _]
      rfl
    · split
      · next hc =>
        rw [hc]
        rfl
      · split
        · next hc =>
          rw [hc]
          rfl
        · exact if_neg hbackslash

/-- Different texts have different markup. -/
theorem latexEscape_injective : Function.Injective latexEscape := by
  intro s
  induction s with
  | nil =>
    intro t h
    cases t with
    | nil => rfl
    | cons c t =>
      have hread := ofLatex?_latexChar c (latexEscape t)
      rw [show latexChar c ++ latexEscape t = [] from h.symm] at hread
      cases hread
  | cons c s ih =>
    intro t h
    have hread := ofLatex?_latexChar c (latexEscape s)
    cases t with
    | nil =>
      rw [show latexChar c ++ latexEscape s = [] from h] at hread
      cases hread
    | cons d t =>
      -- both begin with the markup of their first characters
      rw [show latexChar c ++ latexEscape s = latexChar d ++ latexEscape t from h,
        ofLatex?_latexChar] at hread
      obtain ⟨rfl, hrest⟩ := Prod.mk.inj (Option.some.inj hread)
      rw [ih hrest.symm]

/-- The markup of a text can stand in a cell. -/
theorem escaped_latexEscape (s : Text) : Escaped ['&', '%'] (latexEscape s) := by
  apply Escaped.flatMap
  intro c _
  unfold latexChar
  split
  · exact .escape (by decide) (.of_all (by decide))
  · next hbackslash =>
    split
    · exact .escape hbackslash .nil
    · next hother =>
      split
      · exact .escape (by decide) (.of_all (by decide))
      · split
        · exact .escape (by decide) (.of_all (by decide))
        · apply Escaped.plain hbackslash _ .nil
          intro hmem
          apply hother
          exact (by decide : ['&', '%'] ⊆ "&%$#_\x7b\x7d".toList) hmem

end Text

/-! ## Cells -/

/-- Every cell is written as plain text, and no separator of groups is given, so that a comma is
used where groups are asked for. -/
structure Clause.Escapes (c : Clause) : Prop where
  escape : .overall .escape ∈ c
  group : ∀ separator, ¬ c.Mentions (.group (some separator))

namespace Clause.Escapes

variable {c : Clause}

theorem format_escape (h : c.Escapes) (row column : Nat) : (c.format row column).escape = true := by
  rw [(c.resolves row column).escape]
  exact isSome_strongest h.escape rfl row column

theorem format_group (h : c.Escapes) {row column : Nat} {separator : Text}
    (hgroup : (c.format row column).group = some separator) : separator = [','] := by
  rw [(c.resolves row column).group] at hgroup
  obtain ⟨s, hs, hgiven⟩ := exists_of_strongest hgroup
  cases s with
  | group g =>
    cases g with
    | none =>
      cases hgiven
      rfl
    | some separator => exact absurd hs (h.group separator)
  | escape | rounding | precision | width | digits | least | greatest => cases hgiven

end Clause.Escapes

/-- No number has a character that could disturb a row. -/
theorem CellFormat.escaped_number {f : CellFormat} {s : Text} {x : Double}
    (hgroup : ∀ separator, f.group = some separator → separator = [','])
    (hx : number? s = some x) : Escaped ['&', '%'] (f.number s x) := by
  have harmless : ∀ {c : Char}, Numeral.isPart c = true ∨ isWhite c = true ∨ isFigure c = true ∨
      c = ',' → c ≠ '\\' ∧ c ∉ ['&', '%'] := by
    intro c hc
    refine ⟨?_, ?_⟩
    · rintro rfl
      exact absurd hc (by decide)
    · intro hmem
      rcases List.mem_cons.1 hmem with rfl | hmem
      · exact absurd hc (by decide)
      · rw [List.mem_singleton.1 hmem] at hc
        exact absurd hc (by decide)
  have hnumber : isNumber s = true := by
    rw [isNumber, hx]
    rfl
  obtain ⟨literal, hs, hliteral⟩ := exists_literal_of_isNumber hnumber
  apply Escaped.of_forall
  intro c hc
  apply harmless
  rcases mem_number hc with hmem | rfl | hfigure | ⟨separator, hseparator, hmem⟩
  · exact (isPart_or_isWhite_of_isPadded hs hliteral hmem).imp_right .inl
  · exact .inr (.inl (by decide))
  · exact .inr (.inr (.inl hfigure))
  · rw [hgroup separator hseparator] at hmem
    exact .inr (.inr (.inr (List.mem_singleton.1 hmem)))

/-- The markup of extrema disturbs no row. -/
theorem Highlight.escaped_wrap (h : Highlight) {s : Text} (hs : Escaped ['&', '%'] s) :
    Escaped ['&', '%'] (h.wrap s) := by
  have hclose : Escaped ['&', '%'] ['}'] := .of_all (by decide)
  cases h with
  | none => exact hs
  | bold =>
    have hopen : Escaped ['&', '%'] "\\textbf\x7b".toList :=
      .escape (by decide) (.of_all (by decide))
    exact (hopen.append hs).append hclose
  | emph =>
    have hopen : Escaped ['&', '%'] "\\emph\x7b".toList :=
      .escape (by decide) (.of_all (by decide))
    exact (hopen.append hs).append hclose

/-- A cell is a number or escaped text. -/
theorem Reformat.escaped_cell {r : Reformat} (hr : r.clause.Escapes) (row column : Nat) (s : Text) :
    Escaped ['&', '%'] (r.cell row column s) := by
  unfold cell
  dsimp only
  split
  · next x hx =>
    apply Highlight.escaped_wrap
    exact CellFormat.escaped_number (fun _ hseparator => hr.format_group hseparator) hx
  · rw [if_pos (hr.format_escape row column)]
    exact escaped_latexEscape s

/-! ## Rows -/

/-- A line that LaTeX takes as one row of so many columns: it is divided by bare ampersands, ends in
the only double backslash, and is a comment neither from its beginning nor from anywhere else. -/
structure IsSoundRow (columns : Nat) (line : Text) : Prop where
  ampersands : bareCount '&' false line + 1 = columns
  percents : bareCount '%' false line = 0
  /-- The row ends in two backslashes, and there are no others next to each other. -/
  backslashes : ∃ body, line = body ++ ['\\', '\\'] ∧ ¬ ['\\', '\\'] <:+: body ++ ['\\']
  notComment : CommentStyle.isComment ⟨'%'⟩ line = false

/-- Escaped cells make a sound row. -/
theorem isSoundRow_of_escaped {cells : List Text} (hne : cells ≠ [])
    (h : ∀ c ∈ cells, Escaped ['&', '%'] c) :
    IsSoundRow cells.length (join " & " cells ++ " \\\\".toList) := by
  have hpercent : ∀ c ∈ cells, Escaped ['%'] c := fun c hc =>
    (h c hc).mono (List.subset_cons_self ..)
  have hjoin : Escaped ['%'] (join " & " cells) := .join (.of_all (by decide)) hpercent
  have hbody : Escaped ['%'] (join " & " cells ++ [' ']) := hjoin.append (.of_all (by decide))
  constructor
  case ampersands =>
    have hterminator : bareCount '&' false " \\\\".toList = 0 := by decide
    rw [hjoin.bareCount_append, hterminator, Nat.add_zero]
    exact bareCount_join (by decide) hne h
  case percents =>
    have hterminator : bareCount '%' false " \\\\".toList = 0 := by decide
    rw [hjoin.bareCount_append, hterminator, hjoin.bareCount_eq_zero (by decide) (by decide)]
  case backslashes =>
    refine ⟨join " & " cells ++ [' '], ?_, hbody.not_pair_infix⟩
    rw [List.append_assoc]
    rfl
  case notComment =>
    rw [Bool.eq_false_iff, ne_eq, CommentStyle.isComment_iff]
    exact hjoin.head?_dropBlanks_append (by decide) (by decide) (by decide)

namespace RowStyle

/-- Under a clause that escapes all cells, a table of at least one column is written in sound rows,
one for each of its own. -/
theorem isSoundRow_of_mem_render {t : ResultTable} {r : Reformat} {line : Text}
    (hcolumns : 0 < t.columnCount) (hr : r.clause.Escapes) (hline : line ∈ tabular.render t r) :
    IsSoundRow t.columnCount line := by
  obtain ⟨row, -, i, texts, hlength, rfl, htexts⟩ := exists_of_mem_render hline
  have hne : texts ≠ [] := List.ne_nil_of_length_pos (hlength ▸ hcolumns)
  rw [← hlength]
  apply isSoundRow_of_escaped hne
  intro x hx
  obtain ⟨c, -, j, n, rfl⟩ := htexts x hx
  -- a cell is filled up with spaces
  have hspaces : Escaped ['&', '%'] (fill n ' ') := by
    apply Escaped.of_forall
    intro d hd
    rw [List.eq_of_mem_replicate hd]
    decide
  exact hspaces.append (Reformat.escaped_cell hr i j c.text)

/-- Whatever the cells of a table are, they do not disturb its rows under a clause that escapes
them, and different texts stand there as different markup. -/
theorem escaped_tables :
    (∀ (t : ResultTable) (r : Reformat), 0 < t.columnCount → r.clause.Escapes →
      (tabular.render t r).length = t.rowCount ∧
      ∀ line ∈ tabular.render t r, IsSoundRow t.columnCount line) ∧
    Function.Injective latexEscape := by
  refine ⟨?_, latexEscape_injective⟩
  intro t r hcolumns hr
  refine ⟨?_, fun line hline => isSoundRow_of_mem_render hcolumns hr hline⟩
  simp only [render, cells, List.length_map, List.length_mapIdx, ResultTable.rowCount]

/-- Cells of backslashes, ampersands and percent signs, and a number that is grouped and marked. -/
theorem escaped_tables_two_columns :
    let t : ResultTable :=
      ⟨[], ["name", "time"], [[some "\\&", some "12345"], [some "%\\", some " 7"], [none, none]]⟩
    let r := Reformat.ofTable
      [.overall .escape, .overall (.group none), .lines .column [(1, 1)] [.greatest .bold]] t
    0 < t.columnCount ∧ r.clause.Escapes ∧
      tabular.render t r =
        ["\\textbackslash\x7b\x7d\\& & \\textbf\x7b12,345\x7d \\\\".toList,
          "\\%\\textbackslash\x7b\x7d &               7 \\\\".toList,
          "                   &                 \\\\".toList] ∧
      ∀ line ∈ tabular.render t r, IsSoundRow 2 line := by
  intro t r
  have hr : r.clause.Escapes := by
    constructor
    · exact List.mem_cons_self ..
    · intro separator
      simp [Clause.Mentions, r, Reformat.ofTable]
  refine ⟨by decide, hr, ?_, (escaped_tables.1 t r (by decide) hr).2⟩
  decide +kernel

end RowStyle

end QueryWeave
