import QueryWeave.Layout.RowTable
import QueryWeave.Proofs.ClauseFormats
import QueryWeave.Proofs.Splicing
import QueryWeave.Reformat.Reader

/-!
# Rows are lines

A cell is rounded, grouped, padded, marked up or escaped before it stands in a row, under a clause
that was read from the directive. None of this puts a newline into the row that was not in a cell or
in the directive, whose clause can name a separator of its own.

Main statements: `Clause.isOneLine_of_ofQuery` for what is read, `RowStyle.newline_mem_render` for
what is written.
-/

namespace QueryWeave

open Text

/-! ## Numbers -/

/-- A character that numbers are written with, finite or not. -/
def Text.isFigure (c : Char) : Bool := isDigit c || "-.infNaN".toList.contains c

namespace Double

private theorem isFigure_ofNat {n : Nat} : ∀ c ∈ Text.ofNat n, isFigure c = true := by
  intro c hc
  rw [isFigure, isDigit_of_mem_ofNat hc, Bool.true_or]

private theorem isFigure_signedText {negative : Bool} {s : Text}
    (h : ∀ c ∈ s, isFigure c = true) : ∀ c ∈ signedText negative s, isFigure c = true := by
  intro c hc
  cases negative with
  | false => exact h c hc
  | true =>
    rcases List.mem_cons.1 hc with rfl | hc
    · decide
    · exact h c hc

private theorem isFigure_withPoint {s : Text} (places : Nat) (h : ∀ c ∈ s, isFigure c = true) :
    ∀ c ∈ withPoint s places, isFigure c = true := by
  have hpadded : ∀ c ∈ Text.fill (places + 1 - s.length) '0' ++ s, isFigure c = true := by
    intro c hc
    rcases List.mem_append.1 hc with hc | hc
    · rw [List.eq_of_mem_replicate hc]
      decide
    · exact h c hc
  unfold withPoint
  dsimp only
  split
  · exact hpadded
  · intro c hc
    rcases List.mem_append.1 hc with hc | hc
    · exact hpadded c (List.mem_of_mem_take hc)
    · rcases List.mem_cons.1 hc with rfl | hc
      · decide
      · exact hpadded c (List.mem_of_mem_drop hc)

/-- What a number with a fixed count of decimals is written with. -/
theorem isFigure_of_mem_fixed {places : Nat} {x : Double} {c : Char} (h : c ∈ fixed places x) :
    isFigure c = true := by
  cases x with
  | finite a m => exact isFigure_signedText (isFigure_withPoint _ isFigure_ofNat) c h
  | infinite a => exact isFigure_signedText (List.all_eq_true.1 (by decide)) c h
  | nan => exact List.all_eq_true.1 (by decide : "NaN".toList.all isFigure = true) c h

/-- What a number with the fewest digits is written with. -/
theorem isFigure_of_mem_plain {x : Double} {c : Char} (h : c ∈ plain x) : isFigure c = true := by
  have hpositional : ∀ n e, ∀ c ∈ positional n e, isFigure c = true := by
    intro n e
    unfold positional
    split
    · exact isFigure_ofNat
    · exact isFigure_withPoint _ isFigure_ofNat
  cases x with
  | finite a m =>
    simp only [plain] at h
    split at h
    · exact isFigure_signedText (List.all_eq_true.1 (by decide)) c h
    · exact isFigure_signedText (hpositional _ _) c h
  | infinite a => exact isFigure_signedText (List.all_eq_true.1 (by decide)) c h
  | nan => exact List.all_eq_true.1 (by decide : "NaN".toList.all isFigure = true) c h

end Double

private theorem mem_grouped {separator s : Text} {c : Char}
    (h : c ∈ groupThousands.grouped separator s) : c ∈ separator ∨ c ∈ s := by
  fun_induction groupThousands.grouped separator s with
  | case1 => exact .inr h
  | case2 d => exact .inr h
  | case3 d e t hgroup ih =>
    -- a group ends here
    rcases List.mem_cons.1 h with rfl | h
    · exact .inr (List.mem_cons_self ..)
    · rcases List.mem_append.1 h with h | h
      · exact .inl h
      · exact (ih h).imp_right (List.mem_cons_of_mem _)
  | case4 d e t hgroup ih =>
    rcases List.mem_cons.1 h with rfl | h
    · exact .inr (List.mem_cons_self ..)
    · exact (ih h).imp_right (List.mem_cons_of_mem _)

/-- Grouping adds nothing but the separator. -/
theorem mem_groupThousands {separator s : Text} {c : Char} (h : c ∈ groupThousands separator s) :
    c ∈ separator ∨ c ∈ s := by
  -- the digits before the point are grouped, and those after it stand as they are
  have whole : ∀ t : Text,
      c ∈ groupThousands.grouped separator (t.takeWhile (· != '.')) ++ t.dropWhile (· != '.') →
        c ∈ separator ∨ c ∈ t := by
    intro t h
    rcases List.mem_append.1 h with h | h
    · exact (mem_grouped h).imp_right fun h => List.takeWhile_subset _ h
    · exact .inr (List.dropWhile_subset _ h)
  by_cases hsign : s.head? = some '-'
  · -- a sign stands before the groups
    obtain ⟨s, rfl⟩ := List.head?_eq_some_iff.1 hsign
    rw [groupThousands_minus] at h
    rcases List.mem_cons.1 h with rfl | h
    · exact .inr (List.mem_cons_self ..)
    · exact (whole s h).imp_right (List.mem_cons_of_mem _)
  · rw [groupThousands_of_head?_ne separator hsign] at h
    exact whole s h

/-! ## Clauses -/

/-- A setting that names no separator of several lines. -/
def Setting.IsOneLine : Setting → Prop
  | .group (some separator) => '\n' ∉ separator
  | _ => True

/-- An item with such settings. -/
def ClauseItem.IsOneLine : ClauseItem → Prop
  | .overall s => s.IsOneLine
  | .lines _ _ settings => ∀ s ∈ settings, s.IsOneLine

/-- A clause with such settings. -/
def Clause.IsOneLine (c : Clause) : Prop := ∀ item ∈ c, item.IsOneLine

/-! ## Reading clauses -/

namespace Clause

/-! ### Nothing is read that was not in the text -/

private theorem subset_of_nextKey {clause s key rest : Text}
    (h : nextKey clause s = .ok (some (key, rest))) : rest ⊆ s := by
  unfold nextKey at h
  split at h
  · cases h
  · next c r hr =>
    split at h
    · cases h
      apply List.Subset.trans (List.dropWhile_subset _)
      intro d hd
      exact List.dropWhile_subset isBlank (hr ▸ List.mem_cons_of_mem _ hd : d ∈ dropBlanks s)
    · cases h

private theorem subset_of_balanced? {depth : Nat} {s v rest : Text}
    (h : balanced? depth s = some (v, rest)) : v ⊆ s ∧ rest ⊆ s := by
  induction s generalizing depth v with
  | nil => simp [balanced?] at h
  | cons c s ih =>
    -- a character that does not close the text belongs to it, at any depth
    have step : ∀ {d : Nat}, (balanced? d s).map (Prod.map (c :: ·) id) = some (v, rest) →
        v ⊆ c :: s ∧ rest ⊆ c :: s := by
      intro d hd
      obtain ⟨⟨a, r⟩, hrec, heq⟩ := Option.map_eq_some_iff.1 hd
      cases heq
      obtain ⟨ha, hr⟩ := ih hrec
      exact ⟨List.cons_subset_cons c ha, List.subset_cons_of_subset c hr⟩
    unfold balanced? at h
    split at h
    · exact step h
    · split at h
      · cases depth with
        | zero =>
          cases h
          exact ⟨List.nil_subset _, List.subset_cons_self ..⟩
        | succ d => exact step h
      · exact step h

private theorem subset_of_plainValue {s v rest : Text} (h : plainValue s = .ok (v, rest)) :
    v ⊆ s ∧ rest ⊆ s := by
  unfold plainValue at h
  split at h
  · split at h
    · next hv =>
      cases h
      obtain ⟨hv, hr⟩ := subset_of_balanced? hv
      exact ⟨List.subset_cons_of_subset _ hv, List.subset_cons_of_subset _ hr⟩
    · cases h
  · cases h
    exact ⟨List.takeWhile_subset _, List.dropWhile_subset _⟩

private theorem subset_of_value {s v rest : Text} (h : value s = .ok (v, rest)) :
    v ⊆ s ∧ rest ⊆ s := by
  have hs : dropBlanks s ⊆ s := List.dropWhile_subset _
  unfold value at h
  split at h
  · next r hr =>
    have hrest : dropBlanks r ⊆ s := List.Subset.trans (List.dropWhile_subset _) fun c hc =>
      hs (hr ▸ List.mem_cons_of_mem _ hc)
    obtain ⟨hv, hleft⟩ := subset_of_plainValue h
    exact ⟨List.Subset.trans hv hrest, List.Subset.trans hleft hrest⟩
  · obtain ⟨hv, hleft⟩ := subset_of_plainValue h
    exact ⟨List.Subset.trans hv hs, List.Subset.trans hleft hs⟩

private theorem subset_of_assigned {s rest : Text} {v : Option Text}
    (h : assigned s = .ok (v, rest)) : (∀ t, v = some t → t ⊆ s) ∧ rest ⊆ s := by
  unfold assigned at h
  split at h
  · next r hr =>
    have hs : dropBlanks s ⊆ s := List.dropWhile_subset _
    have hrest : dropBlanks r ⊆ s := List.Subset.trans (List.dropWhile_subset _) fun c hc =>
      hs (hr ▸ List.mem_cons_of_mem _ hc)
    obtain ⟨⟨v, rest⟩, hp, heq⟩ := Except.map_eq_ok h
    cases heq
    obtain ⟨hv, hleft⟩ := subset_of_plainValue hp
    refine ⟨fun t ht => ?_, List.Subset.trans hleft hrest⟩
    cases ht
    exact List.Subset.trans hv hrest
  · cases h
    exact ⟨fun t ht => (by cases ht), List.Subset.refl _⟩

/-! ### No setting that is read has several lines -/

/-- A setting with a value that is not a separator is in one line. -/
private theorem isOneLine_of_valued? {key v : Text}
    {understand : Text → Except ClauseError Setting} (hkey : valued? key = some understand)
    {x : Setting} (h : understand v = .ok x) : x.IsOneLine := by
  have mapped : ∀ {α : Type} {r : Except ClauseError α} {f : α → Setting},
      r.map f = .ok x → (∀ a, (f a).IsOneLine) → x.IsOneLine := by
    intro α r f hr hf
    obtain ⟨a, -, rfl⟩ := Except.map_eq_ok hr
    exact hf a
  -- the keys are tried one after the other
  unfold valued? at hkey
  split at hkey
  · cases hkey
    dsimp only at h
    split at h
    · cases h
      trivial
    · split at h
      · cases h
        trivial
      · exact mapped h fun _ => trivial
  · split at hkey
    · cases hkey
      exact mapped h fun _ => trivial
    · split at hkey
      · cases hkey
        exact mapped h fun _ => trivial
      · split at hkey
        · cases hkey
          dsimp only at h
          split at h
          · split at h
            · cases h
              trivial
            · cases h
          · cases h
        · split at hkey
          · cases hkey
            exact mapped h fun _ => trivial
          · split at hkey
            · cases hkey
              exact mapped h fun _ => trivial
            · cases hkey

/-- A setting is read from one line as one of one line. -/
private theorem isOneLine_of_setting {key rest rest' : Text} {x : Setting}
    (h : setting key rest = .ok (some (x, rest'))) :
    ('\n' ∉ rest → x.IsOneLine) ∧ rest' ⊆ rest := by
  unfold setting at h
  split at h
  · next flag hflag =>
    cases h
    refine ⟨fun _ => ?_, List.Subset.refl _⟩
    unfold flag? at hflag
    split at hflag
    · cases hflag
      trivial
    · split at hflag
      · cases hflag
        trivial
      · split at hflag
        · cases hflag
          trivial
        · cases hflag
  · split at h
    · next understand hkey =>
      split at h
      · next v rest'' hv =>
        obtain ⟨y, hu, heq⟩ := Except.map_eq_ok h
        cases heq
        exact ⟨fun _ => isOneLine_of_valued? hkey hu, (subset_of_value hv).2⟩
      · cases h
    · split at h
      · split at h
        · next separator rest'' hv =>
          -- the only setting that keeps a text is the separator, and that was in the text read
          cases h
          obtain ⟨hsep, hleft⟩ := subset_of_assigned hv
          refine ⟨fun hline => ?_, hleft⟩
          cases separator with
          | none => trivial
          | some t => exact fun hmem => hline (hsep t rfl hmem)
        · cases h
      · cases h

/-- Settings are read from one line as such of one line. -/
private theorem isOneLine_of_settings {whole s : Text} {xs : List Setting}
    (h : settings whole s = .ok xs) (hs : '\n' ∉ s) : ∀ x ∈ xs, x.IsOneLine := by
  fun_induction settings whole s generalizing xs with
  | case1 s e hk => cases h
  | case2 s hk =>
    cases h
    exact fun x hx => absurd hx List.not_mem_nil
  | case3 s key rest hk e hset => cases h
  | case4 s key rest hk hset => cases h
  | case5 s key rest hk x rest' hset _ ih =>
    obtain ⟨ys, hys, rfl⟩ := Except.map_eq_ok h
    have hrest : '\n' ∉ rest := fun hmem => hs (subset_of_nextKey hk hmem)
    obtain ⟨hx, hleft⟩ := isOneLine_of_setting hset
    intro y hy
    rcases List.mem_cons.1 hy with rfl | hy
    · exact hx hrest
    · exact ih hys (fun hmem => hrest (hleft hmem)) y hy

/-- An item is read from one line as one of one line. -/
private theorem isOneLine_of_item {key rest rest' : Text} {x : ClauseItem}
    (h : item key rest = .ok (x, rest')) : ('\n' ∉ rest → x.IsOneLine) ∧ rest' ⊆ rest := by
  have hargument : (argument rest).2 ⊆ rest :=
    List.Subset.trans (List.dropWhile_subset _) (List.dropWhile_subset _)
  unfold item at h
  split at h
  · split at h
    · cases h
    · split at h
      · cases h
      · next v rest'' hv =>
        obtain ⟨xs, hxs, heq⟩ := Except.map_eq_ok h
        cases heq
        obtain ⟨hvalue, hleft⟩ := subset_of_value hv
        exact ⟨fun hline => isOneLine_of_settings hxs fun hmem => hline (hargument (hvalue hmem)),
          List.Subset.trans hleft hargument⟩
  · split at h
    · cases h
    · cases h
    · next hset =>
      cases h
      exact isOneLine_of_setting hset

/-- Items are read from one line as such of one line. -/
private theorem isOneLine_of_items {whole s : Text} {c : Clause} (h : items whole s = .ok c)
    (hs : '\n' ∉ s) : c.IsOneLine := by
  fun_induction items whole s generalizing c with
  | case1 s e hk => cases h
  | case2 s hk =>
    cases h
    exact fun x hx => absurd hx List.not_mem_nil
  | case3 s key rest hk e hitem => cases h
  | case4 s key rest hk x rest' hitem _ ih =>
    obtain ⟨c', hc', rfl⟩ := Except.map_eq_ok h
    have hrest : '\n' ∉ rest := fun hmem => hs (subset_of_nextKey hk hmem)
    obtain ⟨hx, hleft⟩ := isOneLine_of_item hitem
    intro y hy
    rcases List.mem_cons.1 hy with rfl | hy
    · exact hx hrest
    · exact ih hc' (fun hmem => hrest (hleft hmem)) y hy

/-- The clause of a query in one line names no separator of several lines. -/
theorem isOneLine_of_ofQuery {query sql : Text} {c : Clause} (h : ofQuery query = .ok (c, sql))
    (hq : '\n' ∉ query) : c.IsOneLine := by
  unfold ofQuery at h
  dsimp only at h
  split at h
  · cases h
    exact fun x hx => absurd hx List.not_mem_nil
  · next rest hrest =>
    split at h
    · next r hr =>
      split at h
      · cases h
      · next inside remainder hbalanced =>
        -- what the parentheses enclose was in the query
        have hsub : r ⊆ query := by
          refine List.Subset.trans (fun d hd => ?_) (trim_subset query)
          rw [after?_eq_some_iff.1 hrest]
          refine List.mem_append_right _ (List.dropWhile_subset isWhite ?_)
          exact (hr ▸ List.mem_cons_of_mem _ hd : d ∈ trimStart rest)
        obtain ⟨c', hread, heq⟩ := Except.map_eq_ok h
        cases heq
        apply isOneLine_of_items hread
        intro hmem
        apply hq
        apply hsub
        exact (subset_of_balanced? hbalanced).1 (trim_subset _ hmem)
    · cases h

end Clause

/-! ## Formats -/

/-- All settings of such a clause are such settings. -/
theorem Clause.IsOneLine.setting {c : Clause} (h : c.IsOneLine) {s : Setting} (hs : c.Mentions s) :
    s.IsOneLine := by
  rcases hs with hs | ⟨axis, ranges, settings, hitem, hs⟩
  · exact h _ hs
  · exact h _ hitem s hs

/-- The format of every cell groups within its line. -/
theorem Clause.newline_mem_group {c : Clause} (h : c.IsOneLine) (row column : Nat) :
    ∀ separator, (c.format row column).group = some separator → '\n' ∉ separator := by
  intro separator hseparator
  -- a separator that is in use is that of a setting, or a comma
  rw [(c.resolves row column).group] at hseparator
  obtain ⟨s, hs, hgiven⟩ := exists_of_strongest hseparator
  have hone := h.setting hs
  cases s with
  | group g =>
    cases hgiven
    cases g with
    | none => exact (by decide : '\n' ∉ [','])
    | some separator => exact hone
  | escape | rounding | precision | width | digits | least | greatest => cases hgiven

/-! ## Cells -/

namespace CellFormat

private theorem isFigure_of_mem_digitsOf {f : CellFormat} {x : Double} {c : Char}
    (h : c ∈ f.digitsOf x) : isFigure c = true := by
  unfold digitsOf at h
  split at h
  · exact Double.isFigure_of_mem_fixed h
  · exact Double.isFigure_of_mem_fixed h
  · exact Double.isFigure_of_mem_plain h

private theorem mem_fill {f : CellFormat} {s : Text} {c : Char} (h : c ∈ f.fill s) :
    c = ' ' ∨ c ∈ s := by
  unfold fill at h
  split at h
  · rcases List.mem_append.1 h with h | h
    · exact .inl (List.eq_of_mem_replicate h)
    · exact .inr h
  · exact .inr h

/-- A number is written as it was, or anew with figures, spaces and the separator of its groups. -/
theorem mem_number {f : CellFormat} {s : Text} {x : Double} {c : Char} (h : c ∈ f.number s x) :
    c ∈ s ∨ c = ' ' ∨ isFigure c = true ∨
      ∃ separator, f.group = some separator ∧ c ∈ separator := by
  unfold number at h
  split at h
  · right
    rcases mem_fill h with h | h
    · exact .inl h
    · right
      split at h
      · next separator hseparator =>
        rcases mem_groupThousands h with h | h
        · exact .inr ⟨separator, hseparator, h⟩
        · exact .inl (isFigure_of_mem_digitsOf h)
      · exact .inl (isFigure_of_mem_digitsOf h)
  · exact .inl h

/-- A number is written in one line if its groups are. -/
private theorem newline_mem_number {f : CellFormat}
    (hf : ∀ separator, f.group = some separator → '\n' ∉ separator) {s : Text} (hs : '\n' ∉ s)
    (x : Double) : '\n' ∉ f.number s x := by
  intro hmem
  rcases mem_number hmem with hmem | hmem | hmem | ⟨separator, hseparator, hmem⟩
  · exact hs hmem
  · cases hmem
  · cases hmem
  · exact hf separator hseparator hmem

end CellFormat

private theorem Highlight.newline_mem_wrap (h : Highlight) {s : Text} (hs : '\n' ∉ s) :
    '\n' ∉ h.wrap s := by
  have hclose : '\n' ∉ ['}'] := by decide
  cases h with
  | none => exact hs
  | bold =>
    have hopen : '\n' ∉ "\\textbf\x7b".toList := by decide
    show '\n' ∉ "\\textbf\x7b".toList ++ s ++ ['}']
    simp only [List.mem_append, not_or]
    exact ⟨⟨hopen, hs⟩, hclose⟩
  | emph =>
    have hopen : '\n' ∉ "\\emph\x7b".toList := by decide
    show '\n' ∉ "\\emph\x7b".toList ++ s ++ ['}']
    simp only [List.mem_append, not_or]
    exact ⟨⟨hopen, hs⟩, hclose⟩

/-- A cell of one line is written in one line. -/
theorem Reformat.newline_mem_cell {r : Reformat} (hr : r.clause.IsOneLine) (row column : Nat)
    {s : Text} (hs : '\n' ∉ s) : '\n' ∉ r.cell row column s := by
  have hgroup := Clause.newline_mem_group hr row column
  unfold cell
  dsimp only
  split
  · exact Highlight.newline_mem_wrap _ (CellFormat.newline_mem_number hgroup hs _)
  · split
    · exact fun hmem => hs (newline_mem_latexEscape hmem)
    · exact hs

namespace RowStyle

variable {style : RowStyle} {t : ResultTable} {r : Reformat} {line : Text}

/-- A written row has one text for every column, and each of them is a cell of one row of the table
behind spaces. -/
theorem exists_of_mem_render (h : line ∈ style.render t r) :
    ∃ row ∈ t.rows, ∃ i texts, texts.length = t.columnCount ∧
      line = join style.separator texts ++ style.terminator ∧
      ∀ x ∈ texts, ∃ c ∈ t.fitted row, ∃ j n, x = fill n ' ' ++ r.cell i j c.text := by
  obtain ⟨row, hrow, rfl⟩ := List.mem_map.1 h
  obtain ⟨i, hi, rfl⟩ := List.mem_mapIdx.1 hrow
  refine ⟨t.rows[i], List.getElem_mem hi, i, _, ?_, rfl, ?_⟩
  · simp [ResultTable.fitted]
  · intro x hx
    obtain ⟨k, hk⟩ := List.mem_iff_getElem?.1 hx
    obtain ⟨cell, width, hcell, -, rfl⟩ := List.getElem?_zipWith_eq_some.1 hk
    obtain ⟨j, hj, rfl⟩ := List.mem_mapIdx.1 (List.mem_of_getElem? hcell)
    exact ⟨_, List.getElem_mem hj, j, _, rfl⟩

/-- A row of cells of one line is one line. -/
theorem newline_mem_render (style : RowStyle) (hr : r.clause.IsOneLine)
    (ht : ∀ row ∈ t.rows, ∀ c ∈ row, '\n' ∉ Cell.text c) :
    ∀ row ∈ style.render t r, '\n' ∉ row := by
  intro line hline
  obtain ⟨row, hrow, i, texts, -, rfl, htexts⟩ := exists_of_mem_render hline
  -- a cell that the row is filled up with is empty
  have hfitted : ∀ c ∈ t.fitted row, '\n' ∉ Cell.text c := by
    intro c hc
    obtain ⟨j, -, rfl⟩ := List.mem_map.1 hc
    unfold ResultTable.cellOf
    cases hj : row[j]? with
    | none => exact List.not_mem_nil
    | some cell => exact ht row hrow cell (List.mem_of_getElem? hj)
  intro hmem
  rcases List.mem_append.1 hmem with hmem | hmem
  · rcases mem_join hmem with hmem | ⟨text, htext, hmem⟩
    · revert hmem
      cases style <;> decide
    · obtain ⟨c, hc, j, n, rfl⟩ := htexts text htext
      rcases List.mem_append.1 hmem with hmem | hmem
      · exact absurd (List.eq_of_mem_replicate hmem) (by decide)
      · exact Reformat.newline_mem_cell hr i j (hfitted c hc) hmem
  · revert hmem
    cases style <;> decide

end RowStyle

end QueryWeave
