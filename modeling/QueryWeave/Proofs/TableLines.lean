import QueryWeave.Proofs.LatexWeave

/-!
# Table lines recognised again

A table is not recognised by its lines but by the end marker after them: a later run takes all lines
down to the marker for the old table, provided that the marker is the first comment it meets. Rows
of cells can begin with any text, so that is a condition on the rows (`closedBlock_again`), and it
is exactly the condition (`blockSize?_written`). The lines of a box table meet it always.

Main statements: `CommentStyle.blockSize?_written`, `RowStyle.splice_again`.
-/

namespace QueryWeave

open Text

/-! ## End markers -/

/-- Trimming the end of a text keeps a beginning that does not end in white space. -/
theorem startsWith_trimEnd (word : Text) {c : Char} (hlast : word.getLast? = some c)
    (hc : isWhite c = false) (s : Text) : startsWith word (trimEnd (word ++ s)) = true := by
  have hkept : word.reverse.dropWhile isWhite = word.reverse := by
    cases hword : word.reverse with
    | nil => rfl
    | cons d w =>
      have hd : word.reverse.head? = some c := by rw [List.head?_reverse, hlast]
      rw [hword] at hd
      cases hd
      exact List.dropWhile_cons_of_neg (by simp [hc])
  -- what is trimmed lies behind the word, even if nothing else does
  obtain ⟨rest, hrest⟩ : ∃ rest, trimEnd (word ++ s) = word ++ rest := by
    simp only [trimEnd, dropEndWhile, List.reverse_append, List.dropWhile_append, hkept]
    split
    · exact ⟨[], by simp⟩
    · exact ⟨(s.reverse.dropWhile isWhite).reverse, by simp⟩
  rw [hrest, startsWith, after?_append]
  rfl

namespace CommentStyle

variable {style : CommentStyle}

/-- An end marker is a comment that begins as the search for it expects. -/
theorem comment?_endMarker (hm : isBlank style.marker = false) (keyword : Keyword) (query : Text) :
    ∃ s, style.comment? (style.endMarker keyword query) = some s ∧
      startsWith (endWord keyword) s = true := by
  have hblanks : dropBlanks (style.endMarker keyword query) = style.endMarker keyword query :=
    List.dropWhile_cons_of_neg (by simp [hm])
  have hstart : trimStart (' ' :: (endWord keyword ++ ' ' :: shorten endMarkerWidth query)) =
      endWord keyword ++ ' ' :: shorten endMarkerWidth query := rfl
  obtain ⟨c, hlast, hc⟩ : ∃ c, (endWord keyword).getLast? = some c ∧ isWhite c = false := by
    cases keyword <;> exact ⟨_, rfl, by decide⟩
  refine ⟨trim (' ' :: (endWord keyword ++ ' ' :: shorten endMarkerWidth query)), ?_, ?_⟩
  · simp only [comment?, strip?, hblanks]
    simp only [endMarker, fill, List.replicate, after?, if_true, Option.map_some]
  · rw [trim, hstart]
    exact startsWith_trimEnd _ hlast hc _

/-- The marker of an end marker is not doubled. -/
theorem indent?_endMarker (hm : isBlank style.marker = false) (keyword : Keyword) (query : Text)
    (indent : Nat) :
    style.indent? 2 (Document.indented indent (style.endMarker keyword query)) = none := by
  have hspace : style.marker ≠ ' ' := by
    intro heq
    rw [heq] at hm
    exact absurd hm (by decide)
  have hblanks : dropBlanks (style.endMarker keyword query) = style.endMarker keyword query :=
    List.dropWhile_cons_of_neg (by simp [hm])
  simp only [indent?, strip?, dropBlanks_indented, hblanks]
  simp only [endMarker, fill, List.replicate, after?, if_true, if_neg hspace, Option.map_none]

/-- So an end marker continues no comment. -/
theorem not_continues_endMarker (hm : isBlank style.marker = false) (keyword : Keyword)
    (query first : Text) (indent : Nat) :
    style.continues first (Document.indented indent (style.endMarker keyword query)) = false := by
  unfold continues
  rw [indent?_endMarker hm]
  split
  · next heq => cases heq
  · rfl

/-- The search finds the end of a block exactly if no line of the block is a comment. -/
theorem blockSize?_written (hm : isBlank style.marker = false) (keyword : Keyword) (query : Text)
    (indent : Nat) (new others : List Text) :
    style.blockSize? keyword
      ((new ++ [style.endMarker keyword query]).map (Document.indented indent) ++ others) =
        some new.length ↔
      ∀ line ∈ new, style.isComment line = false := by
  obtain ⟨s, hs, hword⟩ := comment?_endMarker hm keyword query
  have hmarker : style.next? (endWord keyword)
      (Document.indented indent (style.endMarker keyword query) :: others) = some 0 := by
    simp only [next?, comment?_indented, hs, hword, if_true]
  have happend : (new ++ [style.endMarker keyword query]).map (Document.indented indent) ++ others =
      new.map (Document.indented indent) ++
        Document.indented indent (style.endMarker keyword query) :: others := by simp
  rw [blockSize?, happend]
  constructor
  · intro h
    -- a comment among the lines would end the search before the marker
    induction new with
    | nil => exact fun line hline => absurd hline List.not_mem_nil
    | cons line new ih =>
      simp only [List.map_cons, List.cons_append, next?, comment?_indented, List.length_cons] at h
      split at h
      · split at h
        · cases h
        · cases h
      · next hnone =>
        obtain ⟨n, hn, hlength⟩ := Option.map_eq_some_iff.1 h
        have hrest := ih (by simp) (by rw [hn, Nat.succ.inj hlength])
        intro l hl
        rcases List.mem_cons.1 hl with rfl | hl
        · exact comment?_eq_none.1 hnone
        · exact hrest l hl
  · intro h
    have hlines : ∀ line ∈ new.map (Document.indented indent), style.isComment line = false := by
      intro line hline
      obtain ⟨l, hl, rfl⟩ := List.mem_map.1 hline
      rw [isComment_indented]
      exact h l hl
    rw [next?_append hlines, hmarker, List.length_map]
    rfl

/-- A block without comments that is written again finds its own lines. -/
theorem closedBlock_again (hm : isBlank style.marker = false) (keyword : Keyword) (query : Text)
    (lines : List Text) {new : List Text} (hnew : ∀ line ∈ new, style.isComment line = false)
    (indent : Nat) (others : List Text) :
    style.closedBlock keyword query
      ((style.closedBlock keyword query lines new).written indent ++ others) new =
        (style.closedBlock keyword query lines new).again := by
  have hsize := (blockSize?_written hm keyword query indent new others).2 hnew
  have hwritten : (style.closedBlock keyword query lines new).written indent =
      (new ++ [style.endMarker keyword query]).map (Document.indented indent) := rfl
  rw [hwritten]
  simp only [closedBlock, hsize, Splice.again, List.length_append, List.length_singleton]

end CommentStyle

/-! ## Box tables -/

/-- The lines of a box table begin with a corner or an edge. -/
theorem ResultTable.isComment_of_mem_box {style : CommentStyle} (hcorner : '+' ≠ style.marker)
    (hedge : '|' ≠ style.marker) (t : ResultTable) :
    ∀ line ∈ t.box, style.isComment line = false := by
  have divider : ∀ widths, style.isComment (divider widths) = false := fun widths =>
    CommentStyle.isComment_eq_false (c := '+') rfl hcorner
  have boxLine : ∀ cells, style.isComment (boxLine cells) = false := fun cells =>
    CommentStyle.isComment_eq_false (c := '|') rfl hedge
  intro line hline
  simp only [box, List.mem_append, List.mem_cons, List.not_mem_nil, or_false, List.mem_map] at hline
  rcases hline with ((rfl | rfl | rfl) | ⟨row, -, rfl⟩) | rfl
  · exact divider _
  · exact boxLine _
  · exact divider _
  · exact boxLine _
  · exact divider _

/-! ## Rows -/

namespace Fragment

/-- The last terminator is found behind any text. -/
theorem afterTerminator?_append {s t : Text} (pre : Text)
    (h : afterTerminator? s = some t) : afterTerminator? (pre ++ s) = some t := by
  induction pre with
  | nil => exact h
  | cons c pre ih => simp only [List.cons_append, afterTerminator?, ih]

/-- What is kept of a row: no terminator begins in it or with the backslash before it. -/
structure IsRowSuffix (s : Text) : Prop where
  line : '\n' ∉ s
  last : afterTerminator? ('\\' :: s) = none

private theorem afterTerminator?_eq_some {s t : Text} (h : afterTerminator? t = some s) :
    s <:+ t ∧ afterTerminator? ('\\' :: s) = none := by
  induction t with
  | nil => cases h
  | cons c r ih =>
    simp only [afterTerminator?] at h
    split at h
    · next hr =>
      cases h
      exact ⟨(ih hr).1.trans (List.suffix_cons ..), (ih hr).2⟩
    · next hnone =>
      -- no later terminator, not even one that begins with the second backslash of this one
      have heq : c :: r = '\\' :: '\\' :: s := after?_eq_some_iff.1 h
      cases heq
      exact ⟨⟨['\\', '\\'], rfl⟩, hnone⟩

/-- What is kept of a row is its end. -/
theorem suffix_of_rowSuffix? {line s : Text} (h : rowSuffix? line = some s) : s <:+ line := by
  unfold rowSuffix? at h
  split at h
  · exact (afterTerminator?_eq_some h).1
  · cases h

/-- What follows the last terminator has no other one. -/
theorem isRowSuffix_of_rowSuffix? {line s : Text} (h : rowSuffix? line = some s) :
    IsRowSuffix s := by
  unfold rowSuffix? at h
  split at h
  · next hline =>
    obtain ⟨hsuffix, hlast⟩ := afterTerminator?_eq_some h
    exact ⟨fun hmem => isOneLine_iff.1 hline (hsuffix.subset hmem), hlast⟩
  · cases h

/-- A row that was terminated and given a suffix has this suffix. -/
theorem rowSuffix?_append {row s : Text} (hrow : '\n' ∉ row) (hs : IsRowSuffix s) :
    rowSuffix? (row ++ " \\\\".toList ++ s) = some s := by
  have hline : isOneLine (row ++ " \\\\".toList ++ s) = true := by
    rw [isOneLine_iff]
    simp only [List.mem_append, not_or]
    exact ⟨⟨hrow, by decide⟩, hs.line⟩
  have hterminator : afterTerminator? ('\\' :: '\\' :: s) = some s := by
    rw [afterTerminator?, hs.last]
    exact after?_append "\\\\".toList s
  have happend : row ++ " \\\\".toList ++ s = (row ++ [' ']) ++ '\\' :: '\\' :: s := by
    rw [List.append_assoc, List.append_assoc]
    rfl
  rw [rowSuffix?, if_pos hline, happend]
  exact afterTerminator?_append _ hterminator

end Fragment

namespace RowStyle

open Fragment

/-- What can be kept of an old row: the suffix of a LaTeX row, and nothing of other rows. -/
def IsKept : RowStyle → Text → Prop
  | tabular, s => IsRowSuffix s
  | tabTable, s => s = []

/-- What is kept can be kept. -/
private theorem isKept_of_mem_run {style : RowStyle} {lines : List Text} :
    ∀ s ∈ run style.kept? lines, style.IsKept s := by
  induction lines with
  | nil => exact fun s hs => absurd hs List.not_mem_nil
  | cons line rest ih =>
    intro s hs
    rw [run] at hs
    split at hs
    · next s' hs' =>
      rcases List.mem_cons.1 hs with rfl | hs
      · cases style with
        | tabular => exact isRowSuffix_of_rowSuffix? hs'
        | tabTable =>
          cases hs'
          rfl
      · exact ih s hs
    · exact absurd hs List.not_mem_nil

/-- What a new row keeps of the old one at its place can be kept. -/
theorem isKept_of_mem_paired {style : RowStyle} {old new : List Text} {row : Text}
    {kept : Option Text} (h : (row, kept) ∈ paired (run style.kept? old) new) :
    style.IsKept (kept.getD []) := by
  cases kept with
  | some s => exact isKept_of_mem_run s ((mem_of_mem_paired h).2 s rfl)
  | none =>
    cases style with
    | tabular => exact ⟨List.not_mem_nil, rfl⟩
    | tabTable => rfl

/-- A rendered row with what it keeps is read as keeping it. -/
private theorem kept?_append {style : RowStyle} {row s : Text} (hrow : '\n' ∉ row)
    (hterm : ∃ cells, row = cells ++ style.terminator) (hs : style.IsKept s) (indent : Nat) :
    style.kept? (Document.indented indent (row ++ s)) = some s := by
  cases style with
  | tabTable =>
    cases hs
    rfl
  | tabular =>
    obtain ⟨cells, rfl⟩ := hterm
    have hcells : '\n' ∉ Document.indented indent cells := by
      rw [newline_mem_indented]
      exact fun hmem => hrow (List.mem_append_left _ hmem)
    have happend : Document.indented indent (cells ++ terminator tabular ++ s) =
        Document.indented indent cells ++ " \\\\".toList ++ s := by
      simp only [Document.indented, List.append_assoc]
      rfl
    show rowSuffix? _ = _
    rw [happend]
    exact rowSuffix?_append hcells hs

theorem terminated_of_mem_render {style : RowStyle} {t : ResultTable} {r : Reformat}
    {row : Text} (h : row ∈ style.render t r) : ∃ cells, row = cells ++ style.terminator := by
  obtain ⟨cells, -, rfl⟩ := List.mem_map.1 h
  exact ⟨_, rfl⟩

/-- What is kept of a row does not make it a comment. -/
theorem isComment_of_mem_carryOver {style : RowStyle} {comments : CommentStyle} {old : List Text}
    {t : ResultTable} {r : Reformat}
    (h : ∀ row ∈ style.render t r, comments.isComment row = false) :
    ∀ line ∈ style.carryOver old (style.render t r), comments.isComment line = false := by
  intro line hline
  obtain ⟨⟨row, kept⟩, hc, rfl⟩ := List.mem_map.1 hline
  have hmem := (mem_of_mem_paired hc).1
  have hrow := h row hmem
  cases style with
  | tabTable =>
    have hkept : kept.getD [] = [] := isKept_of_mem_paired hc
    simp only [hkept, List.append_nil, hrow]
  | tabular =>
    obtain ⟨cells, rfl⟩ := terminated_of_mem_render hmem
    -- the terminator is not blank, so the line begins as the row does
    have hhead : ∀ x : Text, (dropBlanks (cells ++ terminator tabular ++ x)).head? =
        (dropBlanks (cells ++ terminator tabular)).head? := by
      intro x
      simp only [dropBlanks, List.append_assoc, List.dropWhile_append]
      split
      · rfl
      · next hne =>
        cases hd : cells.dropWhile isBlank with
        | nil => simp [hd] at hne
        | cons c s => rfl
    rw [Bool.eq_false_iff, ne_eq, CommentStyle.isComment_iff] at hrow ⊢
    rw [hhead]
    exact hrow

/-- Rows that were written are read as keeping what they were given. -/
private theorem run_written {style : RowStyle} {old : List Text} {t : ResultTable} {r : Reformat}
    (hrows : ∀ row ∈ style.render t r, '\n' ∉ row) (indent : Nat)
    {pairs : List (Text × Option Text)}
    (hpairs : ∀ c ∈ pairs, c ∈ paired (run style.kept? old) (style.render t r)) :
    run style.kept? ((pairs.map fun (row, kept) => row ++ kept.getD []).map
      (Document.indented indent)) = pairs.map fun c => c.2.getD [] := by
  induction pairs with
  | nil => rfl
  | cons c pairs ih =>
    have hc := hpairs c (List.mem_cons_self ..)
    have hmem := (mem_of_mem_paired hc).1
    have hkept := kept?_append (hrows c.1 hmem) (terminated_of_mem_render hmem)
      (isKept_of_mem_paired hc) indent
    simp only [List.map_cons, run, hkept]
    rw [ih fun x hx => hpairs x (List.mem_cons_of_mem _ hx)]

/-- Rows that are written again are given what they kept. -/
theorem carryOver_written {style : RowStyle} {old : List Text} {t : ResultTable} {r : Reformat}
    (hrows : ∀ row ∈ style.render t r, '\n' ∉ row) (indent : Nat) :
    style.carryOver ((style.carryOver old (style.render t r)).map (Document.indented indent))
      (style.render t r) = style.carryOver old (style.render t r) := by
  simp only [carryOver]
  rw [run_written hrows indent fun c hc => hc, paired_map_paired, List.map_map]
  rfl

/-- Rows without comments that are written again find their own lines. -/
theorem splice_again {style : RowStyle} {comments : CommentStyle}
    (hm : isBlank comments.marker = false) {query : Text} {lines : List Text} {t : ResultTable}
    {r : Reformat} (hrows : ∀ row ∈ style.render t r, '\n' ∉ row)
    (hcomment : ∀ row ∈ style.render t r, comments.isComment row = false) (indent : Nat)
    (others : List Text) :
    style.splice comments query
      ((style.splice comments query lines t r).written indent ++ others) t r =
        (style.splice comments query lines t r).again := by
  let old := lines.take ((comments.blockSize? style.keyword lines).getD 0)
  -- what is kept of the old rows is kept again, as no line with it is a comment
  have hnew : ∀ line ∈ style.carryOver old (style.render t r), comments.isComment line = false :=
    isComment_of_mem_carryOver hcomment
  have hsize := (CommentStyle.blockSize?_written hm style.keyword query indent
    (style.carryOver old (style.render t r)) others).2 hnew
  have hwritten : (style.splice comments query lines t r).written indent =
      (style.carryOver old (style.render t r) ++ [comments.endMarker style.keyword query]).map
        (Document.indented indent) := rfl
  have htake : ((style.splice comments query lines t r).written indent ++ others).take
      (style.carryOver old (style.render t r)).length =
        (style.carryOver old (style.render t r)).map (Document.indented indent) := by
    rw [hwritten, List.map_append, List.append_assoc]
    exact List.take_left' (List.length_map _)
  have hblock := CommentStyle.closedBlock_again hm style.keyword query lines hnew indent others
  rw [← hwritten] at hsize
  show comments.closedBlock style.keyword query _ (style.carryOver (List.take
    ((comments.blockSize? style.keyword _).getD 0) _) (style.render t r)) = _
  rw [hsize, Option.getD_some, htake, carryOver_written hrows indent]
  exact hblock

end RowStyle

end QueryWeave
