import QueryWeave.Proofs.TableLines

/-!
# Comments among written lines

A row of a table can begin with any text, so it can be a comment. Then the search for the end marker
of the table stops at that row, and a later run goes through what is left of the old table. What it
finds there are the comments among these lines (`CommentStyle.remarks`), not the lines one by one,
since a doubled marker joins several rows to one comment.

Main statement: what the search for the end marker leaves of the lines of a table says everything
that they say, except for a remark that is no directive (`CommentStyle.drop_closedBlock`).
-/

namespace QueryWeave

open Text

/-! ## What comments say -/

/-- The keyword that the text of a comment begins with, if it is a directive. -/
def Keyword.ofComment? (text : Text) : Option Keyword := ofWord? (split text).1

/-- A block is a directive if its text begins with a keyword. -/
theorem CommentBlock.classify_of_ofComment? {block : CommentBlock} {k : Keyword}
    (h : Keyword.ofComment? block.text = some k) :
    ∃ d, block.classify = .directive d ∧ d.keyword = k ∧ d.command = block.text := by
  have hword : Keyword.ofWord? (Keyword.split block.text).1 = some k := h
  refine ⟨⟨k, block.text, (Keyword.split block.text).2, block.start, block.next, block.indent⟩, ?_,
    rfl, rfl⟩
  simp only [classify, hword]

/-- A block is no directive if its text does not. -/
theorem CommentBlock.classify_ne_directive {block : CommentBlock}
    (h : Keyword.ofComment? block.text = none) (d : Directive) : block.classify ≠ .directive d := by
  have hword : Keyword.ofWord? (Keyword.split block.text).1 = none := h
  intro hclass
  simp only [classify, hword] at hclass
  split at hclass <;> cases hclass

namespace CommentStyle

/-- What the comments among the lines say, in order. -/
def remarks (style : CommentStyle) (lines : List Text) : List Text :=
  (Document.blocksFrom style 0 lines).map CommentBlock.text

/-- No comment among the lines is a directive. -/
def Undirected (style : CommentStyle) (lines : List Text) : Prop :=
  ∀ text ∈ style.remarks lines, Keyword.ofComment? text = none

instance (style : CommentStyle) (lines : List Text) : Decidable (style.Undirected lines) :=
  inferInstanceAs (Decidable (∀ text ∈ style.remarks lines, Keyword.ofComment? text = none))

variable {style : CommentStyle}

/-- What the comments among lines say does not depend on the place of the lines. -/
private theorem map_text_blocksFrom (i j : Nat) (lines : List Text) :
    (Document.blocksFrom style i lines).map CommentBlock.text =
      (Document.blocksFrom style j lines).map CommentBlock.text := by
  induction hn : lines.length using Nat.strongRecOn generalizing i j lines with
  | ind n ih =>
    subst hn
    cases hcollect : style.collect? i lines with
    | none =>
      cases lines with
      | nil => simp only [Document.blocksFrom]
      | cons line rest =>
        have hline := collect?_eq_none.1 hcollect
        rw [blocksFrom_cons hline, blocksFrom_cons hline]
        exact ih _ (Nat.lt_succ_self _) _ _ rest rfl
    | some found =>
      -- the same block is collected at the other place, and the lines after it are fewer
      obtain ⟨block, after⟩ := found
      obtain ⟨first, more, hlines, -, -, -, -, hagain⟩ := collect?_eq_some hcollect
      have hcollect' := hagain j after fun line hline => .inl hline
      rw [← hlines] at hcollect'
      rw [blocksFrom_collect hcollect, blocksFrom_collect hcollect', List.map_cons, List.map_cons]
      congr 1
      exact ih _ (length_lt_of_collect? hcollect) _ _ after rfl

@[simp] theorem remarks_nil : style.remarks [] = [] := by
  simp only [remarks, Document.blocksFrom, List.map_nil]

/-- A line that is no comment says nothing. -/
theorem remarks_cons {line : Text} (h : style.isComment line = false) (rest : List Text) :
    style.remarks (line :: rest) = style.remarks rest := by
  rw [remarks, blocksFrom_cons h]
  exact map_text_blocksFrom _ _ rest

theorem remarks_append {front : List Text} (h : ∀ line ∈ front, style.isComment line = false)
    (rest : List Text) : style.remarks (front ++ rest) = style.remarks rest := by
  induction front with
  | nil => rfl
  | cons line front ih =>
    rw [List.cons_append, remarks_cons (h line (List.mem_cons_self ..))]
    exact ih fun l hl => h l (List.mem_cons_of_mem _ hl)

/-- A comment speaks before those after it. -/
theorem remarks_collect {i : Nat} {lines after : List Text} {block : CommentBlock}
    (h : style.collect? i lines = some (block, after)) :
    style.remarks lines = block.text :: style.remarks after := by
  rw [remarks, map_text_blocksFrom 0 i, blocksFrom_collect h, List.map_cons]
  congr 1
  exact map_text_blocksFrom _ _ after

/-- Lines without comments have no directives. -/
theorem undirected_of_not_comment {lines : List Text}
    (h : ∀ line ∈ lines, style.isComment line = false) : style.Undirected lines := by
  have hnone : style.remarks lines = [] := by
    rw [← List.append_nil lines, remarks_append h, remarks_nil]
  rw [Undirected, hnone]
  exact fun text htext => absurd htext List.not_mem_nil

/-! ## End markers -/

/-- A text starts with the first character of a word that it starts with. -/
private theorem eq_of_startsWith {c d : Char} {w s : Text}
    (h : startsWith (c :: w) (d :: s) = true) : c = d := by
  simp only [startsWith, after?] at h
  split at h
  · next heq => exact heq
  · cases h

/-- A comment that begins like an end marker is a block of one line. -/
theorem collect?_of_startsWith (hw : isWhite style.marker = false) (he : style.marker ≠ 'E')
    {keyword : Keyword} {line s : Text} (hs : style.comment? line = some s)
    (hword : startsWith (endWord keyword) s = true) (i : Nat) (rest : List Text) :
    ∃ block, style.collect? i (line :: rest) = some (block, rest) ∧ block.text = s := by
  obtain ⟨⟨indent, first⟩, hstrip, hs⟩ := Option.map_eq_some_iff.1 hs
  obtain rfl : trim first = s := hs
  cases first with
  | nil => exact ⟨_, by simp only [collect?, hstrip]; rfl, rfl⟩
  | cons c first =>
    -- with a doubled marker the text would begin with the marker
    have hsingle : c ≠ style.marker := by
      rintro rfl
      have hmarker : startsWith [style.marker] (trim (style.marker :: first)) = true := by
        have hstart : trimStart (style.marker :: first) = style.marker :: first :=
          List.dropWhile_cons_of_neg (by simp [hw])
        rw [trim, hstart]
        exact startsWith_trimEnd [style.marker] rfl hw first
      cases htrim : trim (style.marker :: first) with
      | nil =>
        rw [htrim] at hmarker
        cases hmarker
      | cons d rest =>
        rw [htrim] at hmarker hword
        exact he ((eq_of_startsWith hmarker).trans
          (eq_of_startsWith (c := 'E') (w := (endWord keyword).tail) hword).symm)
    exact ⟨_, by simp only [collect?, hstrip, hsingle, if_false]; rfl, rfl⟩

/-- A text that begins like an end marker is no directive. -/
theorem ofComment?_of_startsWith {keyword : Keyword} {text : Text}
    (h : startsWith (endWord keyword) text = true) : Keyword.ofComment? text = none := by
  obtain ⟨rest, hrest⟩ := Option.isSome_iff_exists.1 h
  have htext : text = endWord keyword ++ rest := after?_eq_some_iff.1 hrest
  -- its first word is not a keyword
  have hword : (Keyword.split text).1 = "END".toList := by
    rw [htext]
    unfold Keyword.split
    dsimp only
    split
    · rfl
    · rfl
  rw [Keyword.ofComment?, hword]
  decide

/-- Up to the comment that a search for an end marker finds, lines say what this comment says. -/
theorem remarks_next? (hw : isWhite style.marker = false) (he : style.marker ≠ 'E')
    {keyword : Keyword} {lines : List Text} {n : Nat}
    (hn : style.next? (endWord keyword) lines = some n) :
    ∃ text, Keyword.ofComment? text = none ∧
      style.remarks lines = text :: style.remarks (lines.drop (n + 1)) := by
  induction lines generalizing n with
  | nil => simp [next?] at hn
  | cons line rest ih =>
    rw [next?] at hn
    split at hn
    · next s hs =>
      -- the search ends at the first comment, whether it is the one that is searched for or not
      split at hn
      · next hword =>
        cases hn
        obtain ⟨block, hcollect, rfl⟩ := collect?_of_startsWith hw he hs hword 0 rest
        exact ⟨block.text, ofComment?_of_startsWith hword, remarks_collect hcollect⟩
      · cases hn
    · next hnone =>
      obtain ⟨m, hm, rfl⟩ := Option.map_eq_some_iff.1 hn
      rw [remarks_cons (comment?_eq_none.1 hnone)]
      exact ih hm

/-- A search ends at the first comment, whatever comes after it. -/
theorem next?_append_of_comment {word : Text} {front : List Text}
    (h : ∃ line ∈ front, style.isComment line = true) (rest : List Text) :
    style.next? word (front ++ rest) = style.next? word front := by
  induction front with
  | nil =>
    obtain ⟨line, hline, -⟩ := h
    exact absurd hline List.not_mem_nil
  | cons line front ih =>
    rw [List.cons_append, next?, next?]
    cases hline : style.comment? line with
    | some s => rfl
    | none =>
      obtain ⟨l, hl, hcomment⟩ := h
      rcases List.mem_cons.1 hl with rfl | hl
      · rw [comment?_eq_none.1 hline] at hcomment
        cases hcomment
      · dsimp only
        rw [ih ⟨l, hl, hcomment⟩]

/-! ## Old blocks -/

/-- What is left of written lines: it says everything that they say, except for remarks that are no
directives, and no line below it continues its comments. -/
structure Leftover (style : CommentStyle) (written left : List Text) : Prop where
  remarks : ∃ front, style.remarks written = front ++ style.remarks left ∧
    ∀ text ∈ front, Keyword.ofComment? text = none
  last : ∀ line, left.getLast? = some line → style.indent? 2 line = none

/-- Nothing needs to be left of lines without directives. -/
theorem Leftover.nothing {written : List Text} (h : style.Undirected written) :
    style.Leftover written [] where
  remarks := ⟨style.remarks written, by rw [remarks_nil, List.append_nil], h⟩
  last := by simp

/-- What the lines that are left say, the lines have said. -/
theorem Leftover.mem_remarks {written left : List Text} (h : style.Leftover written left)
    {text : Text} (htext : text ∈ style.remarks left) : text ∈ style.remarks written := by
  obtain ⟨front, hremarks, -⟩ := h.remarks
  rw [hremarks]
  exact List.mem_append_right _ htext

/-- Lines have directives exactly if those that are left of them have. -/
theorem Leftover.undirected_iff {written left : List Text} (h : style.Leftover written left) :
    style.Undirected left ↔ style.Undirected written := by
  obtain ⟨front, hremarks, hfront⟩ := h.remarks
  rw [Undirected, Undirected, hremarks]
  constructor
  · intro hleft text htext
    exact (List.mem_append.1 htext).elim (hfront text) (hleft text)
  · intro hwritten text htext
    exact hwritten text (List.mem_append_right _ htext)

/-- What a later run does not remove of a block is left of it. -/
theorem drop_closedBlock (hm : isBlank style.marker = false) (hw : isWhite style.marker = false)
    (he : style.marker ≠ 'E') (keyword : Keyword) (query : Text) (indent : Nat)
    (new others again : List Text) :
    ∃ left,
      ((new ++ [style.endMarker keyword query]).map (Document.indented indent) ++ others).drop
        (style.closedBlock keyword query
          ((new ++ [style.endMarker keyword query]).map (Document.indented indent) ++ others)
            again).removed = left ++ others ∧
      style.Leftover ((new ++ [style.endMarker keyword query]).map (Document.indented indent))
        left := by
  let written := (new ++ [style.endMarker keyword query]).map (Document.indented indent)
  let marker := Document.indented indent (style.endMarker keyword query)
  have hlast : ∀ line, written.getLast? = some line → style.indent? 2 line = none := by
    intro line hline
    have hmarker : written.getLast? = some marker := by
      simp only [written, marker, List.map_append, List.map_cons, List.map_nil,
        List.getLast?_append, List.getLast?_singleton, Option.some_or]
    rw [hmarker] at hline
    cases hline
    exact indent?_endMarker hm ..
  have hcomment : ∃ line ∈ written, style.isComment line = true := by
    obtain ⟨s, hs, -⟩ := comment?_endMarker hm keyword query
    refine ⟨marker, by simp [written, marker], ?_⟩
    rw [isComment_indented, ← Bool.not_eq_false, ← comment?_eq_none, hs]
    exact Option.some_ne_none s
  -- the end marker is a comment, so the search does not leave the block
  have hsearch : style.blockSize? keyword (written ++ others) =
      style.next? (endWord keyword) written := next?_append_of_comment hcomment others
  show ∃ left, (written ++ others).drop
    (style.closedBlock keyword query (written ++ others) again).removed = left ++ others ∧
      style.Leftover written left
  simp only [closedBlock, hsearch]
  cases hn : style.next? (endWord keyword) written with
  | none =>
    -- a row that is another comment ends the search without success, so nothing is removed
    exact ⟨written, rfl, ⟨[], rfl, by simp⟩, hlast⟩
  | some n =>
    -- the marker, or a row that looks like it: what stands above it says nothing else
    obtain ⟨text, htext, hremarks⟩ := remarks_next? hw he hn
    refine ⟨written.drop (n + 1), List.drop_append_of_le_length (next?_lt hn),
      ⟨[text], hremarks, by simpa using htext⟩, fun line hline => ?_⟩
    rw [List.getLast?_drop] at hline
    split at hline
    · cases hline
    · exact hlast line hline

end CommentStyle

end QueryWeave
