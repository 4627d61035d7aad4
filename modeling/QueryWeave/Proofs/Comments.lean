import QueryWeave.Directive.Basic
import QueryWeave.Proofs.Characters

/-!
# Comment lines and blocks

What a line has to begin with to be a comment, and how a block is cut off from the lines it begins.
A later run reads the same comment although other lines follow it now, so the question is what a
block depends on: on its own lines, and on the next line not continuing it.

Main statements: a block is collected again above any lines that do not continue it
(`CommentStyle.collect?_eq_some`), and a search for a comment passes over lines that are none
(`CommentStyle.next?_append`).
-/

namespace QueryWeave

open Text

/-! ## Places -/

/-- The block at another place. -/
def CommentBlock.standingAt (block : CommentBlock) (start length : Nat) : CommentBlock :=
  { block with start, next := start + length }

/-- The directive at another place. -/
def Directive.standingAt (d : Directive) (start length : Nat) : Directive :=
  { d with startLine := start, insertLine := start + length }

namespace Text

/-- Blanks before a text are dropped with its own. -/
@[simp] theorem dropBlanks_indented (n : Nat) (line : Text) :
    dropBlanks (Document.indented n line) = dropBlanks line := by
  induction n with
  | zero => rfl
  | succ n ih => exact ih

end Text

namespace CommentStyle

/-! ## Comment lines -/

/-- Whether a line continues the comment that begins with another one: both carry the doubled
marker at the same column. -/
def continues (style : CommentStyle) (first line : Text) : Bool :=
  match style.indent? 2 first, style.indent? 2 line with
  | some i, some j => i == j
  | _, _ => false

/-- A comment is a line whose first character after blanks is the marker. -/
theorem isComment_iff {style : CommentStyle} {line : Text} :
    style.isComment line = true ↔ (dropBlanks line).head? = some style.marker := by
  simp only [isComment, indent?, strip?, Option.isSome_map]
  show (after? [style.marker] (dropBlanks line)).isSome = true ↔ _
  cases dropBlanks line with
  | nil => simp [after?]
  | cons c s =>
    by_cases hc : style.marker = c
    · simp [after?, hc]
    · simp [after?, hc, Ne.symm hc]

/-- A line is no comment if its first character after blanks is known to be another one. -/
theorem isComment_eq_false {style : CommentStyle} {line : Text} {c : Char}
    (h : (dropBlanks line).head? = some c) (hc : c ≠ style.marker) :
    style.isComment line = false := by
  rw [Bool.eq_false_iff, ne_eq, isComment_iff, h]
  simpa using hc

/-- Indentation does not make a comment. -/
@[simp] theorem isComment_indented (style : CommentStyle) (n : Nat) (line : Text) :
    style.isComment (Document.indented n line) = style.isComment line := by
  rw [Bool.eq_iff_iff, isComment_iff, isComment_iff, dropBlanks_indented]

/-- What a comment says does not depend on its indentation. -/
@[simp] theorem comment?_indented (style : CommentStyle) (n : Nat) (line : Text) :
    style.comment? (Document.indented n line) = style.comment? line := by
  simp only [comment?, strip?, dropBlanks_indented, Option.map_map]
  rfl

theorem comment?_eq_none {style : CommentStyle} {line : Text} :
    style.comment? line = none ↔ style.isComment line = false := by
  simp [comment?, isComment, indent?]

theorem strip?_eq_none {style : CommentStyle} {line : Text} :
    style.strip? 1 line = none ↔ style.isComment line = false := by
  simp [isComment, indent?]

/-- The doubled marker is the marker after the marker. -/
theorem strip?_two {style : CommentStyle} {line s : Text} {i : Nat} :
    style.strip? 2 line = some (i, s) ↔ style.strip? 1 line = some (i, style.marker :: s) := by
  simp only [strip?, Option.map_eq_some_iff, after?_eq_some_iff, Prod.mk.injEq]
  constructor
  · rintro ⟨rest, h, rfl, rfl⟩
    exact ⟨style.marker :: rest, h, rfl, rfl⟩
  · rintro ⟨rest, h, rfl, rfl⟩
    exact ⟨s, h, rfl, rfl⟩

/-- A line continues a comment if both have the doubled marker, at one column. -/
theorem continues_iff {style : CommentStyle} {first line : Text} :
    style.continues first line = true ↔
      ∃ i, style.indent? 2 first = some i ∧ style.indent? 2 line = some i := by
  unfold continues
  cases style.indent? 2 first with
  | none => simp
  | some i =>
    cases style.indent? 2 line with
    | none => simp
    | some j =>
      simp only [beq_iff_eq, Option.some.injEq]
      constructor
      · rintro rfl
        exact ⟨i, rfl, rfl⟩
      · rintro ⟨k, rfl, rfl⟩
        rfl

/-- A line with the doubled marker is a comment. -/
theorem isComment_of_indent? {style : CommentStyle} {line : Text} {i : Nat}
    (h : style.indent? 2 line = some i) : style.isComment line = true := by
  obtain ⟨⟨j, s⟩, hs, -⟩ := Option.map_eq_some_iff.1 h
  have hone := strip?_two.1 hs
  simp [isComment, indent?, hone]

/-- A line that continues a comment is a comment. -/
theorem isComment_of_continues {style : CommentStyle} {first line : Text}
    (h : style.continues first line = true) : style.isComment line = true := by
  obtain ⟨i, -, hline⟩ := continues_iff.1 h
  exact isComment_of_indent? hline

/-- Lines that are no comments continue none. -/
theorem continues_eq_false {style : CommentStyle} {first line : Text}
    (h : style.isComment line = false) : style.continues first line = false := by
  rw [Bool.eq_false_iff]
  intro hc
  rw [isComment_of_continues hc] at h
  cases h

/-! ## Blocks -/

/-- Lines that begin with one that does not continue the comment are left as they are. -/
theorem continuation_stop {style : CommentStyle} {indent : Nat} {others : List Text}
    (h : ∀ line, others.head? = some line → style.indent? 2 line ≠ some indent) :
    style.continuation indent others = ([], others) := by
  cases others with
  | nil => rfl
  | cons line rest =>
    have hline := h line rfl
    simp only [indent?] at hline
    simp only [continuation]
    split
    · next i s hs =>
      rw [hs] at hline
      rw [if_neg (by simpa using hline)]
    · rfl

/-- What continues a comment is lines that do so one by one, up to the first that does not. The
same lines continue it above any others that begin with such a line. -/
theorem continuation_cut (style : CommentStyle) (indent : Nat) (lines : List Text) :
    ∃ front, lines = front ++ (style.continuation indent lines).2 ∧
      (style.continuation indent lines).1.length = front.length ∧
      (∀ line ∈ front, style.indent? 2 line = some indent) ∧
      (∀ line, (style.continuation indent lines).2.head? = some line →
        style.indent? 2 line ≠ some indent) ∧
      ∀ others, (∀ line, others.head? = some line → style.indent? 2 line ≠ some indent) →
        style.continuation indent (front ++ others) =
          ((style.continuation indent lines).1, others) := by
  induction lines with
  | nil => exact ⟨[], rfl, rfl, by simp, by simp [continuation],
      fun _ => continuation_stop⟩
  | cons line rest ih =>
    by_cases hline : style.indent? 2 line = some indent
    · -- the line goes on with the comment, whatever comes below it
      obtain ⟨front, hrest, hlength, hall, hmax, hagain⟩ := ih
      obtain ⟨⟨i, s⟩, hs, rfl⟩ := Option.map_eq_some_iff.1 hline
      have heq : ∀ others, style.continuation i (line :: others) =
          (s :: (style.continuation i others).1, (style.continuation i others).2) := by
        intro others
        simp only [continuation, hs, if_true]
      refine ⟨line :: front, ?_, ?_, ?_, ?_, ?_⟩
      · rw [heq, List.cons_append, ← hrest]
      · rw [heq, List.length_cons, List.length_cons, hlength]
      · intro l hl
        rcases List.mem_cons.1 hl with rfl | hl
        · exact hline
        · exact hall l hl
      · rw [heq]
        exact hmax
      · intro others h
        rw [List.cons_append, heq, heq, hagain others h]
    · -- the comment ends here
      have hstop : style.continuation indent (line :: rest) = ([], line :: rest) :=
        continuation_stop (by simpa using hline)
      refine ⟨[], ?_, ?_, ?_, ?_, ?_⟩
      · rw [hstop, List.nil_append]
      · rw [hstop, List.length_nil]
      · exact fun l hl => absurd hl List.not_mem_nil
      · rw [hstop]
        simpa using hline
      · intro others h
        rw [hstop, List.nil_append, continuation_stop h]

/-- The doubled marker begins a block of all lines that continue it. -/
theorem collect?_doubled {style : CommentStyle} {first s : Text} {indent : Nat}
    (h : style.strip? 2 first = some (indent, s)) (start : Nat) (rest : List Text) :
    style.collect? start (first :: rest) =
      some (⟨trim (s ++ (style.continuation indent rest).1.flatten), indent, start,
        start + 1 + (style.continuation indent rest).1.length⟩,
        (style.continuation indent rest).2) := by
  simp only [collect?, strip?_two.1 h, if_true]

/-- The marker alone begins a block of one line. -/
theorem collect?_single {style : CommentStyle} {first s : Text} {indent : Nat}
    (h : style.strip? 1 first = some (indent, s)) (hs : s.head? ≠ some style.marker) (start : Nat)
    (rest : List Text) :
    style.collect? start (first :: rest) = some (⟨trim s, indent, start, start + 1⟩, rest) := by
  cases s with
  | nil =>
    simp only [collect?, h]
    rfl
  | cons c s =>
    have hc : c ≠ style.marker := by simpa using hs
    simp only [collect?, h, if_neg hc]

/-- A block begins in one of these two ways. -/
theorem collect?_cases {style : CommentStyle} {start : Nat} {lines after : List Text}
    {block : CommentBlock} (h : style.collect? start lines = some (block, after)) :
    ∃ first rest indent s, lines = first :: rest ∧
      (style.strip? 2 first = some (indent, s) ∧
          block = ⟨trim (s ++ (style.continuation indent rest).1.flatten), indent, start,
            start + 1 + (style.continuation indent rest).1.length⟩ ∧
          after = (style.continuation indent rest).2 ∨
        style.strip? 1 first = some (indent, s) ∧ s.head? ≠ some style.marker ∧
          block = ⟨trim s, indent, start, start + 1⟩ ∧ after = rest) := by
  cases lines with
  | nil => simp [collect?] at h
  | cons first rest =>
    cases hstrip : style.strip? 1 first with
    | none => simp [collect?, hstrip] at h
    | some found =>
      obtain ⟨indent, text⟩ := found
      by_cases hdoubled : text.head? = some style.marker
      · obtain ⟨s, rfl⟩ : ∃ s, text = style.marker :: s := by
          cases text with
          | nil => cases hdoubled
          | cons c s =>
            cases hdoubled
            exact ⟨s, rfl⟩
        have htwo := strip?_two.2 hstrip
        rw [collect?_doubled htwo] at h
        cases h
        exact ⟨first, rest, indent, s, rfl, .inl ⟨htwo, rfl, rfl⟩⟩
      · rw [collect?_single hstrip hdoubled] at h
        cases h
        exact ⟨first, _, indent, text, rfl, .inr ⟨hstrip, hdoubled, rfl, rfl⟩⟩

/-- A block is the lines up to those after it. It begins with a comment, which its other lines
continue, and it is collected again, with the same text, above any lines that do not. -/
theorem collect?_eq_some {style : CommentStyle} {start : Nat} {lines after : List Text}
    {block : CommentBlock} (h : style.collect? start lines = some (block, after)) :
    ∃ first more, lines = first :: more ++ after ∧ style.isComment first = true ∧
      (∀ line ∈ more, style.continues first line = true) ∧
      block.start = start ∧ block.next = start + (first :: more).length ∧
      ∀ start' others,
        (∀ line, others.head? = some line →
          after.head? = some line ∨ style.continues first line = false) →
        style.collect? start' (first :: more ++ others) =
          some (block.standingAt start' (first :: more).length, others) := by
  obtain ⟨first, rest, indent, s, rfl, hdoubled | hsingle⟩ := collect?_cases h
  · -- the doubled marker: the block goes on as long as lines continue it
    obtain ⟨hstrip, rfl, rfl⟩ := hdoubled
    have hcomment : style.isComment first = true := by
      simp [isComment, indent?, strip?_two.1 hstrip]
    have htwo : style.indent? 2 first = some indent := by
      simp [indent?, hstrip]
    obtain ⟨front, hrest, hlength, hall, hmax, hagain⟩ := continuation_cut style indent rest
    refine ⟨first, front, ?_, hcomment, ?_, rfl, ?_, ?_⟩
    · rw [List.cons_append, ← hrest]
    · intro line hline
      simp [continues, htwo, hall line hline]
    · rw [hlength, List.length_cons, Nat.add_assoc, Nat.add_comm 1]
    · intro start' others hothers
      -- a line that stood below before does not continue the block, nor does a new one
      have hstop : ∀ line, others.head? = some line → style.indent? 2 line ≠ some indent := by
        intro line hline
        rcases hothers line hline with hold | hnew
        · exact hmax line hold
        · intro hsame
          simp [continues, htwo, hsame] at hnew
      rw [List.cons_append, collect?_doubled hstrip, hagain others hstop, hlength,
        CommentBlock.standingAt, List.length_cons, Nat.add_assoc, Nat.add_comm 1]
  · -- the marker alone: the block is one line
    obtain ⟨hstrip, hs, rfl, rfl⟩ := hsingle
    have hcomment : style.isComment first = true := by
      simp [isComment, indent?, hstrip]
    exact ⟨first, [], rfl, hcomment, by simp, rfl, rfl, fun start' others _ =>
      collect?_single hstrip hs start' others⟩

/-- What follows the marker was in the line. -/
private theorem subset_of_strip? {style : CommentStyle} {rep i : Nat} {line s : Text}
    (h : style.strip? rep line = some (i, s)) : s ⊆ line := by
  obtain ⟨rest, hrest, heq⟩ := Option.map_eq_some_iff.1 h
  cases heq
  intro c hc
  apply List.dropWhile_subset isBlank
  have hdrop : line.dropWhile isBlank = fill rep style.marker ++ s := after?_eq_some_iff.1 hrest
  rw [hdrop]
  exact List.mem_append_right _ hc

/-- The text of a block of lines has no newline. -/
theorem newline_mem_text {style : CommentStyle} {start : Nat} {lines after : List Text}
    {block : CommentBlock} (h : style.collect? start lines = some (block, after))
    (hlines : ∀ line ∈ lines, '\n' ∉ line) : '\n' ∉ block.text := by
  have trimmed : ∀ s : Text, '\n' ∉ s → '\n' ∉ trim s := fun s hs hmem => hs (trim_subset s hmem)
  -- the texts of the lines that continue the comment are put together without anything between
  have more : ∀ (indent : Nat) (rest : List Text), (∀ line ∈ rest, '\n' ∉ line) →
      '\n' ∉ (style.continuation indent rest).1.flatten := by
    intro indent rest
    induction rest with
    | nil => exact fun _ => List.not_mem_nil
    | cons line rest ih =>
      intro hrest hmem
      simp only [continuation] at hmem
      split at hmem
      · next i s hs =>
        split at hmem
        · rcases List.mem_append.1 hmem with hmem | hmem
          · exact hrest line (List.mem_cons_self ..) (subset_of_strip? hs hmem)
          · exact ih (fun l hl => hrest l (List.mem_cons_of_mem _ hl)) hmem
        · exact absurd hmem List.not_mem_nil
      · exact absurd hmem List.not_mem_nil
  obtain ⟨first, rest, indent, s, rfl, ⟨hstrip, rfl, -⟩ | ⟨hstrip, -, rfl, -⟩⟩ := collect?_cases h
  · apply trimmed
    intro hmem
    rcases List.mem_append.1 hmem with hmem | hmem
    · exact hlines first (List.mem_cons_self ..) (subset_of_strip? hstrip hmem)
    · exact more indent rest (fun l hl => hlines l (List.mem_cons_of_mem _ hl)) hmem
  · exact trimmed _ fun hmem =>
      hlines first (List.mem_cons_self ..) (subset_of_strip? hstrip hmem)

/-- Nor does it end in white space. -/
theorem isWhite_of_getLast?_text {style : CommentStyle} {start : Nat} {lines after : List Text}
    {block : CommentBlock} (h : style.collect? start lines = some (block, after)) {c : Char}
    (hc : block.text.getLast? = some c) : isWhite c = false := by
  obtain ⟨first, rest, indent, s, rfl, ⟨-, rfl, -⟩ | ⟨-, -, rfl, -⟩⟩ := collect?_cases h
  · exact isWhite_of_getLast?_trim hc
  · exact isWhite_of_getLast?_trim hc

/-- Lines begin with a block exactly when the first of them is a comment. -/
theorem collect?_eq_none {style : CommentStyle} {start : Nat} {line : Text} {rest : List Text} :
    style.collect? start (line :: rest) = none ↔ style.isComment line = false := by
  rw [← strip?_eq_none]
  simp only [collect?]
  split
  · next h => simp [h]
  · next h =>
    rw [h]
    split
    · simp
    · split <;> simp

/-! ## All blocks -/

/-- A line that is no comment is passed over. -/
theorem blocksFrom_cons {style : CommentStyle} {line : Text}
    (h : style.isComment line = false) (i : Nat) (rest : List Text) :
    Document.blocksFrom style i (line :: rest) = Document.blocksFrom style (i + 1) rest := by
  have hcollect : style.collect? i (line :: rest) = none := collect?_eq_none.2 h
  rw [Document.blocksFrom]
  split
  · rfl
  · next h =>
    rw [hcollect] at h
    cases h

/-- A comment is the first of the blocks. -/
theorem blocksFrom_collect {style : CommentStyle} {i : Nat} {lines after : List Text}
    {block : CommentBlock} (h : style.collect? i lines = some (block, after)) :
    Document.blocksFrom style i lines = block :: Document.blocksFrom style block.next after := by
  cases lines with
  | nil => simp [collect?] at h
  | cons line rest =>
    rw [Document.blocksFrom]
    split
    · next hnone =>
      rw [h] at hnone
      cases hnone
    · next hsome =>
      rw [h] at hsome
      cases hsome
      rfl

/-! ## Finding comments -/

/-- A search passes over lines that are no comments. -/
theorem next?_append {style : CommentStyle} {word : Text} {front : List Text}
    (h : ∀ line ∈ front, style.isComment line = false) (rest : List Text) :
    style.next? word (front ++ rest) = (style.next? word rest).map (front.length + ·) := by
  induction front with
  | nil => simp
  | cons line front ih =>
    have hline := comment?_eq_none.2 (h line (List.mem_cons_self ..))
    rw [List.cons_append, next?, hline, ih fun l hl => h l (List.mem_cons_of_mem _ hl)]
    simp only [Option.map_map, List.length_cons]
    congr 1
    funext n
    simp only [Function.comp_apply]
    omega

/-- A search finds a line of the lines searched. -/
theorem next?_lt {style : CommentStyle} {word : Text} {lines : List Text} {n : Nat}
    (h : style.next? word lines = some n) : n < lines.length := by
  induction lines generalizing n with
  | nil => simp [next?] at h
  | cons line rest ih =>
    rw [next?] at h
    split at h
    · split at h
      · cases h
        simp
      · cases h
    · obtain ⟨m, hm, rfl⟩ := Option.map_eq_some_iff.1 h
      exact Nat.succ_lt_succ (ih hm)

/-! ## Passing over lines -/

/-- The lines from the first comment on. -/
def skip (style : CommentStyle) (lines : List Text) : List Text :=
  lines.dropWhile fun line => !style.isComment line

/-- Lines that are no comments are passed over. -/
theorem skip_append {style : CommentStyle} {front : List Text}
    (h : ∀ line ∈ front, style.isComment line = false) (rest : List Text) :
    style.skip (front ++ rest) = style.skip rest :=
  List.dropWhile_append_of_pos fun line hline => by simp [h line hline]

/-- Lines that are no comments can as well be removed. -/
theorem skip_drop {style : CommentStyle} {lines : List Text} {n : Nat}
    (h : ∀ line ∈ lines.take n, style.isComment line = false) :
    style.skip (lines.drop n) = style.skip lines := by
  have happend := skip_append h (lines.drop n)
  rw [List.take_append_drop] at happend
  exact happend.symm

/-- Nothing is passed over before a comment. -/
theorem skip_comment {style : CommentStyle} {line : Text} (h : style.isComment line = true)
    (rest : List Text) : style.skip (line :: rest) = line :: rest :=
  List.dropWhile_cons_of_neg (by simp [h])

end CommentStyle

/-! ## What a block means -/

namespace CommentBlock

/-- A directive stands where its block does and says what the block says. -/
theorem classify_eq_directive {block : CommentBlock} {d : Directive}
    (h : block.classify = .directive d) :
    d.startLine = block.start ∧ d.insertLine = block.next ∧ d.indent = block.indent ∧
      d.command = block.text ∧ d.body <:+ block.text := by
  -- the body is what is left of the text behind its first word
  have hbody : (Keyword.split block.text).2 <:+ block.text := by
    have hrest := List.dropWhile_suffix Keyword.isWordChar (l := block.text)
    unfold Keyword.split
    dsimp only
    split
    · exact List.nil_suffix
    · next c rest heq =>
      rw [heq] at hrest
      split
      · exact (List.suffix_cons ..).trans hrest
      · exact hrest
  simp only [classify] at h
  split at h
  · cases h
    exact ⟨rfl, rfl, rfl, rfl, hbody⟩
  · split at h <;> cases h

/-- What a block means does not depend on its place. -/
theorem classify_standingAt (block : CommentBlock) (start length : Nat) :
    (block.standingAt start length).classify =
      match block.classify with
      | .directive d => .directive (d.standingAt start length)
      | .unknown word => .unknown word
      | .plain => .plain := by
  have htext : (block.standingAt start length).text = block.text := rfl
  simp only [classify]
  rw [htext]
  cases Keyword.ofWord? (Keyword.split block.text).1 with
  | some keyword => rfl
  | none =>
    dsimp only
    split
    · rfl
    · rfl

end CommentBlock

end QueryWeave
