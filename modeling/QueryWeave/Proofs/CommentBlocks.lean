import Mathlib.Data.List.Pairwise
import Mathlib.Logic.ExistsUnique
import QueryWeave.Document.Kind
import QueryWeave.Proofs.Comments

/-!
# Blocks of a document

A search for comments goes through a document from its first line on: it passes a line that begins
no block, and goes on behind a block that it has found. Every comment line of the document is so put
into exactly one block, and a block of several lines goes on as long as its marker stands at one
column. How a command is split over the lines of its block does not matter, since their texts are
put together without anything between them.

Main statement: `Document.blocks_partition_comments`.
-/

namespace QueryWeave

open Text

namespace Document

/-! ## Searching for blocks -/

/-- The blocks that a search finds from a line on: a line that begins no block is passed, and behind
a block the search goes on. -/
inductive Collects (d : Document) (style : CommentStyle) : Nat → List CommentBlock → Prop
  | done {i : Nat} (hi : d.size ≤ i) : d.Collects style i []
  | pass {i : Nat} {blocks : List CommentBlock} (hi : i < d.size) (hline : d.block? style i = none)
      (rest : d.Collects style (i + 1) blocks) : d.Collects style i blocks
  | block {i : Nat} {block : CommentBlock} {blocks : List CommentBlock}
      (hblock : d.block? style i = some block) (rest : d.Collects style block.next blocks) :
      d.Collects style i (block :: blocks)

/-- The lines of a block. -/
def linesOf (d : Document) (block : CommentBlock) : List Text :=
  (d.lines.drop block.start).take (block.next - block.start)

/-- What a block is: lines of the document that are comments, and if there are several of them, all
those that carry the doubled marker at its column. -/
structure IsBlock (d : Document) (style : CommentStyle) (block : CommentBlock) : Prop where
  nonempty : block.start < block.next
  within : block.next ≤ d.size
  comments : ∀ line ∈ d.linesOf block, style.isComment line = true
  doubled : block.start + 1 < block.next →
    ∀ line ∈ d.linesOf block, style.indent? 2 line = some block.indent
  maximal : block.start + 1 < block.next →
    ∀ line, d.get? block.next = some line → style.indent? 2 line ≠ some block.indent

section Search

variable {d : Document} {style : CommentStyle}

/-- The lines of a block are cut out of the document between those before and those after it. -/
theorem linesOf_eq (block : CommentBlock) {first : Text} {more after : List Text}
    (hlines : d.lines.drop block.start = first :: more ++ after)
    (hnext : block.next = block.start + (first :: more).length) :
    d.linesOf block = first :: more ∧ d.lines.drop block.next = after ∧ block.next ≤ d.size := by
  refine ⟨?_, ?_, ?_⟩
  · rw [linesOf, hlines, hnext, Nat.add_sub_cancel_left, List.take_left]
  · rw [hnext, ← List.drop_drop, hlines, List.drop_left]
  · have hlength := congrArg List.length hlines
    simp only [List.length_drop, List.length_append, List.length_cons] at hlength
    simp only [size, hnext, List.length_cons]
    omega

/-- What begins at a line is a block, and the lines behind it are those that were not taken. -/
theorem isBlock_of_collect? {i : Nat} {block : CommentBlock} {after : List Text}
    (h : style.collect? i (d.lines.drop i) = some (block, after)) :
    d.IsBlock style block ∧ block.start = i ∧ d.lines.drop block.next = after := by
  obtain ⟨first, rest, indent, s, hdrop, ⟨hstrip, rfl, rfl⟩ | ⟨hstrip, -, rfl, rfl⟩⟩ :=
    CommentStyle.collect?_cases h
  · -- the doubled marker: what continues the comment is the rest of the block
    have hfirst : style.indent? 2 first = some indent := by simp [CommentStyle.indent?, hstrip]
    obtain ⟨front, hrest, hlength, hfront, hmax, -⟩ := style.continuation_cut indent rest
    generalize htext : trim (s ++ (style.continuation indent rest).1.flatten) = text
    rw [hlength, Nat.add_assoc, Nat.add_comm 1]
    have hlines : d.lines.drop i = first :: front ++ (style.continuation indent rest).2 := by
      rw [hdrop, List.cons_append, ← hrest]
    obtain ⟨hof, hafter, hsize⟩ :=
      linesOf_eq ⟨text, indent, i, i + (front.length + 1)⟩ hlines rfl
    have hall : ∀ line ∈ first :: front, style.indent? 2 line = some indent := by
      intro line hline
      rcases List.mem_cons.1 hline with rfl | hline
      · exact hfirst
      · exact hfront line hline
    rw [← hof] at hall
    refine ⟨⟨?_, hsize, ?_, fun _ => hall, fun _ line hline => ?_⟩, rfl, hafter⟩
    · exact Nat.lt_add_of_pos_right (Nat.succ_pos _)
    · exact fun line hline => CommentStyle.isComment_of_indent? (hall line hline)
    · rw [get?, ← List.head?_drop, hafter] at hline
      exact hmax line hline
  · -- the marker alone: there is no other line that anything would have to be said of
    have hlines : d.lines.drop i = [first] ++ after := hdrop
    obtain ⟨hof, hafter, hsize⟩ := linesOf_eq ⟨trim s, indent, i, i + 1⟩ hlines rfl
    refine ⟨⟨Nat.lt_succ_self i, hsize, ?_, ?_, ?_⟩, rfl, hafter⟩
    · intro line hline
      rw [hof] at hline
      rw [List.mem_singleton.1 hline]
      simp [CommentStyle.isComment, CommentStyle.indent?, hstrip]
    · exact fun hlt => absurd hlt (Nat.lt_irrefl _)
    · exact fun hlt => absurd hlt (Nat.lt_irrefl _)

/-- The blocks of a document are what the search finds. -/
theorem collects_blocksFrom (d : Document) (style : CommentStyle) (i : Nat) :
    d.Collects style i (blocksFrom style i (d.lines.drop i)) := by
  -- the lines that are left get fewer, whether one of them is passed or a block of them
  induction hn : d.size - i using Nat.strongRecOn generalizing i with
  | ind n ih =>
    subst hn
    by_cases hi : d.size ≤ i
    · rw [List.drop_eq_nil_of_le hi, blocksFrom]
      exact .done hi
    · have hlt : i < d.size := Nat.lt_of_not_le hi
      cases hcollect : style.collect? i (d.lines.drop i) with
      | none =>
        have hpass : d.block? style i = none := by rw [block?, hcollect, Option.map_none]
        rw [List.drop_eq_getElem_cons hlt] at hcollect ⊢
        rw [CommentStyle.blocksFrom_cons (CommentStyle.collect?_eq_none.1 hcollect)]
        exact .pass hlt hpass (ih _ (by omega) (i + 1) rfl)
      | some found =>
        obtain ⟨block, after⟩ := found
        have hfound : d.block? style i = some block := by rw [block?, hcollect, Option.map_some]
        obtain ⟨hblock, hstart, hafter⟩ := isBlock_of_collect? hcollect
        have hnext := hblock.nonempty
        rw [CommentStyle.blocksFrom_collect hcollect, ← hafter]
        exact .block hfound (ih _ (by omega) block.next rfl)

namespace Collects

variable {i : Nat} {blocks : List CommentBlock}

/-- A search finds nothing but blocks, at or after its line. -/
theorem isBlock (h : d.Collects style i blocks) :
    ∀ block ∈ blocks, d.IsBlock style block ∧ i ≤ block.start := by
  induction h with
  | done hi => exact nofun
  | pass hi hline rest ih => exact fun b hb => ⟨(ih b hb).1, Nat.le_of_succ_le (ih b hb).2⟩
  | @block i block blocks hblock rest ih =>
    obtain ⟨⟨found, after⟩, hcollect, rfl⟩ := Option.map_eq_some_iff.1 hblock
    obtain ⟨hfirst, hstart, -⟩ := isBlock_of_collect? hcollect
    intro b hb
    rcases List.mem_cons.1 hb with rfl | hb
    · exact ⟨hfirst, Nat.le_of_eq hstart.symm⟩
    · have hnext := hfirst.nonempty
      have hle : found.next ≤ b.start := (ih b hb).2
      exact ⟨(ih b hb).1, by omega⟩

/-- The blocks are found one behind the other. -/
theorem pairwise (h : d.Collects style i blocks) :
    blocks.Pairwise fun a b => a.next ≤ b.start := by
  induction h with
  | done hi => exact .nil
  | pass hi hline rest ih => exact ih
  | block hblock rest ih => exact .cons (fun b hb => (rest.isBlock b hb).2) ih

/-- No comment line is missed. -/
theorem covers (h : d.Collects style i blocks) {j : Nat} {line : Text} (hj : i ≤ j)
    (hline : d.get? j = some line) (hcomment : style.isComment line = true) :
    ∃ block ∈ blocks, block.start ≤ j ∧ j < block.next := by
  induction h with
  | done hi =>
    have hlt := (List.getElem?_eq_some_iff.1 hline).1
    simp only [size] at hi
    omega
  | @pass i blocks hi hpass rest ih =>
    refine ih (Nat.lt_of_le_of_ne hj ?_)
    -- a line that is passed is no comment
    rintro rfl
    obtain ⟨hlt, rfl⟩ := List.getElem?_eq_some_iff.1 hline
    rw [block?, List.drop_eq_getElem_cons hlt, Option.map_eq_none_iff,
      CommentStyle.collect?_eq_none, hcomment] at hpass
    cases hpass
  | @block i block blocks hblock rest ih =>
    obtain ⟨⟨found, after⟩, hcollect, rfl⟩ := Option.map_eq_some_iff.1 hblock
    obtain ⟨-, hstart, -⟩ := isBlock_of_collect? hcollect
    by_cases hnext : j < found.next
    · exact ⟨found, List.mem_cons_self .., by omega, hnext⟩
    · obtain ⟨b, hb, hin⟩ := ih (Nat.le_of_not_lt hnext)
      exact ⟨b, List.mem_cons_of_mem _ hb, hin⟩

end Collects

/-- Every comment line is in exactly one block. -/
theorem existsUnique_block {i : Nat} {line : Text} (hline : d.get? i = some line)
    (hcomment : style.isComment line = true) :
    ∃! block, block ∈ d.blocks style ∧ block.start ≤ i ∧ i < block.next := by
  have hcollects : d.Collects style 0 (d.blocks style) := collects_blocksFrom d style 0
  obtain ⟨block, hblock, hin⟩ := hcollects.covers (Nat.zero_le i) hline hcomment
  refine ⟨block, ⟨hblock, hin⟩, ?_⟩
  rintro other ⟨hother, hin'⟩
  by_contra hne
  have hsymm : Std.Symm fun a b : CommentBlock => a.next ≤ b.start ∨ b.next ≤ a.start :=
    ⟨fun _ _ => Or.symm⟩
  have happart : (d.blocks style).Pairwise fun a b => a.next ≤ b.start ∨ b.next ≤ a.start :=
    hcollects.pairwise.imp .inl
  rcases happart.forall hother hblock hne with hle | hle <;> omega

end Search

/-! ## Commands on several lines -/

section Chunks

variable {style : CommentStyle} {blanks : Text}

/-- A line with the doubled marker behind blanks. -/
def doubledLine (style : CommentStyle) (blanks chunk : Text) : Text :=
  blanks ++ style.marker :: style.marker :: chunk

theorem strip?_doubledLine (hmarker : isBlank style.marker = false)
    (hblanks : ∀ c ∈ blanks, isBlank c = true) (chunk : Text) :
    style.strip? 2 (doubledLine style blanks chunk) = some (blanks.length, chunk) := by
  obtain ⟨htake, hdrop⟩ := takeWhile_dropWhile_append (style.marker :: style.marker :: chunk)
    hblanks (by rintro c ⟨⟩; exact hmarker)
  simp only [CommentStyle.strip?, doubledLine, dropBlanks, htake, hdrop]
  exact congrArg _ (after?_append [style.marker, style.marker] chunk)

/-- The lines below go on with the command, up to one that does not carry the doubled marker at the
same column. -/
theorem continuation_doubledLines (hmarker : isBlank style.marker = false)
    (hblanks : ∀ c ∈ blanks, isBlank c = true) (chunks : List Text) {after : List Text}
    (hafter : ∀ line, after.head? = some line → style.indent? 2 line ≠ some blanks.length) :
    style.continuation blanks.length (chunks.map (doubledLine style blanks) ++ after) =
      (chunks, after) := by
  induction chunks with
  | nil => exact CommentStyle.continuation_stop hafter
  | cons chunk chunks ih =>
    rw [List.map_cons, List.cons_append, CommentStyle.continuation,
      strip?_doubledLine hmarker hblanks]
    simp only [if_true, ih]

/-- Chunks of a command are put together again. -/
theorem block?_doubledLines (hmarker : isBlank style.marker = false)
    (hblanks : ∀ c ∈ blanks, isBlank c = true) (before : List Text) {chunks after : List Text}
    (hne : chunks ≠ [])
    (hafter : ∀ line, after.head? = some line → style.indent? 2 line ≠ some blanks.length) :
    block? ⟨before ++ chunks.map (doubledLine style blanks) ++ after⟩ style before.length =
      some ⟨trim chunks.flatten, blanks.length, before.length, before.length + chunks.length⟩ := by
  obtain ⟨chunk, more, rfl⟩ := List.exists_cons_of_ne_nil hne
  have hdrop : (before ++ (chunk :: more).map (doubledLine style blanks) ++ after).drop
      before.length =
        doubledLine style blanks chunk :: (more.map (doubledLine style blanks) ++ after) := by
    rw [List.append_assoc, List.drop_left, List.map_cons, List.cons_append]
  rw [block?, hdrop, CommentStyle.collect?_doubled (strip?_doubledLine hmarker hblanks chunk),
    continuation_doubledLines hmarker hblanks more hafter, Option.map_some, List.flatten_cons,
    List.length_cons, Nat.add_assoc, Nat.add_comm 1]

end Chunks

/-! ## Main statement -/

/-- The search for comments puts every comment line into exactly one block of consecutive lines. The
lines of a block of several lines are those that carry the doubled marker at its column. A command
can be split anywhere over such lines, behind any blanks: it is the text that its chunks make up. -/
theorem blocks_partition_comments (kind : DocumentKind) :
    let style : CommentStyle := ⟨kind.marker⟩
    (∀ d : Document, d.Collects style 0 (d.blocks style) ∧
      (d.blocks style).Pairwise (fun a b => a.next ≤ b.start) ∧
      (∀ block ∈ d.blocks style, d.IsBlock style block) ∧
      ∀ i line, d.get? i = some line → style.isComment line = true →
        ∃! block, block ∈ d.blocks style ∧ block.start ≤ i ∧ i < block.next) ∧
    ∀ (before after chunks : List Text) (blanks command : Text),
      (∀ c ∈ blanks, isBlank c = true) → chunks ≠ [] → chunks.flatten = command →
      (∀ line, after.head? = some line → style.indent? 2 line ≠ some blanks.length) →
      block? ⟨before ++ chunks.map (doubledLine style blanks) ++ after⟩ style before.length =
        some ⟨trim command, blanks.length, before.length, before.length + chunks.length⟩ := by
  intro style
  refine ⟨fun d => ?_, ?_⟩
  · have hcollects : d.Collects style 0 (d.blocks style) := collects_blocksFrom d style 0
    exact ⟨hcollects, hcollects.pairwise, fun block hblock => (hcollects.isBlock block hblock).1,
      fun i line => existsUnique_block⟩
  · rintro before after chunks blanks _ hblanks hne rfl hafter
    have hmarker : isBlank style.marker = false := by cases kind <;> decide
    exact block?_doubledLines hmarker hblanks before hne hafter

/-- A command whose chunks begin with blanks and markers, above a comment at another column. -/
theorem blocks_partition_split_command :
    let style : CommentStyle := ⟨'%'⟩
    let chunks : List Text := ["TABULAR SEL", "ECT 1", " ", "%% done"].map String.toList
    let d : Document :=
      ⟨["text".toList] ++ chunks.map (doubledLine style ['\t']) ++ ["  %% other".toList]⟩
    (∃! block, block ∈ d.blocks style ∧ block.start ≤ 2 ∧ 2 < block.next) ∧
      d.block? style 1 = some ⟨"TABULAR SELECT 1 %% done".toList, 1, 1, 5⟩ := by
  intro style chunks d
  have htrim : trim "TABULAR SELECT 1 %% done".toList = "TABULAR SELECT 1 %% done".toList := by
    decide
  obtain ⟨hpartition, hcommand⟩ := blocks_partition_comments .latex
  refine ⟨(hpartition d).2.2.2 2 _ rfl (by decide), ?_⟩
  rw [← htrim]
  refine hcommand ["text".toList] ["  %% other".toList] chunks ['\t'] _ (by simp [isBlank])
    (List.cons_ne_nil _ _) (by decide) ?_
  rintro line ⟨⟩
  decide

end Document

end QueryWeave
