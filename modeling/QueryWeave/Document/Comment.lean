import QueryWeave.Document.Basic
import QueryWeave.Text.White

/-!
# Comments

A comment line starts, after blanks, with the marker of the document. A comment of several lines
starts with the marker doubled, and the lines directly below that carry the doubled marker at the
same column continue it. A block is a comment with all its lines.
-/

namespace QueryWeave

open Text

/-- A comment and where it stands. -/
structure CommentBlock where
  /-- The comment without its markers, trimmed. -/
  text : Text
  /-- The number of blanks before the marker. -/
  indent : Nat
  /-- The index of its first line. -/
  start : Nat
  /-- The index of the line after it. -/
  next : Nat
  deriving DecidableEq, Repr

/-- The character that begins a comment. -/
structure CommentStyle where
  marker : Char
  deriving DecidableEq, Repr

namespace CommentStyle

/-! ## Comment lines -/

/-- The number of blanks before the marker, and what follows `rep` markers. -/
def strip? (style : CommentStyle) (rep : Nat) (line : Text) : Option (Nat × Text) :=
  (after? (fill rep style.marker) (dropBlanks line)).map fun rest =>
    ((line.takeWhile isBlank).length, rest)

/-- The number of blanks before `rep` markers, if the line starts with these. -/
def indent? (style : CommentStyle) (rep : Nat) (line : Text) : Option Nat :=
  (style.strip? rep line).map Prod.fst

/-- Whether the line is a comment. -/
def isComment (style : CommentStyle) (line : Text) : Bool := (style.indent? 1 line).isSome

/-- The trimmed text of a comment line. -/
def comment? (style : CommentStyle) (line : Text) : Option Text :=
  (style.strip? 1 line).map fun (_, rest) => trim rest

/-! ## Blocks -/

/-- What the lines say that continue a comment at column `indent`: their text after the doubled
marker, and the lines after them. -/
def continuation (style : CommentStyle) (indent : Nat) : List Text → List Text × List Text
  | [] => ([], [])
  | line :: rest =>
    match style.strip? 2 line with
    | some (i, s) =>
      if i = indent then
        let (more, after) := style.continuation indent rest
        (s :: more, after)
      else ([], line :: rest)
    | none => ([], line :: rest)

/-- The block at the beginning of the lines, the first of which has index `start`, and the lines
after it. -/
def collect? (style : CommentStyle) (start : Nat) : List Text → Option (CommentBlock × List Text)
  | [] => none
  | line :: rest =>
    match style.strip? 1 line with
    | none => none
    | some (indent, first) =>
      match first with
      | [] => some (⟨[], indent, start, start + 1⟩, rest)
      | c :: s =>
        if c = style.marker then
          let (more, after) := style.continuation indent rest
          some (⟨trim (s ++ more.flatten), indent, start, start + 1 + more.length⟩, after)
        else some (⟨trim (c :: s), indent, start, start + 1⟩, rest)

/-- What continues a comment are the lines up to those after it. -/
theorem continuation_length (style : CommentStyle) (indent : Nat) (lines : List Text) :
    (style.continuation indent lines).1.length + (style.continuation indent lines).2.length =
      lines.length := by
  induction lines with
  | nil => rfl
  | cons line rest ih =>
    simp only [continuation]
    split
    · split
      · simp only [List.length_cons]
        omega
      · simp
    · simp

/-- The lines after a block are fewer than those that begin with it. -/
theorem length_lt_of_collect? {style : CommentStyle} {start : Nat} {lines after : List Text}
    {block : CommentBlock} (h : style.collect? start lines = some (block, after)) :
    after.length < lines.length := by
  cases lines with
  | nil => simp [collect?] at h
  | cons line rest =>
    simp only [collect?] at h
    split at h
    · simp at h
    · split at h
      · simp only [Option.some.injEq, Prod.mk.injEq] at h
        simp [← h.2]
      · split at h
        · simp only [Option.some.injEq, Prod.mk.injEq] at h
          have := style.continuation_length ‹_› rest
          rw [← h.2, List.length_cons]
          omega
        · simp only [Option.some.injEq, Prod.mk.injEq] at h
          simp [← h.2]

/-! ## Finding comments -/

/-- The index of the first comment among the lines, if its text starts with `word`. -/
def next? (style : CommentStyle) (word : Text) (lines : List Text) : Option Nat :=
  match lines with
  | [] => none
  | line :: rest =>
    match style.comment? line with
    | some s => if startsWith word s then some 0 else none
    | none => (style.next? word rest).map (· + 1)

end CommentStyle

namespace Document

/-- The block whose first line has index `i`. -/
def block? (d : Document) (style : CommentStyle) (i : Nat) : Option CommentBlock :=
  (style.collect? i (d.lines.drop i)).map Prod.fst

/-- The index of the first comment at or after line `i`, if its text starts with `word`. -/
def nextComment? (d : Document) (style : CommentStyle) (i : Nat) (word : Text) : Option Nat :=
  (style.next? word (d.lines.drop i)).map (i + ·)

/-- All blocks among the lines, the first of which has index `i`, in order. -/
def blocksFrom (style : CommentStyle) (i : Nat) (lines : List Text) : List CommentBlock :=
  match lines with
  | [] => []
  | line :: rest =>
    match h : style.collect? i (line :: rest) with
    | none => blocksFrom style (i + 1) rest
    | some (block, after) => block :: blocksFrom style block.next after
termination_by lines.length
decreasing_by
  · simp
  · exact CommentStyle.length_lt_of_collect? h

/-- All blocks of the document, in order. -/
def blocks (d : Document) (style : CommentStyle) : List CommentBlock := blocksFrom style 0 d.lines

end Document

end QueryWeave
