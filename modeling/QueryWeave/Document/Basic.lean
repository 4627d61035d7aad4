import QueryWeave.Text.Lines
import QueryWeave.Text.Utf8

/-!
# Documents

A document is a sequence of lines. It is read from text, written back with a newline after every
line, and changed by replacing a span of lines.
-/

namespace QueryWeave

open Text

/-- The lines of a text document. -/
structure Document where
  lines : List Text
  deriving DecidableEq, Repr, Inhabited

namespace Document

/-- Reads a text. -/
def ofText (s : Text) : Document := ⟨Text.lines s⟩

/-- The text of the document, with a newline after every line. -/
def toText (d : Document) : Text := unlines d.lines

/-- Reads bytes line by line. They are cut at the bytes of newlines, and each piece is decoded by
itself; there is no document if one of them is ill-formed. -/
def ofUtf8? (bytes : ByteArray) : Option Document :=
  ((bytes.data.toList.splitOn 10).mapM fun piece => Text.ofUtf8? piece.toByteArray).map
    fun pieces => ⟨linesOfPieces pieces⟩

/-- The number of lines. -/
def size (d : Document) : Nat := d.lines.length

/-- The line with index `i`. -/
def get? (d : Document) (i : Nat) : Option Text := d.lines[i]?

/-- The position in the UTF-8 bytes of the text at which the line with index `i` starts. -/
def byteOffset (d : Document) (i : Nat) : Nat :=
  (d.lines.take i).foldr (fun l n => utf8Size l + 1 + n) 0

/-- A line after `indent` spaces. -/
def indented (indent : Nat) (line : Text) : Text := fill indent ' ' ++ line

/-- Puts `content`, every line after `indent` spaces, in the place of the lines from `first` up to
`last`, and gives the index of the line after it. -/
def replace (d : Document) (first last indent : Nat) (content : List Text) : Document × Nat :=
  (⟨d.lines.take first ++ content.map (indented indent) ++ d.lines.drop last⟩,
    first + content.length)

@[simp] theorem indented_zero (line : Text) : indented 0 line = line := rfl

/-- The bytes of a text that is the beginning of a document lie before its next line. -/
theorem byteOffset_eq_utf8Size (d : Document) (i : Nat) :
    d.byteOffset i = utf8Size (unlines (d.lines.take i)) := by
  simp only [byteOffset]
  induction d.lines.take i with
  | nil => rfl
  | cons l ls ih =>
    have newline : Char.utf8Size '\n' = 1 := rfl
    simp only [List.foldr_cons, unlines_cons, utf8Size_append, utf8Size, ih]
    omega

/-- The text of a document is a line with a newline after it, between the texts of the lines in
front of it and behind it. -/
theorem toText_eq_append {d : Document} {i : Nat} {line : Text} (h : d.get? i = some line) :
    d.toText = toText ⟨d.lines.take i⟩ ++ (line ++ '\n' :: toText ⟨d.lines.drop (i + 1)⟩) := by
  obtain ⟨hi, hline⟩ := List.getElem?_eq_some_iff.1 h
  have hlines : d.lines = d.lines.take i ++ line :: d.lines.drop (i + 1) := by
    rw [← hline, List.getElem_cons_drop, List.take_append_drop]
  rw [toText, toText, toText, ← unlines_cons, ← unlines_append, ← hlines]

/-- A line of a document is the bytes of its text from the offset of the line on. -/
theorem extract_byteOffset {d : Document} {i : Nat} {line : Text} (h : d.get? i = some line) :
    (toUtf8 d.toText).extract (d.byteOffset i) (d.byteOffset i + utf8Size line) = toUtf8 line := by
  -- in front of the line stand the bytes that are counted, and behind it is only more text
  rw [toText_eq_append h, toUtf8_append, toUtf8_append, byteOffset_eq_utf8Size, ← toText,
    ← size_toUtf8, ← size_toUtf8, ← Nat.add_zero (toUtf8 (toText ⟨d.lines.take i⟩)).size,
    Nat.add_assoc, ByteArray.extract_append_size_add, Nat.zero_add]
  exact ByteArray.extract_append_eq_left rfl

end Document

end QueryWeave
