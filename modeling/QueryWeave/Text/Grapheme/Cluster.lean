import QueryWeave.Text.Basic
import QueryWeave.Text.Ranges
import QueryWeave.Text.Grapheme.Table

/-!
# Grapheme clusters

A grapheme cluster is what a reader sees as one character: a letter with its marks, a Hangul
syllable, a flag, an emoji sequence. Clusters are found in one pass from the left that remembers the
class of the last character and what is needed to continue a conjunct, an emoji sequence or a flag.
-/

namespace QueryWeave.Text

/-! ## Classes -/

/-- What decides whether a cluster ends at a character. -/
inductive Grapheme.Kind
  | other | return | newline | control | extender | nonJoiner | linker | joiner | regional
  | prepended | spacingMark | leading | vowel | trailing | openSyllable | closedSyllable
  | consonant | pictograph
  deriving DecidableEq, Repr

namespace Grapheme

/-- The class of a code point outside ASCII. -/
def kindOfCode (n : Nat) : Kind :=
  if n = 0x200C then .nonJoiner
  else if n = 0x200D then .joiner
  else if 0x1F1E6 ≤ n ∧ n ≤ 0x1F1FF then .regional
  else if (0x1100 ≤ n ∧ n ≤ 0x115F) ∨ (0xA960 ≤ n ∧ n ≤ 0xA97C) then .leading
  else if (0x1160 ≤ n ∧ n ≤ 0x11A7) ∨ (0xD7B0 ≤ n ∧ n ≤ 0xD7C6) ∨ n = 0x16D63 ∨
      (0x16D67 ≤ n ∧ n ≤ 0x16D6A) then .vowel
  else if (0x11A8 ≤ n ∧ n ≤ 0x11FF) ∨ (0xD7CB ≤ n ∧ n ≤ 0xD7FB) then .trailing
  else if 0xAC00 ≤ n ∧ n ≤ 0xD7A3 then
    if (n - 0xAC00) % 28 = 0 then .openSyllable else .closedSyllable
  else if inRanges n controls then .control
  else if inRanges n extenders then .extender
  else if inRanges n linkers then .linker
  else if inRanges n prepended then .prepended
  else if inRanges n spacingMarks then .spacingMark
  else if inRanges n consonants then .consonant
  else if inRanges n pictographs then .pictograph
  else .other

/-- The class of a character. -/
def kind (c : Char) : Kind :=
  if c = '\r' then .return
  else if c = '\n' then .newline
  else if c.toNat < 0x20 ∨ c.toNat = 0x7F then .control
  else if c.toNat < 0x7F then .other
  else kindOfCode c.toNat

/-! ## Breaks -/

/-- What a pass over a text remembers of the characters before its position. -/
structure Memory where
  /-- The class of the last character. -/
  last : Kind
  /-- An Indic consonant stands before, with marks alone after it. -/
  consonant : Bool := false
  /-- One of those marks is a linker. -/
  linked : Bool := false
  /-- A pictograph stands before, with extenders alone after it, up to one last joiner. -/
  pictograph : Bool := false
  /-- An odd number of regional indicators stands directly before. -/
  oddFlags : Bool := false

/-- What is remembered after a first character of class `k`. -/
def Memory.start (k : Kind) : Memory :=
  ⟨k, k = .consonant, false, k = .pictograph, k = .regional⟩

/-- What is remembered after one more character of class `k`. -/
def Memory.next (m : Memory) (k : Kind) : Memory :=
  let mark := k = .extender ∨ k = .linker ∨ k = .joiner
  let extending := k = .extender ∨ k = .linker ∨ k = .nonJoiner
  { last := k
    consonant := k = .consonant ∨ (m.consonant ∧ mark)
    linked := m.consonant ∧ mark ∧ (m.linked ∨ k = .linker)
    pictograph := k = .pictograph ∨
      (m.pictograph ∧ m.last ≠ .joiner ∧ (extending ∨ k = .joiner))
    oddFlags := k = .regional ∧ !m.oddFlags }

/-- Whether a character of class `k` belongs to the cluster of the characters before it. -/
def Memory.joins (m : Memory) (k : Kind) : Bool :=
  if m.last = .return ∧ k = .newline then true
  else if m.last ∈ [.control, .return, .newline] ∨ k ∈ [.control, .return, .newline] then false
  else if k ∈ [.extender, .nonJoiner, .linker, .joiner, .spacingMark] then true
  else if m.last = .prepended then true
  else match m.last, k with
    | .leading, .leading | .leading, .vowel | .leading, .openSyllable
    | .leading, .closedSyllable => true
    | .openSyllable, .vowel | .openSyllable, .trailing | .vowel, .vowel | .vowel, .trailing => true
    | .closedSyllable, .trailing | .trailing, .trailing => true
    | .regional, .regional => m.oddFlags
    | .joiner, .pictograph => m.pictograph
    | _, .consonant => m.linked
    | _, _ => false

/-- Cuts a text into clusters, given what stands before and the cluster under way, reversed. -/
def clustersFrom (m : Memory) (current : Text) : Text → List Text
  | [] => [current.reverse]
  | c :: s =>
    let k := kind c
    if m.joins k then clustersFrom (m.next k) (c :: current) s
    else current.reverse :: clustersFrom (Memory.next { m with oddFlags := false } k) [c] s

end Grapheme

/-- The grapheme clusters of a text. -/
def clusters : Text → List Text
  | [] => []
  | c :: s => Grapheme.clustersFrom (Grapheme.Memory.start (Grapheme.kind c)) [c] s

/-- Clusters lose no character. -/
theorem Grapheme.flatten_clustersFrom (m : Memory) (current s : Text) :
    (clustersFrom m current s).flatten = current.reverse ++ s := by
  induction s generalizing m current with
  | nil => simp [clustersFrom]
  | cons c s ih =>
    simp only [clustersFrom]
    split <;> simp [ih]

/-- The clusters of a text, one after the other, are the text. -/
theorem flatten_clusters (s : Text) : (clusters s).flatten = s := by
  cases s with
  | nil => rfl
  | cons c s => simp [clusters, Grapheme.flatten_clustersFrom]

/-- The text if it has at most `width` clusters, else its beginning and three dots. -/
def shorten (width : Nat) (s : Text) : Text :=
  let cs := clusters s
  if cs.length ≤ width then s else (cs.take (width - 3)).flatten ++ "...".toList

end QueryWeave.Text
