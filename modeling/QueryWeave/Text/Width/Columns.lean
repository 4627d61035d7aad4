import QueryWeave.Text.Basic
import QueryWeave.Text.Ranges
import QueryWeave.Text.Width.Table

/-!
# Display width

The number of columns a text takes in a fixed-width font. Most characters take one column, wide ones
two, marks and invisible characters none; an emoji sequence takes two columns as a whole, and some
scripts have ligatures that take fewer columns than their letters. The width is found in one pass
from the right that remembers what stands directly after the current character.
-/

namespace QueryWeave.Text

namespace Width

/-! ## What stands to the right -/

/-- What the character to the right begins, as far as it can change the width of a sequence. -/
inductive Right
  | plain
  | newline
  /-- An emoji, or a sequence that is shown as one. -/
  | emoji
  /-- A skin tone. -/
  | skinTone
  /-- One regional indicator, or more of them. -/
  | regional | regionals
  /-- A joiner before an emoji, and what can precede that joiner. -/
  | joined | joinedKeycap | joinedRegional | joinedEvenRegionals | joinedOddRegionals
  /-- The end of a tag before a joiner, with so many letters or digits of the tag. -/
  | joinedLetters (count : Nat) | joinedDigits (count : Nat)
  /-- Letters that form ligatures with what stands before them. -/
  | alef | lamed | coengLetter | buginese | bugineseSign | tifinagh | tifinaghJoiner | lisuTone
  | orkhonI | kiratRaiE | kiratRaiAI
  deriving DecidableEq, Repr

/-- A variation selector to the right. -/
inductive Selector
  | none | text | wide | emoji
  deriving DecidableEq, Repr

/-- What is remembered of the text to the right. -/
structure Memory where
  right : Right := .plain
  selector : Selector := .none
  /-- A joiner stands between this position and a letter that forms ligatures. -/
  joiner : Bool := false

/-- Letters that can stand before a coeng sign and vanish below it. -/
def coengLetters : List (Nat × Nat) :=
  [(0x1780, 0x1782), (0x1784, 0x1787), (0x1789, 0x178C), (0x178E, 0x1793), (0x1795, 0x1798),
    (0x179B, 0x179D), (0x17A0, 0x17A0), (0x17A2, 0x17A2), (0x17A7, 0x17A7), (0x17AB, 0x17AC),
    (0x17AF, 0x17AF)]

/-- Arabic letters of the shapes alef and lam. -/
def alefs : List (Nat × Nat) :=
  [(0x622, 0x623), (0x625, 0x625), (0x627, 0x627), (0x671, 0x673), (0x675, 0x675), (0x773, 0x774),
    (0x870, 0x882)]

@[inherit_doc alefs]
def lams : List (Nat × Nat) :=
  [(0x644, 0x644), (0x6B5, 0x6B8), (0x76A, 0x76A), (0x8A6, 0x8A6), (0x8C7, 0x8C7)]

/-- Tifinagh consonants. -/
def tifinaghConsonants : List (Nat × Nat) := [(0x2D31, 0x2D65), (0x2D6F, 0x2D6F)]

/-- Invisible marks that may stand inside a ligature. -/
def transparent : List (Nat × Nat) :=
  [(0x34F, 0x34F), (0x17B4, 0x17B5), (0x180B, 0x180D), (0x180F, 0x180F), (0xFE00, 0xFE0F),
    (0xE0100, 0xE01EF)]

/-- Quotation marks that a variation selector makes wide. -/
def quotationMarks : List (Nat × Nat) := [(0x2018, 0x2019), (0x201C, 0x201D)]

/-- A regional indicator. -/
def isRegional (n : Nat) : Bool := 0x1F1E6 ≤ n && n ≤ 0x1F1FF

/-- The width of a character on its own, and what it means to its left neighbour. -/
def alone (n : Nat) : Nat × Right :=
  if isRegional n then (1, .regional)
  else if 0x1F3FB ≤ n ∧ n ≤ 0x1F3FF then (2, .skinTone)
  else if inRanges n emojiByDefault then (2, .emoji)
  else if inRanges n zeroColumns then (0, .plain)
  else if inRanges n twoColumns then (2, .plain)
  else if n = 0x17D8 then (3, .plain)
  else if inRanges n alefs then (1, .alef)
  else if n = 0x5DC then (1, .lamed)
  else if inRanges n coengLetters then (1, .coengLetter)
  else if n = 0x1A10 then (1, .buginese)
  else if inRanges n tifinaghConsonants then (1, .tifinagh)
  else if 0xA4FC ≤ n ∧ n ≤ 0xA4FD then (1, .lisuTone)
  else if n = 0x10C03 then (1, .orkhonI)
  else if n = 0x16D67 then (1, .kiratRaiE)
  else if n = 0x16D68 then (1, .kiratRaiAI)
  else (1, .plain)

/-- Letters to the right that a joiner or an invisible mark leaves able to form a ligature. -/
def isLigature (r : Right) : Bool :=
  r ∈ [.lamed, .coengLetter, .buginese, .bugineseSign, .tifinagh, .tifinaghJoiner, .lisuTone,
    .orkhonI]

/-- Letters to the right that a variation selector leaves able to form a ligature. -/
def outlastsSelector (r : Right) : Bool := r = .alef || isLigature r

/-- Emoji sequences that have a joiner at their left end. -/
def isJoined (r : Right) : Bool := r = .joined || r = .joinedKeycap

/-- A character of a tag before what is remembered of the tag: six letters, or up to four letters
and three digits after them, as they are met from the right. -/
def tagCharacter (n : Nat) : Right → Option Right
  | .joinedLetters count =>
    if 0xE0061 ≤ n ∧ n ≤ 0xE007A ∧ count < 6 then some (.joinedLetters (count + 1))
    else if 0xE0030 ≤ n ∧ n ≤ 0xE0039 ∧ count < 5 then some (.joinedDigits 1)
    else if n = 0x1F3F4 ∧ 3 ≤ count then some .emoji else none
  | .joinedDigits count =>
    if 0xE0030 ≤ n ∧ n ≤ 0xE0039 ∧ count < 3 then some (.joinedDigits (count + 1))
    else if n = 0x1F3F4 ∧ count = 3 then some .emoji else none
  | _ => none

/-- Sequences that change the width of the character of code point `n`: its width and what is
remembered, or nothing if the character stands on its own. -/
def inSequence (n : Nat) (m : Memory) : Option (Int × Memory) :=
  match m.right with
  | .alef =>
    if inRanges n lams then some (0, {})
    else if inRanges n zeroColumns ∧ ¬inRanges n parting then some (0, m) else none
  | .lamed => if n = 0x5D0 ∧ m.joiner then some (0, {}) else none
  | .coengLetter => if n = 0x17D2 then some (-1, {}) else none
  | .buginese => if n = 0x1A17 ∧ m.joiner then some (0, { right := .bugineseSign }) else none
  | .bugineseSign => if n = 0x1A15 then some (0, {}) else none
  | .tifinagh =>
    if n = 0x2D7F then some (1, { right := .tifinaghJoiner })
    else if m.joiner ∧ inRanges n tifinaghConsonants then some (0, {}) else none
  | .tifinaghJoiner => if inRanges n tifinaghConsonants then some (-1, {}) else none
  | .lisuTone => if 0xA4F8 ≤ n ∧ n ≤ 0xA4FB then some (0, {}) else none
  | .orkhonI => if n = 0x10C32 ∧ m.joiner then some (0, {}) else none
  | .kiratRaiE =>
    if n = 0x16D63 ∨ n = 0x16D69 then some (0, {})
    else if n = 0x16D67 then some (0, { right := .kiratRaiAI })
    else if n = 0x16D68 then some (1, { right := .kiratRaiE }) else none
  | .kiratRaiAI => if n = 0x16D63 then some (0, {}) else none
  | .skinTone =>
    if inRanges n modifierBases then some (0, { right := .emoji })
    else if n = 0x200D then some (0, { right := .joined }) else none
  | .emoji => if n = 0x200D then some (0, { right := .joined }) else none
  | .regional => if isRegional n then some (1, { right := .regionals }) else none
  | .regionals =>
    if isRegional n then some (1, { right := .regionals })
    else if n = 0x200D then some (0, { right := .joined }) else none
  | .joined =>
    if n = 0x20E3 then some (0, { right := .joinedKeycap })
    else if isRegional n then some (1, { right := .joinedRegional })
    else if 0x1F3FB ≤ n ∧ n ≤ 0x1F3FF then some (0, { right := .skinTone })
    else if n = 0xE007F then some (0, { right := .joinedLetters 0 })
    else if inRanges n emojiByDefault then some (0, { right := .emoji }) else none
  | .joinedLetters _ | .joinedDigits _ =>
    (tagCharacter n m.right).map fun r => (0, { right := r })
  | .joinedRegional => if isRegional n then some (-1, { right := .joinedEvenRegionals }) else none
  | .joinedEvenRegionals =>
    if isRegional n then some (3, { right := .joinedOddRegionals })
    else if n = 0x200D then some (0, { right := .joined }) else none
  | .joinedOddRegionals =>
    if isRegional n then some (-1, { right := .joinedEvenRegionals })
    else if n = 0x200D then some (0, { right := .joined }) else none
  | .plain | .newline | .joinedKeycap => none

/-- The width of a character given what stands to its right, and what is remembered of both. Up to
the no-break space every character takes one column, a carriage return before a newline excepted. -/
def step (c : Char) (m : Memory) : Int × Memory :=
  let n := c.toNat
  -- a selector speaks of the character directly before it, and of no other
  if m.selector = .emoji ∧ inRanges n emojiOnRequest then
    (if isJoined m.right then 0 else 2, { right := .emoji })
  else
    -- a selector without its character ends every sequence but a ligature
    let m := if m.selector = .emoji ∧ ¬outlastsSelector m.right then {} else m
    let selected (selector : Selector) : Memory :=
      if outlastsSelector m.right then { m with selector } else { selector }
    if n ≤ 0xA0 then
      if c = '\n' then (1, { right := .newline })
      else if c = '\r' ∧ m.right = .newline then (0, {})
      else (1, {})
    else if n = 0xFE0F then
      (0, if isJoined m.right then { right := m.right, selector := .emoji } else selected .emoji)
    else if n = 0xFE0E then (0, selected .text)
    else if n = 0xFE01 then (0, selected .wide)
    else if m.selector = .text ∧ inRanges n textOnRequest then (1, {})
    else if m.selector = .wide ∧ inRanges n quotationMarks then (2, {})
    else
      let m := { m with selector := .none }
      -- a joiner or an invisible mark may stand inside a ligature, every other character ends it
      if isLigature m.right && n = 0x200D then (0, { m with joiner := true })
      else if isLigature m.right && inRanges n transparent then (0, m)
      else match inSequence n m with
        | some r => r
        | none => ((alone n).1, { right := (alone n).2 })

end Width

/-- The number of columns that a text takes. -/
def columns (s : Text) : Nat :=
  (s.foldr (fun c (sum, m) => let (w, m) := Width.step c m; (sum + w, m))
    ((0 : Int), ({} : Width.Memory))).1.toNat

/-! ## Padding -/

/-- The text with spaces before it up to a width. -/
def padLeft (s : Text) (width : Nat) : Text := fill (width - columns s) ' ' ++ s

/-- The text with spaces after it up to a width. -/
def padRight (s : Text) (width : Nat) : Text := s ++ fill (width - columns s) ' '

end QueryWeave.Text
