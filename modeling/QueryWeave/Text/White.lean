import QueryWeave.Text.Basic

/-!
# White space

Two notions of space are in use. A *blank* is a space or a tab: comment lines and clauses are laid
out with blanks. *White space* is the Unicode property White_Space: commands are trimmed and split
at it.
-/

namespace QueryWeave.Text

/-! ## The two classes -/

/-- A space or a tab. -/
def isBlank (c : Char) : Bool := c == ' ' || c == '\t'

/-- The Unicode property White_Space. -/
def isWhite (c : Char) : Bool :=
  let n := c.toNat
  (9 ≤ n && n ≤ 13) || n == 0x20 || n == 0x85 || n == 0xA0 || n == 0x1680 ||
    (0x2000 ≤ n && n ≤ 0x200A) || n == 0x2028 || n == 0x2029 || n == 0x202F || n == 0x205F ||
    n == 0x3000

/-- White space outside ASCII, and two invisible characters that are not white space. -/
example : ([0x85, 0xA0, 0x1680, 0x2003, 0x2028, 0x2029, 0x202F, 0x205F, 0x3000].map
    fun n => isWhite (Char.ofNat n)).all id ∧ [0x200B, 0xFEFF].all fun n =>
      !isWhite (Char.ofNat n) := by
  decide

/-! ## Trimming -/

/-- The text without its leading blanks. -/
def dropBlanks (s : Text) : Text := s.dropWhile isBlank

/-- The text without leading white space. -/
def trimStart (s : Text) : Text := s.dropWhile isWhite

/-- The text without the characters of class `p` at its end. -/
def dropEndWhile (p : Char → Bool) (s : Text) : Text := (s.reverse.dropWhile p).reverse

/-- The text without trailing white space. -/
def trimEnd (s : Text) : Text := dropEndWhile isWhite s

/-- The text without white space at both ends. -/
def trim (s : Text) : Text := trimEnd (trimStart s)

/-! ## Words -/

/-- The maximal runs of characters that are not white space. -/
def words (s : Text) : List Text := (s.splitOnP isWhite).filter (· ≠ [])

/-- The words of a text with one space between them. -/
def collapse (s : Text) : Text := join " " (words s)

end QueryWeave.Text
