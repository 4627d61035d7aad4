import QueryWeave.Text.Escape
import QueryWeave.Text.Integer

/-!
# Parts of statements

A statement is cut into words, quoted names, texts, numbers, bytes, placeholders and symbols. White
space and comments between them are left out. Every part keeps its spelling and its position in the
bytes of the statement.
-/

namespace QueryWeave

open Text

/-- What a part of a statement is. -/
inductive LexemeKind
  | word
  /-- A name between double quotes. -/
  | quotedName (name : Text)
  | text (s : Text)
  | number
  | blob (bytes : List UInt8)
  /-- The placeholder of a value, with its number; values are counted from one. -/
  | parameter (number : Nat)
  | symbol
  /-- Characters that form no part of any statement. -/
  | illegal
  deriving DecidableEq, Repr

/-- A part of a statement. -/
structure Lexeme where
  kind : LexemeKind
  spelling : Text
  offset : Nat
  /-- What follows the part. -/
  rest : Text
  deriving DecidableEq, Repr

namespace Lexeme

/-! ## Classes of characters -/

/-- White space between the parts of a statement. -/
def isSpace (c : Char) : Bool :=
  c == ' ' || c == '\t' || c == '\n' || c == Char.ofNat 12 || c == '\r'

/-- A character that a word can begin with. -/
def startsName (c : Char) : Bool := isLetter c || c == '_' || 128 ≤ c.toNat

/-- A character that a word can go on with. -/
def continuesName (c : Char) : Bool := startsName c || isDigit c || c == '$'

/-- A symbol of one character. -/
def isSymbol (c : Char) : Bool := "(),;*=+-.<>/%&|~".toList.contains c

/-! ## Single parts -/

/-- The bytes that pairs of hexadecimal digits stand for. -/
def bytes? : Text → Option (List UInt8)
  | [] => some []
  | [_] => none
  | c :: d :: s =>
    match hexValue? c, hexValue? d, bytes? s with
    | some a, some b, some bs => some (UInt8.ofNat (16 * a + b) :: bs)
    | _, _, _ => none

/-- The character that can stand between the digits of a number. -/
def separator : Char := '_'

/-- The length of the digits and separators at the beginning of a text. -/
def digitsLength (s : Text) : Nat := (s.takeWhile fun c => isDigit c || c == separator).length

/-- The length of the digits, point and exponent at the beginning of a text. -/
def decimalLength (s : Text) : Nat :=
  let whole := digitsLength s
  let rest := s.drop whole
  let part := match rest with
    | '.' :: r => 1 + digitsLength r
    | _ => 0
  let exponent := match rest.drop part with
    | c :: r =>
      if c = 'e' ∨ c = 'E' then
        let sign := match r with
          | '+' :: _ | '-' :: _ => 1
          | _ => 0
        if (r.drop sign).head?.any isDigit then 1 + sign + digitsLength (r.drop sign) else 0
      else 0
    | [] => 0
  whole + part + exponent

/-- The hexadecimal digits and separators after the mark of such a number, which one of the digits
must follow. -/
def hexadecimal? (s : Text) : Option Text :=
  match s with
  | '0' :: x :: c :: r =>
    if (x = 'x' ∨ x = 'X') ∧ (hexValue? c).isSome then
      some (c :: r.takeWhile fun c => (hexValue? c).isSome || c == separator)
    else none
  | _ => none

/-- The length of the number at the beginning of a text. -/
def numberLength (s : Text) : Nat :=
  match hexadecimal? s with
  | some digits => digits.length + 2
  | none => decimalLength s

/-- The length of what is left out at the beginning of a text: white space, a comment up to the end
of its line, or a comment between slashes and stars. -/
def gapLength (s : Text) : Nat :=
  match s with
  | '-' :: '-' :: r => 2 + (r.takeWhile (· ≠ '\n')).length
  | '/' :: '*' :: r => 2 + afterComment r
  | s => (s.takeWhile isSpace).length
where
  /-- The length up to the end of a comment, or of the text. -/
  afterComment : Text → Nat
    | [] => 0
    | [_] => 1
    | c :: d :: r => if c = '*' ∧ d = '/' then 2 else 1 + afterComment (d :: r)

/-- The kind and the length of the part at the beginning of a text that is not empty. -/
def scan (s : Text) : LexemeKind × Nat :=
  match s with
  | [] => (.illegal, 0)
  | c :: r =>
    if (c = 'x' ∨ c = 'X') ∧ r.head? = some '\'' then
      let digits := (r.drop 1).takeWhile (· ≠ '\'')
      match bytes? digits, (r.drop 1).drop digits.length with
      | some bytes, _ :: _ => (.blob bytes, digits.length + 3)
      | _, after => (.illegal, digits.length + 2 + (after.take 1).length)
    else if startsName c then (.word, (s.takeWhile continuesName).length)
    else if c = '"' ∨ c = '\'' then
      match unquote? c r with
      | some (inside, rest) =>
        (if c = '"' then .quotedName inside else .text inside, s.length - rest.length)
      | none => (.illegal, s.length)
    else if isDigit c ∨ (c = '.' ∧ (r.head?.map isDigit).getD false) then
      let n := numberLength s
      let tail := ((s.drop n).takeWhile continuesName).length
      (if tail = 0 then .number else .illegal, n + tail)
    else if c = '?' then
      let digits := r.takeWhile isDigit
      (.parameter (if digits = [] then 1 else digitsValue digits), digits.length + 1)
    else if isSymbol c then (.symbol, 1)
    else (.illegal, 1)

/-- The parts of a text of which at most `fuel` parts and gaps are left. -/
def partsFrom (offset : Nat) : (fuel : Nat) → Text → List Lexeme
  | 0, _ => []
  | _, [] => []
  | fuel + 1, s =>
    match gapLength s with
    | 0 =>
      let (kind, n) := scan s
      let spelling := s.take n
      ⟨kind, spelling, offset, s.drop n⟩ ::
        partsFrom (offset + utf8Size spelling) fuel (s.drop n)
    | n => partsFrom (offset + utf8Size (s.take n)) fuel (s.drop n)

/-- The parts of a text. -/
def parts (s : Text) : List Lexeme := partsFrom 0 s.length s

end Lexeme

end QueryWeave
