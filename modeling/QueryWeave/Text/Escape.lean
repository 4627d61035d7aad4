import QueryWeave.Text.Basic

/-!
# Escaping

How plain text is written where LaTeX markup, a double-quoted gnuplot string or a quoted SQL name
is expected.
-/

namespace QueryWeave.Text

/-! ## LaTeX markup -/

/-- The markup that shows one character. -/
def latexChar (c : Char) : Text :=
  if c = '\\' then "\\textbackslash\x7b\x7d"
  else if c ∈ "&%$#_\x7b\x7d".toList then ['\\', c]
  else if c = '~' then "\\textasciitilde\x7b\x7d"
  else if c = '^' then "\\textasciicircum\x7b\x7d"
  else [c]

/-- The markup that shows a text. -/
def latexEscape (s : Text) : Text := s.flatMap latexChar

/-! ## Quoted strings -/

/-- The text with every character of class `p` written after a backslash. -/
def backslashed (p : Char → Bool) (s : Text) : Text :=
  s.flatMap fun c => if p c then ['\\', c] else [c]

/-- The inside of a double-quoted gnuplot string. -/
def gnuplotEscape (s : Text) : Text := backslashed (fun c => c == '\\' || c == '"') s

/-- The text with every `q` written twice. -/
def doubled (q : Char) (s : Text) : Text := s.flatMap fun c => if c = q then [q, q] else [c]

/-- The text between two `q`, with every `q` inside written twice. -/
def quoted (q : Char) (s : Text) : Text := q :: (doubled q s ++ [q])

/-- Reads a quoted text after its opening `q`: the text it stands for and what follows the closing
one. A doubled `q` stands for one. -/
def unquote? (q : Char) : Text → Option (Text × Text)
  | [] => none
  | [c] => if c = q then some ([], []) else none
  | c :: d :: s =>
    if c = q then
      if d = q then (unquote? q s).map fun (a, r) => (q :: a, r) else some ([], d :: s)
    else (unquote? q (d :: s)).map fun (a, r) => (c :: a, r)

end QueryWeave.Text
