import QueryWeave.Text.Basic

/-!
# Lines

A line ends at a newline, and one carriage return directly before that newline belongs to the line
end. What follows the last newline is a line of its own unless it is empty.
-/

namespace QueryWeave.Text

/-- The text without one carriage return at its end. -/
def dropReturn : Text → Text
  | [] => []
  | [c] => if c = '\r' then [] else [c]
  | c :: d :: s => c :: dropReturn (d :: s)

/-- The lines whose pieces between newlines are given; the last piece has no newline after it. -/
def linesOfPieces : List Text → List Text
  | [] => []
  | [p] => if p = [] then [] else [p]
  | p :: q :: ps => dropReturn p :: linesOfPieces (q :: ps)

/-- The lines of a text. -/
def lines (s : Text) : List Text := linesOfPieces (s.splitOn '\n')

/-- The text whose lines are given, each ended by a newline. -/
def unlines (ls : List Text) : Text := ls.flatMap (· ++ ['\n'])

@[simp] theorem unlines_nil : unlines [] = [] := rfl

@[simp] theorem unlines_cons (l : Text) (ls : List Text) :
    unlines (l :: ls) = l ++ '\n' :: unlines ls := by
  simp [unlines]

@[simp] theorem unlines_append (ls ms : List Text) :
    unlines (ls ++ ms) = unlines ls ++ unlines ms := by
  simp [unlines]

example : lines "a\r\nb\r\n".toList = ["a".toList, "b".toList] := by decide
example : lines "a\rb\n\nc\r".toList = ["a\rb".toList, [], "c\r".toList] := by decide

end QueryWeave.Text
