import QueryWeave.Text.Basic
import QueryWeave.Text.White

/-!
# Paths

A path is a text whose components are separated by slashes. Empty components and components that
are a single dot do not move; the first one tells a path that starts at the root from one that
starts at the working directory.
-/

namespace QueryWeave

/-- The text of a path. -/
abbrev Path := Text

namespace Path

/-- A component that stays where it is. -/
def stays (c : Text) : Bool := c = [] || c = ['.']

/-- The pieces of a path between its slashes. -/
def pieces (p : Path) : List Text := p.splitOn '/'

/-- The components that move, in order. -/
def components (p : Path) : List Text := (pieces p).filter (!stays ·)

/-- Whether the path starts at the root. -/
def isAbsolute (p : Path) : Bool := p.head? = some '/'

/-- Whether the path can only name a directory, as its last piece stays where it is. -/
def namesDirectory (p : Path) : Bool :=
  match (pieces p).getLast? with
  | some c => stays c
  | none => true

/-- The name of the file at the end of the path. -/
def fileName? (p : Path) : Option Text :=
  match (components p).getLast? with
  | some c => if c = "..".toList then none else some c
  | none => none

/-- The longest name of a file, in bytes. -/
def longestName : Nat := 255

/-- The longest path, in bytes. -/
def longestPath : Nat := 4095

/-- The texts before and after the last dot. -/
def cutLastDot? (s : Text) : Option (Text × Text) :=
  (Text.cut? '.' s.reverse).map fun (after, before) => (before.reverse, after.reverse)

/-- What follows the last dot of the file name. A name that only starts with a dot has none. -/
def extension? (p : Path) : Option Text :=
  match (fileName? p).bind cutLastDot? with
  | some ([], _) => none
  | some (_, e) => some e
  | none => none

/-- The pieces without those at the end that stay; the first piece is kept. -/
def dropStaying (ps : List Text) : List Text :=
  match ps with
  | [] => []
  | first :: rest => first :: (rest.reverse.dropWhile stays).reverse

/-- The directory that holds what the path names. -/
def parent (p : Path) : Path :=
  match dropStaying (dropStaying (pieces p)).dropLast with
  | [[]] => ['/']
  | ps => Text.join ['/'] ps

/-- The path of `name` below the directory `dir`. -/
def below (dir : Path) (name : Text) : Path :=
  if dir = [] then name
  else if dir.getLast? = some '/' then dir ++ name
  else dir ++ '/' :: name

example : extension? "plots/a.b.gp/".toList = some "gp".toList := by decide
example : extension? ".tex".toList = none := by decide
example : parent "docs/./a.tex".toList = "docs".toList := by decide
example : parent "a.tex".toList = [] ∧ parent "/a.tex".toList = ['/'] := by decide

end Path

end QueryWeave
