import QueryWeave.Files.Path
import QueryWeave.Number.Numeral

/-!
# Kinds of documents

The two kinds differ in the character that begins a comment and are told apart by the suffix of the
file name.
-/

namespace QueryWeave

/-- The kind of a document. -/
inductive DocumentKind
  | latex | gnuplot
  deriving DecidableEq, Repr

namespace DocumentKind

/-- The character that begins a comment. -/
def marker : DocumentKind → Char
  | latex => '%'
  | gnuplot => '#'

/-- The name by which a user chooses the kind. -/
def name : DocumentKind → Text
  | latex => "latex"
  | gnuplot => "gnuplot"

/-- The kind with a given name. -/
def ofName? (s : Text) : Option DocumentKind := [latex, gnuplot].find? fun k => k.name == s

/-- The suffixes of a kind, in lower case. -/
def suffixes : DocumentKind → List Text
  | latex => ["tex", "latex", "ltx"].map String.toList
  | gnuplot => ["gp", "gpi", "gnu", "plt", "plot", "gnuplot"].map String.toList

/-- The kind that the suffix of a path tells, in any case. -/
def ofPath? (p : Path) : Option DocumentKind :=
  match p.extension? with
  | some e => [latex, gnuplot].find? fun k => k.suffixes.contains (e.map Text.lower)
  | none => none

end DocumentKind

end QueryWeave
