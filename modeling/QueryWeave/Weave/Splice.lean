import QueryWeave.Document.Basic

/-!
# Splices

A directive changes nothing but the lines directly after it: some of them are removed and new ones
take their place. Such a change says how many lines it removes and which lines it puts there.
-/

namespace QueryWeave

open Text

/-- A change of the lines directly after a directive. -/
structure Splice where
  /-- The number of lines that are removed. -/
  removed : Nat
  /-- The lines that are put in their place. -/
  content : List Text
  deriving DecidableEq, Repr

namespace Splice

/-- The change that leaves everything as it is. -/
def none : Splice := ⟨0, []⟩

/-- The new lines as they are written below a directive that stands at column `indent`. -/
def written (s : Splice) (indent : Nat) : List Text := s.content.map (Document.indented indent)

/-- The document after a change of the lines from index `i` on, and the index of the line after the
new ones. -/
def apply (s : Splice) (d : Document) (i indent : Nat) : Document × Nat :=
  d.replace i (i + s.removed) indent s.content

end Splice

end QueryWeave
