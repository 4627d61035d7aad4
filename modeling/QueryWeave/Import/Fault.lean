import QueryWeave.Files.Fault
import QueryWeave.Text.Basic

/-!
# Faults of an import

Why result lines cannot be loaded into a table.
-/

namespace QueryWeave

open Text

/-- Why an import fails before it sends a statement. -/
inductive ImportFault
  | unreadableFile (path : Text) (fault : FileFault)
  | unreadableInput (fault : FileFault)
  /-- No line gives the table a column. -/
  | noLines (table : Text)
  deriving DecidableEq, Repr

/-- The fault in words. -/
def ImportFault.message : ImportFault → String
  | unreadableFile path fault => s!"error reading {shown path}: {fault.message}"
  | unreadableInput fault => s!"error reading input: {fault.message}"
  | noLines table => s!"no RESULT lines found for table \"{shown table}\""

end QueryWeave
