/-!
# Faults of files

Why a file or directory cannot be used, in the words of the operating system.
-/

namespace QueryWeave

/-- Why a file or directory cannot be used. -/
inductive FileFault
  | missing
  | notDirectory
  | isDirectory
  /-- The path holds the character of code zero. -/
  | holdsNul
  | tooLong
  /-- The bytes are not the UTF-8 form of a text. -/
  | notText
  deriving DecidableEq, Repr

/-- The fault in words. -/
def FileFault.message : FileFault → String
  | missing => "No such file or directory (os error 2)"
  | notDirectory => "Not a directory (os error 20)"
  | isDirectory => "Is a directory (os error 21)"
  | holdsNul => "file name contained an unexpected NUL byte"
  | tooLong => "File name too long (os error 36)"
  | notText => "stream did not contain valid UTF-8"

end QueryWeave
