import QueryWeave.Text.Integer
import QueryWeave.Text.White

/-!
# Connection strings

A connection string names a database: one in memory, or a file. Only one kind of database can be
used; strings for other kinds are recognised and refused.
-/

namespace QueryWeave

open Text

/-- A database to connect to. -/
inductive Target
  | memory
  | file (path : Text)
  deriving DecidableEq, Repr

/-- Why a database cannot be connected to. -/
inductive ConnectFault
  /-- The path holds the character of code zero, after so many bytes. -/
  | holdsNul (position : Nat)
  /-- A location names another machine. -/
  | authority (name : Text)
  /-- A location asks for a file system, a cache or an access that does not exist. -/
  | noFileSystem (name : Text)
  | noCache (name : Text)
  | noAccess (name : Text)
  /-- A location asks for an access that allows more than the one before it. -/
  | refusedAccess (name : Text)
  /-- The file cannot be read. -/
  | unreadable
  /-- Databases of this kind cannot be used. -/
  | unavailable (scheme : Text)
  | unrecognized
  | cannotOpen (path : Text)
  deriving DecidableEq, Repr

/-- The fault in words. -/
def ConnectFault.message : ConnectFault → String
  | holdsNul position =>
    s!"nul byte found in provided data at position: {shown (ofNat position)}"
  | authority name => s!"invalid uri authority: {shown name}"
  | noFileSystem name => s!"no such vfs: {shown name}"
  | noCache name => s!"no such cache mode: {shown name}"
  | noAccess name => s!"no such access mode: {shown name}"
  | refusedAccess name => s!"access mode not allowed: {shown name}"
  | unreadable => "disk I/O error"
  | unavailable scheme => s!"the {shown scheme} backend is not available in this build"
  | unrecognized => "unrecognized connection string"
  | cannotOpen path => s!"unable to open database file: {shown path}"

namespace Target

/-- The strings of a database in memory. -/
def memoryWords : List Text := ["", ":memory:", "sqlite::memory:", "sqlite:"].map String.toList

/-- The suffixes of a database file. -/
def fileSuffixes : List Text := [".db", ".sqlite", ".sqlite3"].map String.toList

/-- The schemes of databases that cannot be used. -/
def foreignSchemes : List Text :=
  ["postgres", "postgresql", "pgsql", "mysql"].map String.toList

/-- Whether a text ends with a word. -/
def endsWith (w s : Text) : Bool := startsWith w.reverse s.reverse

/-- The database that a connection string names; white space around it does not count. -/
def ofText (s : Text) : Except ConnectFault Target :=
  let s := trim s
  if memoryWords.contains s then .ok memory
  else match after? "sqlite:" s with
    | some path => .ok (file path)
    | none =>
      if fileSuffixes.any fun w => endsWith w s then .ok (file s)
      else
        let scheme := s.takeWhile (· ≠ ':')
        .error (if foreignSchemes.contains scheme then .unavailable scheme else .unrecognized)

end Target

end QueryWeave
