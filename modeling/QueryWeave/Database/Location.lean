import QueryWeave.Database.Target
import QueryWeave.Text.Utf8

/-!
# Locations

A path that begins with the word of the file scheme is a location: after the name of a machine,
which can only be this one, it has a path, and after a question mark options with values. A percent
sign with two hexadecimal digits stands for a byte of a part, and a number sign ends the location.
Every other path names its file as it is.

Main statements: a part without percent signs stands for its own bytes (`decodedBytes_eq`).
-/

namespace QueryWeave

open Text

/-- How a database can be used. -/
inductive Access
  | inMemory | read | write
  /-- A file that does not exist is made. -/
  | create
  deriving DecidableEq, Repr

namespace Access

/-- The way to use a database that a name stands for. -/
def ofName? (name : Text) : Option Access :=
  if name = "ro".toList then some read
  else if name = "rw".toList then some write
  else if name = "rwc".toList then some create
  else if name = "memory".toList then some inMemory
  else none

/-- How much is allowed, from little to much. -/
def rank : Access → Nat
  | inMemory => 0
  | read => 1
  | write => 2
  | create => 3

/-- Whether another access can be asked for after this one: it must not allow more, unless this one
concerns no file. -/
def permits (current new : Access) : Bool := current = inMemory || new.rank ≤ current.rank

end Access

/-- A path with its options. -/
structure Location where
  path : Text
  options : List (Text × Text) := []
  deriving DecidableEq, Repr

namespace Location

/-! ## Reading -/

/-- The bytes of a part of a location. The byte zero ends the part. -/
def decodedBytes : Text → List UInt8
  | '%' :: a :: b :: s =>
    match hexValue? a, hexValue? b with
    | some x, some y =>
      if x = 0 ∧ y = 0 then [] else UInt8.ofNat (16 * x + y) :: decodedBytes s
    | _, _ => '%'.toUInt8 :: decodedBytes (a :: b :: s)
  | c :: s => (toUtf8 [c]).data.toList ++ decodedBytes s
  | [] => []

/-- A part without percent signs stands for its own bytes. -/
theorem decodedBytes_eq {s : Text} (h : '%' ∉ s) : decodedBytes s = (toUtf8 s).data.toList := by
  fun_induction decodedBytes s with
  | case1 => simp at h
  | case2 => simp at h
  | case3 => simp at h
  | case4 c s _ ih =>
    rw [ih (fun hs => h (List.mem_cons_of_mem _ hs)), toUtf8_cons c s]
    simp
  | case5 => rfl

example : decodedBytes "%41%4%%2f%00x".toList = "A%4%/".toList.map Char.toUInt8 := by decide

/-- A part of a location as text. -/
def decoded (s : Text) : Text := ofUtf8Lenient (decodedBytes s)

/-- An option: a name, and what follows an equals sign. -/
def option (s : Text) : Text × Text :=
  match cut? '=' s with
  | some (name, value) => (decoded name, decoded value)
  | none => (decoded s, [])

/-- The path and the options of a location behind the machine's name; options without a name do not
count. -/
def ofParts (s : Text) : Location :=
  let s := s.takeWhile (· ≠ '#')
  match cut? '?' s with
  | some (path, query) =>
    ⟨decoded path, ((query.splitOn '&').map option).filter fun o => o.1 ≠ []⟩
  | none => ⟨decoded s, []⟩

/-- The names of this machine. -/
def thisMachine : List Text := ["", "localhost"].map String.toList

/-- The location that a path describes. -/
def ofPath (s : Text) : Except ConnectFault Location :=
  match after? "file:" s with
  | none => .ok ⟨s, []⟩
  | some s =>
    match after? "//" s with
    | none => .ok (ofParts s)
    | some s =>
      let machine := s.takeWhile (· ≠ '/')
      if thisMachine.contains machine then .ok (ofParts (s.drop machine.length))
      else .error (.authority machine)

/-! ## Options -/

/-- The value of an option; the first one of a name counts. -/
def value? (l : Location) (name : Text) : Option Text :=
  (l.options.find? fun o => o.1 = name).map Prod.snd

/-- Whether an option is set, by a word or by a number that is not zero. -/
def holds (l : Location) (name : Text) : Bool :=
  match l.value? name with
  | none => false
  | some value =>
    let digits := value.takeWhile isDigit
    if digits = [] then (["on", "yes", "true"].map String.toList).contains (value.map lower)
    else digitsValue digits < Nat.pow 2 31 && digitsValue digits % 256 ≠ 0

/-- The access after one more option. -/
def accessAfter (access : Access) (o : Text × Text) : Except ConnectFault Access :=
  if o.1 = "cache".toList then
    if (["shared", "private"].map String.toList).contains o.2 then .ok access
    else .error (.noCache o.2)
  else if o.1 = "mode".toList then
    match Access.ofName? o.2 with
    | none => .error (.noAccess o.2)
    | some new => if access.permits new then .ok new else .error (.refusedAccess o.2)
  else .ok access

/-- The access that the options ask for. -/
def access (l : Location) : Except ConnectFault Access := l.options.foldlM accessAfter .create

/-- The file systems that keep a database in files. -/
def fileSystems : List Text :=
  ["unix", "unix-dotfile", "unix-excl", "unix-none"].map String.toList

/-- The file system that keeps a database in memory. -/
def memorySystem : Text := "memdb"

/-- The value of the last option of a name. -/
def lastValue? (l : Location) (name : Text) : Option Text :=
  ((l.options.filter fun o => o.1 = name).getLast?).map Prod.snd

/-- The file system of the database; the last one that is asked for counts. -/
def fileSystem (l : Location) : Except ConnectFault Text :=
  match l.lastValue? "vfs" with
  | none => .ok "unix".toList
  | some name =>
    if name = memorySystem ∨ fileSystems.contains name then .ok name
    else .error (.noFileSystem name)

/-- A database that lives in memory. -/
inductive MemoryKind
  | own
  /-- Connections that name it alike share it. -/
  | shared (name : Text)
  deriving DecidableEq, Repr

/-- How a database lives in memory, if it does, given how it can be used and its file system. A
database without a name is never shared. -/
def memoryKind? (l : Location) (access : Access) (system : Text) : Option MemoryKind :=
  let noFile := access = .inMemory || l.path = ":memory:".toList
  let isRooted := l.path.head? = some '/' && 1 < l.path.length
  if l.path = [] then some .own
  else if noFile || system = memorySystem then
    if l.lastValue? "cache" = some "shared".toList || (!noFile && isRooted) then
      some (.shared (system ++ ':' :: l.path))
    else some .own
  else none

end Location

end QueryWeave
