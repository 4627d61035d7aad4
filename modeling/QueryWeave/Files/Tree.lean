import QueryWeave.Database.Schema
import QueryWeave.Files.Fault
import QueryWeave.Files.Path
import QueryWeave.Text.Utf8

/-!
# Directory trees

The files that a run can reach: every path from the root leads to a directory, a file or a database
that has been written to. Paths that do not start at the root start at the working directory.

Main statements: writing a file changes what is read at its own place and nowhere else
(`node?_put`).
-/

namespace QueryWeave

open Text

/-- What stands at a place of a directory tree. -/
inductive Node
  | directory
  | file (bytes : ByteArray)
  | database (tables : Schema)
  /-- A database in memory with so many connections. It stands where no path leads. -/
  | shared (users : Nat) (tables : Schema)
  deriving Inhabited

/-- A place: the names of the directories from the root down, and the name at the end. -/
abbrev Place := List Text

/-- A directory tree with a working directory. -/
structure Tree where
  nodes : List (Place × Node)
  current : Place := []
  deriving Inhabited

namespace Tree

/-! ## Places -/

/-- The node at a place among others. -/
def lookup (place : Place) : List (Place × Node) → Option Node
  | [] => none
  | (p, n) :: rest => if p = place then some n else lookup place rest

/-- The node at a place; the root is a directory. -/
def node? (t : Tree) (place : Place) : Option Node :=
  if place = [] then some .directory else lookup place t.nodes

/-- Puts a node at a place among others. -/
def insert (place : Place) (node : Node) : List (Place × Node) → List (Place × Node)
  | [] => [(place, node)]
  | (p, n) :: rest => if p = place then (p, node) :: rest else (p, n) :: insert place node rest

/-- The tree with a node at a place. -/
def put (t : Tree) (place : Place) (node : Node) : Tree :=
  { t with nodes := insert place node t.nodes }

/-- The tree with other tables in the database at a place. -/
def putTables (t : Tree) (place : Place) (tables : Schema) : Tree :=
  t.put place (match t.node? place with
    | some (.shared users _) => .shared users tables
    | _ => .database tables)

/-- The tree with one connection more to a database in memory, which is made for the first one. -/
def share (t : Tree) (place : Place) : Tree :=
  t.put place (match t.node? place with
    | some (.shared users tables) => .shared (users + 1) tables
    | _ => .shared 1 [])

/-- The tree with one connection less to what stands at a place. A database in memory ends with its
last connection. -/
def release (t : Tree) (place : Place) : Tree :=
  match t.node? place with
  | some (.shared users tables) =>
    if users ≤ 1 then { t with nodes := t.nodes.filter fun n => n.1 ≠ place }
    else t.put place (.shared (users - 1) tables)
  | _ => t

theorem lookup_insert (place other : Place) (node : Node) (nodes : List (Place × Node)) :
    lookup other (insert place node nodes) =
      if place = other then some node else lookup other nodes := by
  induction nodes with
  | nil => simp [insert, lookup]
  | cons n rest ih =>
    obtain ⟨p, m⟩ := n
    by_cases h : p = place
    · by_cases ho : place = other <;> simp [insert, lookup, h, ho]
    · by_cases ho : p = other
      · subst ho
        simp [insert, lookup, h, Ne.symm h]
      · simp [insert, lookup, h, ho, ih]

/-- A node that is put somewhere is found there, and other places keep theirs. -/
theorem node?_put (t : Tree) (place other : Place) (node : Node) (h : place ≠ []) :
    (t.put place node).node? other = if place = other then some node else t.node? other := by
  by_cases ho : other = []
  · simp [node?, ho, h]
  · simp [node?, ho, put, lookup_insert]

/-! ## Paths -/

/-- The name of the directory above. -/
def upName : Text := ".."

/-- The place that is reached from another one; every place that is left must be a directory. -/
def descend (t : Tree) (place : Place) : List Text → Except FileFault Place
  | [] => .ok place
  | name :: names =>
    match t.node? place with
    | some .directory =>
      if Path.longestName < utf8Size name then .error .tooLong
      else descend t (if name = upName then place.dropLast else place ++ [name]) names
    | some _ => .error .notDirectory
    | none => .error .missing

/-- The place that a path names, whether or not something is there. An empty path names none. -/
def resolve (t : Tree) (path : Path) : Except FileFault Place :=
  if path.contains (Char.ofNat 0) then .error .holdsNul
  else if path = [] then .error .missing
  else if Path.longestPath < utf8Size path then .error .tooLong
  else t.descend (if path.isAbsolute then [] else t.current) path.components

/-- The names from the root down to what a path names, where a name and the upward name after it
cancel out, whether or not there is such a directory. -/
def settled (t : Tree) (path : Path) : Place :=
  path.components.foldl
    (fun place name => if name = upName then place.dropLast else place ++ [name])
    (if path.isAbsolute then [] else t.current)

/-- The node that a path names; a path that can only name a directory names no file. -/
def nodeAt (t : Tree) (path : Path) : Except FileFault Node :=
  match t.resolve path with
  | .error e => .error e
  | .ok place =>
    match t.node? place with
    | none => .error .missing
    | some .directory => .ok .directory
    | some n => if path.namesDirectory then .error .notDirectory else .ok n

/-- Whether a path names a directory. -/
def isDirectory (t : Tree) (path : Path) : Bool :=
  match t.nodeAt path with
  | .ok .directory => true
  | _ => false

/-! ## Reading and writing -/

/-- The text of a file. -/
def readText (t : Tree) (path : Path) : Except FileFault Text :=
  match t.nodeAt path with
  | .error e => .error e
  | .ok .directory => .error .isDirectory
  | .ok (.file bytes) =>
    match ofUtf8? bytes with
    | some s => .ok s
    | none => .error .notText
  | .ok _ => .error .notText

/-- The place where a file can be written. -/
def writable (t : Tree) (path : Path) : Except FileFault Place :=
  match t.resolve path with
  | .error e => .error e
  | .ok place =>
    match t.node? place with
    | some .directory => .error .isDirectory
    | some _ => if path.namesDirectory then .error .notDirectory else .ok place
    | none => if path.namesDirectory then .error .isDirectory else .ok place

/-- The tree after a text is written to a file. -/
def writeText (t : Tree) (path : Path) (s : Text) : Except FileFault Tree :=
  (t.writable path).map fun place => t.put place (.file (toUtf8 s))

/-- The tree with another working directory. -/
def enter (t : Tree) (path : Path) : Except FileFault Tree :=
  match t.resolve path with
  | .error e => .error e
  | .ok place =>
    match t.node? place with
    | some .directory => .ok { t with current := place }
    | some _ => .error .notDirectory
    | none => .error .missing

/-! ## Walking -/

/-- Order of texts by their characters. -/
def textLe : Text → Text → Bool
  | [], _ => true
  | _ :: _, [] => false
  | a :: as, b :: bs => a < b || (a == b && textLe as bs)

/-- Order of places by their names from the root down. -/
def placeLe : Place → Place → Bool
  | [], _ => true
  | _ :: _, [] => false
  | a :: as, b :: bs => if a = b then placeLe as bs else textLe a b

/-- The names from one place down to another one below it. -/
def below? : (place other : Place) → Option (List Text)
  | [], [] => none
  | [], names => some names
  | _ :: _, [] => none
  | a :: as, b :: bs => if a = b then below? as bs else none

/-- Whether a node is a file. -/
def isFile : Node → Bool
  | .file _ | .database _ => true
  | .directory | .shared .. => false

/-- The files below a directory in the order of their names, directory by directory, as paths that
begin with the one that is given. -/
def filesBelow (t : Tree) (path : Path) : List Path :=
  match t.resolve path with
  | .error _ => []
  | .ok place =>
    let below := t.nodes.filterMap fun (p, n) => if isFile n then below? place p else none
    (below.mergeSort placeLe).map fun names => names.foldl Path.below path

end Tree

end QueryWeave
