import QueryWeave.CommandLine.Diff
import QueryWeave.CommandLine.Run
import QueryWeave.Database.Stored

/-!
# The program

Runs the command on the files below the working directory, and writes the files that it changed.
-/

namespace QueryWeave

open Text

namespace Program

/-- The nodes of a directory and of everything below it. -/
partial def nodesBelow (place : Place) (entries : Array IO.FS.DirEntry) :
    IO (List (Place × Node)) := do
  let mut nodes := []
  for e in entries do
    let here := place ++ [e.fileName.toList]
    if ← e.path.isDir then
      nodes := nodes ++ (here, .directory) :: (← nodesBelow here (← e.path.readDir))
    else nodes := nodes ++ [(here, Stored.node (← IO.FS.readBinFile e.path))]
  return nodes

/-- The directories on the way from the root to a place. -/
def directoriesTo (place : Place) : List (Place × Node) :=
  (inits place).tail.map fun p => (p, .directory)
where
  /-- The beginnings of a place, the shortest first. -/
  inits : Place → List Place
    | [] => [[]]
    | name :: names => [] :: (inits names).map (name :: ·)

/-- The directory tree as the command finds it. -/
def readTree : IO Tree := do
  let directory ← IO.currentDir
  let place := Path.components directory.toString.toList
  let below ← nodesBelow place (← directory.readDir)
  return ⟨directoriesTo place ++ below, place⟩

/-- Writes the files in which the tree after the command differs from the one before it. -/
def writeTree (before after : Tree) : IO Unit := do
  for (place, node) in after.nodes do
    match Stored.bytes? node with
    | none => pure ()
    | some bytes =>
      let old := (before.node? place).bind Stored.bytes?
      if old.map ByteArray.data ≠ some bytes.data then
        IO.FS.writeBinFile (shown ('/' :: join ['/'] place)) bytes

/-- Tells a failure with all its causes. -/
def tell : Failure → IO Unit
  | .directive keyword line command offset size cause => do
    IO.eprintln (Failure.directive keyword line command offset size cause).message
    tell cause
  | .mismatch path expected actual => do
    for (sign, line) in Diff.lines expected actual do
      IO.eprintln (shown (sign.char :: line))
    IO.eprintln (Failure.mismatch path expected actual).message
  | failure => IO.eprintln failure.message

/-- Tells the warnings of a transcript. -/
def tellWarnings (transcript : List Event) : IO Unit := do
  for e in transcript do
    match e with
    | .warned w => IO.eprintln w.message
    | _ => pure ()

/-- How the command is called. -/
def usage : String :=
  "usage: queryweave [-v] [-D DATABASE] [-W DIR] [-f latex|gnuplot] [-o FILE [-C]] [-R NAME]... " ++
    "[DOCUMENT | DIRECTORY]...\n" ++
    "       queryweave [OPTION]... import [-1aCDv] TABLE [FILE]..."

/-- Tells how the command is called, if its words ask for that or cannot be used. -/
def tellUsage (words : List Text) : IO Unit :=
  match Arguments.ofWords words with
  | .error .asksForHelp => IO.println usage
  | .error .refused => IO.eprintln usage
  | .ok _ => pure ()

/-- Runs the command with the words of the command line. -/
def run (words : List String) : IO UInt32 := do
  let words := words.map String.toList
  tellUsage words
  let tree ← readTree
  let input ← if Arguments.readsInput words then (← IO.getStdin).readBinToEnd else pure .empty
  let database := (← IO.getEnv "SQLPLOT_DATABASE").map String.toList
  let report := Invocation.run ⟨words, input, database, tree⟩
  writeTree tree report.tree
  tellWarnings report.transcript
  IO.print (shown report.output)
  match report.failure with
  | some failure => tell failure
  | none => pure ()
  return UInt32.ofNat report.exitCode

end Program

end QueryWeave

/-- The entry point. -/
def main (words : List String) : IO UInt32 := QueryWeave.Program.run words
