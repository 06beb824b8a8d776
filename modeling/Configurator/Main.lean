/-
The command line. It takes a picture of the directories that a run can see, lets the run happen on
that picture, prints what the run prints and brings the changed files back to the disk. The picture
holds the working directory, the directory that the options name, and the programs that are always
there; a compiler is a script for the shell inside the picture.

A run is a function of its whole input. One that ends for want of an answer is begun again with one
more line, and only what is new in its output is shown, so that questions appear one by one.
-/
import Configurator.Program

namespace Configurator.Main

/-! ## The picture -/

/-- The names that lead from the top to an absolute path. -/
def namesOf (place : String) : List Name :=
  (Tree.parts (Utf8.bytes place)).filter (fun part => part ≠ [])

/-- The path of a place on the disk. -/
def placeOf (names : List Name) : String := (Workspace.absolute names).display

/-- A file as a leaf of the picture. Only a script can be run, so only its contents are kept. -/
def fileLeaf (place : String) : IO Leaf := do
  let start ← IO.FS.withFile place .read (fun handle => handle.read 2)
  if start.toList = Utf8.bytes "#!" then
    return .file (← IO.FS.readBinFile place).toList true
  else return .file [] false

/-- The contents of a directory on the disk; what cannot be read is left out. -/
partial def picture (place : String) : IO Tree := do
  try
    let entries ← (← IO.FS.realPath place).readDir
    entries.foldrM (fun entry rest => do
      let name := Utf8.bytes entry.fileName
      let inner := place ++ "/" ++ entry.fileName
      try
        match (← entry.path.symlinkMetadata).type with
        | .dir => return .dir name (← picture inner) rest
        | .symlink => return .leaf name (.link (Utf8.bytes (← IO.FS.realPath inner).toString)) rest
        | .file => return .leaf name (← fileLeaf inner) rest
        | .other => return rest
      catch _ => return rest) .empty
  catch _ => return .empty

/-- Adds a directory on the disk to a picture. -/
def mount (ws : Workspace) (place : String) : IO Workspace := do
  match ws.makeDirectories [] (namesOf place) with
  | .ok (made, names) =>
    let inside ← picture place
    return { made with tree := made.tree.modifyAt names (fun _ => inside) }
  | .error _ => return ws

/-- The directories on the disk that a command line can see. -/
def visible (args : List String) : IO (List String) := do
  let here := (← IO.currentDir).toString
  match CommandLine.parse args with
  | .ok { directory := some directory, .. } =>
    try
      return [here, (← IO.FS.realPath directory).toString]
    catch _ => return [here]
  | _ => return [here]

/-- The picture for a command line, seen from the working directory. -/
def workspaceFor (args : List String) : IO Workspace := do
  let here := namesOf (← IO.currentDir).toString
  (← visible args).foldlM mount ⟨Machine.blank, here⟩

/-! ## Bringing changes back -/

/-- Brings the entries below one place that differ between two pictures to the disk. -/
def bringBack (before after : Tree) : IO Unit := do
  for (names, _) in before.walk do
    if after.get? names = none then
      try IO.FS.removeFile (placeOf names) catch _ => pure ()
  for (names, entry) in after.walk do
    if before.get? names ≠ some entry then
      match entry with
      | .dir _ => IO.FS.createDirAll (placeOf names)
      | .leaf (.file body _) => IO.FS.writeBinFile (placeOf names) ⟨body.toArray⟩
      | .leaf (.link _) => pure ()

/-! ## The run -/

/-- The next line of the input with its end, byte by byte; nothing at the end of the input. -/
partial def readLine (start : Bytes) : IO Bytes := do
  match (← (← IO.getStdin).read 1).toList with
  | [] => return start
  | byte :: _ => if byte = 0x0A then return start ++ [byte] else readLine (start ++ [byte])

/-- Runs with ever more input until the input suffices or has ended; `shown` counts the bytes of
output that are already out. -/
partial def converse (s : Program.Surroundings) (shown : Nat) : IO UInt32 := do
  let stdout ← IO.getStdout
  match Program.run s with
  | .refused fault =>
    (← IO.getStderr).putStrLn fault.line
    return 2
  | .finished report =>
    stdout.write ⟨(report.output.drop shown).toArray⟩
    stdout.flush
    if report.failure = some (.unanswered .closed) then
      let line ← readLine []
      unless line.isEmpty do
        return ← converse { s with input := s.input ++ line } report.output.length
    (← IO.getStderr).write ⟨report.errors.toArray⟩
    bringBack s.workspace.tree report.workspace.tree
    return report.exit.toUInt32

/-- The environment variable that holds the log filter. -/
def filterVariable : String := "RUST_LOG"

end Configurator.Main

/-- Runs the tool on the arguments and gives its exit status. -/
def main (args : List String) : IO UInt32 := do
  let workspace ← Configurator.Main.workspaceFor args
  let logFilter ← IO.getEnv Configurator.Main.filterVariable
  Configurator.Main.converse { args, logFilter, workspace } 0
