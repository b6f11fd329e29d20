import EngineBindings.Command.Run

/-!
# The program

Reads what a command needs into a file tree, runs the command, and writes the files that changed.
-/

namespace EngineBindings

/-- How the program is called. -/
def usage : String :=
  "Engine binding generator\n\n" ++
  "Usage: gdbind [-v] <command>\n\n" ++
  "  generate <api> <out-dir> [-m <module>] --class-filter <file>\n" ++
  "      --available-class-filter <file> --builtin-filter <file> [--preamble-file <file>]\n" ++
  "      [--combined] [--tiers <config>]\n" ++
  "  plan <config> <workdir>\n" ++
  "  build <config> <api> <workdir> [--combined]"

/-- The tree with what the disk has at a path. -/
def loadEntry (t : FileTree) (path : String) : IO FileTree := do
  try
    let text ← IO.FS.readFile path
    return (t.writeBelow path text).1
  catch
    | .inappropriateType .. => return (t.makeDirectories path).1
    | _ => return t

/-- The tree with what the disk has at a path and above it. -/
def loadPath (t : FileTree) (path : String) : IO FileTree :=
  (FilePath.ancestors path).reverse.foldlM
    (fun t path => if path.isEmpty then pure t else loadEntry t path) t

/-- Writes a file to the disk unless it is there with the same contents. -/
def storeFile (l : Location) (contents : String) : IO Unit := do
  let old? ← try some <$> IO.FS.readFile l.path catch _ => pure none
  if old? != some contents then IO.FS.writeFile l.path contents

/-- Writes what a tree holds and another one does not.  A directory comes before what is in it. -/
def storeChanges (before after : FileTree) : IO Unit := do
  for (l, entry) in after.entries do
    if before.entry? l != some entry then
      match entry with
      | .file contents => storeFile l contents
      | .directory => IO.FS.createDirAll l.path

/-- Runs a command on the disk, and gives the code with which the program ends. -/
def Command.execute (c : Command) : IO UInt32 := do
  let before ← c.inputs.foldlM loadPath .empty
  let (after, result) := c.run before
  storeChanges before after
  match result with
  | .ok () => return 0
  | .error e =>
    IO.eprintln e.report
    return e.exitCode.toUInt32

/-- Runs the command that some arguments are. -/
def executeArguments (arguments : List String) : IO UInt32 := do
  match Command.ofArguments arguments with
  | .error .helpAsked =>
    IO.println usage
    return 0
  | .error .misuse =>
    IO.eprintln usage
    return 2
  | .ok c => c.execute

end EngineBindings

/-- Runs the command on the command line. -/
def main (arguments : List String) : IO UInt32 :=
  EngineBindings.executeArguments arguments
