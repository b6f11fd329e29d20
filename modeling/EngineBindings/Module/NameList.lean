import EngineBindings.Distinct
import EngineBindings.File.Tree
import EngineBindings.Module.Plan
import EngineBindings.Text.Blank
import EngineBindings.Text.Pieces

/-!
# Name lists

The files that carry a module's plan to its generator: the classes, the classes that may be
referred to and the builtin types, one name on a line, and the preamble as it is.  Reading skips
blank lines and comments and drops the ending of a source file and repeated names.
-/

namespace EngineBindings

/-- What a generator is told of a module. -/
structure ModuleLists where
  classes : List String
  availableClasses : List String
  builtins : List String
  preamble : String
  deriving DecidableEq, Inhabited

namespace NameList

/-- The text of a list: one name on a line. -/
def render (names : List String) : String :=
  if (Text.join "\n" names).isEmpty then "" else Text.join "\n" names ++ "\n"

/-- The name on a line, if there is one. -/
def nameOfLine? (line : String) : Option String :=
  let line := Text.trim line
  if line.isEmpty || line.toList.head? == some '#' then none
  else some ((Text.stripTail? ".rs" line).getD line)

/-- The names in a text. -/
def parse (text : String) : List String :=
  firstOccurrences ((Text.lines text).filterMap nameOfLine?)

end NameList

/-- Where the lists of a module are. -/
structure ModuleListPaths where
  classes : String
  availableClasses : String
  builtins : String
  preamble : String

namespace ModuleListPaths

/-- The paths of a module's lists in a directory. -/
def inDirectory (directory module : String) : ModuleListPaths where
  classes := FilePath.join directory (module ++ "-classes.txt")
  availableClasses := FilePath.join directory (module ++ "-available-classes.txt")
  builtins := FilePath.join directory (module ++ "-builtins.txt")
  preamble := FilePath.join directory (module ++ "-preamble.txt")

end ModuleListPaths

namespace ModuleLists

/-- The lists of a plan. -/
def ofPlan (p : ModulePlan) : ModuleLists where
  classes := p.generatedClasses
  availableClasses := p.availableClasses
  builtins := p.builtins
  preamble := p.preamble

/-- Reads a list from a file. -/
def readList (t : FileTree) (path : String) : Except FileError (List String) :=
  (t.read path).map NameList.parse

/-- Reads a preamble, which is empty when its file is not there. -/
def readPreamble (t : FileTree) (path : String) : Except FileError String :=
  match t.read path with
  | .error .notFound => .ok ""
  | result => result

/-- Reads the lists of a module. -/
def read (t : FileTree) (directory module : String) : Except FileError ModuleLists := do
  let paths := ModuleListPaths.inDirectory directory module
  let preamble ← readPreamble t paths.preamble
  let classes ← readList t paths.classes
  let availableClasses ← readList t paths.availableClasses
  let builtins ← readList t paths.builtins
  return { classes, availableClasses, builtins, preamble }

/-- The files of a plan; an empty preamble has none. -/
def filesOf (directory : String) (p : ModulePlan) : List (String × String) :=
  let paths := ModuleListPaths.inDirectory directory p.module
  [(paths.classes, NameList.render p.generatedClasses),
    (paths.availableClasses, NameList.render p.availableClasses),
    (paths.builtins, NameList.render p.builtins)] ++
    (if p.preamble.isEmpty then [] else [(paths.preamble, p.preamble)])

/-- Writes the files of a plan one after another; the tree keeps what was written before a
failure.  Gives the number of files that changed. -/
def writeFiles (t : FileTree) (changed : Nat) :
    List (String × String) → FileTree × Except FileError Nat
  | [] => (t, .ok changed)
  | (path, contents) :: rest =>
    match t.writeIfChanged path contents with
    | (t, .error error) => (t, .error error)
    | (t, .ok written) => writeFiles t (if written then changed + 1 else changed) rest

/-- Writes the lists of a plan. -/
def write (t : FileTree) (directory : String) (p : ModulePlan) : FileTree × Except FileError Nat :=
  writeFiles t 0 (filesOf directory p)

end ModuleLists

end EngineBindings
