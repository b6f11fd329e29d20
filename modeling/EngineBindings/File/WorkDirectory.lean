import EngineBindings.File.Tree

/-!
# Work directories

Where a build keeps what it writes, and where a configuration is looked for: in a directory and
the ones above it.
-/

namespace EngineBindings.WorkDirectory

/-- The name of a configuration file. -/
def configurationName : String :=
  "gdbind.toml"

/-- The directory of the name lists. -/
def listsPath (workDirectory : String) : String :=
  FilePath.join workDirectory "filters"

/-- The directory of the generated sources of a module. -/
def modulePath (workDirectory module : String) : String :=
  FilePath.join workDirectory module

/-- The configuration file in a directory or the nearest one above it. -/
def findConfiguration? (t : FileTree) (start : String) : Option String :=
  ((FilePath.ancestors (FilePath.withoutLead start)).map
    (FilePath.join · configurationName)).find? t.isFile

end EngineBindings.WorkDirectory
