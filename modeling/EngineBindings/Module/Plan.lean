/-!
# Output modules

A module as the configuration declares it, and its plan: what it generates, what it may refer to,
and how its code is split into files.
-/

namespace EngineBindings

/-- An output module as it is declared. -/
structure ModuleDefinition where
  name : String
  /-- The classes that the module owns, possibly with repeats. -/
  nativeClasses : List String
  /-- The builtin value types that the module owns. -/
  builtins : List String
  /-- Text for the top of the generated unit. -/
  preamble : String
  /-- The modules whose classes this one may refer to. -/
  dependencies : List String
  deriving DecidableEq, Inhabited

/-- How the generated code of a module is split into files. -/
inductive FileLayout where
  /-- One file for every class and builtin type. -/
  | perType
  /-- One file for every first letter. -/
  | buckets
  deriving DecidableEq, Inhabited

namespace FileLayout

/-- The letters of the files of a layout by first letters. -/
def letters : List Char :=
  ['A', 'B', 'C', 'D', 'E', 'F', 'G', 'H', 'I', 'J', 'K', 'L', 'M', 'N', 'O', 'P', 'Q', 'R', 'S',
    'T', 'U', 'V', 'W', 'X', 'Y', 'Z']

/-- The letter of a type name; a name that starts with no ASCII letter goes to the first. -/
def letterOf (name : String) : Char :=
  match name.toList with
  | c :: _ => if c.isAlpha then c.toUpper else 'A'
  | [] => 'A'

/-- The name of a layout. -/
def name : FileLayout → String
  | perType => "per_type"
  | buckets => "buckets"

end FileLayout

/-- What a module generates and may refer to. -/
structure ModulePlan where
  module : String
  /-- The classes that the module generates, without repeats. -/
  generatedClasses : List String
  /-- The generated classes, then those of the dependencies, without repeats. -/
  availableClasses : List String
  builtins : List String
  preamble : String
  /-- Everything the module depends on, directly or through others. -/
  dependencies : List String
  isUmbrella : Bool
  layout : FileLayout
  deriving DecidableEq, Inhabited

namespace ModulePlan

/-- Whether the module generates a class. -/
def generates (p : ModulePlan) (className : String) : Bool :=
  p.generatedClasses.contains className

/-- Whether the module may refer to a class. -/
def isAvailable (p : ModulePlan) (className : String) : Bool :=
  p.availableClasses.contains className

end ModulePlan

end EngineBindings
