import EngineBindings.Module.Partition
import EngineBindings.Schema.Basic
import EngineBindings.Startup.Plan

/-!
# Configurations

What a configuration file says: the output modules, the umbrella and the layout of its files, and
the startup level of classes.
-/

namespace EngineBindings

/-- The layout that a configuration asks for. -/
inductive LayoutChoice where
  /-- What suits the platform: one file for every type. -/
  | auto
  | perType
  | buckets
  deriving DecidableEq, Inhabited

namespace LayoutChoice

/-- The layout of a choice. -/
def resolve : LayoutChoice → FileLayout
  | auto => .perType
  | perType => .perType
  | buckets => .buckets

/-- The name of a choice. -/
def name : LayoutChoice → String
  | auto => "auto"
  | perType => "per_type"
  | buckets => "buckets"

/-- The choice with a name. -/
def ofName? (name : String) : Option LayoutChoice :=
  [auto, perType, buckets].find? (fun choice => choice.name == name)

end LayoutChoice

/-- What holds for the whole generation. -/
structure GenerationSettings where
  foundationalClass : String
  umbrella? : Option String
  layout : LayoutChoice
  deriving DecidableEq, Inhabited

/-- The settings of a configuration that says nothing about them. -/
def GenerationSettings.usual : GenerationSettings :=
  { foundationalClass := "Object", umbrella? := none, layout := .auto }

/-- The classes of each level; the others start at a fallback. -/
structure LevelSettings where
  fallback : Level
  core : List String
  servers : List String
  scene : List String
  editor : List String
  deriving DecidableEq, Inhabited

/-- The levels of a configuration that says nothing about them. -/
def LevelSettings.usual : LevelSettings :=
  { fallback := .usual, core := [], servers := [], scene := [], editor := [] }

/-- The classes that a configuration puts at each level, in startup order. -/
def LevelSettings.lists (s : LevelSettings) : List (Level × List String) :=
  [(.core, s.core), (.servers, s.servers), (.scene, s.scene), (.editor, s.editor)]

/-- A configuration. -/
structure Configuration where
  generation : GenerationSettings
  levels : LevelSettings
  modules : List ModuleDefinition
  deriving DecidableEq, Inhabited

/-- The configuration that says nothing. -/
def Configuration.usual : Configuration :=
  ⟨.usual, .usual, []⟩

/-- Why a configuration cannot be used. -/
inductive ConfigurationError where
  /-- The text is no configuration. -/
  | malformed
  | unknownModule (name : String)
  | duplicateModule (name : String)
  deriving DecidableEq, Inhabited

/-- The text of an error, as far as it is this library's own. -/
def ConfigurationError.message : ConfigurationError → String
  | .malformed => "Failed to parse TOML: "
  | .unknownModule name => "unknown module `" ++ name ++ "`"
  | .duplicateModule name => "module `" ++ name ++ "` is declared more than once"

namespace Configuration

/-- The module with a name. -/
def module? (c : Configuration) (name : String) : Option ModuleDefinition :=
  Partition.module? c.modules name

/-- What is wrong with the names of modules: one occurs twice, or the umbrella is none of them. -/
def error? (c : Configuration) : Option ConfigurationError :=
  match Partition.firstDuplicate? [] c.modules with
  | some name => some (.duplicateModule name)
  | none =>
    match c.generation.umbrella? with
    | none => none
    | some umbrella =>
      if (c.module? umbrella).isSome then none else some (.unknownModule umbrella)

/-- The options of the partition that a configuration asks for. -/
def partitionOptions (c : Configuration) : PartitionOptions where
  umbrella? := c.generation.umbrella?
  foundationalClass := c.generation.foundationalClass
  umbrellaLayout := c.generation.layout.resolve

/-- The levels that the lists of a configuration assign. -/
def listedLevels (s : LevelSettings) : LevelAssignment :=
  s.lists.foldl
    (fun levels (level, classes) =>
      classes.foldl (fun levels name => levels.assign name level) levels)
    (.uniform s.fallback)

/-- The level of every class.  Classes of the editor that no list names start at its level. -/
def levelAssignment (c : Configuration) (schema? : Option Schema) : LevelAssignment :=
  (schema?.elim [] Schema.editorClasses).foldl
    (fun levels name => levels.assignIfAbsent name .editor) (listedLevels c.levels)

end Configuration

end EngineBindings
