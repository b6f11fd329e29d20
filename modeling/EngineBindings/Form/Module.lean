import EngineBindings.Config.Document
import EngineBindings.Form.Registry
import EngineBindings.Module.NameList

/-!
# JSON forms of modules

Declared modules, plans, levels and configurations, with the reasons for which they are refused.
-/

namespace EngineBindings.Form

/-! ## Modules and plans -/

/-- A declared module. -/
def moduleDefinition (m : ModuleDefinition) : Json :=
  rec [("name", str m.name), ("native_classes", strs m.nativeClasses),
    ("builtins", strs m.builtins), ("preamble", str m.preamble),
    ("dependencies", strs m.dependencies)]

/-- Reads a declared module. -/
def readModule (j : Json) : Read ModuleDefinition := do
  return ⟨(optText j "name").getD "", ← textsAt j "native_classes", ← textsAt j "builtins",
    (optText j "preamble").getD "", ← textsAt j "dependencies"⟩

/-- Reads the declared modules of a field. -/
def readModules (j : Json) : Read (List ModuleDefinition) :=
  (listAt j "modules").mapM readModule

/-- The layout in a field. -/
def layoutAt (j : Json) (name : String) : FileLayout :=
  if optText j name == some "buckets" then .buckets else .perType

/-- The plan of a module. -/
def plan (p : ModulePlan) : Json :=
  rec [("module", str p.module), ("generated_classes", strs p.generatedClasses),
    ("available_classes", strs p.availableClasses), ("builtins", strs p.builtins),
    ("preamble", str p.preamble), ("dependencies", strs p.dependencies),
    ("is_umbrella", bln p.isUmbrella), ("layout", str p.layout.name)]

/-- Reads the plan of a module. -/
def readPlan (j : Json) : Read ModulePlan := do
  return ⟨(optText j "module").getD "godot", ← textsAt j "generated_classes",
    ← textsAt j "available_classes", ← textsAt j "builtins", (optText j "preamble").getD "",
    ← textsAt j "dependencies", flag j "is_umbrella", layoutAt j "layout"⟩

/-- The options of a partition. -/
def options (o : PartitionOptions) : Json :=
  rec [("umbrella", opt str o.umbrella?), ("foundational_class", str o.foundationalClass),
    ("umbrella_layout", str o.umbrellaLayout.name)]

/-- Reads the options of a partition. -/
def readOptions (j : Json) : PartitionOptions where
  umbrella? := optText j "umbrella"
  foundationalClass := (optText j "foundational_class").getD "Object"
  umbrellaLayout := layoutAt j "umbrella_layout"

/-- Why modules cannot be planned. -/
def partitionError (e : PartitionError) : Json :=
  let kind := match e with
    | .duplicateModule _ => "DuplicateModule"
    | .unknownModule _ => "UnknownModule"
    | .unknownDependency _ _ => "UnknownDependency"
    | .dependencyCycle _ => "DependencyCycle"
    | .emptyModule _ => "EmptyModule"
    | .foundationalClassGenerated _ _ => "FoundationalClassGenerated"
    | .classOwnedTwice _ _ _ => "ClassOwnedTwice"
  failure kind e.message

/-! ## Levels -/

/-- Reads a level. -/
def readLevel (name : String) : Read Level :=
  need "level" (Level.ofAnyCase? name)

/-- Reads the level of a field, which may be missing. -/
def levelAt (j : Json) (name : String) (fallback : Level) : Read Level :=
  match optText j name with
  | none => .ok fallback
  | some n => readLevel n

/-- Reads which classes are at which level; a third item leaves an assigned class where it is. -/
def readLevels (j : Json) : Read LevelAssignment := do
  (listAt j "assign").foldlM (fun levels entry =>
    match entry with
    | .array (.string (some c) :: .string (some l) :: more) => do
      let l ← readLevel l
      return if more.isEmpty then levels.assign c l else levels.assignIfAbsent c l
    | _ => .error "bad assign") (.uniform (← levelAt j "default" .usual))

/-- Reads a class with its parent. -/
def readNode : Json → Read ClassNode
  | .array [.string (some n), p] => .ok ⟨n, p.text?⟩
  | _ => .error "bad class"

/-! ## Configurations -/

/-- The name of a choice of layout. -/
def choiceName : LayoutChoice → String
  | .auto => "Auto"
  | .perType => "PerType"
  | .buckets => "Buckets"

/-- Why a configuration is refused. -/
def configurationError : ConfigurationError → Json
  | .malformed => rec [("error", str "ParseError")]
  | e@(.unknownModule _) => failure "UnknownModule" e.message
  | e@(.duplicateModule _) => failure "DuplicateModule" e.message

/-- The fields of a configuration. -/
def configuration (c : Configuration) : List (String × Json) :=
  [("generation",
      rec [("foundational_class", str c.generation.foundationalClass),
        ("umbrella_module", opt str c.generation.umbrella?),
        ("layout", str (choiceName c.generation.layout))]),
    ("tiers",
      rec (("default", str c.levels.fallback.name) ::
        c.levels.lists.map fun (l, names) => (l.name, strs names))),
    ("modules", list moduleDefinition c.modules), ("options", options c.partitionOptions)]

/-- Reads settings of generation; what is missing is as usual. -/
def readGeneration (j : Option Json) : GenerationSettings :=
  let j := j.getD .null
  ⟨(optText j "foundational_class").getD GenerationSettings.usual.foundationalClass,
    optText j "umbrella_module", ((optText j "layout").bind LayoutChoice.ofName?).getD .auto⟩

/-- Reads a configuration. -/
def readConfiguration (j : Json) : Read Configuration := do
  let levels := (get? j "tiers").getD .null
  return ⟨readGeneration (get? j "generation"),
    ⟨← levelAt levels "default" .usual, ← textsAt levels "core", ← textsAt levels "servers",
      ← textsAt levels "scene", ← textsAt levels "editor"⟩,
    ← readModules j⟩

end EngineBindings.Form
