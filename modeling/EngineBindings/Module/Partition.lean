import EngineBindings.Distinct
import EngineBindings.Module.Plan

/-!
# Partitions

The classes of an engine are split over several output modules.  Each module generates the classes
it owns and may refer to those of the modules it depends on, directly or through others.  One
module may be the umbrella: it generates, in one unit, everything that its dependencies do not
provide.

`partition` gives every module its plan or says what is wrong with the modules.
-/

namespace EngineBindings

/-- What holds for all modules of a partition. -/
structure PartitionOptions where
  /-- The umbrella module, if there is one. -/
  umbrella? : Option String
  /-- The root of the class tree. -/
  foundationalClass : String
  /-- The layout of the umbrella module. -/
  umbrellaLayout : FileLayout
  deriving DecidableEq, Inhabited

/-- Why modules have no partition. -/
inductive PartitionError where
  | duplicateModule (name : String)
  | unknownModule (name : String)
  | unknownDependency (module dependency : String)
  | dependencyCycle (through : String)
  | emptyModule (name : String)
  | foundationalClassGenerated (module className : String)
  | classOwnedTwice (className first second : String)
  deriving DecidableEq, Inhabited

namespace PartitionError

/-- The text of an error. -/
def message : PartitionError → String
  | duplicateModule name => "module `" ++ name ++ "` is declared more than once"
  | unknownModule name => "unknown module `" ++ name ++ "`"
  | unknownDependency module dependency =>
    "module `" ++ module ++ "` depends on unknown module `" ++ dependency ++ "`"
  | dependencyCycle through => "module dependency cycle through `" ++ through ++ "`"
  | emptyModule name => "module `" ++ name ++ "` owns no classes and no builtins"
  | foundationalClassGenerated module className =>
    "module `" ++ module ++ "` generates `" ++ className ++
      "`, which one of its dependencies already provides"
  | classOwnedTwice className first second =>
    "class `" ++ className ++ "` is generated by both `" ++ first ++ "` and `" ++ second ++ "`"

end PartitionError

namespace Partition

/-- The module with a name. -/
def module? (modules : List ModuleDefinition) (name : String) : Option ModuleDefinition :=
  modules.find? (fun m => m.name == name)

/-- The first name that an earlier module has too. -/
def firstDuplicate? : List String → List ModuleDefinition → Option String
  | _, [] => none
  | seen, m :: rest =>
    if seen.contains m.name then some m.name else firstDuplicate? (m.name :: seen) rest

/-! ## Dependencies -/

/-- Walks the dependencies of a module depth first and adds those not visited yet to `visited`.
`path` holds the modules on the way from the root, and no path through declared modules without a
cycle is longer than their number, which bounds `steps`. -/
def visit (modules : List ModuleDefinition) :
    Nat → List String → ModuleDefinition → List String → Except PartitionError (List String)
  | 0, _, m, _ => .error (.dependencyCycle m.name)
  | steps + 1, path, m, visited =>
    m.dependencies.foldlM (fun visited dependency =>
      if (m.name :: path).contains dependency then .error (.dependencyCycle dependency)
      else
        match module? modules dependency with
        | none => .error (.unknownDependency m.name dependency)
        | some definition =>
          if visited.contains dependency then .ok visited
          else visit modules steps (m.name :: path) definition (visited ++ [dependency]))
      visited

/-- Everything a module depends on, in the order in which a depth-first walk meets it. -/
def transitiveDependencies (modules : List ModuleDefinition) (root : ModuleDefinition) :
    Except PartitionError (List String) :=
  visit modules (modules.length + 1) [] root []

/-! ## Plans -/

/-- The modules whose own classes a module generates: itself and, for the umbrella, every other
one that it does not depend on. -/
def sources (modules : List ModuleDefinition) (isUmbrella : Bool) (m : ModuleDefinition)
    (dependencies : List String) : List ModuleDefinition :=
  if isUmbrella then
    m :: modules.filter (fun other => other.name != m.name && !dependencies.contains other.name)
  else [m]

/-- The plan of a module. -/
def planOf (modules : List ModuleDefinition) (options : PartitionOptions) (m : ModuleDefinition) :
    Except PartitionError ModulePlan :=
  match transitiveDependencies modules m with
  | .error error => .error error
  | .ok dependencies =>
    let isUmbrella := options.umbrella? == some m.name
    let from' := sources modules isUmbrella m dependencies
    let generatedClasses := firstOccurrences (from'.flatMap ModuleDefinition.nativeClasses)
    let builtins := firstOccurrences (from'.flatMap ModuleDefinition.builtins)
    if generatedClasses.isEmpty && builtins.isEmpty then .error (.emptyModule m.name)
    else
      let provided :=
        (dependencies.filterMap (module? modules)).flatMap ModuleDefinition.nativeClasses
      .ok
        { module := m.name
          generatedClasses
          availableClasses := firstOccurrences (generatedClasses ++ provided)
          builtins
          preamble := m.preamble
          dependencies
          isUmbrella
          layout := if isUmbrella then options.umbrellaLayout else .perType }

/-! ## Checks across plans -/

/-- Whether a dependency of a plan owns a class. -/
def providedByDependency (modules : List ModuleDefinition) (p : ModulePlan) (className : String) :
    Bool :=
  p.dependencies.any fun name =>
    ((module? modules name).map fun m => m.nativeClasses.contains className).getD false

/-- The first plan that generates the root class although a dependency provides it. -/
def foundationalError? (modules : List ModuleDefinition) (foundational : String)
    (plans : List ModulePlan) : Option PartitionError :=
  (plans.find? fun p =>
    providedByDependency modules p foundational && p.generates foundational).map fun p =>
      .foundationalClassGenerated p.module foundational

/-- The first class that has an owner already; `owners` holds the owner of each class so far. -/
def sharedError? (owners : List (String × String)) : List (String × String) → Option PartitionError
  | [] => none
  | (className, module) :: rest =>
    match owners.lookup className with
    | some first => some (.classOwnedTwice className first module)
    | none => sharedError? ((className, module) :: owners) rest

/-- The first class that two modules generate, the umbrella aside. -/
def ownershipError? (plans : List ModulePlan) : Option PartitionError :=
  sharedError? [] <| (plans.filter fun p => !p.isUmbrella).flatMap fun p =>
    p.generatedClasses.map fun className => (className, p.module)

/-- The umbrella if no module has its name. -/
def unknownUmbrella? (modules : List ModuleDefinition) (options : PartitionOptions) :
    Option String :=
  options.umbrella?.filter fun name => (module? modules name).isNone

end Partition

/-- The plans of all modules in the order of their declaration. -/
def partition (modules : List ModuleDefinition) (options : PartitionOptions) :
    Except PartitionError (List ModulePlan) :=
  match Partition.firstDuplicate? [] modules with
  | some name => .error (.duplicateModule name)
  | none =>
    match Partition.unknownUmbrella? modules options with
    | some name => .error (.unknownModule name)
    | none =>
      match modules.mapM (Partition.planOf modules options) with
      | .error error => .error error
      | .ok plans =>
        match Partition.foundationalError? modules options.foundationalClass plans with
        | some error => .error error
        | none =>
          match Partition.ownershipError? plans with
          | some error => .error error
          | none => .ok plans

namespace Partition

/-- The plan of a module. -/
def plan? (plans : List ModulePlan) (module : String) : Option ModulePlan :=
  plans.find? (fun p => p.module == module)

/-- The plan of the umbrella. -/
def umbrella? (plans : List ModulePlan) : Option ModulePlan :=
  plans.find? ModulePlan.isUmbrella

/-- The plans that are compiled together when there is no need for an umbrella. -/
def splitModules (plans : List ModulePlan) : List ModulePlan :=
  plans.filter fun p => !p.isUmbrella

end Partition

end EngineBindings
