import EngineBindings.Bindings.Assembly
import EngineBindings.Command.Error
import EngineBindings.Command.Line
import EngineBindings.Config.Document
import EngineBindings.File.WorkDirectory
import EngineBindings.Module.NameList
import EngineBindings.Schema.Document

/-!
# Running commands

What commands do to a file tree.  Everything is read before anything is written, and the files of a
module are written only after all of them are generated; what was written before a failure stays.
-/

namespace EngineBindings.Command

/-! ## Reading -/

/-- Reads a file as a value. -/
def load {α ε : Type} (t : FileTree) (path : String) (read : String → Except ε α) :
    Except (LoadError ε) α :=
  match t.read path with
  | .error e => .error (.unreadable e)
  | .ok text => (read text).mapError .refused

/-- Reads a configuration. -/
def loadConfiguration (t : FileTree) (path : String) : Except CommandError Configuration :=
  (load t path Configuration.ofText).mapError (.configuration path)

/-- Reads the schema of the engine. -/
def loadSchema (t : FileTree) (path : String) : Except CommandError Schema :=
  (load t path Schema.ofText).mapError (.schema path)

/-- Reads a configuration and plans its modules. -/
def loadPlans (t : FileTree) (path : String) :
    Except CommandError (Configuration × List ModulePlan) := do
  let configuration ← loadConfiguration t path
  let plans ← (partition configuration.modules configuration.partitionOptions).mapError .partition
  return (configuration, plans)

/-- Reads a name list. -/
def loadNames (t : FileTree) (path : String) : Except CommandError (List String) :=
  (ModuleLists.readList t path).mapError (.nameList path)

/-- Reads a preamble, if there is one. -/
def loadPreamble (t : FileTree) : Option String → Except CommandError String
  | none => .ok ""
  | some path => (t.read path).mapError (.preamble path)

/-- The plan that name lists describe. -/
def planOfLists (t : FileTree) (a : GenerateArguments) : Except CommandError ModulePlan := do
  let generatedClasses ← loadNames t a.classList
  let available ← loadNames t a.availableClassList
  let builtins ← loadNames t a.builtinList
  let preamble ← loadPreamble t a.preamble?
  return {
    module := a.module
    generatedClasses
    availableClasses := firstOccurrences (generatedClasses ++ available)
    builtins
    preamble
    dependencies := []
    isUmbrella := a.combined
    layout := if a.combined then .buckets else .perType }

/-! ## Writing -/

/-- Writes the name lists of plans in order, until some cannot be written. -/
def writeLists (directory : String) :
    FileTree → List ModulePlan → FileTree × Except CommandError Unit
  | t, [] => (t, .ok ())
  | t, p :: rest =>
    match ModuleLists.write t directory p with
    | (t, .error e) => (t, .error (.moduleLists p.module e))
    | (t, .ok _) => writeLists directory t rest

/-- All that the generation of a module needs besides its plan. -/
structure GenerationContext where
  schema : Schema
  levels : LevelAssignment
  settings : GenerationSettings
  /-- The directory of the directories of modules. -/
  directory : String

/-- Generates a module and then writes its files. -/
def generateModule (c : GenerationContext) (t : FileTree) (p : ModulePlan) :
    FileTree × Except CommandError WriteReport :=
  match p.assemble c.schema c.levels c.settings.foundationalClass with
  | .error e => (t, .error (.generation p.module e))
  | .ok files =>
    match writeGenerated c.directory t ⟨0, 0⟩ files with
    | (t, .error (path, e)) => (t, .error (.output p.module path e))
    | (t, .ok report) => (t, .ok report)

/-- Generates modules in order, until one cannot be generated or written. -/
def generateModules (c : GenerationContext) :
    FileTree → WriteReport → List ModulePlan → FileTree × Except CommandError WriteReport
  | t, report, [] => (t, .ok report)
  | t, report, p :: rest =>
    match generateModule c t p with
    | (t, .error e) => (t, .error e)
    | (t, .ok written) => generateModules c t (report.merge written) rest

/-- The plans that a build generates.  An umbrella with one file for every letter is compiled by
itself, and so is any umbrella when the modules are to be combined. -/
def selectedPlans (plans : List ModulePlan) (combined : Bool) : List ModulePlan :=
  match Partition.umbrella? plans with
  | none => plans
  | some umbrella =>
    if combined || umbrella.layout = .buckets then [{ umbrella with layout := .buckets }] else plans

/-! ## Commands -/

/-- Generates one module from its name lists. -/
def runGenerate (a : GenerateArguments) (t : FileTree) :
    FileTree × Except CommandError WriteReport :=
  let read : Except CommandError (GenerationContext × ModulePlan) := do
    let schema ← loadSchema t a.api
    let configuration ← match a.configuration? with
      | none => pure Configuration.usual
      | some path => loadConfiguration t path
    let p ← planOfLists t a
    let levels := configuration.levelAssignment (some schema)
    return (⟨schema, levels, configuration.generation, a.outDirectory⟩, p)
  match read with
  | .error e => (t, .error e)
  | .ok (context, p) => generateModule context t p

/-- Plans modules and writes their name lists. -/
def runPlan (configuration workDirectory : String) (t : FileTree) :
    FileTree × Except CommandError (List ModulePlan) :=
  match loadPlans t configuration with
  | .error e => (t, .error e)
  | .ok (_, plans) =>
    let (t, written) := writeLists (WorkDirectory.listsPath workDirectory) t plans
    (t, written.map fun _ => plans)

/-- Plans modules, writes their name lists, and generates the selected ones. -/
def runBuild (configuration api workDirectory : String) (combined : Bool) (t : FileTree) :
    FileTree × Except CommandError WriteReport :=
  let read : Except CommandError (GenerationContext × List ModulePlan) := do
    let (configuration, plans) ← loadPlans t configuration
    let schema ← loadSchema t api
    let levels := configuration.levelAssignment (some schema)
    return (⟨schema, levels, configuration.generation, workDirectory⟩, plans)
  match read with
  | .error e => (t, .error e)
  | .ok (context, plans) =>
    match writeLists (WorkDirectory.listsPath workDirectory) t plans with
    | (t, .error e) => (t, .error e)
    | (t, .ok ()) => generateModules context t ⟨0, 0⟩ (selectedPlans plans combined)

/-- Runs a command. -/
def run (c : Command) (t : FileTree) : FileTree × Except CommandError Unit :=
  match c with
  | generate a =>
    let (t, r) := runGenerate a t
    (t, r.map fun _ => ())
  | plan configuration workDirectory =>
    let (t, r) := runPlan configuration workDirectory t
    (t, r.map fun _ => ())
  | build configuration api workDirectory combined =>
    let (t, r) := runBuild configuration api workDirectory combined t
    (t, r.map fun _ => ())

/-- The files that a command reads besides those that it writes. -/
def inputs : Command → List String
  | generate a =>
    [a.api, a.classList, a.availableClassList, a.builtinList] ++ a.preamble?.toList ++
      a.configuration?.toList
  | plan configuration _ => [configuration]
  | build configuration api _ _ => [configuration, api]

end EngineBindings.Command
