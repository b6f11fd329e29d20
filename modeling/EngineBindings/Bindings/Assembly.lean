import EngineBindings.Bindings.BuiltinUnit
import EngineBindings.Bindings.EntryUnit
import EngineBindings.Bindings.UtilityUnit
import EngineBindings.Code.Documentation
import EngineBindings.File.Tree
import EngineBindings.Module.Plan

/-!
# Assembled modules

Everything that is generated for one module: its classes, the traits of its builtin types, its
startup functions, and with the first builtin type the enumerations and global functions of the
engine.  The files of a module follow its layout, and its root file comes last.
-/

namespace EngineBindings

/-- What is generated for a module. -/
structure AssembledModule where
  classes : List ClassUnit
  builtins : List BuiltinUnit
  entry : EntryUnit
  /-- The enumerations at module scope, for a module with builtin types. -/
  enums? : Option (List EnumUnit)
  /-- The global functions, for a module with builtin types. -/
  utility? : Option (List UtilityUnit)
  deriving Inhabited

/-- A generated file: what stands before the code, and the code. -/
structure GeneratedFile where
  /-- The path from the directory of all modules. -/
  path : String
  head : String
  code : Code
  deriving Inhabited

/-- The contents of a generated file. -/
def GeneratedFile.contents (f : GeneratedFile) : String :=
  f.head ++ f.code.renderSource .file ++ "\n"

namespace AssembledModule

/-! ## Units -/

/-- The classes that a plan generates. -/
def plannedClasses (s : Schema) (p : ModulePlan) : Emission (List ClassDescriptor) :=
  p.generatedClasses.mapM fun name =>
    match s.class? name with
    | some c => .ok c
    | none => .error (.unknownClass p.module name)

/-- The builtin types that a plan generates. -/
def plannedBuiltins (s : Schema) (p : ModulePlan) : Emission (List Builtin) :=
  p.builtins.mapM fun name =>
    match s.builtin? name with
    | some b => .ok b
    | none => .error (.unknownBuiltin p.module name)

/-- The parent of a class, if the module cannot refer to it. -/
def missingParent? (p : ModulePlan) (c : ClassDescriptor) : Option GenerationError :=
  match c.parent? with
  | none => none
  | some parent =>
    if p.isAvailable parent then none else some (.parentUnavailable c.name parent p.module)

/-- Checks that the module can refer to the parents of its classes. -/
def checkParents (p : ModulePlan) (classes : List ClassDescriptor) : Emission Unit :=
  match classes.findSome? (missingParent? p) with
  | none => .ok ()
  | some error => .error error

/-- The order in which the classes of a module are registered. -/
def startupPlan (levels : LevelAssignment) (p : ModulePlan) (classes : List ClassDescriptor) :
    Emission StartupPlan :=
  match StartupPlan.resolve levels (classes.map fun c => ⟨c.name, c.parent?⟩) with
  | .ok plan => .ok plan
  | .error error => .error (.startup p.module error)

/-- The enumerations at module scope: the global ones, then those of builtin types. -/
def moduleEnums (s : Schema) : Emission (List EnumUnit) := do
  let globals ← s.globalEnums.mapM fun e => EnumUnit.ofDescriptor (Naming.flatEnum e.name) e
  return globals ++ (← EnumUnit.ofBuiltins s.builtins)

/-- What is generated for a plan. -/
def ofPlan (s : Schema) (p : ModulePlan) (levels : LevelAssignment) (foundational : String) :
    Emission AssembledModule := do
  let classes ← plannedClasses s p
  let builtins ← plannedBuiltins s p
  checkParents p classes
  let m : TypeMap := ⟨s, p.availableClasses, foundational⟩
  let classUnits ← classes.mapM fun c => ClassUnit.ofClass m c (levels.levelOf c.name) p.module
  let builtinUnits ← builtins.mapM (BuiltinUnit.ofBuiltin m)
  let entry ← EntryUnit.ofPlan (← startupPlan levels p classes)
  let enums? ← if builtins.isEmpty then pure none else some <$> moduleEnums s
  let utility? ← if builtins.isEmpty || s.utilityFunctions.isEmpty then pure none
    else some <$> UtilityUnit.ofFunctions m s.utilityFunctions
  return { classes := classUnits, builtins := builtinUnits.filterMap id, entry, enums?, utility? }

/-! ## Files -/

open Code

/-- A type with the module that it gets. -/
structure TypeModule where
  /-- The name by which the type finds its file. -/
  name : String
  /-- What the module shows to the outside. -/
  exported : String
  body : Code
  deriving Inhabited

/-- The name of the module of a type. -/
def TypeModule.module (t : TypeModule) : String :=
  Naming.moduleName t.name

/-- The modules of the classes. -/
def classModules (a : AssembledModule) : List TypeModule :=
  a.classes.map fun u => ⟨u.name, u.name, u.code⟩

/-- The modules of the builtin types. -/
def builtinModules (a : AssembledModule) : List TypeModule :=
  a.builtins.map fun u => ⟨u.name, Naming.builtinTrait u.name u.kind.hostName, u.code⟩

/-- What every file but the root starts with. -/
def useParent : Code :=
  fixed "use super::*;"

/-- The code that shows a type outside of its module. -/
def exportCode (t : TypeModule) : Emission Code := do
  let module ← Naming.identCode t.module
  let exported ← Naming.identCode t.exported
  return fixed "pub use" ++ module ++ fixed "::" ++ exported ++ fixed ";"

/-- The declaration of a module in a file of its own. -/
def declaration (t : TypeModule) : Emission Code := do
  let module ← Naming.identCode t.module
  return fixed "pub mod" ++ module ++ fixed ";" ++ (← exportCode t)

/-- A module inside of another one's file. -/
def inline (t : TypeModule) : Emission Code := do
  let module ← Naming.identCode t.module
  return fixed "pub mod" ++ module ++ brace (useParent ++ t.body) ++ (← exportCode t)

/-- The files of a directory with one file for every type. -/
def directoryFiles (directory : String) (types : List TypeModule) :
    Emission (List GeneratedFile) := do
  let files := types.map fun t =>
    { path := FilePath.join directory (t.module ++ ".rs"), head := "", code := useParent ++ t.body }
  let declarations ← types.mapM declaration
  return files ++
    [{ path := FilePath.join directory "mod.rs", head := "",
       code := useParent ++ Code.concat declarations }]

/-- The files with one for every type, and what the root file says of them. -/
def perTypeFiles (root : String) (a : AssembledModule) : Emission (List GeneratedFile × Code) := do
  let groups := [("classes", a.classModules), ("builtins", a.builtinModules)].filter
    fun group => !group.2.isEmpty
  let files ← groups.mapM fun (name, types) => directoryFiles (FilePath.join root name) types
  let items := groups.flatMap fun (name, _) =>
    fixed "pub mod" ++ word name ++ fixed "; pub use" ++ word name ++ fixed "::*;"
  return (files.flatten, items)

/-- The name of the module of a letter. -/
def letterStem (module : String) (letter : Char) : String :=
  module ++ "_" ++ letter.toLower.toString

/-- The file of a letter. -/
def letterFile (module : String) (types : List TypeModule) (letter : Char) :
    Emission GeneratedFile := do
  let inlined ← (types.filter fun t => FileLayout.letterOf t.name == letter).mapM inline
  return { path := FilePath.join module (letterStem module letter ++ ".rs"), head := "",
           code := useParent ++ Code.concat inlined }

/-- The files with one for every letter, and what the root file says of them. -/
def letterFiles (module : String) (a : AssembledModule) : Emission (List GeneratedFile × Code) := do
  let files ← FileLayout.letters.mapM (letterFile module (a.classModules ++ a.builtinModules))
  let items ← FileLayout.letters.mapM fun letter => do
    let stem ← Naming.identCode (letterStem module letter)
    return fixed "mod" ++ stem ++ fixed "; pub use" ++ stem ++ fixed "::*;"
  return (files, Code.concat items)

/-- The text before the code of the root file: where the module comes from, what is not warned of,
and the preamble, if there is one. -/
def rootHead (s : Schema) (p : ModulePlan) : String :=
  let preamble :=
    if (Text.trim p.preamble).isEmpty then "" else "\n" ++ Text.trimEnd p.preamble ++ "\n"
  "// Generated by gdbind from " ++ s.version.fullName ++ " for module `" ++ p.module ++
    "`. Do not edit.\n#![allow(unused_imports, non_camel_case_types, clippy::all)]\n" ++
    preamble ++ "\n"

/-- The files of a module in order. -/
def files (s : Schema) (p : ModulePlan) (a : AssembledModule) : Emission (List GeneratedFile) := do
  let (typeFiles, typeItems) ← match p.layout with
    | .perType => perTypeFiles p.module a
    | .buckets => letterFiles p.module a
  let file (name : String) (code : Code) : GeneratedFile :=
    { path := FilePath.join p.module name, head := "", code }
  let (enumFiles, enumItems) := match a.enums? with
    | none => ([], [])
    | some enums =>
      ([file "core_defs.rs" (useParent ++ enums.flatMap EnumUnit.code)],
        fixed "pub mod core_defs; pub use core_defs::*;")
  let (utilityFiles, utilityItems) := match a.utility? with
    | none => ([], [])
    | some units => ([file "utility.rs" (UtilityUnit.moduleCode units)], fixed "pub mod utility;")
  return typeFiles ++ enumFiles ++ utilityFiles ++
    [{ path := FilePath.join p.module "mod.rs", head := rootHead s p,
       code := typeItems ++ enumItems ++ utilityItems ++ a.entry.code }]

end AssembledModule

/-- A file with its documentation as comments keep it. -/
def GeneratedFile.settled (f : GeneratedFile) : GeneratedFile :=
  { f with code := Documentation.settle f.code }

/-- The files that are generated for a plan. -/
def ModulePlan.assemble (p : ModulePlan) (s : Schema) (levels : LevelAssignment)
    (foundational : String) : Emission (List GeneratedFile) := do
  let files ← AssembledModule.files s p (← AssembledModule.ofPlan s p levels foundational)
  return files.map GeneratedFile.settled

/-- How many files were written, and how many were there already. -/
structure WriteReport where
  written : Nat
  unchanged : Nat
  deriving DecidableEq, Inhabited

/-- The files of two reports together. -/
def WriteReport.merge (a b : WriteReport) : WriteReport :=
  ⟨a.written + b.written, a.unchanged + b.unchanged⟩

/-- Writes generated files below a directory, in order, until one cannot be written; that one is
named. -/
def writeGenerated (directory : String) :
    FileTree → WriteReport → List GeneratedFile →
      FileTree × Except (String × FileError) WriteReport
  | t, report, [] => (t, .ok report)
  | t, report, file :: rest =>
    let path := FilePath.join directory file.path
    match t.writeIfChanged path file.contents with
    | (t, .error error) => (t, .error (path, error))
    | (t, .ok true) => writeGenerated directory t { report with written := report.written + 1 } rest
    | (t, .ok false) =>
      writeGenerated directory t { report with unchanged := report.unchanged + 1 } rest

end EngineBindings
