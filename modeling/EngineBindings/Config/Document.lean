import EngineBindings.Config.Basic
import EngineBindings.Text.Toml.Reader
import EngineBindings.Text.Toml.Writer

/-!
# Configuration files

The text of a configuration, and the configuration of a text.  A text may leave out any setting;
writing spells all of them but an absent umbrella.
-/

namespace EngineBindings.Configuration

open Toml

/-! ## Reading -/

/-- Reads a list of names that may be left out. -/
def names? (f : Fields) (name : String) : Option (List String) :=
  f.withDefault name [] (list? text?)

/-- Reads the settings of the generation. -/
def generation? (j : Toml) : Option GenerationSettings := do
  let f ← j.fields? ["foundational_class", "umbrella_module", "layout"]
  let usual := GenerationSettings.usual
  let foundationalClass ← f.withDefault "foundational_class" usual.foundationalClass text?
  let umbrella? ← f.withDefault "umbrella_module" usual.umbrella? (fun j => j.text?.map some)
  let layout ← f.withDefault "layout" usual.layout (choice? LayoutChoice.ofName?)
  some { foundationalClass, umbrella?, layout }

/-- Reads the levels. -/
def levels? (j : Toml) : Option LevelSettings := do
  let f ← j.fields? ["default", "core", "servers", "scene", "editor"]
  let fallback ← f.withDefault "default" .usual (choice? Level.ofName?)
  let core ← names? f "core"
  let servers ← names? f "servers"
  let scene ← names? f "scene"
  let editor ← names? f "editor"
  some { fallback, core, servers, scene, editor }

/-- Reads a module. -/
def moduleDefinition? (j : Toml) : Option ModuleDefinition := do
  let f ← j.fields? ["name", "native_classes", "builtins", "preamble", "dependencies"]
  let name ← f.withDefault "name" "" text?
  let nativeClasses ← names? f "native_classes"
  let builtins ← names? f "builtins"
  let preamble ← f.withDefault "preamble" "" text?
  let dependencies ← names? f "dependencies"
  some { name, nativeClasses, builtins, preamble, dependencies }

/-- Reads a configuration without looking at the names of its modules. -/
def ofToml? (j : Toml) : Option Configuration := do
  let f ← j.fields? ["generation", "tiers", "modules"]
  let generation ← f.withDefault "generation" .usual generation?
  let levels ← f.withDefault "tiers" .usual levels?
  let modules ← f.withDefault "modules" [] (list? moduleDefinition?)
  some { generation, levels, modules }

/-- The configuration that a text spells. -/
def ofText (text : String) : Except ConfigurationError Configuration :=
  match (Toml.ofText? text).bind ofToml? with
  | none => .error .malformed
  | some c =>
    match c.error? with
    | some error => .error error
    | none => .ok c

/-! ## Writing -/

/-- The lines of a module. -/
def renderModule (m : ModuleDefinition) : String :=
  "\n[[modules]]\n" ++ spellPair "name" (spellText m.name) ++
    spellPair "native_classes" (spellTexts m.nativeClasses) ++
    spellPair "builtins" (spellTexts m.builtins) ++
    spellPair "preamble" (spellText m.preamble) ++
    spellPair "dependencies" (spellTexts m.dependencies)

/-- The lines of the settings of the generation. -/
def renderGeneration (g : GenerationSettings) : String :=
  "[generation]\n" ++ spellPair "foundational_class" (spellText g.foundationalClass) ++
    (match g.umbrella? with
      | some umbrella => spellPair "umbrella_module" (spellText umbrella)
      | none => "") ++
    spellPair "layout" (spellText g.layout.name)

/-- The lines of the levels. -/
def renderLevels (s : LevelSettings) : String :=
  "\n[tiers]\n" ++ spellPair "default" (spellText s.fallback.name) ++
    String.join (s.lists.map fun (level, names) => spellPair level.name (spellTexts names))

/-- The text of a configuration. -/
def render (c : Configuration) : String :=
  (if c.modules.isEmpty then spellPair "modules" "[]" ++ "\n" else "") ++
    renderGeneration c.generation ++ renderLevels c.levels ++
    String.join (c.modules.map renderModule)

end EngineBindings.Configuration
