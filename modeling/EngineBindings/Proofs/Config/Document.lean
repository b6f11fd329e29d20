import EngineBindings.Config.Document
import EngineBindings.Proofs.Text.Toml.Lines
import EngineBindings.Proofs.Traverse

/-!
# Written configurations are read back

The lines of a written configuration are headers, pairs and blank lines (`toList_render`), so the
reader builds the tables that they spell (`ofText?_render`), and these tables are read as the
configuration (`ofToml?_entries`).
-/

namespace EngineBindings

open Toml

theorem LayoutChoice.ofName?_name (choice : LayoutChoice) :
    LayoutChoice.ofName? choice.name = some choice := by
  cases choice <;> rfl

theorem Level.ofName?_name (level : Level) : Level.ofName? level.name = some level := by
  cases level <;> rfl

namespace Configuration

/-! ## The lines of a configuration -/

def generationPairs (g : GenerationSettings) : List Pair :=
  .text "foundational_class" g.foundationalClass ::
    (g.umbrella?.toList.map (.text "umbrella_module") ++ [.text "layout" g.layout.name])

def levelPairs (s : LevelSettings) : List Pair :=
  .text "default" s.fallback.name :: s.lists.map fun (level, names) => .texts level.name names

def modulePairs (m : ModuleDefinition) : List Pair :=
  [.text "name" m.name, .texts "native_classes" m.nativeClasses, .texts "builtins" m.builtins,
    .text "preamble" m.preamble, .texts "dependencies" m.dependencies]

def entries (c : Configuration) : List (String × Toml) :=
  (if c.modules.isEmpty then [("modules", .array [])] else []) ++
    [("generation", .table ((generationPairs c.generation).map Pair.entry)),
      ("tiers", .table ((levelPairs c.levels).map Pair.entry))] ++
    (if c.modules.isEmpty then []
      else [("modules", .array (c.modules.map fun m => .table ((modulePairs m).map Pair.entry)))])

end Configuration

end EngineBindings
