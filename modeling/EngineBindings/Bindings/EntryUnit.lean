import EngineBindings.Marshal.Argument
import EngineBindings.Startup.Plan

/-!
# Startup functions in generated code

A module has a function that registers its classes of one level, and one that removes them in the
reverse order.
-/

namespace EngineBindings

/-- The classes that a module registers at one level, by their identifiers in order. -/
structure EntryBlock where
  level : Level
  idents : List String
  deriving Inhabited

/-- The startup functions of a module. -/
structure EntryUnit where
  blocks : List EntryBlock
  deriving Inhabited

namespace EntryUnit

/-- The startup functions for a plan. -/
def ofPlan (p : StartupPlan) : Emission EntryUnit := do
  let blocks ← p.blocks.mapM fun block => do
    return { level := block.level, idents := ← block.classes.mapM Naming.ident : EntryBlock }
  return ⟨blocks⟩

open Code Marshal

/-- The statement that registers a class. -/
def register (ident : String) : Code :=
  fixed "::gdbind_runtime::ClassDb::register_engine_class::<" ++ word ident ++ fixed ">();"

/-- The statement that removes a class. -/
def unregister (ident : String) : Code :=
  fixed "::gdbind_runtime::ClassDb::unregister_class" ++
    paren
      (fixed "<" ++ word ident ++ fixed "as ::gdbind_runtime::GodotClass>::CLASS_NAME,") ++
    fixed ";"

/-- A function of a level, with the statements for each block. -/
def levelFunction (name : String) (blocks : List EntryBlock) (statements : EntryBlock → Code) :
    Code :=
  fixed "pub fn" ++ word name ++ fixed "(level: ::gdbind_runtime::InitializationLevel)" ++
    brace
      (fixed "match level" ++
        brace
          ((blocks.flatMap fun block =>
              armBlock (Marshal.level block.level) (statements block)) ++
            armBlock (fixed "#[allow(unreachable_patterns)] _") []))

/-- The code of the startup functions. -/
def code (u : EntryUnit) : Code :=
  doc " Register this module's engine classes belonging to `level`" ++
    levelFunction "initialize_level" u.blocks (fun block => block.idents.flatMap register) ++
    doc " Unregister this module's engine classes belonging to `level`, in" ++
    doc " reverse registration order" ++
    levelFunction "deinitialize_level" u.blocks
      (fun block => block.idents.reverse.flatMap unregister)

end EntryUnit

end EngineBindings
