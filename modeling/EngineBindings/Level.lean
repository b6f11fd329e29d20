import EngineBindings.Text.Pieces

/-!
# Startup levels

The phases in which the engine starts up.  A class registered at one level may depend on classes
of the same or an earlier level only.
-/

namespace EngineBindings

/-- A phase of the engine's startup. -/
inductive Level where
  | core
  | servers
  | scene
  | editor
  deriving DecidableEq, Inhabited

namespace Level

/-- All levels in startup order. -/
def all : List Level :=
  [core, servers, scene, editor]

/-- The place of a level in startup order. -/
def ordinal (level : Level) : Nat :=
  level.ctorIdx

instance : LT Level where
  lt a b := a.ordinal < b.ordinal

instance : LE Level where
  le a b := a.ordinal ≤ b.ordinal

instance (a b : Level) : Decidable (a < b) :=
  inferInstanceAs (Decidable (a.ordinal < b.ordinal))

instance (a b : Level) : Decidable (a ≤ b) :=
  inferInstanceAs (Decidable (a.ordinal ≤ b.ordinal))

/-- The level of a class to which nothing assigns another one. -/
def usual : Level :=
  scene

/-- The name of a level in configuration files. -/
def name : Level → String
  | core => "core"
  | servers => "servers"
  | scene => "scene"
  | editor => "editor"

/-- The name of a level in generated code. -/
def caseName : Level → String
  | core => "Core"
  | servers => "Servers"
  | scene => "Scene"
  | editor => "Editor"

/-- The level with a name in configuration files, where case matters. -/
def ofName? (name : String) : Option Level :=
  all.find? (fun level => level.name == name)

/-- The level with a name, where the case of ASCII letters does not matter. -/
def ofAnyCase? (name : String) : Option Level :=
  all.find? (fun level => Text.eqIgnoreAsciiCase level.name name)

/-- What is said of a name that is no level. -/
def unknownMessage (name : String) : String :=
  "unknown initialization level: " ++ name

end Level

end EngineBindings
