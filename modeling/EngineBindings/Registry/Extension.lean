import EngineBindings.Registry.ClassDatabase
import EngineBindings.Startup.Plan

/-!
# Extensions

An extension lists its classes once.  They are registered level by level while the engine starts up,
parents first, and removed in the reverse order.
-/

namespace EngineBindings

/-- All that is needed to register a class. -/
structure ClassRegistration where
  name : String
  parent? : Option String
  isRefCounted : Bool
  level : Level
  members : List RegisteredMember
  deriving Inhabited

/-- The classes of an extension with the plan of their registration. -/
structure Extension where
  classes : List ClassRegistration
  plan : StartupPlan
  deriving Inhabited

namespace Extension

/-- The levels of the classes of an extension; other classes belong to the engine, which registers
them before. -/
def levels (classes : List ClassRegistration) : LevelAssignment :=
  classes.foldl (fun levels c => levels.assign c.name c.level) (.uniform .core)

/-- The extension of some classes, or why they cannot be ordered. -/
def ofClasses (classes : List ClassRegistration) : Except StartupError Extension :=
  (StartupPlan.resolve (levels classes) (classes.map fun c => ⟨c.name, c.parent?⟩)).map
    (⟨classes, ·⟩)

/-- Registers a class with its members, unless one of its name is registered. -/
def registerClass (db : ClassDatabase) (c : ClassRegistration) : ClassDatabase :=
  if db.isRegistered c.name then db
  else c.members.foldl (fun db m => db.addMember c.name m)
    (db.register c.name c.parent? c.isRefCounted)

/-- Registers the class of a name. -/
def registerNamed (e : Extension) (db : ClassDatabase) (name : String) : ClassDatabase :=
  match e.classes.find? (·.name == name) with
  | some c => registerClass db c
  | none => db

/-- Registers the classes of a level. -/
def start (e : Extension) (level : Level) (db : ClassDatabase) : ClassDatabase :=
  (e.plan.classesAt level).foldl e.registerNamed db

/-- Removes the classes of a level. -/
def stop (e : Extension) (level : Level) (db : ClassDatabase) : ClassDatabase :=
  (e.plan.classesAt level).reverse.foldl ClassDatabase.unregister db

end Extension

end EngineBindings
