import EngineBindings.Registry.ClassDatabase

/-!
# Calls of the class database

What the host and the engine ask of the class database, one call after another.
-/

namespace EngineBindings

/-- A call of the class database. -/
inductive RegistryCall where
  | register (name : String) (parent? : Option String) (isRefCounted : Bool)
  | unregister (name : String)
  | addMember (name : String) (member : RegisteredMember)
  | isSubclass (name ancestor : String)
  deriving DecidableEq, Inhabited

namespace ClassDatabase

/-- The database after a call, and the answer of a call that gives one: whether a class came or
went, or whether a class inherits from another one. -/
def perform (db : ClassDatabase) : RegistryCall → ClassDatabase × Option Bool
  | .register name parent? isRefCounted =>
    (db.register name parent? isRefCounted, some !db.isRegistered name)
  | .unregister name => (db.unregister name, some (db.isRegistered name))
  | .addMember name member => (db.addMember name member, none)
  | .isSubclass name ancestor => (db.remember name ancestor, some (db.isSubclass name ancestor))

/-- The database after some calls. -/
def run (db : ClassDatabase) (calls : List RegistryCall) : ClassDatabase :=
  calls.foldl (fun db call => (db.perform call).1) db

end ClassDatabase

end EngineBindings
