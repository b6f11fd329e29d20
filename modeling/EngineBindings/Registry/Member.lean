import EngineBindings.Property.Outline

/-!
# Registered members

What a class tells the engine of its members, in the order of declaration.
-/

namespace EngineBindings

/-- The record of a method. -/
structure MethodInfo where
  name : String
  arguments : List PropertyInfo
  /-- What the method gives back, if anything. -/
  returns? : Option PropertyInfo
  flags : MethodFlags
  deriving DecidableEq, Inhabited

/-- The record of a signal. -/
structure SignalInfo where
  name : String
  arguments : List PropertyInfo
  deriving DecidableEq, Inhabited

/-- A member that was recorded for a class. -/
inductive RegisteredMember where
  | group (name lead : String)
  | subgroup (name lead : String)
  | property (info : PropertyInfo) (setter getter : String)
  | method (info : MethodInfo)
  | signal (info : SignalInfo)
  deriving DecidableEq, Inhabited

end EngineBindings
