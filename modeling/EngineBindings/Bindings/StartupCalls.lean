import EngineBindings.Bindings.Assembly
import EngineBindings.Registry.Call

/-!
# Calls of the startup functions

Which calls of the class database the startup functions of a module make, and which ones all modules
make while the engine starts up and shuts down.
-/

namespace EngineBindings

/-- The call that registers a class. -/
def ClassUnit.registration (u : ClassUnit) : RegistryCall :=
  .register u.name (u.parent?.map Prod.fst) u.isRefCounted

/-- The call that removes a class. -/
def ClassUnit.removal (u : ClassUnit) : RegistryCall :=
  .unregister u.name

/-- The identifiers in the first case for a level. -/
def EntryUnit.identsAt (e : EntryUnit) (level : Level) : List String :=
  match e.blocks.find? (fun block => block.level == level) with
  | some block => block.idents
  | none => []

namespace AssembledModule

/-- The class that an identifier stands for.  Code that gives two classes one identifier does not
compile. -/
def classOf? (a : AssembledModule) (ident : String) : Option ClassUnit :=
  match a.classes.filter (fun u => u.ident == ident) with
  | [u] => some u
  | _ => none

/-- What the function that registers the classes of a level calls. -/
def initialize? (a : AssembledModule) (level : Level) : Option (List RegistryCall) :=
  ((a.entry.identsAt level).mapM a.classOf?).map (List.map ClassUnit.registration)

/-- What the function that removes the classes of a level calls. -/
def deinitialize? (a : AssembledModule) (level : Level) : Option (List RegistryCall) :=
  ((a.entry.identsAt level).reverse.mapM a.classOf?).map (List.map ClassUnit.removal)

/-! ## The engine -/

/-- The levels and modules in the order in which the engine comes to them; at each level the modules
have an order of their own. -/
def visits (order : Level → List AssembledModule) : List (Level × AssembledModule) :=
  Level.all.flatMap fun level => (order level).map fun a => (level, a)

/-- All calls while the engine starts up. -/
def startupCalls? (order : Level → List AssembledModule) : Option (List RegistryCall) :=
  ((visits order).mapM fun ((level, a) : Level × AssembledModule) => a.initialize? level).map
    List.flatten

/-- All calls while the engine shuts down, which comes to levels and modules backwards. -/
def shutdownCalls? (order : Level → List AssembledModule) : Option (List RegistryCall) :=
  ((visits order).reverse.mapM fun ((level, a) : Level × AssembledModule) =>
    a.deinitialize? level).map List.flatten

end AssembledModule

end EngineBindings
