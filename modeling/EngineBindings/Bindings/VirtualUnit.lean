import EngineBindings.Bindings.TypeMap
import EngineBindings.Marshal.Proxy

/-!
# Overridable methods in generated code

The overridable methods of a class become a trait, and a function routes the engine's virtual calls
to it.  A call that the trait does not know goes on to the nearest ancestor with such a trait.
-/

namespace EngineBindings

/-- Whether a method can be given a typed signature. -/
def Method.isBindable (m : Method) : Bool :=
  !m.isVararg && !m.usesPointers

/-- The methods of a class that can be overridden. -/
def ClassDescriptor.virtuals (c : ClassDescriptor) : List Method :=
  c.methods.filter fun m => m.scope == .virtual && m.isBindable

/-- An overridable method of a class. -/
structure VirtualMethod where
  /-- The engine's name of the method. -/
  engineName : String
  /-- The identifier of the method in the trait. -/
  ident : String
  isConst : Bool
  params : List TypeMap.MappedParam
  returns? : Option MarshaledType
  deriving Inhabited

/-- The trait of a class with overridable methods, and its dispatcher. -/
structure VirtualUnit where
  className : String
  /-- The identifiers of the trait and of the dispatcher. -/
  traitIdent : String
  dispatcherIdent : String
  /-- The class that calls go on to, with the path of its module and the identifiers there. -/
  parent? : Option (String × String × String × String)
  methods : List VirtualMethod
  deriving Inhabited

namespace VirtualUnit

/-- The nearest ancestor that is available and has overridable methods. -/
def parentClass? (m : TypeMap) (className : String) : Option String :=
  (m.schema.ancestors className).find? fun ancestor =>
    m.isAvailable ancestor &&
      ((m.schema.class? ancestor).map fun c => !c.virtuals.isEmpty).getD false

/-- The parent with the identifiers of its module, trait and dispatcher. -/
def parentIdents (parent : String) : Emission (String × String × String × String) := do
  let module ← Naming.ident (Naming.moduleName parent)
  let traitIdent ← Naming.ident (Naming.virtualTrait parent)
  let dispatcher ← Naming.ident (Naming.virtualDispatcher parent)
  return (parent, module, traitIdent, dispatcher)

/-- An overridable method of a class. -/
def methodOf (m : TypeMap) (className : String) (method : Method) : Emission VirtualMethod := do
  let params ← m.mapParams className method.name method.params
  let returns? ← m.mapReturns className method.name method.returns?
  let ident ← Naming.ident (Naming.virtualMethod method.name)
  return { engineName := method.name, ident, isConst := method.isConst, params, returns? }

/-- The trait of a class, if it has overridable methods. -/
def ofClass (m : TypeMap) (c : ClassDescriptor) : Emission (Option VirtualUnit) := do
  if c.virtuals.isEmpty then return none
  let traitIdent ← Naming.ident (Naming.virtualTrait c.name)
  let dispatcherIdent ← Naming.ident (Naming.virtualDispatcher c.name)
  let parent? ← match parentClass? m c.name with
    | none => pure none
    | some parent => some <$> parentIdents parent
  let methods ← c.virtuals.mapM (methodOf m c.name)
  return some { className := c.name, traitIdent, dispatcherIdent, parent?, methods }

open Code Marshal

/-- An identifier behind an underscore, without the mark of an escaped one. -/
def unused (ident : String) : String :=
  "_" ++ (Text.stripLead? "r#" ident).getD ident

/-- The declaration of a method with its default. -/
def declaration (method : VirtualMethod) : Code :=
  let receiver := if method.isConst then fixed "&self" else fixed "&mut self"
  let inputs := method.params.map fun p => word (unused p.ident) ++ fixed ":" ++ p.type.code
  fixed "fn" ++ word method.ident ++ paren (commas (receiver :: inputs)) ++
    TypeMap.output method.returns? ++
    brace (if method.returns?.isSome then fixed "::core::default::Default::default()" else [])

/-- The arm of the dispatcher for a method. -/
def arm (u : VirtualUnit) (method : VirtualMethod) : Code :=
  let proxy : MethodProxy :=
    { context := u.className ++ "." ++ method.engineName
      params := method.params.map fun p => p.type
      returns := method.returns?.isSome }
  Code.arm (text method.engineName)
    (fixed "::gdbind_runtime::CallOutcome::Returned" ++
      paren (proxy.code fun locals =>
        word u.traitIdent ++ fixed "::" ++ word method.ident ++
          paren (commas (word "instance" :: locals))))

/-- What becomes of a call that no method takes. -/
def fallback (u : VirtualUnit) : Code :=
  match u.parent? with
  | none => runtimeCase "CallOutcome" "NotFound"
  | some (_, module, _, dispatcher) =>
    word module ++ fixed "::" ++ word dispatcher ++ fixed "(instance, method, args)"

/-- The trait that a trait builds on. -/
def supertrait (u : VirtualUnit) : Code :=
  match u.parent? with
  | none => []
  | some (_, module, traitIdent, _) => fixed ":" ++ word module ++ fixed "::" ++ word traitIdent

/-- The code of a trait and its dispatcher. -/
def code (u : VirtualUnit) : Code :=
  doc (" Overridable methods of `" ++ u.className ++ "`") ++
    fixed "pub trait" ++ word u.traitIdent ++ u.supertrait ++
    brace (u.methods.flatMap declaration) ++
    doc " Route an engine virtual call to the matching override" ++
    fixed "pub fn" ++ word u.dispatcherIdent ++ fixed "<T:" ++ word u.traitIdent ++ fixed ">" ++
    paren
      (fixed "instance: &mut T, method: &str, args: &::gdbind_runtime::Arguments<'_>,") ++
    fixed "-> ::gdbind_runtime::CallOutcome" ++
    brace
      (fixed "match method" ++
        brace (u.methods.flatMap u.arm ++ Code.arm (fixed "_") u.fallback))

end VirtualUnit

end EngineBindings
