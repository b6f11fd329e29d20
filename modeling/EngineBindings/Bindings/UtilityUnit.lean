import EngineBindings.Bindings.TypeMap

/-!
# Global functions in generated code

A global function of the engine becomes a free function.  One that takes any number of arguments
takes the rest of them as a slice, after those it names.
-/

namespace EngineBindings

/-- What is generated for a global function. -/
structure UtilityUnit where
  name : String
  category : String
  ident : String
  params : List TypeMap.MappedParam
  returns? : Option MarshaledType
  isVararg : Bool
  deriving Inhabited

namespace UtilityUnit

/-- Where errors say that a global function is declared. -/
def ownerName : String :=
  "@GlobalScope"

/-- What is generated for a global function; nothing if it uses raw pointers. -/
def ofFunction (m : TypeMap) (f : UtilityFunction) : Emission (Option UtilityUnit) := do
  if f.usesPointers then return none
  let params ← m.mapParams ownerName f.name f.params
  let returns? ← m.mapReturns ownerName f.name f.returns?
  let ident ← Naming.ident f.name
  return some { name := f.name, category := f.category, ident, params, returns?,
                isVararg := f.isVararg }

/-- What is generated for global functions. -/
def ofFunctions (m : TypeMap) (functions : List UtilityFunction) : Emission (List UtilityUnit) := do
  let units ← functions.mapM (ofFunction m)
  return units.filterMap id

open Code Marshal TypeMap

/-- The declaration of the arguments of a call that takes any number of them. -/
def openArguments (values : List Code) : Code :=
  fixed "let mut args: ::std::vec::Vec<::gdbind_runtime::Variant> = ::std::vec!" ++
    bracket (commas values) ++ fixed "; args.extend_from_slice(rest);"

/-- The code of a global function. -/
def code (u : UtilityUnit) : Code :=
  let rest := if u.isVararg then [fixed "rest: &[::gdbind_runtime::Variant]"] else []
  let args :=
    if u.isVararg then openArguments (encodedParams u.params)
    else arguments (encodedParams u.params)
  let call :=
    fixed "::gdbind_runtime::backend::call_utility" ++ paren (text u.name ++ fixed ", &args")
  doc (" `" ++ u.name ++ "` (" ++ u.category ++ ")") ++
    fixed "pub fn" ++ word u.ident ++ paren (commas (u.params.map MappedParam.input ++ rest)) ++
    output u.returns? ++ brace (callBody args call u.returns? u.name)

/-- The code of a module of global functions. -/
def moduleCode (units : List UtilityUnit) : Code :=
  fixed "use super::*;" ++ units.flatMap code

end UtilityUnit

end EngineBindings
