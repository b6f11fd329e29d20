import EngineBindings.Marshal.PropertyInfo
import EngineBindings.Marshal.Setter
import EngineBindings.Property.Members

/-!
# The code of exported members

What is generated for the exported members of a class: statements that register them, functions that
set and get them, and arms that route the names of these functions.
-/

namespace EngineBindings

/-- An exported property of a class. -/
structure ExportedProperty where
  /-- The identifier of the field. -/
  field : String
  type : MarshaledType
  spec : PropertySpec
  deriving Inhabited

/-- What is generated for the members of a class. -/
structure MemberCode where
  /-- Statements in the order of declaration. -/
  registrations : List Code
  /-- The setter and the getter of every property. -/
  accessors : List Code
  /-- The arms for the names of the setter and the getter of every property. -/
  dispatchArms : List Code
  deriving Inhabited

namespace MemberCode

open Code Marshal

/-- A call that registers a member. -/
def builderCall (function : String) (arguments : List Code) : Code :=
  fixed "builder." ++ word function ++ paren (commas arguments) ++ fixed ";"

/-- The statement that registers a member. -/
def registration : PlannedMember ExportedProperty → Code
  | .group name lead => builderCall "add_property_group" [text name, text lead]
  | .subgroup name lead => builderCall "add_property_subgroup" [text name, text lead]
  | .property name accessor p =>
    builderCall "add_property"
      [(PropertyOutline.of name p.type.category p.spec).code p.type.code,
        text (PlannedMember.setterName accessor), text (PlannedMember.getterName accessor)]

/-- The function that sets a property. -/
def setterFunction (className name : String) (p : ExportedProperty) (ident : Code) : Code :=
  fixed "#[doc(hidden)] fn" ++ ident ++
    fixed "(&mut self, args: &::gdbind_runtime::Arguments<'_>)" ++
    brace (setter className name p.field p.type)

/-- The function that gets a property. -/
def getterFunction (p : ExportedProperty) (ident : Code) : Code :=
  fixed "#[doc(hidden)] fn" ++ ident ++ fixed "(&self) -> ::gdbind_runtime::Variant" ++
    brace (getter p.field)

/-- The arm that routes the name of a setter to a function. -/
def setterArm (accessor : String) (ident : Code) : Code :=
  armBlock (text (PlannedMember.setterName accessor))
    (fixed "self." ++ ident ++ fixed "(args); ::gdbind_runtime::CallOutcome::Returned(None)")

/-- The arm that routes the name of a getter to a function. -/
def getterArm (accessor : String) (ident : Code) : Code :=
  arm (text (PlannedMember.getterName accessor))
    (fixed "::gdbind_runtime::CallOutcome::Returned" ++
      paren (fixed "Some" ++ paren (fixed "self." ++ ident ++ fixed "()")))

/-- The functions of a property and the arms that route to them. -/
def propertyCode (className : String) :
    PlannedMember ExportedProperty → Emission (Option (Code × Code))
  | .property name accessor p => do
    let setterIdent ← Naming.identCode ("__set_" ++ accessor)
    let getterIdent ← Naming.identCode ("__get_" ++ accessor)
    return some
      (setterFunction className name p setterIdent ++ getterFunction p getterIdent,
        setterArm accessor setterIdent ++ getterArm accessor getterIdent)
  | _ => return none

/-- What is generated for planned members of a class. -/
def ofPlan (className : String) (plan : List (PlannedMember ExportedProperty)) :
    Emission MemberCode := do
  let properties ← plan.mapM (propertyCode className)
  return {
    registrations := plan.map registration
    accessors := (properties.filterMap id).map Prod.fst
    dispatchArms := (properties.filterMap id).map Prod.snd }

end MemberCode

end EngineBindings
