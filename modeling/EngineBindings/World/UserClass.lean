import EngineBindings.Declaration.Methods
import EngineBindings.Host.Arguments
import EngineBindings.Registry.Extension

/-!
# Classes of the host at work

A class of the host is its declarations with what they leave open: what its names mean, what its
methods do, and which engine class it extends.
-/

namespace EngineBindings

/-- A class of the engine. -/
structure EngineClass where
  name : String
  parent? : Option String
  isRefCounted : Bool
  deriving DecidableEq, Inhabited

/-- The fields of an instance with their values. -/
abbrev Fields := List (String × HostValue)

namespace Fields

/-- The value of a field. -/
def value (fields : Fields) (field : String) : HostValue :=
  (fields.lookup field).getD .absent

/-- Puts a value into a field. -/
def set (fields : Fields) (field : String) (value : HostValue) : Fields :=
  fields.map fun (name, old) => if name = field then (name, value) else (name, old)

end Fields

/-- What a call by name came to. -/
inductive CallOutcome where
  /-- The member exists; it gave back a value, or nothing. -/
  | returned (value? : Option Variant)
  | notFound
  deriving Inhabited

/-- What a method does with the fields and its arguments, and what it gives back. -/
abbrev MethodBody := Fields → List HostValue → Fields × Option HostValue

/-- A class of the host. -/
structure UserClass where
  exported : ExportedClass
  methods : ExposedMethods
  /-- The engine class that is extended. -/
  base : EngineClass
  names : HostNames
  /-- What the method with an identifier does. -/
  body : String → MethodBody
  /-- What becomes of calls that no member answers. -/
  virtuals : ObjectHandle → String → List Variant → CallOutcome
  deriving Inhabited

namespace UserClass

/-- The meaning of a type. -/
def typeOf (c : UserClass) (type : MarshaledType) : HostType :=
  .ofDeclared c.names type.declared

/-- The record of a value of a class. -/
def info (c : UserClass) (name : String) (type : MarshaledType) (spec : PropertySpec) :
    PropertyInfo :=
  let outline := PropertyOutline.of name type.category spec
  match (c.typeOf type).enumeration? with
  | some e => outline.info e.isBitfield e.hint
  | none => outline.info false ""

/-- The record of a parameter. -/
def paramInfo (c : UserClass) (p : ExposedParam) : PropertyInfo :=
  c.info (Naming.unescaped p.ident) p.type .usual

/-- The record of a property or a group. -/
def registeredProperty (c : UserClass) : PlannedMember ExportedProperty → RegisteredMember
  | .group name lead => .group name lead
  | .subgroup name lead => .subgroup name lead
  | .property name accessor p =>
    .property (c.info name p.type p.spec) (PlannedMember.setterName accessor)
      (PlannedMember.getterName accessor)

/-- The record of an exposed method. -/
def registeredMethod (c : UserClass) : ExposedMember → RegisteredMember
  | .callable m =>
    .method ⟨m.ident, m.params.map c.paramInfo, m.returns?.map fun type => c.info "" type .usual,
      m.flags⟩
  | .signal s => .signal ⟨s.ident, s.params.map c.paramInfo⟩

/-- The records of all members: groups and properties first, then methods and signals. -/
def registeredMembers (c : UserClass) : List RegisteredMember :=
  c.exported.plan.map c.registeredProperty ++ c.methods.members.map c.registeredMethod

/-- All that is needed to register a class. -/
def registration (c : UserClass) : ClassRegistration where
  name := c.exported.name
  parent? := some c.base.name
  isRefCounted := c.base.isRefCounted
  level := c.exported.level
  members := c.registeredMembers

/-- What a name of an accessor does to a property. -/
inductive Access where
  | set
  | get
  deriving DecidableEq, Inhabited

/-- The property whose accessor has a name. -/
def accessOf? (name : String) :
    PlannedMember ExportedProperty → Option (Access × String × ExportedProperty)
  | .property property accessor p =>
    if name = PlannedMember.setterName accessor then some (.set, property, p)
    else if name = PlannedMember.getterName accessor then some (.get, property, p)
    else none
  | _ => none

/-- The first property whose accessor has a name. -/
def access? (c : UserClass) (name : String) : Option (Access × String × ExportedProperty) :=
  c.exported.plan.findSome? (accessOf? name)

/-- The first callable of a name. -/
def callable? (c : UserClass) (name : String) : Option Callable :=
  c.methods.members.findSome? fun
    | .callable m => if m.ident = name then some m else none
    | .signal _ => none

/-- The first signal of a name. -/
def signal? (c : UserClass) (name : String) : Option ExposedSignal :=
  c.methods.members.findSome? fun
    | .signal s => if s.ident = name then some s else none
    | .callable _ => none

end UserClass

/-- An instance of a class of the host. -/
structure Instance where
  userClass : UserClass
  fields : Fields
  deriving Inhabited

end EngineBindings
