import EngineBindings.Marshal.Argument
import EngineBindings.Schema.Basic

/-!
# Types as a module sees them

The host types and categories of the types that the schema declares.  A class that is not available
to the module gives way to its nearest ancestor that is, and in the end to the root class.  An
object may always be absent, except as an element of an array.  An enumeration that the module
cannot name is a plain number.
-/

namespace EngineBindings

/-- Where an enumeration of the engine is generated. -/
inductive EnumOwner where
  /-- At module scope. -/
  | module (flatName : String)
  /-- In the module of a class. -/
  | class (className name : String)
  deriving DecidableEq, Inhabited

/-- The types of a schema as one module sees them. -/
structure TypeMap where
  schema : Schema
  available : List String
  foundational : String

namespace TypeMap

/-- Whether the module may refer to a class. -/
def isAvailable (m : TypeMap) (className : String) : Bool :=
  m.available.contains className

/-- The class that stands for a class in the module. -/
def resolveClass (m : TypeMap) (className : String) : String :=
  if m.isAvailable className then className
  else ((m.schema.ancestors className).find? m.isAvailable).getD m.foundational

/-- Where an enumeration is generated, if the module can name it. -/
def enumOwner? (m : TypeMap) (qualified : String) : Option EnumOwner := do
  let e ← m.schema.findEnum? qualified
  if m.schema.globalEnums.any (fun g => g.name == qualified) then
    some (.module (Naming.flatEnum qualified))
  else
    let (owner, _) ← Schema.splitOwner? qualified
    if (m.schema.builtin? owner).isSome then some (.module (Naming.flatEnum qualified))
    else if m.isAvailable owner then some (.class owner e.name)
    else none

/-- A type without the mark that its values may be absent. -/
def withoutOption : DeclaredType → DeclaredType
  | .optional inner => inner
  | ty => ty

mutual

/-- The type that the module shows for a declared one. -/
def normalize (m : TypeMap) : DeclaredType → DeclaredType
  | .named name [] =>
    if m.schema.containsClass name then .optional (.plain (m.resolveClass name)) else .plain name
  | .named name (arg :: args) =>
    if name = "TypedArray" then .named name (normalizeElements m (arg :: args))
    else .named name (arg :: args)
  | .enumeration name bitfield =>
    if (m.enumOwner? name).isNone then .plain "i64" else .enumeration name bitfield
  | ty => ty

/-- The types that the module shows for elements of arrays. -/
def normalizeElements (m : TypeMap) : List DeclaredType → List DeclaredType
  | [] => []
  | ty :: rest => withoutOption (normalize m ty) :: normalizeElements m rest

end

open Code in
/-- The path of an enumeration. -/
def enumPath : EnumOwner → Emission Code
  | .module flatName => Naming.identCode flatName
  | .class className name => do
    let module ← Naming.identCode (Naming.moduleName className)
    let name ← Naming.identCode name
    return module ++ fixed "::" ++ name

mutual

/-- The code of a type. -/
def code (m : TypeMap) : DeclaredType → Emission Code
  | .named name args =>
    if name = "TypedArray" then do
      return Code.fixed "::gdbind_runtime::TypedArray<" ++ Code.commas (← codes m args) ++
        Code.fixed ">"
    else if name = "Variant" then .ok (Naming.runtime "Variant")
    else if m.schema.containsClass name then Naming.identCode name
    else Naming.hostType name
  | .optional inner => do
    return Code.fixed "::core::option::Option<" ++ (← code m inner) ++ Code.fixed ">"
  | .sequence element => do
    return Code.fixed "::std::vec::Vec<" ++ (← code m element) ++ Code.fixed ">"
  | .enumeration name _ =>
    match m.enumOwner? name with
    | some owner => enumPath owner
    | none => .ok (Code.word "i64")
  | .pointer spelling => .ok (Code.text spelling)

/-- The code of types. -/
def codes (m : TypeMap) : List DeclaredType → Emission (List Code)
  | [] => .ok []
  | ty :: rest => do
    let first ← code m ty
    return first :: (← codes m rest)

end

/-- The host type of a declared type; it fails where the type has no category. -/
def map (m : TypeMap) (ty : DeclaredType) : Except ClassifyError (Emission MarshaledType) :=
  let shown := m.normalize ty
  match TypeCategory.classify m.schema.typeContext shown with
  | .error error => .error error
  | .ok category => .ok ((m.code shown).map fun code => ⟨code, shown, category⟩)

/-- The host type of a type that a member declares. -/
def mapMember (m : TypeMap) (owner member : String) (ty : DeclaredType) : Emission MarshaledType :=
  match m.map ty with
  | .error error => .error (.classify owner member error)
  | .ok type => type

/-- A parameter with its identifier and its host type. -/
structure MappedParam where
  ident : String
  type : MarshaledType
  deriving Inhabited

/-- The host types of parameters. -/
def mapParams (m : TypeMap) (owner member : String) (params : List Param) :
    Emission (List MappedParam) :=
  params.mapM fun p => do
    let type ← m.mapMember owner member p.type
    return { ident := ← Naming.ident p.name, type }

/-- The host type of what a member gives back. -/
def mapReturns (m : TypeMap) (owner member : String) (returns? : Option DeclaredType) :
    Emission (Option MarshaledType) :=
  match returns? with
  | none => .ok none
  | some ty => (m.mapMember owner member ty).map some

open Code Marshal

/-- A parameter as it is declared. -/
def MappedParam.input (p : MappedParam) : Code :=
  word p.ident ++ fixed ":" ++ p.type.code

/-- The declaration of the arguments of a call, from their variants. -/
def arguments (values : List Code) : Code :=
  fixed "let args:" ++
    bracket (Naming.runtime "Variant" ++ fixed ";" ++ word (toString values.length ++ "usize")) ++
    fixed "=" ++ bracket (commas values) ++ fixed ";"

/-- The variants of parameters. -/
def encodedParams (params : List MappedParam) : List Code :=
  params.map fun p => encode (word p.ident)

/-- The type that a function gives back, if any. -/
def output (returns? : Option MarshaledType) : Code :=
  match returns? with
  | none => []
  | some type => fixed "->" ++ type.code

/-- The body of a function that makes a call of the engine and reads what it gives back. -/
def callBody (args call : Code) (returns? : Option MarshaledType) (context : String) : Code :=
  match returns? with
  | none => args ++ call ++ fixed ";"
  | some type => args ++ fixed "let ret =" ++ call ++ fixed ";" ++ decodeReturn type.code context

end TypeMap

end EngineBindings
