import EngineBindings.Declaration.Enumeration
import EngineBindings.Variant.Array

/-!
# Types and values of the host

The types that values of the engine are converted to, and their values.  What a name means is known
from the enumerations and classes of the host.
-/

namespace EngineBindings

/-- A type that values are converted to. -/
inductive HostType where
  | primitive (type : Primitive)
  /-- Any value as it is. -/
  | variant
  | enumeration (e : DerivedEnum)
  /-- A reference to an object of a class. -/
  | object (className : String)
  | typedArray (element : HostType)
  | option (inner : HostType)
  deriving Inhabited

/-- A value of the host. -/
inductive HostValue where
  | bool (value : Bool)
  | integer (value : Int)
  | float32 (bits : UInt32)
  | float64 (bits : UInt64)
  /-- A value of a builtin value type. -/
  | builtin (value : Variant)
  /-- Any value as it is. -/
  | variant (value : Variant)
  /-- The case of an enumeration with a number. -/
  | enumeration (number : Int)
  | object (handle : ObjectHandle)
  | typedArray (array : VariantArray)
  | absent
  | present (value : HostValue)
  deriving Inhabited

/-- The enumerations and classes of a host. -/
structure HostNames where
  enumerations : List DerivedEnum
  /-- The identifiers of classes with their names in the engine. -/
  classes : List (String × String)
  deriving Inhabited

namespace HostType

/-- The type that a bare name means. -/
def ofName (names : HostNames) (name : String) : HostType :=
  match Primitive.ofHostName? name with
  | some type => .primitive type
  | none =>
    if name = "Variant" then .variant
    else
      match names.enumerations.find? (·.ident == name) with
      | some e => .enumeration e
      | none => .object ((names.classes.lookup name).getD name)

/-- The type that a declared type means. -/
def ofDeclared (names : HostNames) : DeclaredType → HostType
  | .optional inner => .option (ofDeclared names inner)
  | .sequence element => .typedArray (ofDeclared names element)
  | .named name [] => ofName names name
  | .named name [element] =>
    if name = "TypedArray" then .typedArray (ofDeclared names element) else ofName names name
  | .named name _ => ofName names name
  | .enumeration name _ => ofName names name
  | .pointer spelling => ofName names spelling

/-- The type that a type of the host language means. -/
def ofSyntax (names : HostNames) (t : TypeSyntax) : HostType :=
  ofDeclared names (.ofSyntax t)

/-- The enumeration of a type. -/
def enumeration? : HostType → Option DerivedEnum
  | enumeration e => some e
  | _ => none

/-- What an array says of elements of a type. -/
def elementTyping : HostType → ArrayTyping
  | primitive type => ⟨type.variantKind, none⟩
  | variant => ⟨.nil, none⟩
  | enumeration _ => ⟨.int, none⟩
  | object className => ⟨.object, some className⟩
  | typedArray _ => ⟨.array, none⟩
  | option inner => elementTyping inner

/-- The value that a primitive type has by itself. -/
def primitiveZero : Primitive → HostValue
  | .bool => .bool false
  | .integer _ => .integer 0
  | .float32 => .float32 0
  | .float64 => .float64 0
  | .builtin kind => .builtin (.zero kind)

/-- The value that a type has by itself, if it has one. -/
def zero? : HostType → Option HostValue
  | primitive type => some (primitiveZero type)
  | variant => some (.variant .nil)
  | typedArray element => some (.typedArray (.empty (some element.elementTyping)))
  | option _ => some .absent
  | enumeration _ => none
  | object _ => none

end HostType

end EngineBindings
