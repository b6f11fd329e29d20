import EngineBindings.Host.Type

/-!
# Conversion between host values and variants

Decoding takes a variant of just the kind that its type has in the engine; nothing is converted
between kinds.  Integers have to fit, objects have to live and be of the class, and arrays have to
carry the typing of the elements.
-/

namespace EngineBindings

/-- Why a variant cannot be converted. -/
inductive ConversionError where
  | typeMismatch (expected found : VariantKind)
  | outOfRange (value : Int) (target : IntegerType)
  | wrongClass (expected found : String)
  | deadObject
  | unknownEnumValue (value : Int)
  | arrayType (error : ArrayTypeError)
  deriving DecidableEq, Inhabited

/-- What is said of an object that no longer lives. -/
def deadObjectMessage : String :=
  "object is no longer alive"

/-- The text of an error. -/
def ConversionError.message : ConversionError → String
  | .typeMismatch expected found =>
    "expected " ++ expected.engineName ++ ", got " ++ found.engineName
  | .outOfRange value target =>
    "value " ++ toString value ++ " does not fit in " ++ target.name
  | .wrongClass expected found =>
    "expected an instance of `" ++ expected ++ "`, got `" ++ found ++ "`"
  | .deadObject => deadObjectMessage
  | .unknownEnumValue value => "unknown enum value " ++ toString value
  | .arrayType error => error.message

/-- What conversion asks of the objects and classes. -/
structure ObjectView where
  /-- The class of a living object. -/
  classOf? : ObjectHandle → Option String
  /-- Whether a class is another one or inherits from it. -/
  isSubclass : String → String → Bool

/-- A reference to a living object of a class. -/
def ObjectView.reference (view : ObjectView) (className : String) (handle : ObjectHandle) :
    Except ConversionError ObjectHandle :=
  match view.classOf? handle with
  | none => .error .deadObject
  | some found =>
    if view.isSubclass found className then .ok handle else .error (.wrongClass className found)

namespace HostValue

/-- The bits of a number of 32 bits as one of 64 bits. -/
def widen (bits : UInt32) : UInt64 :=
  .ofNat (BinaryFormat.convert .binary32 .binary64 bits.toNat)

/-- The bits of the number of 32 bits nearest to one of 64 bits. -/
def narrow (bits : UInt64) : UInt32 :=
  .ofNat (BinaryFormat.convert .binary64 .binary32 bits.toNat)

/-- The variant of a value. -/
def encode : HostValue → Variant
  | bool value => .bool value
  | integer value => .int (.ofInt value)
  | float32 bits => .float (widen bits)
  | float64 bits => .float bits
  | builtin value => value
  | variant value => value
  | enumeration number => .int (.ofInt number)
  | object handle => .object handle
  | typedArray array => array.toVariant
  | absent => .nil
  | present value => value.encode

/-- The object that a value refers to. -/
def object? : HostValue → Option ObjectHandle
  | object handle => some handle
  | present value => value.object?
  | _ => none

end HostValue

namespace HostType

/-- The value of a primitive type that a variant carries. -/
def decodePrimitive (type : Primitive) (v : Variant) : Except ConversionError HostValue :=
  match type, v with
  | .bool, .bool value => .ok (.bool value)
  | .integer type, .int value =>
    if type.contains value.toInt then .ok (.integer value.toInt)
    else .error (.outOfRange value.toInt type)
  | .float64, .float bits => .ok (.float64 bits)
  | .float32, .float bits => .ok (.float32 (HostValue.narrow bits))
  | .builtin kind, v =>
    if v.kind = kind then .ok (.builtin v) else .error (.typeMismatch kind v.kind)
  | type, v => .error (.typeMismatch type.variantKind v.kind)

/-- The value of a type that a variant carries. -/
def decode (view : ObjectView) : HostType → Variant → Except ConversionError HostValue
  | primitive type, v => decodePrimitive type v
  | variant, v => .ok (.variant v)
  | enumeration e, .int value =>
    match e.ofNumber? value.toInt with
    | some c => .ok (.enumeration c.number)
    | none => .error (.unknownEnumValue value.toInt)
  | enumeration _, v => .error (.typeMismatch .int v.kind)
  | object className, .object handle => (view.reference className handle).map .object
  | object _, v => .error (.typeMismatch .object v.kind)
  | typedArray element, .array items typing? =>
    match (VariantArray.mk items typing?).withTyping element.elementTyping with
    | .ok array => .ok (.typedArray array)
    | .error e => .error (.arrayType e)
  | typedArray _, v => .error (.typeMismatch .array v.kind)
  | option _, .nil => .ok .absent
  | option inner, v => (decode view inner v).map .present

end HostType

end EngineBindings
