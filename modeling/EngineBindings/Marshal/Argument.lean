import EngineBindings.Bindings.Naming
import EngineBindings.TypeCategory

/-!
# Marshaled arguments

A host type with the category that says how its values travel, and the decoders by which values
are read from the arguments of a call.
-/

namespace EngineBindings

/-- A host type as it is written, with its shape and its category. -/
structure MarshaledType where
  code : Code
  declared : DeclaredType
  category : TypeCategory
  deriving Inhabited

/-- How a value is read from an argument. -/
inductive ArgumentDecoder where
  /-- By the conversion of its own type. -/
  | value
  /-- As an array of one element type. -/
  | typedArray
  /-- As the number of an enumeration.  A lenient reader takes an unknown number for no value, a
  strict one for an error. -/
  | enumeration (width : EnumWidth) (lenient : Bool)
  deriving DecidableEq, Inhabited

namespace ArgumentDecoder

/-- The decoder for a category. -/
def ofCategory (category : TypeCategory) (lenient : Bool) : ArgumentDecoder :=
  match category with
  | .enumeration width => .enumeration width lenient
  | .collection _ => .typedArray
  | _ => .value

/-- The name of a decoder in generated code. -/
def name : ArgumentDecoder → String
  | value => "value"
  | typedArray => "typed_array"
  | enumeration .bits32 false => "enum32"
  | enumeration .bits64 false => "enum64"
  | enumeration .bits32 true => "try_enum32"
  | enumeration .bits64 true => "try_enum64"

/-- The code that reads an argument by its index. -/
def code (d : ArgumentDecoder) (index : Nat) : Code :=
  Code.fixed "args." ++ Code.word d.name ++ Code.paren (Code.word (toString index ++ "usize"))

end ArgumentDecoder

namespace Marshal

open Code

/-- An attribute with documentation. -/
def doc (content : String) : Code :=
  fixed "#" ++ bracket (fixed "doc =" ++ text content)

/-- A number with a suffix. -/
def numeral (n : Int) (suffix : String) : Code :=
  (if n < 0 then [.mark '-'] else []) ++ word (toString n.natAbs ++ suffix)

/-- An owned text. -/
def ownedText (s : String) : Code :=
  fixed "::std::string::String::from" ++ paren (text s)

/-- A name in the namespace of a type of the runtime library. -/
def runtimeCase (type name : String) : Code :=
  Naming.runtime type ++ fixed "::" ++ word name

/-- A kind of variant. -/
def kind (k : VariantKind) : Code :=
  runtimeCase "VariantType" k.caseName

/-- A startup level. -/
def level (l : Level) : Code :=
  runtimeCase "InitializationLevel" l.caseName

/-- The handle of an object reference. -/
def handle (reference : Code) : Code :=
  fixed "::gdbind_runtime::ObjectRef::handle" ++ paren reference

/-- The variant of a value. -/
def encode (value : Code) : Code :=
  fixed "::gdbind_runtime::ToVariant::to_variant" ++ paren (.mark '&' :: value)

/-- The value of the variant that a call of the engine gave back. -/
def decodeReturn (type : Code) (context : String) : Code :=
  fixed "::gdbind_runtime::decode_return::<" ++ type ++ fixed ">" ++
    paren (fixed "ret," ++ text context)

/-- A report of what went wrong; `message` is what is put together. -/
def report (message : Code) : Code :=
  fixed "::gdbind_runtime::print_err" ++ paren (fixed "format!" ++ paren message)

end Marshal

end EngineBindings
