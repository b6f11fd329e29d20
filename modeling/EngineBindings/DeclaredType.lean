import EngineBindings.Text.Blank
import EngineBindings.Text.Pieces
import EngineBindings.Variant.Kind

/-!
# Declared types

The shape of a type as a declaration writes it, in the engine's reflection data or in a field of a
host structure.  A shape has no meaning of its own: `TypeCategory` says how values of it travel.

`ofEngine` reads the type strings of the reflection data.
-/

namespace EngineBindings

/-- The shape of a type in a declaration. -/
inductive DeclaredType where
  /-- A name, with generic arguments if there are any. -/
  | named (name : String) (args : List DeclaredType)
  /-- A type whose values may be absent. -/
  | optional (inner : DeclaredType)
  /-- A plain sequence of the host language. -/
  | sequence (element : DeclaredType)
  /-- A type that the declaration itself marks as an enumeration. -/
  | enumeration (name : String) (bitfield : Bool)
  /-- A raw pointer of the engine's native interface. -/
  | pointer (spelling : String)
  deriving Inhabited, BEq

namespace DeclaredType

/-- A bare name. -/
def plain (name : String) : DeclaredType :=
  .named name []

/-- The engine's typed array over an element type. -/
def typedArray (element : DeclaredType) : DeclaredType :=
  .named "TypedArray" [element]

/-- The name of a named type or an enumeration. -/
def name? : DeclaredType → Option String
  | .named name _ => some name
  | .enumeration name _ => some name
  | _ => none

mutual

/-- Whether a raw pointer stands anywhere in a type. -/
def containsPointer : DeclaredType → Bool
  | .pointer _ => true
  | .named _ args => anyContainsPointer args
  | .optional inner => containsPointer inner
  | .sequence element => containsPointer element
  | .enumeration _ _ => false

/-- Whether a raw pointer stands anywhere in a list of types. -/
def anyContainsPointer : List DeclaredType → Bool
  | [] => false
  | ty :: rest => containsPointer ty || anyContainsPointer rest

end

mutual

/-- The text of a type. -/
def text : DeclaredType → String
  | .named name [] => name
  | .named name (arg :: args) => name ++ "<" ++ arg.text ++ textOfMore args ++ ">"
  | .optional inner => "Option<" ++ inner.text ++ ">"
  | .sequence element => "Vec<" ++ element.text ++ ">"
  | .enumeration name _ => name
  | .pointer spelling => spelling

/-- The text of the arguments after the first one. -/
def textOfMore : List DeclaredType → String
  | [] => ""
  | arg :: args => ", " ++ arg.text ++ textOfMore args

end

/-! ## Type strings of the engine -/

/-- The integer type for a width qualifier of the engine. -/
def integerName (width : Option String) : String :=
  match width with
  | some "int8" => "i8"
  | some "int16" => "i16"
  | some "int32" => "i32"
  | some "uint8" => "u8"
  | some "uint16" => "u16"
  | some "uint32" => "u32"
  | some "char32" => "u32"
  | some "uint64" => "u64"
  | _ => "i64"

/-- The host name for an engine name: builtin kinds are renamed, classes keep their names. -/
def hostNameOf (engineName : String) : String :=
  match VariantKind.ofEngineName? engineName with
  | some .object | some .nil | none => engineName
  | some kind => kind.hostName

/-- Reads a type string that neither points nor marks an enumeration or a collection.  Of several
classes separated by commas the first one counts. -/
def ofEngineName (ty : String) (width : Option String) : DeclaredType :=
  match ty with
  | "int" => plain (integerName width)
  | "float" => plain (if width = some "float" then "f32" else "f64")
  | "Variant" => plain "Variant"
  | _ => plain (hostNameOf (Text.trim ((Text.splitAt ',' ty).headD ty)))

/-- The text after the last colon. -/
def afterLastColon (s : String) : String :=
  (Text.splitAt ':' s).getLastD s

/-- Reads a type string of the reflection data; `width` is the qualifier that the engine adds to
`int` and `float`.  An element of a typed array may carry a hint that ends in a colon, so it is
what follows the last one. -/
def ofEngine (ty : String) (width : Option String) : DeclaredType :=
  let ty := Text.trim ty
  if ty.toList.contains '*' then .pointer ty
  else if let some name := Text.stripLead? "enum::" ty then .enumeration name false
  else if let some name := Text.stripLead? "bitfield::" ty then .enumeration name true
  else if let some element := Text.stripLead? "typedarray::" ty then
    typedArray (ofEngineName (Text.trim (afterLastColon element)) none)
  else if (Text.stripLead? "typeddictionary::" ty).isSome then plain "Dictionary"
  else ofEngineName ty width

end DeclaredType

end EngineBindings
