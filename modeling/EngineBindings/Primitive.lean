import EngineBindings.Variant.Kind

/-!
# Primitive types

The types whose values convert to and from variants without further knowledge: truth values,
integers of eight widths, two floating-point formats, and the engine's builtin value types.
-/

namespace EngineBindings

/-- An integer type of the host language. -/
inductive IntegerType where
  | i8
  | i16
  | i32
  | i64
  | u8
  | u16
  | u32
  | u64
  deriving DecidableEq, Inhabited

namespace IntegerType

/-- All integer types. -/
def all : List IntegerType :=
  [i8, i16, i32, i64, u8, u16, u32, u64]

/-- The name of an integer type. -/
def name : IntegerType → String
  | i8 => "i8"
  | i16 => "i16"
  | i32 => "i32"
  | i64 => "i64"
  | u8 => "u8"
  | u16 => "u16"
  | u32 => "u32"
  | u64 => "u64"

/-- The number of bits of an integer type. -/
def width : IntegerType → Nat
  | i8 | u8 => 8
  | i16 | u16 => 16
  | i32 | u32 => 32
  | i64 | u64 => 64

/-- Whether an integer type has negative values. -/
def isSigned : IntegerType → Bool
  | i8 | i16 | i32 | i64 => true
  | u8 | u16 | u32 | u64 => false

/-- The least value of an integer type. -/
def least (t : IntegerType) : Int :=
  if t.isSigned then -(Nat.pow 2 (t.width - 1) : Int) else 0

/-- The greatest value of an integer type. -/
def greatest (t : IntegerType) : Int :=
  if t.isSigned then (Nat.pow 2 (t.width - 1) : Int) - 1 else (Nat.pow 2 t.width : Int) - 1

/-- Whether a number is a value of an integer type. -/
def contains (t : IntegerType) (n : Int) : Bool :=
  t.least ≤ n && n ≤ t.greatest

/-- A number cut to the bits of an integer type. -/
def wrap (t : IntegerType) (n : Int) : Int :=
  if t.isSigned then n.bmod (Nat.pow 2 t.width) else n % (Nat.pow 2 t.width : Int)

/-- The integer type with a name. -/
def ofName? (name : String) : Option IntegerType :=
  all.find? (fun t => t.name == name)

end IntegerType

/-- A type whose values convert to and from variants without further knowledge. -/
inductive Primitive where
  | bool
  | integer (type : IntegerType)
  | float32
  | float64
  /-- A builtin value type of the engine. -/
  | builtin (kind : VariantKind)
  deriving DecidableEq, Inhabited

namespace Primitive

/-- The kind of variant that carries values of a primitive type. -/
def variantKind : Primitive → VariantKind
  | bool => .bool
  | integer _ => .int
  | float32 => .float
  | float64 => .float
  | builtin kind => kind

/-- The host name of a primitive type. -/
def hostName : Primitive → String
  | bool => "bool"
  | integer type => type.name
  | float32 => "f32"
  | float64 => "f64"
  | builtin kind => kind.hostName

/-- The primitive type with a host name; neither the empty value nor objects are primitive. -/
def ofHostName? (name : String) : Option Primitive :=
  match name with
  | "bool" => some bool
  | "f32" => some float32
  | "f64" => some float64
  | _ =>
    match IntegerType.ofName? name with
    | some type => some (integer type)
    | none =>
      match VariantKind.ofHostName? name with
      | some .nil | some .object | none => none
      | some kind => some (builtin kind)

end Primitive

end EngineBindings
