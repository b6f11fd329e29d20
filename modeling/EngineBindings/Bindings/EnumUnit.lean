import EngineBindings.Distinct
import EngineBindings.Marshal.Argument
import EngineBindings.Schema.Descriptor

/-!
# Enumerations in generated code

An enumeration of the engine becomes a type around a number, with a constant for each name.  It is
no closed type: the engine may hand back numbers of later versions, and bit fields combine freely.
-/

namespace EngineBindings

/-- What is generated for an enumeration. -/
structure EnumUnit where
  /-- The identifier of the type. -/
  ident : String
  isBitfield : Bool
  /-- The identifiers of the constants with their numbers. -/
  constants : List (String × Int)
  /-- The numbers that have a name. -/
  known : List Int
  /-- The names and numbers as the editor is shown them. -/
  hint : String
  deriving Inhabited

namespace EnumUnit

/-- The constants of an enumeration by name, the first of each name. -/
def namedConstants (enumName : String) (seen : List String) :
    List (String × Int) → List (String × Int)
  | [] => []
  | (name, value) :: rest =>
    let constant := Naming.enumConstant enumName name
    if seen.contains constant then namedConstants enumName seen rest
    else (constant, value) :: namedConstants enumName (constant :: seen) rest

/-- What the editor is shown of the values of an enumeration. -/
def hintOf (values : List (String × Int)) : String :=
  Text.join "," (values.map fun (name, value) => name ++ ":" ++ toString value)

/-- What is generated for an enumeration under a type name. -/
def ofDescriptor (typeName : String) (e : Enumeration) : Emission EnumUnit := do
  let ident ← Naming.ident typeName
  let constants ← (namedConstants e.name [] e.values).mapM fun (name, value) => do
    return (← Naming.ident name, value)
  return {
    ident
    isBitfield := e.isBitfield
    constants
    known := firstOccurrences (e.values.map Prod.snd)
    hint := hintOf e.values }

open Code Marshal

/-- Numbers of which one has to match. -/
def alternatives : List Int → Code
  | [] => []
  | [n] => numeral n "i64"
  | n :: rest => numeral n "i64" ++ .mark '|' :: alternatives rest

/-- The check that a number is one of the enumeration. -/
def fromRaw (u : EnumUnit) : Code :=
  if u.isBitfield then fixed "Some(Self(raw))"
  else if u.known.isEmpty then fixed "None"
  else
    fixed "match raw" ++
      brace
        (arm (alternatives u.known) (fixed "Some(Self(raw))") ++ arm (fixed "_") (fixed "None"))

/-- The constant of a name. -/
def constantItem (u : EnumUnit) (constant : String × Int) : Code :=
  fixed "pub const" ++ word constant.1 ++ fixed ":" ++ word u.ident ++ fixed "=" ++ word u.ident ++
    paren (numeral constant.2 "i64") ++ fixed ";"

/-- The operators of a bit field. -/
def bitOperators (u : EnumUnit) : Code :=
  fixed "impl ::core::ops::BitOr for" ++ word u.ident ++
    brace
      (fixed "type Output = Self; fn bitor(self, rhs: Self) -> Self" ++
        brace (fixed "Self(self.0 | rhs.0)")) ++
    fixed "impl ::core::ops::BitOrAssign for" ++ word u.ident ++
    brace (fixed "fn bitor_assign(&mut self, rhs: Self)" ++ brace (fixed "self.0 |= rhs.0;"))

/-- The code of an enumeration. -/
def code (u : EnumUnit) : Code :=
  fixed "#[derive(Debug, Clone, Copy, PartialEq, Eq, Hash, Default)] pub struct" ++ word u.ident ++
    fixed "(pub i64);" ++
    fixed "impl" ++ word u.ident ++ brace (u.constants.flatMap u.constantItem) ++
    (if u.isBitfield then u.bitOperators else []) ++
    fixed "impl ::gdbind_runtime::GodotEnum for" ++ word u.ident ++
    brace
      (fixed "const WIDTH: u32 = 64; const IS_BITFIELD: bool =" ++ word (toString u.isBitfield) ++
        fixed "; fn from_raw(raw: i64) -> Option<Self>" ++ brace u.fromRaw ++
        fixed "fn to_raw(self) -> i64" ++ brace (fixed "self.0") ++
        fixed "fn hint_string() -> ::std::string::String" ++ brace (ownedText u.hint)) ++
    fixed "impl ::gdbind_runtime::ToVariant for" ++ word u.ident ++
    brace
      (fixed "fn to_variant(&self) -> ::gdbind_runtime::Variant" ++
        brace (fixed "::gdbind_runtime::Variant::Int(self.0)")) ++
    fixed "impl ::gdbind_runtime::FromVariant for" ++ word u.ident ++
    brace
      (fixed "fn from_variant(variant: &::gdbind_runtime::Variant,) ->" ++
        fixed "Result<Self, ::gdbind_runtime::VariantConversionError>" ++
        brace
          (fixed "match variant" ++
            brace
              (armBraced (fixed "::gdbind_runtime::Variant::Int(raw)")
                  (fixed "<Self as ::gdbind_runtime::GodotEnum>::from_raw(*raw).ok_or" ++
                    paren
                      (fixed "::gdbind_runtime::VariantConversionError::UnknownEnumValue(*raw)")) ++
                arm (fixed "other")
                  (fixed "Err" ++
                    paren
                      (fixed "::gdbind_runtime::VariantConversionError::mismatch" ++
                        paren (kind .int ++ fixed ", other")))))) ++
    fixed "impl ::gdbind_runtime::ArrayElement for" ++ word u.ident ++
    brace (fixed "fn element_type() -> ::gdbind_runtime::VariantType" ++ brace (kind .int))

end EnumUnit

end EngineBindings
