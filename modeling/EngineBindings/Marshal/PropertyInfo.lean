import EngineBindings.Marshal.Argument
import EngineBindings.Property.Outline

/-!
# The code of property records

The code that builds the record of a property, an argument or a result.
-/

namespace EngineBindings.PropertyOutline

open Code Marshal

/-- What an enumeration says of itself. -/
def ofEnumerationType (type : Code) (item : String) : Code :=
  fixed "<" ++ type ++ fixed "as ::gdbind_runtime::GodotEnum>::" ++ word item

/-- The code of the class of a record. -/
def classCode : Option String → Code
  | none => fixed "None"
  | some className => fixed "Some" ++ paren (ownedText className)

/-- The code of a hint. -/
def hintCode (type : Code) : HintChoice → Code
  | .fixed hint => runtimeCase "PropertyHint" hint.caseName
  | .ofEnumeration =>
    fixed "if" ++ ofEnumerationType type "IS_BITFIELD" ++
      brace (runtimeCase "PropertyHint" PropertyHint.flags.caseName) ++ fixed "else" ++
      brace (runtimeCase "PropertyHint" PropertyHint.enumeration.caseName)

/-- The code of the details of a hint. -/
def hintTextCode (type : Code) : HintText → Code
  | .fixed content => ownedText content
  | .ofEnumeration => ofEnumerationType type "hint_string" ++ paren []

/-- The code of flags. -/
def bitsCode (type : String) (bits : UInt32) : Code :=
  Naming.runtime type ++ fixed "::from_bits_retain" ++ paren (word (toString bits.toNat ++ "u32"))

/-- The code of a record of a type. -/
def code (o : PropertyOutline) (type : Code) : Code :=
  Naming.runtime "PropInfo" ++
    brace
      (fixed "name:" ++ ownedText o.name ++
        fixed ", variant_type:" ++ Marshal.kind o.kind ++
        fixed ", class_name:" ++ classCode o.className? ++
        fixed ", hint:" ++ hintCode type o.hint ++
        fixed ", hint_string:" ++ hintTextCode type o.hintText ++
        fixed ", usage:" ++ bitsCode "PropertyUsage" o.usage.bits ++ fixed ",")

end EngineBindings.PropertyOutline
