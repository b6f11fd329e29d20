import EngineBindings.Declaration.Class

/-!
# Declarations of enumerations

A choice of cases without fields becomes an enumeration of the engine, carried by the numbers of its
cases.  A case without a number has the one after the case before it, or zero if it is the first.
-/

namespace EngineBindings

/-- The fields of a case. -/
inductive CasePayload where
  | none
  | named
  | unnamed (count : Nat)
  deriving DecidableEq, Inhabited

namespace CasePayload

open CodeReader Lexeme

/-- Reads the fields that follow the name of a case. -/
def reader (g : Grammar) : CodeReader CasePayload := do
  let c ← ahead
  if hasGroup .brace c then
    let _ ← g.namedFields
    return .named
  else if hasGroup .paren c then
    let fields ← within .paren (separated List.isEmpty g.unnamedField)
    return .unnamed fields.length
  else return .none

/-- The fields that a text after the name of a case has. -/
def ofText? : String → Option CasePayload :=
  readText? reader

end CasePayload

/-- A case of an enumeration. -/
structure CaseDeclaration where
  ident : String
  number? : Option Int
  payload : CasePayload
  attributes : List Attribute
  deriving Inhabited

/-- The declaration of an enumeration. -/
structure EnumDeclaration where
  ident : String
  attributes : List Attribute
  /-- The cases, or nothing if a structure is declared. -/
  cases? : Option (List CaseDeclaration)
  deriving Inhabited

/-- A case of an enumeration of the host. -/
structure DerivedCase where
  ident : String
  /-- The name that the editor shows. -/
  label : String
  /-- The number that carries the case, which has 64 bits. -/
  number : Int
  deriving DecidableEq, Inhabited

/-- An enumeration that the host adds to the engine. -/
structure DerivedEnum where
  ident : String
  width : EnumWidth
  isBitfield : Bool
  cases : List DerivedCase
  deriving DecidableEq, Inhabited

namespace EnumDeclaration

open AttributeValue AttributeItem Declaration

/-- The attribute of enumerations and their cases. -/
def attributeName : String :=
  "godot_enum"

/-- The keys of the attribute of an enumeration. -/
def keys : Keys :=
  [keyed "bitfield" readTruth]

/-- The keys of the attribute of a case. -/
def caseKeys : Keys :=
  [keyed "rename" readText]

/-- The items of the attributes of an enumeration. -/
def items (d : EnumDeclaration) : List AttributeItem :=
  Attribute.itemsOf attributeName d.attributes

/-- The items of the attributes of a case. -/
def caseItems (c : CaseDeclaration) : List AttributeItem :=
  Attribute.itemsOf attributeName c.attributes

/-- What is wrong with the fields of a case. -/
def payloadErrors (c : CaseDeclaration) : List DeclarationError :=
  match c.payload with
  | .none => []
  | .named => [.shape "named fields" "no fields"]
  | .unnamed count => [.shape (unnamedShape count) "no fields"]

/-- What is wrong with the shape of a declaration. -/
def shapeErrors (d : EnumDeclaration) : List DeclarationError :=
  match d.cases? with
  | none => [.shape "struct" "enum with no fields"]
  | some cases => cases.flatMap payloadErrors

/-- The attribute of a representation; a text that is no name represents nothing. -/
def representation (s : String) : Attribute :=
  ⟨"repr", some ((Lexeme.readText? (fun _ => CodeReader.ident) s).map
    (⟨·, AttributeValue.word⟩)).toList⟩

/-- The width that a representation means. -/
def widthOf? (representation : String) : Option EnumWidth :=
  if ["i8", "i16", "i32", "u8", "u16", "u32"].contains representation then some .bits32
  else if ["i64", "u64", "isize", "usize"].contains representation then some .bits64
  else none

/-- The representation that an attribute names alone. -/
def representation? (a : Attribute) : Option String :=
  match a.content? with
  | some [⟨name, .word⟩] => if a.name = "repr" then some name else none
  | _ => none

/-- The width of an enumeration: 64 bits, unless it is represented by fewer. -/
def width (d : EnumDeclaration) : EnumWidth :=
  ((d.attributes.filterMap representation?).findSome? widthOf?).getD .bits64

/-- The cases with their numbers in 64 bits, from the number that the first one has by itself. -/
def numbered : Int → List CaseDeclaration → List DerivedCase
  | _, [] => []
  | next, c :: rest =>
    let number := c.number?.getD next
    ⟨c.ident, (value? "rename" readText (caseItems c)).getD c.ident, IntegerType.i64.wrap number⟩ ::
      numbered (number + 1) rest

end EnumDeclaration

namespace DerivedEnum

open AttributeValue (readTruth)
open AttributeItem (value? errors)
open EnumDeclaration

/-- The enumeration that a declaration declares, or all that is wrong with it. -/
def ofDeclaration (d : EnumDeclaration) : Declared DerivedEnum :=
  let outer := errors keys d.items ++ d.shapeErrors
  let cases := d.cases?.getD []
  let inner := cases.flatMap fun c => errors caseKeys (caseItems c)
  if !outer.isEmpty then .error outer
  else if !inner.isEmpty then .error inner
  else if cases.isEmpty then .error [.noCases]
  else
    .ok ⟨d.ident, d.width, (value? "bitfield" readTruth d.items).getD false, numbered 0 cases⟩

/-- The first case with a number. -/
def ofNumber? (e : DerivedEnum) (number : Int) : Option DerivedCase :=
  e.cases.find? (·.number == number)

/-- What the editor is shown of the cases. -/
def hint (e : DerivedEnum) : String :=
  Text.join "," (e.cases.map fun c => c.label ++ ":" ++ toString c.number)

open Code Marshal

/-- A case by its path. -/
def casePath (e : DerivedEnum) (c : DerivedCase) : Code :=
  word e.ident ++ fixed "::" ++ word c.ident

/-- The number of a case. -/
def caseNumber (e : DerivedEnum) (c : DerivedCase) : Code :=
  e.casePath c ++ fixed "as i64"

/-- The statement that finds a case by its number. -/
def caseTest (e : DerivedEnum) (c : DerivedCase) : Code :=
  fixed "if raw ==" ++ e.caseNumber c ++
    brace (fixed "return ::core::option::Option::Some" ++ paren (e.casePath c) ++ fixed ";")

/-- The text of a case in the editor. -/
def caseHint (e : DerivedEnum) (c : DerivedCase) : Code :=
  fixed "::std::format!" ++
    paren (text "\x7b\x7d:\x7b\x7d" ++ fixed "," ++ text c.label ++ fixed "," ++ e.caseNumber c)

/-- The code of an enumeration. -/
def code (e : DerivedEnum) : Code :=
  fixed "impl ::gdbind_runtime::GodotEnum for" ++ word e.ident ++
    brace
      (fixed "const WIDTH: u32 =" ++ numeral e.width.bits "u32" ++
        fixed "; const IS_BITFIELD: bool =" ++ word (toString e.isBitfield) ++
        fixed "; fn from_raw(raw: i64) -> ::core::option::Option<Self>" ++
        brace (e.cases.flatMap e.caseTest ++ fixed "::core::option::Option::None") ++
        fixed "fn to_raw(self) -> i64" ++ brace (fixed "self as i64") ++
        fixed "fn hint_string() -> ::std::string::String" ++
        brace
          (bracket (commas (e.cases.map e.caseHint)) ++ fixed ".join" ++ paren (text ","))) ++
    fixed "impl ::gdbind_runtime::ToVariant for" ++ word e.ident ++
    brace
      (fixed "fn to_variant(&self) -> ::gdbind_runtime::Variant" ++
        brace
          (fixed "::gdbind_runtime::Variant::Int(::gdbind_runtime::GodotEnum::to_raw(*self))")) ++
    fixed "impl ::gdbind_runtime::FromVariant for" ++ word e.ident ++
    brace
      (fixed "fn from_variant(variant: &::gdbind_runtime::Variant,) ->" ++
        fixed "::core::result::Result<Self, ::gdbind_runtime::VariantConversionError>" ++
        brace
          (fixed "match variant" ++
            brace
              (armBraced (fixed "::gdbind_runtime::Variant::Int(raw)")
                  (fixed "<Self as ::gdbind_runtime::GodotEnum>::from_raw(*raw).ok_or" ++
                    paren
                      (fixed "::gdbind_runtime::VariantConversionError::UnknownEnumValue(*raw)")) ++
                arm (fixed "other")
                  (fixed "::core::result::Result::Err" ++
                    paren
                      (fixed "::gdbind_runtime::VariantConversionError::mismatch" ++
                        paren (kind .int ++ fixed ", other")))))) ++
    fixed "impl ::gdbind_runtime::ArrayElement for" ++ word e.ident ++
    brace (fixed "fn element_type() -> ::gdbind_runtime::VariantType" ++ brace (kind .int))

end DerivedEnum

end EngineBindings
