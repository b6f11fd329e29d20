import EngineBindings.Declaration.Attribute
import EngineBindings.Declaration.TypeReader
import EngineBindings.Marshal.Members

/-!
# Marks on the fields of a class

A field may be exported, and may open groups of properties.  Groups come before the property of
their field, in the order of the attributes; of several export marks the last one counts.
-/

namespace EngineBindings

/-- A field of a class. -/
structure FieldDeclaration where
  name : String
  type : TypeSyntax
  attributes : List Attribute
  deriving Inhabited

/-- What an export mark says. -/
structure ExportMark where
  hint? : Option String
  hintString? : Option String
  usage? : Option String
  enumWidth? : Option Nat
  rename? : Option String
  deriving Inhabited

namespace ExportMark

open AttributeValue AttributeItem

/-- The keys of an export mark. -/
def keys : Keys :=
  [keyed "hint" readText, keyed "hint_string" readText, keyed "usage" readText,
    keyed "enum_width" readNatural, keyed "rename" readText]

/-- What the items of an export mark say. -/
def ofItems (items : List AttributeItem) : ExportMark where
  hint? := value? "hint" readText items
  hintString? := value? "hint_string" readText items
  usage? := value? "usage" readText items
  enumWidth? := value? "enum_width" readNatural items
  rename? := value? "rename" readText items

/-- The hint that a mark asks for. -/
def hint (m : ExportMark) : Except DeclarationError (Option PropertyHint) :=
  match m.hint? with
  | none => .ok none
  | some name =>
    match PropertyHint.ofName? name with
    | some hint => .ok (some hint)
    | none => .error (.unknownValue name)

/-- The flags between bars, where blanks and the case of letters do not matter. -/
def flagNames (usage : String) : List String :=
  ((Text.splitAt '|' usage).map Text.trim).filter (!·.isEmpty)

/-- Both the flags so far and the one with a name. -/
def addFlag (usage : PropertyUsage) (name : String) : Except DeclarationError PropertyUsage :=
  match PropertyUsage.ofCaseName? (String.ofList (name.toList.map Char.toUpper)) with
  | some flag => .ok (usage.union flag)
  | none => .error (.unknownValue name)

/-- The flags that a mark asks for. -/
def usage (m : ExportMark) : Except DeclarationError PropertyUsage :=
  match m.usage? with
  | none => .ok .usual
  | some usage => (flagNames usage).foldlM addFlag .none

/-- The width of an enumeration that a mark states. -/
def width (m : ExportMark) : Except DeclarationError (Option EnumWidth) :=
  match m.enumWidth? with
  | none => .ok none
  | some bits =>
    match EnumWidth.ofBits? bits with
    | some width => .ok (some width)
    | none => .error (.enumWidth bits)

end ExportMark

namespace FieldDeclaration

open AttributeValue AttributeItem

/-- The keys of a group mark. -/
def groupKeys : Keys :=
  [keyed "name" readText, keyed "prefix" readText]

/-- What is wrong with a mark. -/
def markErrors (a : Attribute) : List DeclarationError :=
  if a.name = "export" then errors ExportMark.keys a.items
  else if a.name = "export_group" ∨ a.name = "export_subgroup" then
    match a.content? with
    | none => [.wordAlone]
    | some _ => errors groupKeys a.items ++ required "name" a.items
  else []

/-- The group that a mark opens. -/
def groupOf? (a : Attribute) : Option (ClassMember ExportedProperty) :=
  let name := (value? "name" readText a.items).getD ""
  let lead := (value? "prefix" readText a.items).getD ""
  if a.name = "export_group" then some (.group name lead)
  else if a.name = "export_subgroup" then some (.subgroup name lead)
  else none

/-- The property that an export mark makes of a field. -/
def property (field : FieldDeclaration) (mark : ExportMark) :
    Except DeclarationError (ClassMember ExportedProperty) := do
  let width? ← mark.width
  let category ← (TypeCategory.ofSyntax field.type width?).mapError .type
  let hint? ← mark.hint
  let usage ← mark.usage
  return .property (mark.rename?.getD (Naming.unescaped field.name))
    ⟨field.name, .ofSyntax field.type category, ⟨hint?, mark.hintString?, usage⟩⟩

/-- The last export mark of a field. -/
def exportMark? (field : FieldDeclaration) : Option ExportMark :=
  ((field.attributes.filter (·.name == "export")).getLast?).map fun a => .ofItems a.items

/-- The members that a field gives a class. -/
def members (field : FieldDeclaration) : Declared (List (ClassMember ExportedProperty)) :=
  let errors := field.attributes.flatMap markErrors
  let groups := field.attributes.filterMap groupOf?
  if !errors.isEmpty then .error errors
  else
    match field.exportMark? with
    | none => .ok groups
    | some mark =>
      match field.property mark with
      | .ok property => .ok (groups ++ [property])
      | .error e => .error [e]

end FieldDeclaration

end EngineBindings
