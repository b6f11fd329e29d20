import EngineBindings.Declaration.Field

/-!
# Declarations of classes

A structure of the host that holds the base object of an engine class becomes a class of the engine.
`ExportedClass.ofDeclaration` reads its declaration, or gives all that is wrong with it.
-/

namespace EngineBindings

/-- What a declaration declares. -/
inductive ClassBody where
  /-- A structure with named fields. -/
  | named (fields : List FieldDeclaration)
  /-- A structure with unnamed fields. -/
  | unnamed (count : Nat)
  /-- A structure without fields. -/
  | unit
  /-- A choice of cases. -/
  | cases
  deriving Inhabited

/-- The declaration of a class. -/
structure ClassDeclaration where
  ident : String
  params : ParamsSyntax
  attributes : List Attribute
  body : ClassBody
  deriving Inhabited

/-- A class that the host adds to the engine. -/
structure ExportedClass where
  /-- The identifier of the structure. -/
  ident : String
  /-- The name of the class in the engine. -/
  name : String
  /-- The field that holds the base object. -/
  baseField : String
  /-- The type of the engine class that is extended. -/
  base : Code
  level : Level
  members : List (ClassMember ExportedProperty)
  deriving Inhabited

namespace Declaration

/-- The name of a shape with unnamed fields. -/
def unnamedShape (count : Nat) : String :=
  if count = 1 then "one unnamed field" else "unnamed fields"

/-- What is after the last double colon of a path, or the whole of it. -/
def lastName (path : Code) : String :=
  let rec afterLast (name : List Char) : List Char → List Char
    | ':' :: ':' :: rest => afterLast rest rest
    | _ :: rest => afterLast name rest
    | [] => name
  let cs := path.compact.toList
  String.ofList (afterLast cs cs)

/-- The engine class of the type of a base field: the only argument of a path to `Base`. -/
def baseOf? : TypeSyntax → Option Code
  | .path _ _ "Base" [type] 0 => some type.code
  | _ => none

end Declaration

namespace ClassDeclaration

open AttributeValue AttributeItem Declaration

/-- The keys of the attribute of a class. -/
def keys : Keys :=
  [keyed "base" readPath, keyed "init_level" readText, keyed "rename" readText]

/-- The items of the attributes of a class. -/
def items (d : ClassDeclaration) : List AttributeItem :=
  Attribute.itemsOf "class" d.attributes

/-- What is wrong with the shape of a declaration. -/
def shapeErrors (d : ClassDeclaration) : List DeclarationError :=
  match d.body with
  | .named _ => []
  | .unnamed count => [.shape (unnamedShape count) "named fields"]
  | .unit => [.shape "no fields" "named fields"]
  | .cases => [.shape "enum" "struct with named fields"]

/-- The fields of a declaration. -/
def fields (d : ClassDeclaration) : List FieldDeclaration :=
  match d.body with
  | .named fields => fields
  | _ => []

/-- The fields that hold a base object, with their engine classes. -/
def baseFields (d : ClassDeclaration) : List (FieldDeclaration × Code) :=
  d.fields.filterMap fun field => (baseOf? field.type).map (field, ·)

/-- What is wrong with the engine class that the attribute names. -/
def baseErrors (d : ClassDeclaration) (base : Code) : List DeclarationError :=
  match value? "base" readPath d.items with
  | none => []
  | some stated =>
    if lastName stated = lastName base then []
    else [.baseMismatch (lastName stated) (lastName base)]

/-- The level that the attribute names. -/
def level (d : ClassDeclaration) : Except DeclarationError Level :=
  match value? "init_level" readText d.items with
  | none => .ok .usual
  | some name =>
    match Level.ofAnyCase? name with
    | some level => .ok level
    | none => .error (.unknownLevel name)

/-- What is wrong with the parameters of a declaration. -/
def genericErrors (d : ClassDeclaration) : List DeclarationError :=
  if d.params.isEmpty then [] else [.genericClass]

/-- The members of fields, or all that is wrong with them. -/
def membersOf (fields : List FieldDeclaration) :
    List (ClassMember ExportedProperty) × List DeclarationError :=
  fields.foldr (fun field (members, errors) =>
    match field.members with
    | .ok more => (more ++ members, errors)
    | .error more => (members, more ++ errors)) ([], [])

end ClassDeclaration

namespace ExportedClass

open AttributeValue (readText readPath)
open AttributeItem (value?)
open ClassDeclaration

/-- Reads the fields of a declaration with a base field and perhaps further ones. -/
def ofFields (d : ClassDeclaration) (field : FieldDeclaration) (base : Code)
    (others : List (FieldDeclaration × Code)) : Declared ExportedClass :=
  let (members, memberErrors) := membersOf (d.fields.filter (·.name != field.name))
  let (level, levelErrors) := match d.level with
    | .ok level => (level, [])
    | .error e => (Level.usual, [e])
  let errors := d.genericErrors ++ others.map (fun _ => .secondBase) ++ d.baseErrors base ++
    levelErrors ++ memberErrors
  if errors.isEmpty then
    .ok ⟨d.ident, (value? "rename" readText d.items).getD d.ident, field.name, base, level, members⟩
  else .error errors

/-- The class that a declaration declares, or all that is wrong with it. -/
def ofDeclaration (d : ClassDeclaration) : Declared ExportedClass :=
  let errors := AttributeItem.errors keys d.items ++ d.shapeErrors
  if !errors.isEmpty then .error errors
  else
    match d.baseFields with
    | [] => .error (d.genericErrors ++ [.noBase])
    | (field, base) :: others => ofFields d field base others

/-- The members of a class with the names of their accessors. -/
def plan (c : ExportedClass) : List (PlannedMember ExportedProperty) :=
  ClassMember.plan c.members

open Code Marshal

/-- What the engine class that is extended says of itself. -/
def ofBase (c : ExportedClass) (item : String) : Code :=
  fixed "<" ++ c.base ++ fixed "as ::gdbind_runtime::GodotClass>::" ++ word item

/-- The code of what a class is. -/
def identityCode (c : ExportedClass) : Code :=
  fixed "impl ::gdbind_runtime::GodotClass for" ++ word c.ident ++
    brace
      (fixed "const CLASS_NAME: &'static str =" ++ text c.name ++
        fixed "; const PARENT_CLASS: ::core::option::Option<&'static str> =" ++
        fixed "::core::option::Option::Some" ++ paren (c.ofBase "CLASS_NAME") ++
        fixed "; const REF_COUNTED: bool =" ++ c.ofBase "REF_COUNTED" ++
        fixed "; const INIT_LEVEL: ::gdbind_runtime::InitializationLevel =" ++
        Marshal.level c.level ++ fixed ";")

/-- The code of what a class exports. -/
def exportCode (c : ExportedClass) (members : MemberCode) : Code :=
  fixed "impl ::gdbind_runtime::ExportedClass for" ++ word c.ident ++
    brace
      (fixed "type Base =" ++ c.base ++ fixed "; #[allow(unused_variables)]" ++
        fixed "fn register_properties(builder: &mut ::gdbind_runtime::ClassBuilder)" ++
        brace (concat members.registrations) ++
        fixed "#[allow(unused_variables)] fn dispatch_property" ++
        fixed "(&mut self, name: &str, args: &::gdbind_runtime::Arguments<'_>,)" ++
        fixed "-> ::gdbind_runtime::CallOutcome" ++
        brace
          (fixed "match name" ++
            brace
              (concat members.dispatchArms ++
                arm (fixed "_") (fixed "::gdbind_runtime::CallOutcome::NotFound"))) ++
        fixed "fn base_handle(&self) -> ::gdbind_runtime::ObjectHandle" ++
        brace
          (fixed "::gdbind_runtime::Base::handle" ++ paren (.mark '&' :: selfField c.baseField)))

/-- The code of a class. -/
def code (c : ExportedClass) : Emission Code := do
  let members ← MemberCode.ofPlan c.name c.plan
  return c.identityCode ++ c.exportCode members ++
    fixed "impl" ++ word c.ident ++ brace (concat members.accessors)

end ExportedClass

end EngineBindings
