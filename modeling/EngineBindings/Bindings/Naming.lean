import EngineBindings.Bindings.Error
import EngineBindings.Code.Lexer
import EngineBindings.Primitive
import EngineBindings.Text.Words

/-!
# Names in generated code

How names of the engine become identifiers, module names and names of traits and functions.
-/

namespace EngineBindings

/-- A step that gives items their names; the state holds the names taken so far. -/
abbrev Reserving := StateT (List String) Emission

namespace Naming

/-- The identifier for a name.  Keywords are escaped, or marked when they cannot be; a digit in
front is marked too. -/
def ident (name : String) : Emission String :=
  let spelled (s : String) : Emission String :=
    if Text.isIdentifier s then .ok s else .error (.unspellable name)
  if name.isEmpty || name == "_" then .ok "_unnamed"
  else if Text.pathKeywords.contains name then .ok (name ++ "_")
  else if (name.toList.head?.map Char.isDigit).getD false then spelled ("_" ++ name)
  else if Text.keywords.contains name then .ok ("r#" ++ name)
  else spelled name

/-- The identifier for a name, as code. -/
def identCode (name : String) : Emission Code :=
  (ident name).map Code.word

/-- The names of primitive types, which no module may have. -/
def primitiveNames : List String :=
  ["bool", "char", "str", "i8", "i16", "i32", "i64", "i128", "isize", "u8", "u16", "u32", "u64",
    "u128", "usize", "f32", "f64"]

/-- The name of the module and the file of a type. -/
def moduleName (typeName : String) : String :=
  let lower := Text.lower typeName
  if primitiveNames.contains lower then lower ++ "_" else lower

/-- Whether a host name is the name of a scalar type. -/
def isScalar (name : String) : Bool :=
  ["bool", "i8", "i16", "i32", "i64", "u8", "u16", "u32", "u64", "f32", "f64"].contains name

/-- The trait of the methods of a builtin type. -/
def builtinTrait (engineName hostName : String) : String :=
  if isScalar hostName then Text.pascal engineName ++ "Methods" else hostName ++ "Methods"

/-- The trait of the overridable methods of a class. -/
def virtualTrait (className : String) : String :=
  className ++ "Virtual"

/-- The function that routes virtual calls of a class. -/
def virtualDispatcher (className : String) : String :=
  "dispatch_" ++ moduleName className ++ "_virtual"

/-- The name of an overridable method, without the underscores in front. -/
def virtualMethod (method : String) : String :=
  String.ofList (method.toList.dropWhile (· == '_'))

/-- The name of an enumeration at module scope, without dots. -/
def flatEnum (qualified : String) : String :=
  String.ofList (qualified.toList.filter (· != '.'))

/-- The name of a value of an enumeration, without the name of the enumeration in front.  It is
kept where nothing or a digit would be left. -/
def enumConstant (enumName value : String) : String :=
  match Text.stripLead? (Text.upperSnake enumName ++ "_") value with
  | none => value
  | some rest =>
    match rest.toList with
    | [] => value
    | c :: _ => if c.isDigit then value else rest

/-- A text without the marks of escaped identifiers in front. -/
def unescapedChars : List Char → List Char
  | 'r' :: '#' :: rest => unescapedChars rest
  | cs => cs

/-- An identifier without the mark of an escaped one. -/
def unescaped (ident : String) : String :=
  String.ofList (unescapedChars ident.toList)

/-- The path of an item of the runtime library. -/
def runtime (name : String) : Code :=
  Code.fixed "::gdbind_runtime::" ++ Code.word name

/-- The host type with a name: a scalar, or a value type of the runtime library. -/
def hostType (name : String) : Emission Code := do
  let type ← ident name
  return if isScalar name then Code.word type else runtime type

end Naming

end EngineBindings
