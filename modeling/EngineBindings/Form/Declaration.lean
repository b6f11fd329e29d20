import EngineBindings.Declaration.Enumeration
import EngineBindings.Declaration.Methods
import EngineBindings.Form.Type

/-!
# JSON forms of declarations

Code is a text that is read token by token, and so is a type.  Classes and enumerations come as
their parts; methods come as their parts or as text, of which their block is made.
-/

namespace EngineBindings.Form

/-! ## Code and types -/

/-- Reads code. -/
def readCode (s : String) : Read Code :=
  need s (Code.ofText? s)

/-- Reads the code of a field. -/
def codeAt (j : Json) (name : String) : Read Code := do
  readCode (← textAt j name)

/-- Reads a type. -/
def readTypeText (s : String) : Read TypeSyntax :=
  need s (TypeSyntax.ofText? s)

/-- Reads the type of a field. -/
def typeAt (j : Json) (name : String) : Read TypeSyntax := do
  readTypeText (← textAt j name)

/-- Reads a type with its category; any code may stand for a type. -/
def readMarshaled (j : Json) : Read MarshaledType := do
  let text ← textAt j "ty"
  let declared := ((TypeSyntax.ofText? text).map .ofSyntax).getD (.plain text)
  return ⟨← readCode text, declared, ← readCategory (← field j "category")⟩

/-- Reads what an export says of a property; nothing by itself. -/
def readSpec (j : Json) : Read PropertySpec := do
  let spec := (get? j "spec").getD .null
  let hint? ← (optText spec "hint").mapM fun n => need "hint" (PropertyHint.ofName? n)
  let usage? := ((get? spec "usage").bind Json.nat32?).map fun n => PropertyUsage.mk n.toUInt32
  return ⟨hint?, optText spec "hint_string", usage?.getD .usual⟩

/-! ## Attributes -/

/-- Reads the value of an attribute. -/
def readAttributeValue : Json → Read AttributeValue
  | .string (some s) => return .text s
  | .null => return .word
  | .bool b => return .truth b
  | j@(.number spelling) =>
    return (j.int?.map .integer).getD (.decimal (spelling.head? == some '-'))
  | j => do
    let text ← if j.array?.isSome then pure j.render else textAt j "path"
    return .ofExpression (← need text (ExpressionSyntax.ofText? text))

/-- Reads an item of an attribute. -/
def readAttributeItem : Json → Read AttributeItem
  | .array [.string (some key), v] => return ⟨key, ← readAttributeValue v⟩
  | _ => .error "bad attribute"

/-- Reads an attribute. -/
def readAttribute (j : Json) : Read Attribute := do
  let content? ← (get? j "args").mapM fun args => (args.array?.getD []).mapM readAttributeItem
  return ⟨← textAt j "attr", content?⟩

/-- Reads the attributes of a declaration. -/
def readAttributes (j : Json) : Read (List Attribute) :=
  (listAt j "attrs").mapM readAttribute

/-! ## Classes and enumerations -/

/-- Reads a field of a class. -/
def readField (j : Json) : Read FieldDeclaration := do
  return ⟨← textAt j "name", ← typeAt j "ty", ← readAttributes j⟩

/-- Reads the body of a class. -/
def readBody (j : Json) : Read ClassBody := do
  let fields := listAt j "fields"
  match (optText j "shape").getD "struct" with
  | "tuple" => return .unnamed fields.length
  | "unit" => return .unit
  | "enum" => return .cases
  | _ => return .named (← fields.mapM readField)

/-- Reads a class. -/
def readClass (j : Json) : Read ClassDeclaration := do
  let params ← need "generics" (Lexeme.readText? Grammar.params ((optText j "generics").getD ""))
  return ⟨← textAt j "name", params, ← readAttributes j, ← readBody j⟩

/-- Reads a case of an enumeration. -/
def readCase (j : Json) : Read CaseDeclaration := do
  return ⟨← textAt j "name", (get? j "value").bind Json.int?,
    ← need "payload" (CasePayload.ofText? ((optText j "payload").getD "")), ← readAttributes j⟩

/-- Reads an enumeration; its representation comes before its other attributes. -/
def readEnumeration (j : Json) : Read EnumDeclaration := do
  let represented := (optText j "repr").map EnumDeclaration.representation
  let cases ← (listAt j "cases").mapM readCase
  return ⟨← textAt j "name", represented.toList ++ (← readAttributes j),
    if optText j "shape" == some "unit" then none else some cases⟩

/-! ## Methods -/

/-- The text of a method. -/
def methodText (j : Json) : Read String := do
  let params ← (listAt j "params").mapM fun
    | .array [.string (some pattern), .string (some type)] => .ok (pattern ++ ": " ++ type)
    | _ => .error "bad parameter"
  let attributes := (← textsAt j "attrs").map fun a => "#[" ++ a ++ "] "
  let inputs := Text.join ", " ((optText j "receiver").toList ++ params)
  let result := ((optText j "returns").map (" -> " ++ ·)).getD ""
  return String.join attributes ++ "fn " ++ (← textAt j "name") ++ "(" ++ inputs ++ ")" ++ result ++
    " \x7b " ++ (← textAt j "body") ++ " \x7d"

/-- The text of an item. -/
def itemText (j : Json) : Read String :=
  match j.text? with
  | some s => .ok s
  | none => methodText j

/-- Reads a block of methods with the function that answers other calls. -/
def readMethods (j : Json) (virtuals? : Option Code) : Read MethodsDeclaration := do
  let items ← (listAt j "items").mapM itemText
  let trait := ((optText j "trait").map (· ++ " for ")).getD ""
  let block := "impl" ++ (optText j "generics").getD "" ++ " " ++ trait ++ (← textAt j "class") ++
    " \x7b\n" ++ Text.join "\n" items ++ "\n\x7d"
  return ⟨← need block (ImplSyntax.ofText? block), virtuals?⟩

end EngineBindings.Form
