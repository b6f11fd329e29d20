import EngineBindings.Form.Registry
import EngineBindings.Form.Value
import EngineBindings.World.Basic

/-!
# JSON forms of what happens at run time

Why values, arguments and calls are refused, the replies of a scripted engine, and what it was asked
for.
-/

namespace EngineBindings.Form

/-! ## Errors -/

/-- Why an array or an element does not fit a typing. -/
def arrayTypeError (e : ArrayTypeError) : Json :=
  let kind := match e with
    | .untyped _ => "Untyped"
    | .mismatch _ _ => "Mismatch"
    | .element _ _ _ => "Element"
  failure kind e.message

/-- Why a value cannot be converted. -/
def conversionError (e : ConversionError) : Json :=
  let kind := match e with
    | .typeMismatch _ _ => "TypeMismatch"
    | .outOfRange _ _ => "OutOfRange"
    | .wrongClass _ _ => "WrongClass"
    | .deadObject => "DeadObject"
    | .unknownEnumValue _ => "UnknownEnumValue"
    | .arrayType _ => "ArrayType"
  failure kind e.message

/-- Why an argument cannot be read. -/
def argumentError (e : ArgumentError) : Json :=
  let kind := match e with
    | .missing _ => "Missing"
    | .conversion _ _ => "Conversion"
    | .enumOutOfRange _ _ _ => "EnumOutOfRange"
    | .unknownEnumValue _ _ => "UnknownEnumValue"
  failure kind e.message

/-- Why a call failed. -/
def callError (e : CallError) : Json :=
  let kind := match e with
    | .noBackend => "NoBackend"
    | .deadObject => "DeadObject"
    | .noInstance _ => "NoInstance"
    | .unknownMethod _ _ => "UnknownMethod"
    | .engine _ => "Engine"
  failure kind e.message

/-! ## The engine -/

/-- Reads a reply of the engine. -/
def readReply (j : Json) : Read (Except CallError Variant) := do
  match optText j "error" with
  | none => return .ok (← readValue j)
  | some "NoBackend" => return .error .noBackend
  | some "DeadObject" => return .error .deadObject
  | some "NoInstance" => return .error (.noInstance (← textAt j "class"))
  | some "UnknownMethod" =>
    return .error (.unknownMethod (← textAt j "class") (← textAt j "method"))
  | some _ => return .error (.engine (← textAt j "text"))

/-- What the engine was asked for. -/
def request (r : EngineRequest) : Json :=
  .array [str r.subject, opt handle r.object?, .array (values r.values)]

/-- Reads what the engine is asked for; nothing, if it is not one of the requests with an answer. -/
def readRequest? (j : Json) : Read (Option EngineRequest) := do
  match ← textAt j "do" with
  | "call_method" =>
    return some (.method (← readHandle? j "obj") (← textAt j "class") (← textAt j "method")
      (← readValues j "args"))
  | "call_builtin" =>
    return some (.builtin (← readValue (← field j "receiver")) (← textAt j "method")
      (← readValues j "args"))
  | "call_utility" => return some (.utility (← textAt j "function") (← readValues j "args"))
  | "construct" =>
    return some (.construct (← readKind (← textAt j "kind")) (← intAt j "index").toNat
      (← readValues j "args"))
  | "operator" =>
    let op ← need "operator" (VariantOperator.ofEngineName? (← textAt j "op"))
    return some (.operator op (← readValue (← field j "left")) (← readValue (← field j "right")))
  | _ => return none

/-! ## Host values -/

/-- A host value as the engine sees it. -/
def hostValue (v : HostValue) : Json :=
  value v.encode

/-- What was read, or why it was not. -/
def outcome {ε α : Type} (refusal : ε → Json) (write : α → Json) : Except ε α → Json
  | .ok a => write a
  | .error e => refusal e

/-- Reads a record of a value. -/
def readInfo (j : Json) : Read PropertyInfo := do
  return .ofKind (← textAt j "name") (← readKind (← textAt j "kind"))

/-- Reads a member that is to be recorded. -/
def readMember (j : Json) : Read RegisteredMember := do
  let name ← textAt j "name"
  let lead := (optText j "prefix").getD ""
  let arguments := (listAt j "arguments").mapM readInfo
  match ← textAt j "kind" with
  | "group" => return .group name lead
  | "subgroup" => return .subgroup name lead
  | "property" =>
    return .property (← readInfo (← field j "info")) ((optText j "setter").getD "")
      ((optText j "getter").getD "")
  | "method" =>
    let flags := ((get? j "flags").bind Json.nat32?).getD 1
    return .method ⟨name, ← arguments, ← (get? j "returns").mapM readInfo, ⟨flags.toUInt32⟩⟩
  | _ => return .signal ⟨name, ← arguments⟩

end EngineBindings.Form
