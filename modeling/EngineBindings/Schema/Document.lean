import EngineBindings.Schema.Basic
import EngineBindings.Text.Json

/-!
# Schema documents

Reads the engine's exported description of its interface.  Keys that no descriptor needs are
skipped.  Builtin types without a variant kind and operators that the engine does not evaluate are
left out.
-/

namespace EngineBindings.Schema

open Json

/-- Reads a list that may be left out. -/
def listField? {α : Type} (f : Fields) (name : String) (read : Json → Option α) :
    Option (List α) :=
  f.withDefault name [] (list? read)

/-- Reads a truth value that may be left out. -/
def flagField? (f : Fields) (name : String) : Option Bool :=
  f.withDefault name false bool?

/-- Reads a version. -/
def version? (j : Json) : Option EngineVersion := do
  let f ← j.fields? ["version_major", "version_minor", "version_patch", "version_status",
    "version_full_name"]
  let major ← f.withDefault "version_major" 0 nat32?
  let minor ← f.withDefault "version_minor" 0 nat32?
  let patch ← f.withDefault "version_patch" 0 nat32?
  let status ← f.withDefault "version_status" "" text?
  let fullName ← f.withDefault "version_full_name" "" text?
  some { major, minor, patch, status, fullName }

/-- Reads a name with a number. -/
def namedNumber? (j : Json) : Option (String × Int) := do
  let f ← j.fields? ["name", "value"]
  let name ← f.required "name" text?
  let value ← f.required "value" int64?
  some (name, value)

/-- Reads an enumeration. -/
def enumeration? (j : Json) : Option Enumeration := do
  let f ← j.fields? ["name", "is_bitfield", "values"]
  let name ← f.required "name" text?
  let isBitfield ← flagField? f "is_bitfield"
  let values ← listField? f "values" namedNumber?
  some { name, isBitfield, values }

/-- Reads a parameter. -/
def param? (j : Json) : Option Param := do
  let f ← j.fields? ["name", "type", "meta", "default_value"]
  let name ← f.required "name" text?
  let type ← f.required "type" text?
  let width ← f.optional "meta" text?
  let default? ← f.optional "default_value" text?
  some { name, type := .ofEngine type width, default? }

/-- Reads a member of a builtin type, which is written as a parameter is. -/
def member? (j : Json) : Option Member := do
  let p ← param? j
  some { name := p.name, type := p.type }

/-- Reads the type that a class method returns. -/
def returnType? (j : Json) : Option DeclaredType := do
  let f ← j.fields? ["type", "meta"]
  let type ← f.required "type" text?
  let width ← f.optional "meta" text?
  some (.ofEngine type width)

/-- Reads a type string without a width. -/
def typeText? (j : Json) : Option DeclaredType := do
  some (.ofEngine (← j.text?) none)

/-- Reads a method of a class. -/
def classMethod? (j : Json) : Option Method := do
  let f ← j.fields? ["name", "is_const", "is_vararg", "is_static", "is_virtual", "hash",
    "return_value", "arguments"]
  let name ← f.required "name" text?
  let isConst ← flagField? f "is_const"
  let isVararg ← flagField? f "is_vararg"
  let isStatic ← flagField? f "is_static"
  let isVirtual ← flagField? f "is_virtual"
  let hash? ← f.optional "hash" nat32?
  let returns? ← f.optional "return_value" returnType?
  let params ← listField? f "arguments" param?
  let scope : MethodScope :=
    if isVirtual then .virtual else if isStatic then .static else .onInstance
  some { name, params, returns?, scope, isConst, isVararg, hash? }

/-- Reads a method of a builtin type. -/
def builtinMethod? (j : Json) : Option Method := do
  let f ← j.fields? ["name", "return_type", "is_vararg", "is_const", "is_static", "hash",
    "arguments"]
  let name ← f.required "name" text?
  let returns? ← f.optional "return_type" typeText?
  let isVararg ← flagField? f "is_vararg"
  let isConst ← flagField? f "is_const"
  let isStatic ← flagField? f "is_static"
  let hash? ← f.optional "hash" nat32?
  let params ← listField? f "arguments" param?
  let scope : MethodScope := if isStatic then .static else .onInstance
  some { name, params, returns?, scope, isConst, isVararg, hash? }

/-- Reads a property of a class; an empty setter is none. -/
def property? (j : Json) : Option Property := do
  let f ← j.fields? ["type", "name", "setter", "getter", "index"]
  let type ← f.required "type" text?
  let name ← f.required "name" text?
  let setter? ← f.optional "setter" text?
  let getter ← f.withDefault "getter" "" text?
  let index? ← f.optional "index" int64?
  some
    { name
      type := .ofEngine type none
      hint := .none
      hintString := ""
      usage := .usual
      getter
      setter? := setter?.filter (fun s => !s.isEmpty)
      index? }

/-- Reads a signal. -/
def signal? (j : Json) : Option Signal := do
  let f ← j.fields? ["name", "arguments"]
  let name ← f.required "name" text?
  let params ← listField? f "arguments" param?
  some { name, params }

/-- Reads a class. -/
def classDescriptor? (j : Json) : Option ClassDescriptor := do
  let f ← j.fields? ["name", "is_refcounted", "is_instantiable", "inherits", "api_type", "enums",
    "methods", "properties", "signals", "constants"]
  let name ← f.required "name" text?
  let isRefCounted ← flagField? f "is_refcounted"
  let isInstantiable ← flagField? f "is_instantiable"
  let parent? ← f.optional "inherits" text?
  let part ← f.withDefault "api_type" "core" text?
  let enums ← listField? f "enums" enumeration?
  let methods ← listField? f "methods" classMethod?
  let properties ← listField? f "properties" property?
  let signals ← listField? f "signals" signal?
  let constants ← listField? f "constants" namedNumber?
  some
    { name, parent?, isRefCounted, isInstantiable
      part := if part = "editor" then .editor else .core
      methods, properties, signals, enums
      constants := constants.map fun (name, value) => { name, value } }

/-- Reads a constructor of a builtin type. -/
def constructor? (j : Json) : Option Constructor := do
  let f ← j.fields? ["index", "arguments"]
  let index ← f.required "index" nat32?
  let params ← listField? f "arguments" param?
  some { index, params }

/-- Reads an operator of a builtin type; there is none for an unknown spelling. -/
def operator? (j : Json) : Option (Option BuiltinOperator) := do
  let f ← j.fields? ["name", "right_type", "return_type"]
  let name ← f.required "name" text?
  let right? ← f.optional "right_type" text?
  let returns ← f.required "return_type" typeText?
  some <| (VariantOperator.ofEngineName? name).map fun operator =>
    { operator
      right? := (right?.filter (fun s => !s.isEmpty)).map (DeclaredType.ofEngine · none)
      returns }

/-- Reads a constant of a builtin type. -/
def builtinConstant? (j : Json) : Option BuiltinConstant := do
  let f ← j.fields? ["name", "type", "value"]
  let name ← f.required "name" text?
  let type ← f.required "type" typeText?
  let value ← f.required "value" text?
  some { name, type, value }

/-- Reads a builtin type; there is none without a variant kind. -/
def builtinType? (j : Json) : Option (Option Builtin) := do
  let f ← j.fields? ["name", "is_keyed", "indexing_return_type", "methods", "members", "enums",
    "constructors", "operators", "constants"]
  let name ← f.required "name" text?
  let isKeyed ← flagField? f "is_keyed"
  let indexingReturns? ← f.optional "indexing_return_type" typeText?
  let methods ← listField? f "methods" builtinMethod?
  let members ← listField? f "members" member?
  let enums ← listField? f "enums" enumeration?
  let constructors ← listField? f "constructors" constructor?
  let operators ← listField? f "operators" operator?
  let constants ← listField? f "constants" builtinConstant?
  some <| (VariantKind.ofEngineName? name).map fun kind =>
    { name, kind, methods, enums, members, isKeyed, indexingReturns?, constructors
      operators := operators.filterMap id
      constants }

/-- Reads a global function. -/
def utilityFunction? (j : Json) : Option UtilityFunction := do
  let f ← j.fields? ["name", "return_type", "category", "is_vararg", "hash", "arguments"]
  let name ← f.required "name" text?
  let returns? ← f.optional "return_type" typeText?
  let category ← f.withDefault "category" "" text?
  let isVararg ← flagField? f "is_vararg"
  let hash? ← f.optional "hash" nat32?
  let params ← listField? f "arguments" param?
  some { name, category, params, returns?, isVararg, hash? }

/-- Reads a singleton. -/
def singletonEntry? (j : Json) : Option Singleton := do
  let f ← j.fields? ["name", "type"]
  let name ← f.required "name" text?
  let className ← f.required "type" text?
  some { name, className }

/-- The parts of a document, before they are checked against each other. -/
structure Parts where
  version : EngineVersion
  globalEnums : List Enumeration
  utilityFunctions : List UtilityFunction
  builtins : List Builtin
  classes : List ClassDescriptor
  singletons : List Singleton

/-- Reads the parts of a document. -/
def parts? (j : Json) : Option Parts := do
  let f ← j.fields? ["header", "global_enums", "utility_functions", "builtin_classes", "classes",
    "singletons"]
  let version ← f.withDefault "header" ⟨0, 0, 0, "", ""⟩ version?
  let globalEnums ← listField? f "global_enums" enumeration?
  let utilityFunctions ← listField? f "utility_functions" utilityFunction?
  let builtins ← listField? f "builtin_classes" builtinType?
  let classes ← listField? f "classes" classDescriptor?
  let singletons ← listField? f "singletons" singletonEntry?
  some
    { version, globalEnums, utilityFunctions, builtins := builtins.filterMap id, classes
      singletons }

/-- The schema of a document. -/
def ofJson (j : Json) : Except SchemaError Schema :=
  match parts? j with
  | none => .error .malformed
  | some p =>
    ofDescriptors p.version p.classes p.builtins p.globalEnums p.singletons p.utilityFunctions

/-- The schema that a text spells. -/
def ofText (text : String) : Except SchemaError Schema :=
  match Json.ofText? text with
  | none => .error .malformed
  | some j => ofJson j

end EngineBindings.Schema
