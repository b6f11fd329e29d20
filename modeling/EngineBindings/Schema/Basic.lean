import EngineBindings.Schema.Descriptor
import EngineBindings.TypeCategory

/-!
# Schemas

The reflection surface of one engine version.  `Schema.ofDescriptors` accepts class lists with
distinct names in which no parent chain comes back to a class it has passed; on those, `ancestors`
lists the whole chain of parents.
-/

namespace EngineBindings

/-- The reflection surface of one engine version. -/
structure Schema where
  version : EngineVersion
  classes : List ClassDescriptor
  builtins : List Builtin
  globalEnums : List Enumeration
  singletons : List Singleton
  utilityFunctions : List UtilityFunction
  deriving Inhabited

/-- Why a document is no schema. -/
inductive SchemaError where
  /-- The document is malformed or lacks what a schema needs. -/
  | malformed
  | duplicateClass (name : String)
  | duplicateBuiltin (name : String)
  | cyclicInheritance (name : String)
  deriving DecidableEq, Inhabited

/-- The text of an error, as far as it is this library's own. -/
def SchemaError.message : SchemaError → String
  | .malformed => "Failed to parse schema JSON: "
  | .duplicateClass name => "Duplicate class in schema: " ++ name
  | .duplicateBuiltin name => "Duplicate builtin type in schema: " ++ name
  | .cyclicInheritance name => "Cyclic inheritance detected at class " ++ name

namespace Schema

/-! ## Lookup -/

/-- The class with a name. -/
def class? (s : Schema) (name : String) : Option ClassDescriptor :=
  s.classes.find? (fun c => c.name == name)

/-- The builtin type with an engine name. -/
def builtin? (s : Schema) (name : String) : Option Builtin :=
  s.builtins.find? (fun b => b.name == name)

/-- Whether a class has a name. -/
def containsClass (s : Schema) (name : String) : Bool :=
  s.classes.any (fun c => c.name == name)

/-- The parent of a class; a name outside the schema has none. -/
def parent? (s : Schema) (name : String) : Option String :=
  (s.class? name).bind ClassDescriptor.parent?

/-- The names met by following parent links, at most `steps` of them. -/
def chainFrom (parent? : String → Option String) : Nat → String → List String
  | 0, _ => []
  | steps + 1, name =>
    match parent? name with
    | none => []
    | some parent => parent :: chainFrom parent? steps parent

/-- The ancestors of a class, the nearest first.  A chain that does not loop passes every class of
the schema at most once, so its length is bounded by their number. -/
def ancestors (s : Schema) (name : String) : List String :=
  chainFrom s.parent? s.classes.length name

/-- Whether a class is another one or inherits from it. -/
def inheritsFrom (s : Schema) (name ancestor : String) : Bool :=
  name == ancestor || (s.ancestors name).contains ancestor

/-- The names of the classes that belong to the editor. -/
def editorClasses (s : Schema) : List String :=
  (s.classes.filter fun c => c.part == .editor).map ClassDescriptor.name

/-- Whether objects of a class are counted. -/
def isRefCounted? (s : Schema) (name : String) : Option Bool :=
  (s.class? name).map ClassDescriptor.isRefCounted

/-- The singleton of a class. -/
def singleton? (s : Schema) (className : String) : Option Singleton :=
  s.singletons.find? (fun entry => entry.className == className)

/-- The owner and the own name in a dotted name. -/
def splitOwner? (qualified : String) : Option (String × String) :=
  let cs := qualified.toList
  match cs.dropWhile (· != '.') with
  | [] => none
  | _ :: rest => some (String.ofList (cs.takeWhile (· != '.')), String.ofList rest)

/-- The enumeration with a name of a type string: a global one, which may itself be dotted, or one
of a class, or one of a builtin type. -/
def findEnum? (s : Schema) (qualified : String) : Option Enumeration :=
  match s.globalEnums.find? (fun e => e.name == qualified) with
  | some e => some e
  | none => do
    let (owner, name) ← splitOwner? qualified
    match (s.class? owner).bind (fun c => c.enum? name) with
    | some e => some e
    | none => (← s.builtin? owner).enums.find? (fun e => e.name == name)

/-- What a schema knows of names of types.  The engine carries every enumeration in 64 bits. -/
def typeContext (s : Schema) : TypeContext where
  enumWidth? name := (s.findEnum? name).map fun _ => .bits64
  classCounting? name := (s.isRefCounted? name).map RefCounting.ofFlag

/-! ## Validation -/

/-- The first name that an earlier element of a list has too. -/
def firstRepeated? (seen : List String) : List String → Option String
  | [] => none
  | name :: rest => if seen.contains name then some name else firstRepeated? (name :: seen) rest

/-- Whether following parent links comes back to a name in `seen`, within `steps` links. -/
def loops (parent? : String → Option String) : Nat → List String → Option String → Bool
  | _, _, none => false
  | 0, _, some _ => false
  | steps + 1, seen, some name =>
    seen.contains name || loops parent? steps (name :: seen) (parent? name)

/-- The first class whose parent chain comes back to a name it has passed.  A chain that does not
has at most one name outside the schema, at its end, so one step more than there are classes
decides. -/
def firstCyclic? (s : Schema) : Option String :=
  (s.classes.find? fun c => loops s.parent? (s.classes.length + 1) [c.name] c.parent?).map
    ClassDescriptor.name

/-- A schema with these descriptors, if names are distinct and inheritance has no cycle. -/
def ofDescriptors (version : EngineVersion) (classes : List ClassDescriptor)
    (builtins : List Builtin) (globalEnums : List Enumeration) (singletons : List Singleton)
    (utilityFunctions : List UtilityFunction) : Except SchemaError Schema :=
  let schema : Schema :=
    { version, classes, builtins, globalEnums, singletons, utilityFunctions }
  match firstRepeated? [] (classes.map ClassDescriptor.name) with
  | some name => .error (.duplicateClass name)
  | none =>
    match firstRepeated? [] (builtins.map Builtin.name) with
    | some name => .error (.duplicateBuiltin name)
    | none =>
      match schema.firstCyclic? with
      | some name => .error (.cyclicInheritance name)
      | none => .ok schema

end Schema

end EngineBindings
