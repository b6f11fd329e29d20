import EngineBindings.DeclaredType
import EngineBindings.Property.Usage
import EngineBindings.Property.Hint
import EngineBindings.Text.Blank
import EngineBindings.Text.Pieces
import EngineBindings.Variant.Operator

/-!
# Descriptors

What the engine's reflection data says of its classes, builtin value types, enumerations and
global functions.
-/

namespace EngineBindings

/-- The version of the engine that a schema describes. -/
structure EngineVersion where
  major : Nat
  minor : Nat
  patch : Nat
  status : String
  fullName : String
  deriving Inhabited

/-- A parameter of a method, a signal, a constructor or a function. -/
structure Param where
  name : String
  type : DeclaredType
  default? : Option String
  deriving Inhabited

/-- How a method is dispatched. -/
inductive MethodScope where
  /-- Called on an instance. -/
  | onInstance
  /-- Called without an instance. -/
  | static
  /-- Overridden class by class. -/
  | virtual
  deriving DecidableEq, Inhabited

/-- The name of a kind of dispatch. -/
def MethodScope.name : MethodScope → String
  | .onInstance => "Instance"
  | .static => "Static"
  | .virtual => "Virtual"

/-- Whether a signature uses a raw pointer. -/
def signatureUsesPointers (params : List Param) (returns? : Option DeclaredType) : Bool :=
  params.any (fun p => p.type.containsPointer) ||
    (returns?.map DeclaredType.containsPointer).getD false

/-- A method of a class or a builtin type. -/
structure Method where
  name : String
  params : List Param
  /-- Absent when the method returns nothing. -/
  returns? : Option DeclaredType
  scope : MethodScope
  isConst : Bool
  isVararg : Bool
  /-- The engine's key of the method; a virtual method has none. -/
  hash? : Option Nat
  deriving Inhabited

/-- Whether a method uses a raw pointer. -/
def Method.usesPointers (m : Method) : Bool :=
  signatureUsesPointers m.params m.returns?

/-- A property that an engine class declares. -/
structure Property where
  name : String
  type : DeclaredType
  hint : PropertyHint
  hintString : String
  usage : PropertyUsage
  getter : String
  /-- Absent when the property is read only. -/
  setter? : Option String
  /-- What is passed to the accessors of an indexed property. -/
  index? : Option Int
  deriving Inhabited

/-- A signal of a class. -/
structure Signal where
  name : String
  params : List Param
  deriving Inhabited

/-- An enumeration with its values in order. -/
structure Enumeration where
  name : String
  isBitfield : Bool
  values : List (String × Int)
  deriving Inhabited

/-- A named number of a class. -/
structure ClassConstant where
  name : String
  value : Int
  deriving Inhabited

/-- Which part of the engine a class belongs to. -/
inductive ApiPart where
  | core
  | editor
  deriving DecidableEq, Inhabited

/-- The name of a part of the engine. -/
def ApiPart.name : ApiPart → String
  | .core => "Core"
  | .editor => "Editor"

/-- A class of the engine. -/
structure ClassDescriptor where
  name : String
  /-- Absent for the root of the class tree only. -/
  parent? : Option String
  isRefCounted : Bool
  isInstantiable : Bool
  part : ApiPart
  methods : List Method
  properties : List Property
  signals : List Signal
  enums : List Enumeration
  constants : List ClassConstant
  deriving Inhabited

/-- The method of a class with a name. -/
def ClassDescriptor.method? (c : ClassDescriptor) (name : String) : Option Method :=
  c.methods.find? (fun m => m.name == name)

/-- The enumeration of a class with a name. -/
def ClassDescriptor.enum? (c : ClassDescriptor) (name : String) : Option Enumeration :=
  c.enums.find? (fun e => e.name == name)

/-- A data member of a builtin value type. -/
structure Member where
  name : String
  type : DeclaredType
  deriving Inhabited

/-- A constructor of a builtin value type, known by its number. -/
structure Constructor where
  index : Nat
  params : List Param
  deriving Inhabited

/-- An operator of a builtin value type. -/
structure BuiltinOperator where
  operator : VariantOperator
  /-- Absent for an operator of one operand. -/
  right? : Option DeclaredType
  returns : DeclaredType
  deriving Inhabited

/-- A constant of a builtin value type, its value in the engine's spelling. -/
structure BuiltinConstant where
  name : String
  type : DeclaredType
  value : String
  deriving Inhabited

/-- A value spelled as a constructor call: the text before the first opening parenthesis and the
pieces between it and a closing one at the end. -/
def constructorCall? (value : String) : Option (String × List String) :=
  let cs := value.toList
  let callee := cs.takeWhile (· != '(')
  match cs.dropWhile (· != '(') with
  | [] => none
  | _ :: rest => do
    let inner ← Text.dropTail? [')'] rest
    let args :=
      if (Text.trimChars inner).isEmpty then []
      else (Text.splitChars ',' inner).map fun piece => String.ofList (Text.trimChars piece)
    some (String.ofList (Text.trimChars callee), args)

/-- The value of a constant as a constructor call. -/
def BuiltinConstant.call? (c : BuiltinConstant) : Option (String × List String) :=
  constructorCall? c.value

/-- A builtin value type. -/
structure Builtin where
  name : String
  kind : VariantKind
  methods : List Method
  enums : List Enumeration
  members : List Member
  isKeyed : Bool
  indexingReturns? : Option DeclaredType
  constructors : List Constructor
  operators : List BuiltinOperator
  constants : List BuiltinConstant
  deriving Inhabited

/-- The host name of a builtin value type. -/
def Builtin.hostName (b : Builtin) : String :=
  b.kind.hostName

/-- An object that exists once for a class. -/
structure Singleton where
  name : String
  className : String
  deriving Inhabited

/-- A global function of the engine. -/
structure UtilityFunction where
  name : String
  category : String
  params : List Param
  returns? : Option DeclaredType
  isVararg : Bool
  hash? : Option Nat
  deriving Inhabited

/-- Whether a global function uses a raw pointer. -/
def UtilityFunction.usesPointers (f : UtilityFunction) : Bool :=
  signatureUsesPointers f.params f.returns?

end EngineBindings
