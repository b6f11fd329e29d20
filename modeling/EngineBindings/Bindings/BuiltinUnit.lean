import EngineBindings.Bindings.ClassUnit
import EngineBindings.Number.Decimal

/-!
# Builtin value types in generated code

A builtin value type is defined by the runtime library already.  What is generated is a trait with
its constants, constructors, operators and methods.  Engine methods keep their names; what is named
here yields to them by a number at the end.
-/

namespace EngineBindings

/-- The type of the components of a plain vector. -/
inductive ComponentType where
  | float32
  | int32
  deriving DecidableEq, Inhabited

/-- The name of a type of components. -/
def ComponentType.name : ComponentType → String
  | float32 => "f32"
  | int32 => "i32"

/-- The components of a plain vector in order, with their type. -/
def VariantKind.components? : VariantKind → Option (List String × ComponentType)
  | .vector2 => some (["x", "y"], .float32)
  | .vector2i => some (["x", "y"], .int32)
  | .vector3 => some (["x", "y", "z"], .float32)
  | .vector3i => some (["x", "y", "z"], .int32)
  | .vector4 | .quaternion => some (["x", "y", "z", "w"], .float32)
  | .vector4i => some (["x", "y", "z", "w"], .int32)
  | _ => none

/-- A component of a constant.  A minus sign in front is kept apart from the number after it, which
may have a sign of its own. -/
inductive Component where
  | infinite (minus : Bool)
  | undefined
  | float (minus : Bool) (value : Decimal)
  | whole (minus : Bool) (value : Int)
  deriving DecidableEq, Inhabited

namespace Component

/-- A component of 32 bits in floating point.  Numbers too great for one are no components. -/
def ofFloatText? (minus : Bool) (s : String) : Option Component :=
  if s == "inf" then some (.infinite minus)
  else if s == "nan" then some .undefined
  else
    (Decimal.ofText? s).bind fun d =>
      let bits := d.toBits .binary32
      if BinaryFormat.binary32.isFinite bits then
        some (.float minus (Decimal.shortest .binary32 bits))
      else none

/-- A whole component of 32 bits. -/
def ofWholeText? (minus : Bool) (s : String) : Option Component :=
  (Decimal.intOfText? s).bind fun n =>
    if IntegerType.i32.contains n then some (.whole minus n) else none

/-- A component as the engine spells it. -/
def ofText? (type : ComponentType) (s : String) : Option Component :=
  let (minus, rest) := match Text.stripLead? "-" s with
    | some rest => (true, rest)
    | none => (false, s)
  match type with
  | .float32 => ofFloatText? minus rest
  | .int32 => ofWholeText? minus rest

open Code

/-- A minus sign, or nothing. -/
def minusSign (minus : Bool) : Code :=
  if minus then [.mark '-'] else []

/-- The code of a component. -/
def code : Component → Code
  | infinite true => fixed "f32::NEG_INFINITY"
  | infinite false => fixed "f32::INFINITY"
  | undefined => fixed "f32::NAN"
  | float minus d =>
    minusSign minus ++ minusSign d.negative ++ word { d with negative := false }.positional
  | whole minus n => minusSign minus ++ Marshal.numeral n ""

end Component

/-- How a constructor makes its value. -/
inductive ConstructorBody where
  /-- From its arguments, component by component. -/
  | componentwise (components : List String) (type : ComponentType)
  /-- By the engine's constructor with a number. -/
  | engine (index : Nat)
  deriving Inhabited

/-- An item of the trait of a builtin type. -/
inductive BuiltinItem where
  | constant (ident : String) (values : List (String × Component))
  | constructor (ident context : String) (params : List TypeMap.MappedParam)
      (body : ConstructorBody)
  | operator (ident context : String) (operator : VariantOperator) (right? : Option MarshaledType)
      (returns : MarshaledType)
  | method (ident engineName : String) (params : List TypeMap.MappedParam)
      (returns? : Option MarshaledType)
  deriving Inhabited

/-- The trait of a builtin type. -/
structure BuiltinUnit where
  name : String
  kind : VariantKind
  traitIdent : String
  /-- The type that has the trait. -/
  receiver : Code
  items : List BuiltinItem
  deriving Inhabited

namespace BuiltinUnit

/-! ## Items -/

/-- Whether a builtin type gets a trait: neither the empty value nor objects do. -/
def hasTrait (b : Builtin) : Bool :=
  b.kind != .nil && b.kind != .object

/-- Gives a name to an item: the one it asks for, or if that is taken, the same with a number. -/
def reserve (base : String) (n : Nat) : Reserving String := do
  let taken ← get
  let name := if taken.contains base then base ++ "_" ++ toString n else base
  set (name :: taken)
  return name

/-- The components of a constant, if it is a constructor call of its own type with as many
arguments as there are components. -/
def constantValues? (b : Builtin) (c : BuiltinConstant) : Option (List (String × Component)) := do
  let (components, type) ← b.kind.components?
  let (callee, args) ← c.call?
  if c.type.name? == some b.hostName && callee == b.name && args.length == components.length then
    let values ← args.mapM (Component.ofText? type)
    some (components.zip values)
  else none

/-- The item of a constant; a constant without components has none. -/
def constantItem (b : Builtin) (c : BuiltinConstant) : Reserving (List BuiltinItem) :=
  match constantValues? b c with
  | none => return []
  | some values => do
    let name ← reserve c.name 0
    return [.constant (← Naming.ident name) values]

/-- The name of a constructor, from its parameters; one called `from` counts by its type. -/
def constructorName (c : Constructor) : String :=
  let parts := c.params.map fun p =>
    match p.type with
    | .named name _ => if p.name == "from" then Text.lower name else p.name
    | _ => p.name
  "from_" ++ Text.join "_" parts

/-- Whether a type is one of the number types. -/
def isNumeric : DeclaredType → Bool
  | .named name [] => Naming.isScalar name && name != "bool"
  | _ => false

/-- Whether a constructor takes nothing, or only a value to copy. -/
def isTrivial (b : Builtin) (c : Constructor) : Bool :=
  match c.params with
  | [] => true
  | [only] => only.type.name? == some b.hostName
  | _ => false

/-- How a constructor makes its value: componentwise when its parameters are the components. -/
def constructorBody (b : Builtin) (c : Constructor) : ConstructorBody :=
  match b.kind.components? with
  | none => .engine c.index
  | some (components, type) =>
    if components == c.params.map Param.name && c.params.all (fun p => isNumeric p.type) then
      .componentwise components type
    else .engine c.index

/-- The item of a constructor; a trivial one has none. -/
def constructorItem (m : TypeMap) (b : Builtin) (c : Constructor) :
    Reserving (List BuiltinItem) := do
  if isTrivial b c then return []
  let name ← reserve (constructorName c) c.index
  let params ← m.mapParams b.name name c.params
  let ident ← Naming.ident name
  return [.constructor ident (b.name ++ "." ++ name) params (constructorBody b c)]

/-- The host type of an operand or a result of an operator; none where it has no category. -/
def operandType? (m : TypeMap) (ty : DeclaredType) : Emission (Option MarshaledType) :=
  match m.map ty with
  | .error _ => .ok none
  | .ok type => type.map some

/-- The item of an operator; one whose right operand is any variant has none. -/
def operatorItem (m : TypeMap) (b : Builtin) (o : BuiltinOperator) (n : Nat) :
    Reserving (List BuiltinItem) := do
  match o.right? with
  | none =>
    let some returns ← operandType? m o.returns | return []
    let ident ← Naming.ident (← reserve ("op_" ++ o.operator.methodSuffix) n)
    return [.operator ident (o.operator.engineName ++ " " ++ b.name) o.operator none returns]
  | some right =>
    if right.name? == some "Variant" then return []
    let some rightType ← operandType? m right | return []
    let some returns ← operandType? m o.returns | return []
    let ident ← Naming.ident
      (← reserve ("op_" ++ o.operator.methodSuffix ++ "_" ++ Text.lower right.text) n)
    return [.operator ident (b.name ++ " " ++ o.operator.engineName ++ " " ++ right.text) o.operator
      (some rightType) returns]

/-- The items of operators, which are numbered. -/
def operatorItems (m : TypeMap) (b : Builtin) (n : Nat) :
    List BuiltinOperator → Reserving (List BuiltinItem)
  | [] => return []
  | o :: rest => do
    let items ← operatorItem m b o n
    return items ++ (← operatorItems m b (n + 1) rest)

/-- Whether a method is called on a value. -/
def onValue (method : Method) : Bool :=
  method.scope != .static

/-- The item of a method. -/
def methodItem (m : TypeMap) (b : Builtin) (method : Method) : Emission BuiltinItem := do
  let params ← m.mapParams b.name method.name method.params
  let returns? ← m.mapReturns b.name method.name method.returns?
  return .method (← Naming.ident method.name) method.name params returns?

/-- The items that are given names here. -/
def namedItems (m : TypeMap) (b : Builtin) : Reserving (List BuiltinItem) := do
  let constants ← b.constants.mapM (constantItem b)
  if Naming.isScalar b.hostName then return constants.flatten
  let constructors ← b.constructors.mapM (constructorItem m b)
  let operators ← operatorItems m b 0 b.operators
  return constants.flatten ++ constructors.flatten ++ operators

/-- What is generated for a builtin type, if it gets a trait. -/
def ofBuiltin (m : TypeMap) (b : Builtin) : Emission (Option BuiltinUnit) := do
  if !hasTrait b then return none
  let traitIdent ← Naming.ident (Naming.builtinTrait b.name b.hostName)
  let receiver ← Naming.hostType b.hostName
  let methods := b.methods.filter onValue
  let named ← (namedItems m b).run' (methods.map Method.name)
  let methods ← (methods.filter Method.isBindable).mapM (methodItem m b)
  return some { name := b.name, kind := b.kind, traitIdent, receiver, items := named ++ methods }

/-! ## Code -/

open Code Marshal TypeMap

/-- The variant of the value itself. -/
def selfVariant : Code :=
  fixed "&::gdbind_runtime::ToVariant::to_variant(self)"

/-- The signature of a function. -/
def signature (ident : String) (inputs : List Code) (output : Code) : Code :=
  fixed "fn" ++ word ident ++ paren (commas inputs) ++ output

/-- The declaration of an item, without its end. -/
def head : BuiltinItem → Code
  | .constant ident _ => fixed "const" ++ word ident ++ fixed ": Self"
  | .constructor ident _ params _ =>
    signature ident (params.map MappedParam.input) (fixed "-> Self")
  | .operator ident _ _ right? returns =>
    signature ident (fixed "&self" :: right?.toList.map fun type => fixed "rhs:" ++ type.code)
      (fixed "->" ++ returns.code)
  | .method ident _ params returns? =>
    signature ident (fixed "&self" :: params.map MappedParam.input) (output returns?)

/-- The body of a constructor. -/
def constructorCode (u : BuiltinUnit) (context : String) (params : List MappedParam) :
    ConstructorBody → Code
  | .componentwise components type =>
    fixed "Self" ++
      brace (commas (components.zipWith
        (fun name p => word name ++ fixed ":" ++ word p.ident ++ fixed "as" ++ word type.name)
        params))
  | .engine index =>
    arguments (encodedParams params) ++
      fixed "let ret = ::gdbind_runtime::backend::construct_builtin" ++
      paren
        (Marshal.kind u.kind ++ fixed "," ++ word (toString index ++ "u32") ++ fixed ", &args") ++
      fixed ";" ++ decodeReturn (word "Self") context

/-- What follows the declaration of an item where it is defined. -/
def definition (u : BuiltinUnit) : BuiltinItem → Code
  | .constant _ values =>
    fixed "= Self" ++
      brace (commas (values.map fun (name, value) => word name ++ fixed ":" ++ value.code)) ++
      fixed ";"
  | .constructor _ context params body => brace (u.constructorCode context params body)
  | .operator _ context operator right? returns =>
    let right := match right? with
      | some _ => encode (word "rhs")
      | none => runtimeCase "Variant" "Nil"
    brace
      (fixed "let ret = ::gdbind_runtime::backend::evaluate_operator" ++
        paren
          (commas [runtimeCase "VariantOperator" operator.caseName, selfVariant,
            .mark '&' :: right]) ++
        fixed ";" ++ decodeReturn returns.code context)
  | .method _ engineName params returns? =>
    let call := fixed "::gdbind_runtime::backend::call_builtin" ++
      paren (commas [selfVariant, text engineName, fixed "&args"])
    brace
      (callBody (arguments (encodedParams params)) call returns? (u.name ++ "." ++ engineName))

/-- The code of a trait and its implementation. -/
def code (u : BuiltinUnit) : Code :=
  doc (" Engine constants, constructors, operators and methods of `" ++ u.name ++ "`") ++
    fixed "pub trait" ++ word u.traitIdent ++ fixed ": Sized" ++
    brace (u.items.flatMap fun item => head item ++ fixed ";") ++
    fixed "impl" ++ word u.traitIdent ++ fixed "for" ++ u.receiver ++
    brace (u.items.flatMap fun item => head item ++ u.definition item)

end BuiltinUnit

/-- The enumerations of builtin types, under names without dots. -/
def EnumUnit.ofBuiltins (builtins : List Builtin) : Emission (List EnumUnit) :=
  (builtins.flatMap fun b => b.enums.map fun e => (b, e)).mapM fun (b, e) =>
    EnumUnit.ofDescriptor (Naming.flatEnum (b.name ++ "." ++ e.name)) e

end EngineBindings
