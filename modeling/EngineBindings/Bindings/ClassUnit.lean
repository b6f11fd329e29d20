import EngineBindings.Bindings.EnumUnit
import EngineBindings.Bindings.VirtualUnit

/-!
# Classes in generated code

An engine class becomes a handle that stands on its parent, with constants, constructors, methods,
property accessors and signals.  Functions are given their names in that order, and one whose name
is taken is left out.
-/

namespace EngineBindings

/-- An item of a class. -/
inductive ClassItem where
  | constant (ident : String) (value : Int)
  /-- Creates an object. -/
  | constructor (ident : String)
  /-- Gives the one object of the class. -/
  | singleton (ident : String)
  /-- Calls an engine method. -/
  | method (ident engineName : String) (isStatic : Bool) (params : List TypeMap.MappedParam)
      (returns? : Option MarshaledType)
  /-- Reads a property by an engine method. -/
  | getter (ident property engineName : String) (index? : Option Int) (type : MarshaledType)
  /-- Writes a property by an engine method. -/
  | setter (ident engineName : String) (index? : Option Int) (type : MarshaledType)
  /-- Names a signal. -/
  | signal (ident name : String)
  /-- Emits a signal. -/
  | emitter (ident name : String) (params : List TypeMap.MappedParam)
  deriving Inhabited

/-- The identifier of an item. -/
def ClassItem.ident : ClassItem → String
  | constant ident _ => ident
  | constructor ident => ident
  | singleton ident => ident
  | method ident _ _ _ _ => ident
  | getter ident _ _ _ _ => ident
  | setter ident _ _ _ => ident
  | signal ident _ => ident
  | emitter ident _ _ => ident

/-- What is generated for a class. -/
structure ClassUnit where
  name : String
  ident : String
  /-- The parent with its identifier. -/
  parent? : Option (String × String)
  isRefCounted : Bool
  level : Level
  items : List ClassItem
  enums : List EnumUnit
  virtuals? : Option VirtualUnit
  deriving Inhabited

namespace ClassUnit

/-! ## Items -/

/-- Takes a name for a function, unless it is taken. -/
def reserve (name : String) : Reserving Bool := do
  let taken ← get
  if taken.contains name then return false
  set (name :: taken)
  return true

/-- The constructors of a class. -/
def constructors (m : TypeMap) (c : ClassDescriptor) : Reserving (List ClassItem) := do
  let create ← if c.isInstantiable then reserve "new" else pure false
  let single ← if (m.schema.singleton? c.name).isSome then reserve "singleton" else pure false
  return (if create then [.constructor "new"] else []) ++
    (if single then [.singleton "singleton"] else [])

/-- The function for an engine method. -/
def methodItem (m : TypeMap) (c : ClassDescriptor) (method : Method) :
    Reserving (List ClassItem) := do
  if method.scope == .virtual || !method.isBindable then return []
  if !(← reserve method.name) then return []
  let params ← m.mapParams c.name method.name method.params
  let returns? ← m.mapReturns c.name method.name method.returns?
  let ident ← Naming.ident method.name
  return [.method ident method.name (method.scope == .static) params returns?]

/-- The method with a name on a class or its nearest ancestor that has one. -/
def lookupMethod? (m : TypeMap) (className method : String) : Option Method :=
  (className :: m.schema.ancestors className).findSome? fun name =>
    (m.schema.class? name).bind fun c => c.method? method

/-- Whether a name starts with an underscore. -/
def isPrivate (name : String) : Bool :=
  name.toList.head? == some '_'

/-- The type of a property, if it can be read: its getter is public, is declared, takes no more
than the index, and gives something back. -/
def readableType? (m : TypeMap) (c : ClassDescriptor) (p : Property) : Option DeclaredType := do
  if p.getter.isEmpty || isPrivate p.getter then none
  else
    let getter ← lookupMethod? m c.name p.getter
    if (if p.index?.isSome then 1 else 0) < getter.params.length then none
    else
      let returns ← getter.returns?
      if getter.usesPointers then none else some returns

/-- The accessors of a property. -/
def propertyItems (m : TypeMap) (c : ClassDescriptor) (p : Property) :
    Reserving (List ClassItem) := do
  match readableType? m c p with
  | none => return []
  | some declared =>
    let type ← m.mapMember c.name p.name declared
    let getter ← do
      if ← reserve p.name then
        pure [ClassItem.getter (← Naming.ident p.name) p.name p.getter p.index? type]
      else pure []
    let setter ← match p.setter? with
      | none => pure []
      | some setter => do
        if isPrivate setter then pure []
        else if ← reserve ("set_" ++ p.name) then
          let ident ← Naming.ident ("set_" ++ p.name)
          pure [ClassItem.setter ident setter p.index? type]
        else pure []
    return getter ++ setter

/-- The functions of a signal. -/
def signalItems (m : TypeMap) (c : ClassDescriptor) (s : Signal) : Reserving (List ClassItem) := do
  let accessor ← do
    if ← reserve ("signal_" ++ s.name) then
      pure [ClassItem.signal (← Naming.ident ("signal_" ++ s.name)) s.name]
    else pure []
  let emitter ← do
    if ← reserve ("emit_" ++ s.name) then
      let params ← m.mapParams c.name s.name s.params
      pure [ClassItem.emitter (← Naming.ident ("emit_" ++ s.name)) s.name params]
    else pure []
  return accessor ++ emitter

/-- The functions of a class. -/
def functions (m : TypeMap) (c : ClassDescriptor) : Reserving (List ClassItem) := do
  let created ← constructors m c
  let methods ← c.methods.mapM (methodItem m c)
  let properties ← c.properties.mapM (propertyItems m c)
  let signals ← c.signals.mapM (signalItems m c)
  return created ++ methods.flatten ++ properties.flatten ++ signals.flatten

/-- The parent of a class, which has to be available. -/
def parentOf (m : TypeMap) (c : ClassDescriptor) (module : String) :
    Emission (Option (String × String)) :=
  match c.parent? with
  | none => .ok none
  | some parent =>
    if m.isAvailable parent then (Naming.ident parent).map fun i => some (parent, i)
    else .error (.parentUnavailable c.name parent module)

/-- What is generated for a class in a module. -/
def ofClass (m : TypeMap) (c : ClassDescriptor) (level : Level) (module : String) :
    Emission ClassUnit := do
  let ident ← Naming.ident c.name
  let parent? ← parentOf m c module
  let constants ← c.constants.mapM fun k => do
    return ClassItem.constant (← Naming.ident k.name) k.value
  let functions ← (functions m c).run' []
  let virtuals? ← VirtualUnit.ofClass m c
  let enums ← c.enums.mapM fun e => EnumUnit.ofDescriptor e.name e
  return {
    name := c.name, ident, parent?, isRefCounted := c.isRefCounted, level,
    items := constants ++ functions, enums, virtuals? }

/-! ## Code -/

open Code Marshal TypeMap

/-- The handle of the object itself. -/
def selfHandle : Code :=
  fixed "Some" ++ paren (handle (word "self"))

/-- A call of an engine method. -/
def methodCall (u : ClassUnit) (object : Code) (engineName : String) : Code :=
  fixed "::gdbind_runtime::backend::call_method" ++
    paren (commas [object, text u.name, text engineName, fixed "&args"])

/-- The index of a property as an argument. -/
def indexArguments (index? : Option Int) : List Code :=
  index?.toList.map fun i => runtimeCase "Variant" "Int" ++ paren (numeral i "i64")

/-- A public function. -/
def function (ident : String) (inputs : List Code) (output body : Code) : Code :=
  fixed "pub fn" ++ word ident ++ paren (commas inputs) ++ output ++ brace body

/-- The code of an item. -/
def itemCode (u : ClassUnit) : ClassItem → Code
  | .constant ident value =>
    fixed "pub const" ++ word ident ++ fixed ": i64 =" ++ numeral value "i64" ++ fixed ";"
  | .constructor ident =>
    doc " Create a new engine object of this class" ++
      function ident [] (fixed "-> Self")
        (fixed "let handle = ::gdbind_runtime::object::create" ++
          paren
            (fixed "<Self as ::gdbind_runtime::GodotClass>::CLASS_NAME," ++
              fixed "<Self as ::gdbind_runtime::GodotClass>::REF_COUNTED,") ++
          fixed "; <Self as ::gdbind_runtime::ObjectRef>::from_handle_unchecked(handle)")
  | .singleton ident =>
    doc " The engine's single instance, if the engine provides one" ++
      function ident [] (fixed "-> Option<Self>")
        (fixed "::gdbind_runtime::backend::singleton" ++ paren (text u.name) ++
          fixed ".map(<Self as ::gdbind_runtime::ObjectRef>::from_handle_unchecked)")
  | .method ident engineName isStatic params returns? =>
    function ident
      ((if isStatic then [] else [fixed "&self"]) ++ params.map MappedParam.input)
      (output returns?)
      (callBody (arguments (encodedParams params))
        (u.methodCall (if isStatic then fixed "None" else selfHandle) engineName) returns?
        (u.name ++ "." ++ engineName))
  | .getter ident property engineName index? type =>
    function ident [fixed "&self"] (fixed "->" ++ type.code)
      (callBody (arguments (indexArguments index?)) (u.methodCall selfHandle engineName) (some type)
        (u.name ++ "." ++ property))
  | .setter ident engineName index? type =>
    function ident [fixed "&self", fixed "value:" ++ type.code] []
      (callBody (arguments (indexArguments index? ++ [encode (word "value")]))
        (u.methodCall selfHandle engineName) none "")
  | .signal ident name =>
    doc (" The `" ++ name ++ "` signal of this object") ++
      function ident [fixed "&self"] (fixed "-> ::gdbind_runtime::Signal")
        (Naming.runtime "Signal" ++
          brace
            (fixed "object:" ++ selfHandle ++
              fixed ", name: ::gdbind_runtime::StringName::from" ++ paren (text name) ++ fixed ","))
  | .emitter ident name params =>
    function ident (fixed "&self" :: params.map MappedParam.input) []
      (arguments (encodedParams params) ++
        fixed "::gdbind_runtime::backend::emit_signal" ++
        paren (commas [handle (word "self"), text name, fixed "&args"]) ++ fixed ";")

/-- The type of a class and what it stands on. -/
def definition (u : ClassUnit) : Code :=
  let docText := match u.parent? with
    | some (parent, _) => " Engine class `" ++ u.name ++ "`, inheriting `" ++ parent ++ "`."
    | none => " Engine class `" ++ u.name ++ "`."
  let field := match u.parent? with
    | some (_, parent) => fixed "base:" ++ word parent
    | none => fixed "handle: ::gdbind_runtime::ObjectHandle"
  let deref := match u.parent? with
    | some (_, parent) =>
      fixed "impl ::core::ops::Deref for" ++ word u.ident ++
        brace
          (fixed "type Target =" ++ word parent ++ fixed "; fn deref(&self) -> &" ++ word parent ++
            brace (fixed "&self.base"))
    | none => []
  let parentName := match u.parent? with
    | some (parent, _) => fixed "Some" ++ paren (text parent)
    | none => fixed "None"
  let ofHandle := match u.parent? with
    | some (_, parent) =>
      fixed "base: <" ++ word parent ++
        fixed "as ::gdbind_runtime::ObjectRef>::from_handle_unchecked(handle),"
    | none => fixed "handle"
  let toHandle := match u.parent? with
    | some _ => handle (fixed "&self.base")
    | none => fixed "self.handle"
  doc docText ++
    fixed "#[derive(Debug, Clone, Copy, PartialEq, Eq, Hash)] pub struct" ++ word u.ident ++
    brace field ++ deref ++
    fixed "impl ::gdbind_runtime::GodotClass for" ++ word u.ident ++
    brace
      (fixed "const CLASS_NAME: &'static str =" ++ text u.name ++
        fixed "; const PARENT_CLASS: Option<&'static str> =" ++ parentName ++
        fixed "; const REF_COUNTED: bool =" ++ word (toString u.isRefCounted) ++
        fixed "; const INIT_LEVEL: ::gdbind_runtime::InitializationLevel =" ++
        Marshal.level u.level ++ fixed ";") ++
    fixed "impl ::gdbind_runtime::ObjectRef for" ++ word u.ident ++
    brace
      (fixed "const CLASS: &'static str =" ++ text u.name ++
        fixed "; fn from_handle_unchecked(handle: ::gdbind_runtime::ObjectHandle) -> Self" ++
        brace (fixed "Self" ++ brace ofHandle) ++
        fixed "fn handle(&self) -> ::gdbind_runtime::ObjectHandle" ++ brace toHandle)

/-- The code of a class. -/
def code (u : ClassUnit) : Code :=
  u.definition ++ fixed "impl" ++ word u.ident ++ brace (u.items.flatMap u.itemCode) ++
    u.enums.flatMap EnumUnit.code ++ ((u.virtuals?.map VirtualUnit.code).getD [])

end ClassUnit

end EngineBindings
