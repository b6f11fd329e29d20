import EngineBindings.Declaration.Class
import EngineBindings.Marshal.Proxy

/-!
# Declarations of methods

A block of methods of a class may expose some of them to the engine.  A callable runs when the
engine calls its name; a signal is a method without a body, whose call tells the engine.
`ExposedMethods.ofDeclaration` reads a block, or gives all that is wrong with it.
-/

namespace EngineBindings

/-- A block of methods. -/
structure MethodsDeclaration where
  block : ImplSyntax
  /-- What names are handed to that no callable has. -/
  virtuals? : Option Code
  deriving Inhabited

/-- How a method is exposed. -/
inductive Exposure where
  | callable
  | signal
  deriving DecidableEq, Inhabited

/-- A parameter of an exposed method. -/
structure ExposedParam where
  ident : String
  type : MarshaledType
  deriving Inhabited

/-- A method that the engine may call. -/
structure Callable where
  ident : String
  /-- How it takes its object, if it takes one. -/
  receiver? : Option ReceiverForm
  params : List ExposedParam
  returns? : Option MarshaledType
  deriving Inhabited

/-- A signal of a class. -/
structure ExposedSignal where
  ident : String
  params : List ExposedParam
  deriving Inhabited

/-- An exposed method of a class. -/
inductive ExposedMember where
  | callable (c : Callable)
  | signal (s : ExposedSignal)
  deriving Inhabited

/-- The methods that a block exposes. -/
structure ExposedMethods where
  /-- The block that stays: without the marks, and with the bodies of signals. -/
  block : ImplSyntax
  members : List ExposedMember
  virtuals? : Option Code
  deriving Inhabited

namespace MethodSyntax

open Code

/-- How an attribute exposes a method. -/
def exposureOf? : AttributeSyntax → Option Exposure
  | .word name :: rest =>
    let exposure := match name with
      | "callable" => some .callable
      | "signal" => some .signal
      | _ => none
    match rest with
    | .mark ':' :: _ => none
    | _ => exposure
  | _ => none

/-- The marks of a method. -/
def exposures (m : MethodSyntax) : List Exposure :=
  (m.attributes ++ m.innerAttributes).filterMap exposureOf?

/-- A method without its marks. -/
def unmarked (m : MethodSyntax) : MethodSyntax :=
  let isOther (a : AttributeSyntax) := (exposureOf? a).isNone
  { m with
    attributes := m.attributes.filter isOther
    innerAttributes := m.innerAttributes.filter isOther }

/-- Whether a word is a name that a pattern can give. -/
def isPatternName (word : String) : Bool :=
  word == "self" || (Text.isIdentifier word && Lexeme.isFree word) ||
    ((Text.stripLead? "r#" word).any Text.isIdentifier)

/-- Code without a word at its start. -/
def dropWord (w : String) : Code → Code
  | .word v :: rest => if v = w then rest else .word v :: rest
  | c => c

/-- The identifier of a pattern that is a plain name; a bound on the name does not matter. -/
def plainName? (pattern : Code) : Option String :=
  match dropWord "mut" (dropWord "ref" pattern) with
  | [.word name] => if isPatternName name then some name else none
  | .word name :: .mark '@' :: _ => if isPatternName name then some name else none
  | _ => none

/-- A parameter of an exposed method; the object and what has no type are none. -/
def param? : InputSyntax → Option (Except DeclarationError ExposedParam)
  | .typed _ pattern type =>
    match plainName? pattern with
    | none => some (.error .patternParameter)
    | some ident =>
      match TypeCategory.ofSyntax type none with
      | .ok category => some (.ok ⟨ident, .ofSyntax type category⟩)
      | .error e => some (.error (.type e))
  | _ => none

/-- The parameters of an exposed method, or all that is wrong with them. -/
def exposedParams (m : MethodSyntax) : Declared (List ExposedParam) :=
  let results := m.signature.inputs.filterMap param?
  let errors := results.filterMap fun
    | .ok _ => none
    | .error e => some e
  if errors.isEmpty then .ok (results.filterMap Except.toOption) else .error errors

/-- What an exposed method gives back. -/
def exposedResult (m : MethodSyntax) : Declared (Option MarshaledType) :=
  match m.signature.result? with
  | none => .ok none
  | some (.other [.group .paren []]) => .ok none
  | some type =>
    match TypeCategory.ofSyntax type none with
    | .ok category => .ok (some (.ofSyntax type category))
    | .error e => .error [.type e]

/-- How a method takes its object, if it takes one. -/
def receiver? (m : MethodSyntax) : Option ReceiverForm :=
  match m.signature.inputs with
  | .receiver form _ :: _ => some form
  | _ => none

/-- The callable that a method is. -/
def callable (m : MethodSyntax) : Declared Callable := do
  if m.receiver? = some .other then throw [.callableReceiver]
  let params ← m.exposedParams
  let returns? ← m.exposedResult
  return ⟨m.signature.ident, m.receiver?, params, returns?⟩

/-- The signal that a method is. -/
def signal (m : MethodSyntax) : Declared ExposedSignal := do
  if m.receiver? ≠ some .shared then throw [.signalReceiver]
  if (← m.exposedResult).isSome then throw [.signalResult]
  if !m.body.isEmpty then throw [.signalBody]
  return ⟨m.signature.ident, ← m.exposedParams⟩

/-- How a method is exposed, if it is. -/
def exposed (m : MethodSyntax) : Declared (Option ExposedMember) :=
  match m.exposures with
  | [] => .ok none
  | [.callable] => m.callable.map (some ∘ .callable)
  | [.signal] => m.signal.map (some ∘ .signal)
  | _ :: more => .error (more.map fun _ => .repeatedExposure)

end MethodSyntax

namespace ExposedSignal

open Code Marshal

/-- The body of the method of a signal: it tells the engine. -/
def body (s : ExposedSignal) : Code :=
  fixed "::gdbind_runtime::backend::emit_signal" ++
    paren
      (fixed "::gdbind_runtime::ExportedClass::base_handle(self)," ++ text s.ident ++
        fixed ", &" ++ bracket (commas (s.params.map fun p => encode (word p.ident))) ++
        fixed ",") ++
    fixed ";"

end ExposedSignal

namespace ExposedMethods

/-- A method as it stays in its block. -/
def settled (m : MethodSyntax) : Option ExposedMember → MethodSyntax
  | some (.signal s) => { m.unmarked with body := s.body }
  | _ => m.unmarked

/-- The items that stay and the exposed methods, or all that is wrong with them. -/
def ofItems : List ImplItem → Declared (List (ImplItem × Option ExposedMember))
  | [] => .ok []
  | .other c :: rest => (ofItems rest).map ((.other c, none) :: ·)
  | .method m :: rest =>
    match m.exposed, ofItems rest with
    | .ok member, .ok more => .ok ((.method (settled m member), member) :: more)
    | .ok _, .error errors => .error errors
    | .error errors, .ok _ => .error errors
    | .error errors, .error more => .error (errors ++ more)

/-- The methods that a block exposes, or all that is wrong with it. -/
def ofDeclaration (d : MethodsDeclaration) : Declared ExposedMethods := do
  if d.block.trait?.isSome then throw [.notInherent]
  if !d.block.params.isEmpty then throw [.genericClass]
  let items ← ofItems d.block.items
  return ⟨{ d.block with items := items.map Prod.fst }, items.filterMap Prod.snd, d.virtuals?⟩

end ExposedMethods

namespace Callable

/-- How the engine dispatches a callable. -/
def flags (c : Callable) : MethodFlags :=
  match c.receiver? with
  | none => MethodFlags.normal.union .static
  | some .shared => MethodFlags.normal.union .const
  | some _ => .normal

/-- The proxy by which the engine calls a callable of a class. -/
def proxy (c : Callable) (className : String) : MethodProxy where
  context := className ++ "." ++ c.ident
  params := c.params.map ExposedParam.type
  returns := c.returns?.isSome

open Code Marshal

/-- The call of a callable with the arguments that were read. -/
def call (c : Callable) (locals : List Code) : Code :=
  fixed "Self::" ++ word c.ident ++
    paren (commas (if c.receiver?.isNone then locals else word "self" :: locals))

/-- The arm for the name of a callable. -/
def arm (c : Callable) (className : String) : Code :=
  Code.arm (text c.ident)
    (fixed "::gdbind_runtime::CallOutcome::Returned" ++
      paren ((c.proxy className).code c.call))

end Callable

namespace ExposedMember

open Code Marshal

/-- The code of the record of a value. -/
def infoCode (name : String) (type : MarshaledType) : Code :=
  (PropertyOutline.of name type.category .usual).code type.code

/-- The code of the records of parameters. -/
def paramInfos (params : List ExposedParam) : Code :=
  fixed "::std::vec!" ++
    bracket (commas (params.map fun p => infoCode (Naming.unescaped p.ident) p.type))

/-- The statement that registers an exposed method. -/
def registration : ExposedMember → Code
  | callable c =>
    fixed "builder.add_method" ++
      paren
        (fixed "::gdbind_runtime::MethodInfo" ++
          brace
            (fixed "name:" ++ ownedText c.ident ++ fixed ", arguments:" ++ paramInfos c.params ++
              fixed ", return_value:" ++
              (match c.returns? with
                | none => fixed "::core::option::Option::None"
                | some type => fixed "::core::option::Option::Some" ++ paren (infoCode "" type)) ++
              fixed ", flags:" ++ PropertyOutline.bitsCode "MethodFlags" c.flags.bits ++
              fixed ",")) ++
      fixed ";"
  | signal s =>
    fixed "builder.add_signal" ++
      paren
        (fixed "::gdbind_runtime::SignalInfo" ++
          brace
            (fixed "name:" ++ ownedText s.ident ++ fixed ", arguments:" ++ paramInfos s.params ++
              fixed ",")) ++
      fixed ";"

/-- The arm for the name of an exposed method; signals are not called by name. -/
def arm (className : String) : ExposedMember → Code
  | callable c => c.arm className
  | signal _ => []

end ExposedMember

namespace ExposedMethods

open Code

/-- What happens to a name that no callable has. -/
def fallback (e : ExposedMethods) : Code :=
  match e.virtuals? with
  | some dispatcher => dispatcher ++ fixed "(self, method, args)"
  | none => fixed "::gdbind_runtime::CallOutcome::NotFound"

/-- The code of a block and of what its exposed methods are for the engine. -/
def code (e : ExposedMethods) : Code :=
  e.block.code ++
    fixed "impl ::gdbind_runtime::ClassMethods for" ++ e.block.type.code ++
    brace
      (fixed "#[allow(unused_variables)]" ++
        fixed "fn register_methods(builder: &mut ::gdbind_runtime::ClassBuilder)" ++
        brace (e.members.flatMap ExposedMember.registration) ++
        fixed "#[allow(unused_variables)] fn dispatch_method" ++
        fixed "(&mut self, method: &str, args: &::gdbind_runtime::Arguments<'_>,)" ++
        fixed "-> ::gdbind_runtime::CallOutcome" ++
        brace
          (fixed "match method" ++
            brace
              (e.members.flatMap (ExposedMember.arm e.block.type.code.compact) ++
                Code.arm (fixed "_") e.fallback)))

end ExposedMethods

end EngineBindings
