import EngineBindings.Host.Conversion
import EngineBindings.Variant.Operator

/-!
# Requests to the engine

What the host asks of the engine, and why a call may fail.
-/

namespace EngineBindings

/-- Why a call failed. -/
inductive CallError where
  | noBackend
  | deadObject
  | noInstance (className : String)
  | unknownMethod (className method : String)
  | engine (text : String)
  deriving DecidableEq, Inhabited

/-- The text of an error. -/
def CallError.message : CallError → String
  | .noBackend => "no engine backend installed"
  | .deadObject => deadObjectMessage
  | .noInstance className => "`" ++ className ++ "` object has no script instance"
  | .unknownMethod className method => "`" ++ className ++ "` has no method `" ++ method ++ "`"
  | .engine text => text

/-- What the host asks of the engine. -/
inductive EngineRequest where
  /-- A method of a class, on an object or on none. -/
  | method (object? : Option ObjectHandle) (className method : String) (args : List Variant)
  /-- A method of a builtin value. -/
  | builtin (receiver : Variant) (method : String) (args : List Variant)
  | utility (function : String) (args : List Variant)
  /-- A constructor of a builtin value, by its number. -/
  | construct (kind : VariantKind) (constructor : Nat) (args : List Variant)
  | operator (op : VariantOperator) (left right : Variant)
  | signal (object : ObjectHandle) (name : String) (args : List Variant)
  deriving Inhabited

namespace EngineRequest

/-- What a report of a failed request calls it. -/
def context : EngineRequest → String
  | method _ className name _ => className ++ "." ++ name
  | builtin receiver name _ => receiver.kind.engineName ++ "." ++ name
  | utility function _ => function
  | construct kind constructor _ => kind.engineName ++ " constructor " ++ toString constructor
  | operator op left right =>
    left.kind.engineName ++ " " ++ op.engineName ++ " " ++ right.kind.engineName
  | signal _ name _ => name

/-- What is asked for. -/
def subject : EngineRequest → String
  | method _ className name _ => "method " ++ className ++ "." ++ name
  | builtin _ name _ => "builtin " ++ name
  | utility function _ => "utility " ++ function
  | construct kind constructor _ =>
    "construct " ++ kind.engineName ++ " " ++ toString constructor
  | operator op _ _ => "operator " ++ op.engineName
  | signal _ name _ => "signal " ++ name

/-- The object that a request is about. -/
def object? : EngineRequest → Option ObjectHandle
  | method object? _ _ _ => object?
  | signal object _ _ => some object
  | _ => none

/-- The values that go with a request. -/
def values : EngineRequest → List Variant
  | method _ _ _ args => args
  | builtin receiver _ args => receiver :: args
  | utility _ args => args
  | construct _ _ args => args
  | operator _ left right => [left, right]
  | signal _ _ args => args

end EngineRequest

/-- An engine whose replies are known beforehand. -/
structure ScriptedEngine where
  replies : List (Except CallError Variant)
  /-- The requests so far, the latest first. -/
  requests : List EngineRequest
  singletons : List (String × ObjectHandle)
  deriving Inhabited

namespace ScriptedEngine

/-- An engine without replies. -/
def empty : ScriptedEngine :=
  ⟨[], [], []⟩

/-- The next reply to a request; without one there is no engine to reply. -/
def reply (e : ScriptedEngine) (request : EngineRequest) :
    ScriptedEngine × Except CallError Variant :=
  let asked := { e with requests := request :: e.requests, replies := e.replies.tail }
  (asked, e.replies.head?.getD (.error .noBackend))

/-- What becomes of a signal, which fails only if the reply is an error. -/
def emit (e : ScriptedEngine) (request : EngineRequest) : ScriptedEngine × Except CallError Unit :=
  let asked := { e with requests := request :: e.requests, replies := e.replies.tail }
  (asked, (e.replies.head?.getD (.ok .nil)).map fun _ => ())

end ScriptedEngine

end EngineBindings
