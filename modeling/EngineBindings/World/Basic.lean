import EngineBindings.Marshal.Setter
import EngineBindings.Object.Table
import EngineBindings.World.Request
import EngineBindings.World.UserClass

/-!
# The world at run time

The objects, the registered classes, the engine, and the reports of what went wrong.  Calls of
members by name read their arguments, act, and encode what they give back; what cannot be read is
reported and changes nothing.
-/

namespace EngineBindings

/-- The state of the program at run time. -/
structure World where
  objects : ObjectTable Instance
  classes : ClassDatabase
  engine : ScriptedEngine
  /-- The reports so far, in order. -/
  reports : List String
  deriving Inhabited

/-- How a field takes a new object in the place of an old one: it retains the new one before it
releases the old one. -/
def FieldOwnership.exchange {ι : Type} (o : FieldOwnership) (new? old? : Option ObjectHandle)
    (objects : ObjectTable ι) : ObjectTable ι :=
  let retain (objects : ObjectTable ι) (handle : ObjectHandle) (dynamic : Bool) :=
    if dynamic then objects.retainIfCounted handle else objects.retain handle
  let release (objects : ObjectTable ι) (handle : ObjectHandle) (dynamic : Bool) :=
    if dynamic then objects.releaseIfCounted handle else objects.release handle
  match o with
  | .untracked => objects
  | .shared _ dynamic =>
    let retained := match new? with
      | some handle => retain objects handle dynamic
      | none => objects
    match old? with
    | some handle => release retained handle dynamic
    | none => retained

/-- What a method does to the world and the fields of its object with its arguments, and what it
gives back. -/
abbrev MethodEffect := World → Fields → List HostValue → World × Fields × Option HostValue

/-- The effect of a method that acts on nothing but the fields. -/
def MethodEffect.ofBody (body : MethodBody) : MethodEffect := fun w fields values =>
  (w, body fields values)

namespace World

/-- A world without objects and classes. -/
def empty : World :=
  ⟨.empty, .empty, .empty, []⟩

/-- What conversion asks of the objects and classes. -/
def view (w : World) : ObjectView :=
  ⟨w.objects.classOf?, w.classes.isSubclass⟩

/-- Adds a report. -/
def report (w : World) (message : String) : World :=
  { w with reports := w.reports ++ [message] }

/-! ## The engine -/

/-- Asks the engine; a failure is reported, and gives the empty value. -/
def ask (w : World) (request : EngineRequest) : World × Variant :=
  match w.engine.reply request with
  | (engine, .ok value) => ({ w with engine }, value)
  | (engine, .error e) =>
    ({ w with engine }.report
      ("Error calling `" ++ request.context ++ "`: " ++ e.message), .nil)

/-- Tells the engine of a signal; a failure is reported. -/
def emit (w : World) (object : ObjectHandle) (name : String) (args : List Variant) : World :=
  let request := EngineRequest.signal object name args
  match w.engine.emit request with
  | (engine, .ok ()) => { w with engine }
  | (engine, .error e) =>
    { w with engine }.report ("Error calling `" ++ request.context ++ "`: " ++ e.message)

/-- The value of a type that the engine gave back; one that cannot be read is reported and gives the
value that the type has by itself. -/
def decodeReturn (w : World) (type : HostType) (value : Variant) (context : String) :
    World × Option HostValue :=
  match type.decode w.view value with
  | .ok value => (w, some value)
  | .error e =>
    (w.report ("Error calling `" ++ context ++ "`: return value: " ++ e.message), type.zero?)

/-! ## Members by name -/

/-- Runs the setter of a property on the fields of an instance. -/
def setProperty (w : World) (c : UserClass) (fields : Fields) (name : String)
    (p : ExportedProperty) (args : List Variant) : World × Fields :=
  let category := p.type.category
  match (ArgumentDecoder.ofCategory category true).read w.view (c.typeOf p.type) args 0 with
  | .error e =>
    (w.report ("Error setting `" ++ c.exported.name ++ "." ++ name ++ "`: expected " ++
      category.text ++ ", " ++ e.message), fields)
  | .ok none => (w, fields)
  | .ok (some value) =>
    let old := fields.value p.field
    let objects :=
      (FieldOwnership.ofCategory category).exchange value.object? old.object? w.objects
    ({ w with objects }, fields.set p.field value)

/-- The values of parameters from an index on, or why the first that cannot be read is none. -/
def readParams (w : World) (c : UserClass) (args : List Variant) :
    Nat → List MarshaledType → Except ArgumentError (List HostValue)
  | _, [] => .ok []
  | index, type :: rest => do
    let decoder := ArgumentDecoder.ofCategory type.category false
    let value ← decoder.read w.view (c.typeOf type) args index
    return value.getD .absent :: (← readParams w c args (index + 1) rest)

/-- Runs a method with the values of its arguments, once all of them were read. -/
def runProxy (w : World) (c : UserClass) (fields : Fields) (proxy : MethodProxy)
    (args : List Variant) (method : MethodEffect) : World × Fields × Option Variant :=
  match w.readParams c args 0 proxy.params with
  | .error e => (w.report ("Error calling `" ++ proxy.context ++ "`: " ++ e.message), fields, none)
  | .ok values =>
    let (w, fields, result?) := method w fields values
    (w, fields, if proxy.returns then result?.map HostValue.encode else none)

/-- Runs a callable on the fields of an instance. -/
def runCallable (w : World) (c : UserClass) (fields : Fields) (m : Callable)
    (args : List Variant) : World × Fields × Option Variant :=
  w.runProxy c fields (m.proxy c.methods.block.type.code.compact) args (.ofBody (c.body m.ident))

/-- Runs the method of a name: a callable, or else what other calls are handed to. -/
def dispatchMethod (w : World) (c : UserClass) (fields : Fields) (self : ObjectHandle)
    (name : String) (args : List Variant) : World × Fields × CallOutcome :=
  match c.callable? name with
  | some m =>
    let (w, fields, result?) := w.runCallable c fields m args
    (w, fields, .returned result?)
  | none => (w, fields, c.virtuals self name args)

/-- Runs the member of a name: an accessor of a property, or else a method. -/
def runMember (w : World) (i : Instance) (self : ObjectHandle) (name : String)
    (args : List Variant) : World × Fields × CallOutcome :=
  let c := i.userClass
  match c.access? name with
  | some (.set, property, p) =>
    let (w, fields) := w.setProperty c i.fields property p args
    (w, fields, .returned none)
  | some (.get, _, p) => (w, i.fields, .returned (some (i.fields.value p.field).encode))
  | none => w.dispatchMethod c i.fields self name args

/-- Calls a member of an object by name. -/
def call (w : World) (handle : ObjectHandle) (name : String) (args : List Variant) :
    World × Except CallError (Option Variant) :=
  match w.objects.get? handle with
  | none => (w, .error .deadObject)
  | some entry =>
    match entry.instance? with
    | none => (w, .error (.noInstance entry.className))
    | some i =>
      let (w, fields, outcome) := w.runMember i handle name args
      let w := { w with objects := w.objects.setInstance handle { i with fields } }
      match outcome with
      | .returned value? => (w, .ok value?)
      | .notFound => (w, .error (.unknownMethod entry.className name))

/-- Calls a signal of an object with encoded arguments, if its class has it. -/
def callSignal (w : World) (handle : ObjectHandle) (name : String) (args : List HostValue) :
    World :=
  match (w.objects.instance? handle).bind fun i => i.userClass.signal? name with
  | some s => w.emit handle s.ident (args.map HostValue.encode)
  | none => w

end World

end EngineBindings
