import EngineBindings.Variant.Dictionary
import EngineBindings.World.Basic

/-!
# A garage

A worked example: three enumerations and three classes of a host, declared with every kind of
property, group, callable and signal, and the engine classes that they extend.
-/

namespace EngineBindings.Garage

open Code

/-! ## Engine classes -/

/-- The root of all classes. -/
def objectClass : EngineClass := ⟨"Object", none, false⟩

/-- The root of all counted classes. -/
def refCountedClass : EngineClass := ⟨"RefCounted", some "Object", true⟩

/-- The class of shared data. -/
def resourceClass : EngineClass := ⟨"Resource", some "RefCounted", true⟩

/-- The class of pictures. -/
def textureClass : EngineClass := ⟨"Texture", some "Resource", true⟩

/-- The class of the parts of a scene. -/
def nodeClass : EngineClass := ⟨"Node", some "Object", false⟩

/-- The engine classes, parents first. -/
def engineClasses : List EngineClass :=
  [objectClass, refCountedClass, resourceClass, textureClass, nodeClass]

/-! ## Enumerations -/

/-- A case with a number, or without one. -/
def case (ident : String) (number? : Option Int) (attributes : List Attribute) :
    CaseDeclaration :=
  ⟨ident, number?, .none, attributes⟩

/-- What a well-formed declaration declares. -/
def declared {α : Type} [Inhabited α] (d : Declared α) : α :=
  d.toOption.getD default

/-- The teams that cars drive for. -/
def team : DerivedEnum :=
  declared <| DerivedEnum.ofDeclaration
    { ident := "Team"
      attributes := [⟨"repr", some [⟨"i32", .word⟩]⟩]
      cases? := some
        [case "Red" none [], case "Blue" (some 4) [],
          case "Green" (some (-2)) [⟨"godot_enum", some [⟨"rename", .text "Dark Green"⟩]⟩]] }

/-- The modes of cars. -/
def mode : DerivedEnum :=
  declared <| DerivedEnum.ofDeclaration
    { ident := "Mode"
      attributes := [⟨"repr", some [⟨"i64", .word⟩]⟩]
      cases? := some
        [case "Off" none [], case "On" none [], case "Huge" (some 5000000000) []] }

/-- The layers that cars are on. -/
def layers : DerivedEnum :=
  declared <| DerivedEnum.ofDeclaration
    { ident := "Layers"
      attributes := [⟨"godot_enum", some [⟨"bitfield", .word⟩]⟩]
      cases? := some [case "Ground" (some 1) [], case "Air" (some 2) []] }

/-- The enumerations and classes of the garage. -/
def names : HostNames :=
  ⟨[team, mode, layers], [("Cassette", "Tape")]⟩

/-! ## Declarations -/

/-- A type that is a name. -/
def plain (name : String) : TypeSyntax :=
  .named name []

/-- A type with one type as its argument. -/
def generic (name argument : String) : TypeSyntax :=
  .named name [plain argument]

/-- A field with its type and attributes. -/
def field (name : String) (type : TypeSyntax) (attributes : List Attribute) : FieldDeclaration :=
  ⟨name, type, attributes⟩

/-- An export mark without items. -/
def plainExport : Attribute :=
  ⟨"export", none⟩

/-- An export mark with items. -/
def exportWith (items : List AttributeItem) : Attribute :=
  ⟨"export", some items⟩

/-- A mark that opens a group. -/
def groupMark (name lead : String) : Attribute :=
  ⟨"export_group", some [⟨"name", .text name⟩, ⟨"prefix", .text lead⟩]⟩

/-- The declaration of cars. -/
def carDeclaration : ClassDeclaration where
  ident := "Car"
  params := ⟨[], true⟩
  attributes := [⟨"class", some [⟨"base", .text "Node"⟩]⟩]
  body := .named
    [field "base" (generic "Base" "Node") [],
      field "ymms_year" (plain "i64") [groupMark "Year Made" "ymms_", plainExport],
      field "non_prefixed_bool" (plain "bool") [plainExport],
      field "engine_power" (plain "f64")
        [⟨"export_subgroup", some [⟨"name", .text "Engine"⟩, ⟨"prefix", .text "engine_"⟩]⟩,
          exportWith [⟨"hint", .text "range"⟩, ⟨"hint_string", .text "0,500"⟩]],
      field "ymms_team" (plain "Team") [exportWith [⟨"enum_width", .integer 32⟩]],
      field "mode" (plain "Mode")
        [exportWith [⟨"enum_width", .integer 64⟩, ⟨"usage", .text "storage"⟩]],
      field "resource" (generic "Option" "Resource")
        [⟨"export_group", some [⟨"name", .text "Refs"⟩]⟩, plainExport],
      field "target" (generic "Option" "Node") [plainExport],
      field "skin" (plain "Resource") [plainExport],
      field "passengers" (generic "TypedArray" "i64") [plainExport],
      field "parts" (generic "TypedArray" "Resource") [plainExport],
      field "teams" (generic "TypedArray" "Team") [exportWith [⟨"enum_width", .integer 32⟩]],
      field "tag" (plain "Variant") [plainExport],
      field "maybe" (generic "Option" "Variant") [plainExport],
      field "small_" (plain "u8") [groupMark "Small" "small_", plainExport],
      field "small_tag" (plain "i8") [plainExport],
      field "ratio" (plain "f32") [exportWith [⟨"rename", .text "small_ratio"⟩]],
      field "title" (plain "GString")
        [exportWith [⟨"hint", .text "multiline_text"⟩, ⟨"usage", .text "editor|read_only"⟩]],
      field "layers" (plain "Layers") [exportWith [⟨"enum_width", .integer 64⟩]],
      field "honks" (plain "i64") []]

/-- A method with a mark, and without anything in its body. -/
def method (mark ident : String) (receiver : Option ReceiverForm)
    (params : List (String × TypeSyntax)) (result? : Option TypeSyntax) : ImplItem :=
  let object : Option InputSyntax := receiver.map fun
    | .shared => .receiver .shared (.mark '&' :: word "self")
    | .exclusive => .receiver .exclusive (.mark '&' :: word "mut" ++ word "self")
    | .other => .receiver .other (word "self")
  .method {
    attributes := [word mark]
    signature := {
      qualifiers := []
      ident
      params := ⟨[], true⟩
      inputs := object.toList ++ params.map fun (name, type) => .typed [] (word name) type
      result?
      conditions := [] }
    innerAttributes := []
    body := [] }

/-- A method that the engine may call. -/
def callable (ident : String) (receiver : Option ReceiverForm)
    (params : List (String × TypeSyntax)) (result? : Option TypeSyntax) : ImplItem :=
  method "callable" ident receiver params result?

/-- A signal. -/
def signal (ident : String) (params : List (String × TypeSyntax)) : ImplItem :=
  method "signal" ident (some .shared) params none

/-- The block of exposed methods of a class. -/
def block (type : String) (items : List ImplItem) (virtuals? : Option Code) :
    MethodsDeclaration where
  block := {
    lead := []
    params := ⟨[], true⟩
    trait? := none
    type := plain type
    conditions := []
    innerAttributes := []
    items }
  virtuals? := virtuals?

/-- The methods of cars.  What they do is said by `carBody`. -/
def carMethods : MethodsDeclaration :=
  let whole := plain "i64"
  block "Car"
    [callable "honk" (some .exclusive) [("times", whole), ("team", plain "Team")] (some whole),
      callable "wheel_count" none [] (some whole),
      callable "total" (some .shared) [("values", generic "TypedArray" "i64")] (some whole),
      callable "swap" (some .exclusive) [("with", generic "Option" "Resource")]
        (some (generic "Option" "Resource")),
      callable "reset" (some .exclusive) [] none,
      callable "narrow" (some .shared)
        [("a", plain "u8"), ("b", plain "i16"), ("c", plain "f32")] (some (plain "Variant")),
      callable "get_year" (some .shared) [] (some whole),
      signal "crashed" [("speed", plain "f64"), ("into", generic "Option" "Node")],
      signal "parked" []]
    none

/-- The declaration of radios. -/
def radioDeclaration : ClassDeclaration where
  ident := "Radio"
  params := ⟨[], true⟩
  attributes := [⟨"class", some [⟨"init_level", .text "servers"⟩]⟩]
  body := .named [field "base" (generic "Base" "Node") []]

/-- The declaration of cassettes. -/
def cassetteDeclaration : ClassDeclaration where
  ident := "Cassette"
  params := ⟨[], true⟩
  attributes :=
    [⟨"class", some [⟨"rename", .text "Tape"⟩, ⟨"init_level", .text "editor"⟩]⟩]
  body := .named
    [field "base" (generic "Base" "Resource") [],
      field "side" (plain "StringName") [plainExport]]

/-! ## What the methods do -/

/-- The whole number of a value. -/
def number : HostValue → Int
  | .integer n => n
  | .enumeration n => n
  | _ => 0

/-- A sum in 64 bits. -/
def add64 (a b : Int) : Int :=
  IntegerType.i64.wrap (a + b)

/-- The elements of an array of whole numbers. -/
def numbersOf : HostValue → List Int
  | .typedArray array =>
    array.items.filterMap fun
      | .int n => some n.toInt
      | _ => none
  | _ => []

/-- What the methods of cars do. -/
def carBody : String → MethodBody
  | "honk", fields, [times, team] =>
    let honks := number (fields.value "honks")
    let honks :=
      if number team = number (fields.value "ymms_team") then add64 honks (number times) else honks
    (fields.set "honks" (.integer honks), some (.integer honks))
  | "wheel_count", fields, _ => (fields, some (.integer 4))
  | "total", fields, [values] =>
    (fields, some (.integer ((numbersOf values).foldl add64 (number (fields.value "honks")))))
  | "swap", fields, [new] => (fields.set "resource" new, some (fields.value "resource"))
  | "reset", fields, _ => (fields.set "honks" (.integer 0), none)
  | "narrow", fields, [a, b, c] =>
    let d := (Dictionary.empty.insert a.encode b.encode).insert b.encode c.encode
    (fields, some (.variant d.toVariant))
  | "get_year", fields, _ => (fields, some (.integer (-1)))
  | _, fields, _ => (fields, none)

/-- What the methods of radios do. -/
def radioBody : String → MethodBody
  | "volume", fields, [level] =>
    (fields, some (.bool (match level with
      | .absent => false
      | _ => true)))
  | _, fields, _ => (fields, none)

/-- What becomes of other calls to radios. -/
def radioVirtuals (self : ObjectHandle) (name : String) (args : List Variant) : CallOutcome :=
  match name with
  | "_tune" => .returned (some (.int (.ofNat args.length)))
  | "_handle" => .returned (some (.object self))
  | _ => .notFound

/-! ## Classes -/

/-- No other calls are answered. -/
def noVirtuals (_ : ObjectHandle) (_ : String) (_ : List Variant) : CallOutcome :=
  .notFound

/-- Cars. -/
def car : UserClass where
  exported := declared (ExportedClass.ofDeclaration carDeclaration)
  methods := declared (ExposedMethods.ofDeclaration carMethods)
  base := nodeClass
  names := names
  body := carBody
  virtuals := noVirtuals

/-- Radios. -/
def radio : UserClass where
  exported := declared (ExportedClass.ofDeclaration radioDeclaration)
  methods := declared <| ExposedMethods.ofDeclaration
    (block "Radio"
      [callable "volume" (some .shared) [("level", generic "Option" "Variant")]
        (some (plain "bool"))]
      (some (word "radio_virtuals")))
  base := nodeClass
  names := names
  body := radioBody
  virtuals := radioVirtuals

/-- Cassettes. -/
def cassette : UserClass where
  exported := declared (ExportedClass.ofDeclaration cassetteDeclaration)
  methods := declared (ExposedMethods.ofDeclaration (block "Cassette" [] none))
  base := resourceClass
  names := names
  body := fun _ fields _ => (fields, none)
  virtuals := noVirtuals

/-! ## Objects -/

/-- A world in which the engine classes are registered. -/
def engineWorld : World :=
  { World.empty with
    classes := engineClasses.foldl (fun db c => db.register c.name c.parent? c.isRefCounted)
      World.empty.classes }

/-- The fields of a new car with a skin. -/
def carFields (skin : ObjectHandle) : Fields :=
  let int64s := HostType.primitive (.integer .i64)
  let array (element : HostType) := HostValue.typedArray (.empty (some element.elementTyping))
  [("ymms_year", .integer 0), ("non_prefixed_bool", .bool false), ("engine_power", .float64 0),
    ("ymms_team", .enumeration 0), ("mode", .enumeration 0), ("resource", .absent),
    ("target", .absent), ("skin", .object skin), ("passengers", array int64s),
    ("parts", array (.object "Resource")), ("teams", array (.enumeration team)),
    ("tag", .variant .nil), ("maybe", .absent), ("small_", .integer 0), ("small_tag", .integer 0),
    ("ratio", .float32 0), ("title", .builtin (.text .string "car")), ("layers", .enumeration 1),
    ("honks", .integer 0)]

/-- Creates an object of a class of the host. -/
def create (w : World) (c : UserClass) (fields : Fields) : ObjectHandle × World :=
  let (handle, objects) :=
    w.objects.create c.exported.name c.base.isRefCounted (some ⟨c, fields⟩)
  (handle, { w with objects })

/-- Creates a car with a skin of its own, to which it holds the one reference. -/
def newCar (w : World) : ObjectHandle × World :=
  let (handle, w) := create w car []
  let (skin, objects) := w.objects.create resourceClass.name resourceClass.isRefCounted none
  let objects := (objects.retain skin).setInstance handle ⟨car, carFields skin⟩
  (handle, { w with objects })

/-- Creates a radio. -/
def newRadio (w : World) : ObjectHandle × World :=
  create w radio []

/-- Creates a cassette. -/
def newCassette (w : World) : ObjectHandle × World :=
  create w cassette [("side", .builtin (.text .stringName "A"))]

/-- The instance of an object, if it is one of a class. -/
def instanceOf? (w : World) (c : UserClass) (handle : ObjectHandle) : Option Instance :=
  (w.objects.instance? handle).filter fun i => i.userClass.exported.ident == c.exported.ident

/-- Changes a field of a car, and gives its old value. -/
def setCarField (w : World) (handle : ObjectHandle) (field : String) (value : HostValue) :
    World × Option HostValue :=
  match instanceOf? w car handle with
  | some i =>
    let changed := { i with fields := i.fields.set field value }
    ({ w with objects := w.objects.setInstance handle changed }, some (i.fields.value field))
  | none => (w, none)

/-- Calls a signal of a car, if an object is one. -/
def signalCar (w : World) (handle : ObjectHandle) (name : String) (args : List HostValue) :
    World × Bool :=
  match instanceOf? w car handle with
  | some _ => (w.callSignal handle name args, true)
  | none => (w, false)

end EngineBindings.Garage
