import EngineBindings.Number.Binary
import EngineBindings.Variant.Kind

/-!
# Variant values

The values of the engine's dynamic calling convention.  Floating-point numbers are their bits, and
objects are handles.  Values compare as the engine compares them: numbers that are none differ from
themselves, zero has no sign, and collections are compared item by item in order.
-/

namespace EngineBindings

/-- The key of an object: its place in the order of creation. -/
structure ObjectHandle where
  index : Nat
  deriving DecidableEq, Inhabited

/-- The kinds of texts. -/
inductive TextKind where
  | string
  | stringName
  | nodePath
  deriving DecidableEq, Inhabited

namespace TextKind

/-- The kind of variant of a kind of text. -/
def kind : TextKind → VariantKind
  | string => .string
  | stringName => .stringName
  | nodePath => .nodePath

/-- All kinds of texts. -/
def all : List TextKind :=
  [string, stringName, nodePath]

end TextKind

/-- The value types that are made of floating-point components of 32 bits. -/
inductive RealShape where
  | vector2
  | vector3
  | vector4
  | rect2
  | transform2D
  | plane
  | quaternion
  | aabb
  | basis
  | transform3D
  | projection
  | color
  deriving DecidableEq, Inhabited

namespace RealShape

/-- The number of components. -/
def size : RealShape → Nat
  | vector2 => 2
  | vector3 => 3
  | vector4 | rect2 | plane | quaternion | color => 4
  | transform2D | aabb => 6
  | basis => 9
  | transform3D => 12
  | projection => 16

/-- The kind of variant of a value type. -/
def kind : RealShape → VariantKind
  | vector2 => .vector2
  | vector3 => .vector3
  | vector4 => .vector4
  | rect2 => .rect2
  | transform2D => .transform2D
  | plane => .plane
  | quaternion => .quaternion
  | aabb => .aabb
  | basis => .basis
  | transform3D => .transform3D
  | projection => .projection
  | color => .color

/-- All value types. -/
def all : List RealShape :=
  [vector2, vector3, vector4, rect2, transform2D, plane, quaternion, aabb, basis, transform3D,
    projection, color]

end RealShape

/-- The value types that are made of integers of 32 bits. -/
inductive IntShape where
  | vector2i
  | vector3i
  | vector4i
  | rect2i
  deriving DecidableEq, Inhabited

namespace IntShape

/-- The number of components. -/
def size : IntShape → Nat
  | vector2i => 2
  | vector3i => 3
  | vector4i | rect2i => 4

/-- The kind of variant of a value type. -/
def kind : IntShape → VariantKind
  | vector2i => .vector2i
  | vector3i => .vector3i
  | vector4i => .vector4i
  | rect2i => .rect2i

/-- All value types. -/
def all : List IntShape :=
  [vector2i, vector3i, vector4i, rect2i]

end IntShape

/-- The value types of which there are packed arrays. -/
inductive PackedShape where
  | vector2
  | vector3
  | color
  | vector4
  deriving DecidableEq, Inhabited

namespace PackedShape

/-- The value type of the items. -/
def item : PackedShape → RealShape
  | vector2 => .vector2
  | vector3 => .vector3
  | color => .color
  | vector4 => .vector4

/-- The kind of variant of a packed array. -/
def kind : PackedShape → VariantKind
  | vector2 => .packedVector2Array
  | vector3 => .packedVector3Array
  | color => .packedColorArray
  | vector4 => .packedVector4Array

/-- All value types of which there are packed arrays. -/
def all : List PackedShape :=
  [vector2, vector3, color, vector4]

end PackedShape

/-- The items of a packed array. -/
inductive PackedItems where
  | bytes (items : List UInt8)
  | ints32 (items : List Int32)
  | ints64 (items : List Int64)
  | floats32 (items : List UInt32)
  | floats64 (items : List UInt64)
  | strings (items : List String)
  | reals (shape : PackedShape) (items : List (Vector UInt32 shape.item.size))
  deriving DecidableEq

/-- The kind of variant of a packed array. -/
def PackedItems.kind : PackedItems → VariantKind
  | bytes _ => .packedByteArray
  | ints32 _ => .packedInt32Array
  | ints64 _ => .packedInt64Array
  | floats32 _ => .packedFloat32Array
  | floats64 _ => .packedFloat64Array
  | strings _ => .packedStringArray
  | reals shape _ => shape.kind

/-- What the elements of a typed array are. -/
structure ArrayTyping where
  element : VariantKind
  /-- The class of elements that are objects. -/
  className? : Option String
  deriving DecidableEq, Inhabited

/-- The text of a typing. -/
def ArrayTyping.text (t : ArrayTyping) : String :=
  t.className?.getD t.element.engineName

/-- A value of the engine's dynamic calling convention. -/
inductive Variant where
  | nil
  | bool (value : Bool)
  | int (value : Int64)
  | float (bits : UInt64)
  | text (kind : TextKind) (content : String)
  | reals (shape : RealShape) (components : Vector UInt32 shape.size)
  | ints (shape : IntShape) (components : Vector Int32 shape.size)
  | rid (id : UInt64)
  | object (handle : ObjectHandle)
  | callable (object? : Option ObjectHandle) (method : String)
  | signal (object? : Option ObjectHandle) (name : String)
  | dictionary (entries : List (Variant × Variant))
  | array (items : List Variant) (typing? : Option ArrayTyping)
  | packed (items : PackedItems)
  deriving Inhabited

namespace Variant

/-- The kind of a value. -/
def kind : Variant → VariantKind
  | nil => .nil
  | bool _ => .bool
  | int _ => .int
  | float _ => .float
  | text kind _ => kind.kind
  | reals shape _ => shape.kind
  | ints shape _ => shape.kind
  | rid _ => .rid
  | object _ => .object
  | callable _ _ => .callable
  | signal _ _ => .signal
  | dictionary _ => .dictionary
  | array _ _ => .array
  | packed items => items.kind

/-- Whether a value is the empty one. -/
def isNil : Variant → Bool
  | nil => true
  | _ => false

/-- The object of a value. -/
def object? : Variant → Option ObjectHandle
  | object handle => some handle
  | _ => none

/-! ## Comparison -/

/-- Whether two numbers of 32 bits are equal. -/
def equalFloat32 (a b : UInt32) : Bool :=
  BinaryFormat.binary32.equal a.toNat b.toNat

/-- Whether two numbers of 64 bits are equal. -/
def equalFloat64 (a b : UInt64) : Bool :=
  BinaryFormat.binary64.equal a.toNat b.toNat

/-- Whether two lists are equal item by item. -/
def equalLists {α : Type} (equal : α → α → Bool) : List α → List α → Bool
  | [], [] => true
  | a :: as, b :: bs => equal a b && equalLists equal as bs
  | _, _ => false

/-- Whether two packed arrays are equal. -/
def equalPacked : PackedItems → PackedItems → Bool
  | .floats32 a, .floats32 b => equalLists equalFloat32 a b
  | .floats64 a, .floats64 b => equalLists equalFloat64 a b
  | .reals shape a, .reals other b =>
    shape == other &&
      equalLists (fun a b => equalLists equalFloat32 a b) (a.map (·.toList)) (b.map (·.toList))
  | a, b => a == b

mutual

/-- Whether two values are equal. -/
def equals : Variant → Variant → Bool
  | nil, nil => true
  | bool a, bool b => a == b
  | int a, int b => a == b
  | float a, float b => equalFloat64 a b
  | text kind a, text other b => kind == other && a == b
  | reals shape a, reals other b =>
    shape == other && equalLists equalFloat32 a.toList b.toList
  | ints shape a, ints other b => shape == other && a.toList == b.toList
  | rid a, rid b => a == b
  | object a, object b => a == b
  | callable a method, callable b other => a == b && method == other
  | signal a name, signal b other => a == b && name == other
  | dictionary a, dictionary b => equalEntries a b
  | array a typing?, array b other? => equalItems a b && typing? == other?
  | packed a, packed b => equalPacked a b
  | _, _ => false

/-- Whether two lists of values are equal item by item. -/
def equalItems : List Variant → List Variant → Bool
  | [], [] => true
  | a :: as, b :: bs => equals a b && equalItems as bs
  | _, _ => false

/-- Whether two lists of entries are equal entry by entry. -/
def equalEntries : List (Variant × Variant) → List (Variant × Variant) → Bool
  | [], [] => true
  | (key, value) :: as, (other, content) :: bs =>
    equals key other && equals value content && equalEntries as bs
  | _, _ => false

end

/-! ## The value of a kind that stands for none -/

/-- The value that a kind has by itself: zero, empty, or no object. -/
def zero (kind : VariantKind) : Variant :=
  match kind with
  | .nil | .object => nil
  | .bool => bool false
  | .int => int 0
  | .float => float 0
  | .rid => rid 0
  | .callable => callable none ""
  | .signal => signal none ""
  | .dictionary => dictionary []
  | .array => array [] none
  | .packedByteArray => packed (.bytes [])
  | .packedInt32Array => packed (.ints32 [])
  | .packedInt64Array => packed (.ints64 [])
  | .packedFloat32Array => packed (.floats32 [])
  | .packedFloat64Array => packed (.floats64 [])
  | .packedStringArray => packed (.strings [])
  | kind =>
    match TextKind.all.find? (·.kind == kind) with
    | some k => text k ""
    | none =>
      match RealShape.all.find? (·.kind == kind) with
      | some shape => reals shape (.replicate shape.size 0)
      | none =>
        match IntShape.all.find? (·.kind == kind) with
        | some shape => ints shape (.replicate shape.size 0)
        | none =>
          match PackedShape.all.find? (·.kind == kind) with
          | some shape => packed (.reals shape [])
          | none => nil

end Variant

end EngineBindings
