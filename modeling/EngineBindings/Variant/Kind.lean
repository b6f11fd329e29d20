/-!
# Kinds of variant values

Every kind of value that the engine's dynamic calling convention can carry, in the engine's order,
with its two names: the engine's own and the one of the host type that represents it.
-/

namespace EngineBindings

/-- A kind of variant value. -/
inductive VariantKind where
  | nil
  | bool
  | int
  | float
  | string
  | vector2
  | vector2i
  | rect2
  | rect2i
  | vector3
  | vector3i
  | transform2D
  | vector4
  | vector4i
  | plane
  | quaternion
  | aabb
  | basis
  | transform3D
  | projection
  | color
  | stringName
  | nodePath
  | rid
  | object
  | callable
  | signal
  | dictionary
  | array
  | packedByteArray
  | packedInt32Array
  | packedInt64Array
  | packedFloat32Array
  | packedFloat64Array
  | packedStringArray
  | packedVector2Array
  | packedVector3Array
  | packedColorArray
  | packedVector4Array
  deriving DecidableEq, Inhabited

namespace VariantKind

/-- All kinds in the engine's order. -/
def all : List VariantKind :=
  [nil, bool, int, float, string, vector2, vector2i, rect2, rect2i, vector3, vector3i, transform2D,
    vector4, vector4i, plane, quaternion, aabb, basis, transform3D, projection, color, stringName,
    nodePath, rid, object, callable, signal, dictionary, array, packedByteArray, packedInt32Array,
    packedInt64Array, packedFloat32Array, packedFloat64Array, packedStringArray,
    packedVector2Array, packedVector3Array, packedColorArray, packedVector4Array]

/-- The number of a kind in the engine's order. -/
def ordinal (kind : VariantKind) : Nat :=
  kind.ctorIdx

/-- The name of a kind in generated code. -/
def caseName : VariantKind → String
  | nil => "Nil"
  | bool => "Bool"
  | int => "Int"
  | float => "Float"
  | string => "String"
  | vector2 => "Vector2"
  | vector2i => "Vector2i"
  | rect2 => "Rect2"
  | rect2i => "Rect2i"
  | vector3 => "Vector3"
  | vector3i => "Vector3i"
  | transform2D => "Transform2D"
  | vector4 => "Vector4"
  | vector4i => "Vector4i"
  | plane => "Plane"
  | quaternion => "Quaternion"
  | aabb => "Aabb"
  | basis => "Basis"
  | transform3D => "Transform3D"
  | projection => "Projection"
  | color => "Color"
  | stringName => "StringName"
  | nodePath => "NodePath"
  | rid => "Rid"
  | object => "Object"
  | callable => "Callable"
  | signal => "Signal"
  | dictionary => "Dictionary"
  | array => "Array"
  | packedByteArray => "PackedByteArray"
  | packedInt32Array => "PackedInt32Array"
  | packedInt64Array => "PackedInt64Array"
  | packedFloat32Array => "PackedFloat32Array"
  | packedFloat64Array => "PackedFloat64Array"
  | packedStringArray => "PackedStringArray"
  | packedVector2Array => "PackedVector2Array"
  | packedVector3Array => "PackedVector3Array"
  | packedColorArray => "PackedColorArray"
  | packedVector4Array => "PackedVector4Array"

/-- The name of a kind in the engine's reflection data. -/
def engineName : VariantKind → String
  | bool => "bool"
  | int => "int"
  | float => "float"
  | aabb => "AABB"
  | rid => "RID"
  | kind => kind.caseName

/-- The name of the host type that represents a kind. -/
def hostName : VariantKind → String
  | nil => "()"
  | bool => "bool"
  | int => "i64"
  | float => "f64"
  | string => "GString"
  | array => "VariantArray"
  | kind => kind.caseName

/-- The kind with an engine name. -/
def ofEngineName? (name : String) : Option VariantKind :=
  all.find? (fun kind => kind.engineName == name)

/-- The kind with a host name. -/
def ofHostName? (name : String) : Option VariantKind :=
  all.find? (fun kind => kind.hostName == name)

/-- The kind with a name of generated code. -/
def ofCaseName? (name : String) : Option VariantKind :=
  all.find? (fun kind => kind.caseName == name)

/-- Whether a kind is one of the packed arrays. -/
def isPackedArray (kind : VariantKind) : Bool :=
  packedByteArray.ordinal ≤ kind.ordinal

end VariantKind

end EngineBindings
