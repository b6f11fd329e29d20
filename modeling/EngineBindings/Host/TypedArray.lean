import EngineBindings.Host.Conversion

/-!
# Arrays of host values

An array that carries the typing of an element type.  Its elements are read by decoding; elements
that are no values of the type are passed over.
-/

namespace EngineBindings

/-- An array whose typing is the one of an element type. -/
structure TypedArray where
  element : HostType
  array : VariantArray
  deriving Inhabited

namespace TypedArray

/-- The empty array of an element type. -/
def empty (element : HostType) : TypedArray :=
  ⟨element, .empty (some element.elementTyping)⟩

/-- An array that carries the typing of an element type. -/
def ofArray (element : HostType) (array : VariantArray) : Except ArrayTypeError TypedArray :=
  (array.withTyping element.elementTyping).map (⟨element, ·⟩)

/-- Adds a value of the element type. -/
def push (a : TypedArray) (value : HostValue) : TypedArray :=
  { a with array := { a.array with items := a.array.items ++ [value.encode] } }

/-- The array of some values of the element type. -/
def collect (element : HostType) (values : List HostValue) : TypedArray :=
  values.foldl push (empty element)

/-- The number of elements. -/
def size (a : TypedArray) : Nat :=
  a.array.items.length

/-- An element, if it is a value of the element type. -/
def get? (a : TypedArray) (view : ObjectView) (index : Nat) : Option HostValue :=
  a.array.items[index]?.bind fun v => (a.element.decode view v).toOption

/-- The elements that are values of the element type. -/
def values (a : TypedArray) (view : ObjectView) : List HostValue :=
  a.array.items.filterMap fun v => (a.element.decode view v).toOption

/-- An array as a value. -/
def toVariant (a : TypedArray) : Variant :=
  a.array.toVariant

end TypedArray

end EngineBindings
