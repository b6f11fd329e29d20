import EngineBindings.Variant.Value

/-!
# Arrays

Arrays of values, which may say what their elements are.  Only the kind of an element is checked
when it is added; an array passes for an array of a typing if it carries just that typing.
-/

namespace EngineBindings

/-- An array, typed or not. -/
structure VariantArray where
  items : List Variant
  typing? : Option ArrayTyping
  deriving Inhabited

/-- Why an array or an element does not fit a typing. -/
inductive ArrayTypeError where
  | untyped (expected : ArrayTyping)
  | mismatch (expected found : ArrayTyping)
  | element (index : Nat) (expected : ArrayTyping) (found : VariantKind)
  deriving DecidableEq, Inhabited

/-- The text of an error. -/
def ArrayTypeError.message : ArrayTypeError → String
  | .untyped expected => "expected Array[" ++ expected.text ++ "], got an untyped Array"
  | .mismatch expected found =>
    "expected Array[" ++ expected.text ++ "], got Array[" ++ found.text ++ "]"
  | .element index expected found =>
    "element " ++ toString index ++ " is " ++ found.engineName ++ ", expected " ++ expected.text

namespace VariantArray

/-- The empty array of a typing. -/
def empty (typing? : Option ArrayTyping) : VariantArray :=
  ⟨[], typing?⟩

/-- An array as a value. -/
def toVariant (a : VariantArray) : Variant :=
  .array a.items a.typing?

/-- Adds an element; a typed array takes only elements of its kind. -/
def push (a : VariantArray) (value : Variant) : Except ArrayTypeError VariantArray :=
  match a.typing? with
  | some typing =>
    if value.kind = typing.element then .ok { a with items := a.items ++ [value] }
    else .error (.element a.items.length typing value.kind)
  | none => .ok { a with items := a.items ++ [value] }

/-- The array, if it carries a typing. -/
def withTyping (a : VariantArray) (expected : ArrayTyping) : Except ArrayTypeError VariantArray :=
  match a.typing? with
  | none => .error (.untyped expected)
  | some found => if found = expected then .ok a else .error (.mismatch expected found)

/-- Whether two arrays are equal. -/
def equals (a b : VariantArray) : Bool :=
  a.toVariant.equals b.toVariant

end VariantArray

end EngineBindings
