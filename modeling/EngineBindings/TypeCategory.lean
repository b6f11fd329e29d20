import EngineBindings.DeclaredType
import EngineBindings.Primitive

/-!
# Type categories

How values of a declared type travel between host and engine.  `classify` gives every declared
type the one category that its shape and the known names of enumerations and classes allow, or
says why it has none.  Names of primitive types win over enumerations, and those over classes.
-/

namespace EngineBindings

/-- The width of the number that carries an enumeration. -/
inductive EnumWidth where
  | bits32
  | bits64
  deriving DecidableEq, Inhabited

namespace EnumWidth

/-- The width in bits. -/
def bits : EnumWidth → Nat
  | bits32 => 32
  | bits64 => 64

/-- The width with a number of bits. -/
def ofBits? : Nat → Option EnumWidth
  | 32 => some bits32
  | 64 => some bits64
  | _ => none

end EnumWidth

/-- Whether references to a class are counted. -/
inductive RefCounting where
  | counted
  | uncounted
  /-- Known only when the object is at hand. -/
  | dynamic
  deriving DecidableEq, Inhabited

namespace RefCounting

/-- The counting of a class whose own flag is known. -/
def ofFlag (isRefCounted : Bool) : RefCounting :=
  if isRefCounted then counted else uncounted

/-- The name of a kind of counting. -/
def name : RefCounting → String
  | counted => "Yes"
  | uncounted => "No"
  | dynamic => "Dynamic"

end RefCounting

/-- How values of a type travel. -/
inductive TypeCategory where
  /-- Converted directly. -/
  | primitive (type : Primitive)
  /-- Carried as a number. -/
  | enumeration (width : EnumWidth)
  /-- Passed through as a variant. -/
  | variant (nullable : Bool)
  /-- An array whose elements all have one category. -/
  | collection (element : TypeCategory)
  /-- A reference to an object of a class. -/
  | object (className : String) (nullable : Bool) (counting : RefCounting)
  deriving DecidableEq, Inhabited

namespace TypeCategory

/-- The kind of variant that carries values of a category. -/
def variantKind : TypeCategory → VariantKind
  | primitive type => type.variantKind
  | enumeration _ => .int
  | variant _ => .nil
  | collection _ => .array
  | object _ _ _ => .object

/-- Whether a value may be absent. -/
def isNullable : TypeCategory → Bool
  | variant nullable => nullable
  | object _ nullable _ => nullable
  | _ => false

/-- The class of an object reference. -/
def className? : TypeCategory → Option String
  | object className _ _ => some className
  | _ => none

/-- The text of a category. -/
def text : TypeCategory → String
  | primitive type => type.hostName
  | enumeration width => "enum (" ++ toString width.bits ++ "-bit)"
  | variant true => "Option<Variant>"
  | variant false => "Variant"
  | collection element => "TypedArray<" ++ element.text ++ ">"
  | object className true _ => "Option<" ++ className ++ ">"
  | object className false _ => className

end TypeCategory

/-- Why a type of a known shape cannot be exported. -/
inductive Rejection where
  | plainSequence (element : DeclaredType)
  | nestedOption
  | optionalCollection
  | optionalValue
  | missingElement
  | plainCollection
  | optionalElement
  | variantElement
  | nestedCollection
  deriving Inhabited, BEq

/-- What the author of a declaration is told to do instead. -/
def Rejection.help : Rejection → String
  | .plainSequence element =>
    "plain collections are not supported, use `TypedArray<" ++ element.text ++ ">` instead"
  | .nestedOption => "nested `Option` is not supported"
  | .optionalCollection => "collections are never null, use an empty `TypedArray` instead"
  | .optionalValue =>
    "optional value types are not supported, use `Variant` for nullable values"
  | .missingElement => "`TypedArray` needs an element type, use `TypedArray<T>`"
  | .plainCollection => "plain collections are not supported, use `TypedArray<T>` instead"
  | .optionalElement => "typed array elements cannot be optional"
  | .variantElement => "an array of `Variant` is untyped, use `VariantArray` instead"
  | .nestedCollection => "nested typed arrays are not supported by the engine"

/-- Why a type has no category. -/
inductive ClassifyError where
  /-- A known shape that cannot be exported. -/
  | rejected (type : DeclaredType) (why : Rejection)
  /-- Nothing known has this name or shape. -/
  | unclassifiable (type : String)
  deriving Inhabited, BEq

namespace ClassifyError

/-- The text of an error. -/
def message : ClassifyError → String
  | rejected type why => "the type `" ++ type.text ++ "` cannot be exported: " ++ why.help
  | unclassifiable type => "cannot classify type `" ++ type ++ "`"

end ClassifyError

/-- The names that classification knows. -/
structure TypeContext where
  /-- The width of a known enumeration. -/
  enumWidth? : String → Option EnumWidth
  /-- The reference counting of a known class. -/
  classCounting? : String → Option RefCounting

namespace TypeCategory

/-- The category of `Option` of a type, from the category of that type. -/
def nullableOf (whole : DeclaredType) : TypeCategory → Except ClassifyError TypeCategory
  | variant _ => .ok (variant true)
  | object className _ counting => .ok (object className true counting)
  | collection _ => .error (.rejected whole .optionalCollection)
  | primitive _ => .error (.rejected whole .optionalValue)
  | enumeration _ => .error (.rejected whole .optionalValue)

/-- The category of a typed array, from the category of its element. -/
def collectionOf (whole : DeclaredType) : TypeCategory → Except ClassifyError TypeCategory
  | primitive type => .ok (collection (primitive type))
  | enumeration width => .ok (collection (enumeration width))
  | object className false counting => .ok (collection (object className false counting))
  | object _ true _ => .error (.rejected whole .optionalElement)
  | variant _ => .error (.rejected whole .variantElement)
  | collection _ => .error (.rejected whole .nestedCollection)

/-- The collections of the host language, which the engine has no counterpart for. -/
def plainCollections : List String :=
  ["Vec", "VecDeque", "LinkedList", "HashSet", "BTreeSet"]

/-- The category of a bare name that is neither primitive nor an enumeration. -/
def ofBareName (context : TypeContext) (name : String) : Except ClassifyError TypeCategory :=
  if name = "Variant" then .ok (variant false)
  else if name = "TypedArray" then .error (.rejected (.plain name) .missingElement)
  else if plainCollections.contains name then .error (.rejected (.plain name) .plainCollection)
  else match context.classCounting? name with
    | some counting => .ok (object name false counting)
    | none => .error (.unclassifiable name)

/-- The category of a declared type. -/
def classify (context : TypeContext) : DeclaredType → Except ClassifyError TypeCategory
  | .pointer spelling => .error (.unclassifiable spelling)
  | .sequence element => .error (.rejected (.sequence element) (.plainSequence element))
  | .enumeration name _ =>
    match context.enumWidth? name with
    | some width => .ok (enumeration width)
    | none => .error (.unclassifiable name)
  | .optional (.optional inner) => .error (.rejected (.optional (.optional inner)) .nestedOption)
  | .optional inner =>
    match classify context inner with
    | .ok category => nullableOf (.optional inner) category
    | .error error => .error error
  | .named name [] =>
    match Primitive.ofHostName? name with
    | some type => .ok (primitive type)
    | none =>
      match context.enumWidth? name with
      | some width => .ok (enumeration width)
      | none => ofBareName context name
  | .named name [arg] =>
    if name = "TypedArray" then
      match classify context arg with
      | .ok category => collectionOf (.named name [arg]) category
      | .error error => .error error
    else if plainCollections.contains name then
      .error (.rejected (.named name [arg]) .plainCollection)
    else .error (.unclassifiable (DeclaredType.named name [arg]).text)
  | .named name (arg :: more) =>
    if plainCollections.contains name then
      .error (.rejected (.named name (arg :: more)) .plainCollection)
    else .error (.unclassifiable (DeclaredType.named name (arg :: more)).text)

end TypeCategory

end EngineBindings
