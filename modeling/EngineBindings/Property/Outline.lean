import EngineBindings.Property.Hint
import EngineBindings.Property.Usage
import EngineBindings.TypeCategory

/-!
# What is recorded of a property

The editor is told of every exported property, argument and result: its kind, the class of its
objects, and how it is to be shown.  Enumerations are shown by their names, which are known only
where the enumeration is; an outline says so, and gives the record once the enumeration is at hand.
-/

namespace EngineBindings

/-- What an attribute says of how a property is shown and kept. -/
structure PropertySpec where
  /-- Without a hint, the category of the type chooses one. -/
  hint? : Option PropertyHint
  hintString? : Option String
  usage : PropertyUsage
  deriving DecidableEq, Inhabited

/-- An attribute that says nothing. -/
def PropertySpec.usual : PropertySpec :=
  ⟨none, none, .usual⟩

/-- The record of a property, an argument or a result. -/
structure PropertyInfo where
  name : String
  kind : VariantKind
  /-- The class of an object, or of the objects in an array. -/
  className? : Option String
  hint : PropertyHint
  hintString : String
  usage : PropertyUsage
  deriving DecidableEq, Inhabited

/-- The record of a name and a kind alone. -/
def PropertyInfo.ofKind (name : String) (kind : VariantKind) : PropertyInfo :=
  ⟨name, kind, none, .none, "", .usual⟩

/-- How a property is shown. -/
inductive HintChoice where
  | fixed (hint : PropertyHint)
  /-- As flags or as a choice, whichever the enumeration is. -/
  | ofEnumeration
  deriving DecidableEq, Inhabited

/-- The details of how a property is shown. -/
inductive HintText where
  | fixed (content : String)
  /-- The names and numbers of the enumeration. -/
  | ofEnumeration
  deriving DecidableEq, Inhabited

/-- What is known of a property before its enumeration, if it has one. -/
structure PropertyOutline where
  name : String
  kind : VariantKind
  className? : Option String
  hint : HintChoice
  hintText : HintText
  usage : PropertyUsage
  deriving DecidableEq, Inhabited

namespace PropertyOutline

/-- The class of a category: of its objects, or of the objects in its arrays. -/
def classOf? : TypeCategory → Option String
  | .object className _ _ => some className
  | .collection (.object className _ _) => some className
  | _ => none

/-- What the editor is shown of the elements of an array. -/
def elementText : TypeCategory → String
  | .object className _ _ => className
  | other => other.variantKind.engineName

/-- How a property is shown, by its category and what the attribute says. -/
def hintOf (category : TypeCategory) (spec : PropertySpec) : HintChoice × HintText :=
  match spec.hint? with
  | some hint => (.fixed hint, .fixed (spec.hintString?.getD ""))
  | none =>
    match category with
    | .enumeration _ =>
      (.ofEnumeration, (spec.hintString?.map HintText.fixed).getD .ofEnumeration)
    | .collection element =>
      (.fixed .arrayType, .fixed (spec.hintString?.getD (elementText element)))
    | _ => (.fixed .none, .fixed (spec.hintString?.getD ""))

/-- How a property is kept; the empty value is a value of a variant that may be absent. -/
def usageOf (category : TypeCategory) (spec : PropertySpec) : PropertyUsage :=
  match category with
  | .variant true => spec.usage.union .nilIsVariant
  | _ => spec.usage

/-- The outline of a property. -/
def of (name : String) (category : TypeCategory) (spec : PropertySpec) : PropertyOutline where
  name := name
  kind := category.variantKind
  className? := classOf? category
  hint := (hintOf category spec).1
  hintText := (hintOf category spec).2
  usage := usageOf category spec

/-- The record of a property whose enumeration is a bit field or not, with the text of its names
and numbers. -/
def info (o : PropertyOutline) (isBitfield : Bool) (names : String) : PropertyInfo where
  name := o.name
  kind := o.kind
  className? := o.className?
  hint := match o.hint with
    | .fixed hint => hint
    | .ofEnumeration => if isBitfield then .flags else .enumeration
  hintString := match o.hintText with
    | .fixed content => content
    | .ofEnumeration => names
  usage := o.usage

end PropertyOutline

end EngineBindings
