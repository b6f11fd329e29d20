import EngineBindings.Declaration.TypeReader
import EngineBindings.Host.Conversion
import EngineBindings.Proofs.TypeCategory

/-!
# Kinds of encoded values

A declaration is classified by its names alone, and what a value is encoded as depends on what its
type is.  Both agree (`TypeCategory.carries_of_classify`) as long as names mean the same to both: a
name that nothing is said of is that of an object class, so an enumeration has to be told of
(`HostNames.Tell`), but for the elements of an array, whose kind does not show in that of the array.
-/

namespace EngineBindings

/-! ## Values of types -/

/-- The values of a type. -/
inductive HostType.Has : HostType → HostValue → Prop
  | bool (b : Bool) : Has (.primitive .bool) (.bool b)
  | integer {type : IntegerType} {n : Int} (hrange : type.contains n = true) :
      Has (.primitive (.integer type)) (.integer n)
  | float32 (bits : UInt32) : Has (.primitive .float32) (.float32 bits)
  | float64 (bits : UInt64) : Has (.primitive .float64) (.float64 bits)
  | builtin (v : Variant) : Has (.primitive (.builtin v.kind)) (.builtin v)
  | variant (v : Variant) : Has .variant (.variant v)
  | enumeration {e : DerivedEnum} {c : DerivedCase} (hcase : c ∈ e.cases) :
      Has (.enumeration e) (.enumeration c.number)
  | object (className : String) (handle : ObjectHandle) : Has (.object className) (.object handle)
  | typedArray (element : HostType) (items : List Variant) :
      Has (.typedArray element) (.typedArray ⟨items, some element.elementTyping⟩)
  | absent (inner : HostType) : Has (.option inner) .absent
  | present {inner : HostType} {x : HostValue} (hinner : Has inner x) :
      Has (.option inner) (.present x)

/-- Whether any variant can be a value of a type. -/
def HostType.IsOpaque : HostType → Prop
  | variant => True
  | option inner => inner.IsOpaque
  | _ => False

/-! ## Names -/

namespace HostNames

/-- Whether a declaration tells what its type is among the names of a host: the type is marked as an
enumeration if it is one, and only then. -/
structure Tell (names : HostNames) (type : DeclaredType) (width? : Option EnumWidth) : Prop where
  told : ∀ e, HostType.ofDeclared names type = .enumeration e ∨
    HostType.ofDeclared names type = .option (.enumeration e) → width? ≠ none
  /-- What is carried as the number of an enumeration is one, or else the code does not compile. -/
  marked : ∀ width, TypeCategory.classify (.ofDeclaration type width?) type =
    .ok (.enumeration width) → ∃ e, HostType.ofDeclared names type = .enumeration e

end HostNames

theorem HostType.ofDeclared_plain {names : HostNames} {name : String} :
    ofDeclared names (.plain name) = ofName names name :=
  rfl

theorem HostType.ofDeclared_optional {names : HostNames} {inner : DeclaredType} :
    ofDeclared names (.optional inner) = .option (ofDeclared names inner) :=
  rfl

theorem HostType.ofName_of_primitive {names : HostNames} {type : Primitive} (h : type.IsNamed) :
    ofName names type.hostName = .primitive type := by
  rw [ofName, Primitive.ofHostName?_eq_some_iff.mpr ⟨h, rfl⟩]

/-- A name that is neither primitive nor opaque is that of an enumeration or of a class. -/
theorem HostType.ofName_inv {names : HostNames} {name : String}
    (hprimitive : ¬Primitive.IsName name) (hvariant : name ≠ "Variant") :
    (∃ e, ofName names name = .enumeration e) ∨
      ∃ className, ofName names name = .object className := by
  rw [ofName, Primitive.ofHostName?_eq_none_iff.mpr hprimitive]
  simp only [hvariant, if_false]
  cases names.enumerations.find? (·.ident == name) with
  | some e => exact .inl ⟨e, rfl⟩
  | none => exact .inr ⟨_, rfl⟩

theorem HostType.ofName_variant {names : HostNames} : ofName names "Variant" = .variant := by
  rw [ofName, show Primitive.ofHostName? "Variant" = none by rfl]
  rfl

namespace TypeCategory

variable {names : HostNames} {type : DeclaredType} {width? : Option EnumWidth}
  {category : TypeCategory}

/-! ## Kinds -/

/-- Whether values of a type are encoded as a category says: as they are, or as a kind of their own
unless they are absent. -/
def Carries (category : TypeCategory) (type : HostType) : Prop :=
  (type.IsOpaque ∧ category.variantKind = .nil) ∨
    (¬type.IsOpaque ∧
      ∀ x, type.Has x → x.encode ≠ .nil → x.encode.kind = category.variantKind)

theorem carries_primitive (p : Primitive) : (primitive p).Carries (.primitive p) := by
  refine .inr ⟨id, fun x hx _ => ?_⟩
  cases hx <;> rfl

theorem carries_enumeration (width : EnumWidth) (e : DerivedEnum) :
    (enumeration width).Carries (.enumeration e) := by
  refine .inr ⟨id, fun x hx _ => ?_⟩
  cases hx
  rfl

theorem carries_collection (element : TypeCategory) (type : HostType) :
    (collection element).Carries (.typedArray type) := by
  refine .inr ⟨id, fun x hx _ => ?_⟩
  cases hx
  rfl

theorem carries_object (className name : String) (counting : RefCounting) :
    (object className false counting).Carries (.object name) := by
  refine .inr ⟨id, fun x hx _ => ?_⟩
  cases hx
  rfl

theorem carries_option_object (className name : String) (counting : RefCounting) :
    (object className true counting).Carries (.option (.object name)) := by
  refine .inr ⟨id, fun x hx hpresent => ?_⟩
  cases hx with
  | absent => exact absurd rfl hpresent
  | present hinner =>
    cases hinner
    rfl

/-! ## Agreement -/

/-- A name that a declaration takes for that of a class is one, if the declaration tells what its
type is. -/
theorem ofName_object {name : String} (hprimitive : ¬Primitive.IsName name)
    (hvariant : name ≠ "Variant") (hleaf : type.leafName? = some name)
    (hnone : (TypeContext.ofDeclaration type width?).enumWidth? name = none)
    (htold : ∀ e, HostType.ofName names name = .enumeration e → width? ≠ none) :
    ∃ className, HostType.ofName names name = .object className := by
  refine (HostType.ofName_inv hprimitive hvariant).resolve_left ?_
  rintro ⟨e, he⟩
  simp only [TypeContext.ofDeclaration, hleaf, if_true] at hnone
  exact htold e he hnone

/-- What a declaration says of a type is how values of the type are encoded. -/
theorem carries_of_classify
    (h : classify (.ofDeclaration type width?) type = .ok category)
    (htell : names.Tell type width?) : category.Carries (HostType.ofDeclared names type) := by
  cases classify_eq_ok_iff.mp h with
  | primitive hnamed =>
    rw [HostType.ofDeclared_plain, HostType.ofName_of_primitive hnamed]
    exact carries_primitive _
  | marked hwidth =>
    -- a width says nothing of the type itself, only that the code asks for an enumeration
    obtain ⟨e, he⟩ := htell.marked _ h
    rw [he]
    exact carries_enumeration _ e
  | enumeration hprimitive hwidth =>
    obtain ⟨e, he⟩ := htell.marked _ h
    rw [he]
    exact carries_enumeration _ e
  | variant henumeration =>
    rw [HostType.ofDeclared_plain, HostType.ofName_variant]
    exact .inl ⟨trivial, rfl⟩
  | optionalVariant hinner =>
    cases hinner
    rw [HostType.ofDeclared_optional, HostType.ofDeclared_plain, HostType.ofName_variant]
    exact .inl ⟨trivial, rfl⟩
  | @optionalObject inner className counting hinner =>
    cases hinner with
    | object hprimitive henumeration hvariant hcollection hclass =>
      obtain ⟨name, hname⟩ : ∃ name, HostType.ofName names className = .object name :=
        ofName_object hprimitive hvariant rfl henumeration
          fun e he => htell.told e (.inr (congrArg HostType.option he))
      rw [HostType.ofDeclared_optional, HostType.ofDeclared_plain, hname]
      exact carries_option_object className name counting
  | collection helement hcategory => exact carries_collection _ _
  | @object name counting hprimitive henumeration hvariant hcollection hclass =>
    obtain ⟨className, hname⟩ : ∃ className, HostType.ofName names name = .object className :=
      ofName_object hprimitive hvariant rfl henumeration fun e he => htell.told e (.inl he)
    rw [HostType.ofDeclared_plain, hname]
    exact carries_object name className counting

end TypeCategory

end EngineBindings
