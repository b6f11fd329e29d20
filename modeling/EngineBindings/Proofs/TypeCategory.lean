import EngineBindings.TypeCategory
import Mathlib.Data.List.Basic

/-!
# Which types have a category

`Classifies` lists the shapes of declared types that have a category among the names that a context
knows.  Classification accepts these and no others (`classify_eq_ok_iff`), so only `Option` around
the whole type makes it nullable, the elements of an array are neither absent, opaque nor arrays,
and a plain collection of the host language is refused wherever it stands
(`classify_accepts`).

Names of primitive types win over enumerations, and an enumeration may have any other name, that of
a collection too.
-/

namespace EngineBindings

/-! ## Names of primitive types -/

theorem IntegerType.ofName?_eq_some_iff {name : String} {type : IntegerType} :
    ofName? name = some type ↔ type.name = name := by
  constructor
  · intro h
    have hname := List.find?_some h
    exact eq_of_beq hname
  · rintro rfl
    cases type <;> rfl

theorem VariantKind.ofHostName?_eq_some_iff {name : String} {kind : VariantKind} :
    ofHostName? name = some kind ↔ kind.hostName = name := by
  constructor
  · intro h
    have hname := List.find?_some h
    exact eq_of_beq hname
  · rintro rfl
    cases kind <;> rfl

namespace Primitive

/-- Whether a primitive type is the one with its host name.  The kinds that scalars have are not
builtin types of their own, and neither are the empty value and objects. -/
def IsNamed : Primitive → Prop
  | builtin kind => kind ∉ [VariantKind.nil, .bool, .int, .float, .object]
  | _ => True

theorem ofHostName?_eq_some_iff {name : String} {type : Primitive} :
    ofHostName? name = some type ↔ type.IsNamed ∧ type.hostName = name := by
  constructor
  · intro h
    unfold ofHostName? at h
    split at h
    · obtain rfl := Option.some.inj h
      exact ⟨trivial, rfl⟩
    · obtain rfl := Option.some.inj h
      exact ⟨trivial, rfl⟩
    · obtain rfl := Option.some.inj h
      exact ⟨trivial, rfl⟩
    · next hbool _ hfloat =>
      split at h
      · next integer hinteger =>
        obtain rfl := Option.some.inj h
        exact ⟨trivial, IntegerType.ofName?_eq_some_iff.mp hinteger⟩
      · next hinteger =>
        split at h
        · cases h
        · cases h
        · cases h
        · next kind hnil hobject hkind =>
          obtain rfl := Option.some.inj h
          obtain rfl := VariantKind.ofHostName?_eq_some_iff.mp hkind
          refine ⟨?_, rfl⟩
          intro hscalar
          simp only [List.mem_cons, List.not_mem_nil, or_false] at hscalar
          rcases hscalar with rfl | rfl | rfl | rfl | rfl
          · exact hnil rfl
          · exact hbool rfl
          · cases hinteger
          · exact hfloat rfl
          · exact hobject rfl
  · rintro ⟨hnamed, rfl⟩
    cases type with
    | integer type => cases type <;> rfl
    | builtin kind => cases kind <;> first | rfl | exact absurd (by decide) hnamed
    | _ => rfl

/-- Whether a primitive type has a name. -/
def IsName (name : String) : Prop :=
  ∃ type : Primitive, type.IsNamed ∧ type.hostName = name

theorem ofHostName?_eq_none_iff {name : String} : ofHostName? name = none ↔ ¬IsName name := by
  rw [← Option.not_isSome_iff_eq_none, Option.isSome_iff_exists]
  exact not_congr (exists_congr fun _ => ofHostName?_eq_some_iff)

end Primitive

namespace TypeCategory

/-! ## Shapes with a category -/

/-- Whether a category can be that of the elements of an array. -/
def IsElement : TypeCategory → Prop
  | primitive _ => True
  | enumeration _ => True
  | object _ nullable _ => nullable = false
  | _ => False

/-- The declared types that have a category among known names, by their shapes. -/
inductive Classifies (context : TypeContext) : DeclaredType → TypeCategory → Prop
  | primitive {type : Primitive} (hnamed : type.IsNamed) :
    Classifies context (.plain type.hostName) (.primitive type)
  | marked {name : String} {bitfield : Bool} {width : EnumWidth}
    (hwidth : context.enumWidth? name = some width) :
    Classifies context (.enumeration name bitfield) (.enumeration width)
  | enumeration {name : String} {width : EnumWidth} (hprimitive : ¬Primitive.IsName name)
    (hwidth : context.enumWidth? name = some width) :
    Classifies context (.plain name) (.enumeration width)
  | variant (henumeration : context.enumWidth? "Variant" = none) :
    Classifies context (.plain "Variant") (.variant false)
  | optionalVariant {inner : DeclaredType} (hinner : Classifies context inner (.variant false)) :
    Classifies context (.optional inner) (.variant true)
  | optionalObject {inner : DeclaredType} {className : String} {counting : RefCounting}
    (hinner : Classifies context inner (.object className false counting)) :
    Classifies context (.optional inner) (.object className true counting)
  | collection {element : DeclaredType} {category : TypeCategory}
    (helement : Classifies context element category) (hcategory : category.IsElement) :
    Classifies context (.typedArray element) (.collection category)
  | object {name : String} {counting : RefCounting} (hprimitive : ¬Primitive.IsName name)
    (henumeration : context.enumWidth? name = none) (hvariant : name ≠ "Variant")
    (hcollection : name ∉ "TypedArray" :: plainCollections)
    (hclass : context.classCounting? name = some counting) :
    Classifies context (.plain name) (.object name false counting)

variable {context : TypeContext} {type : DeclaredType} {category : TypeCategory}

/-- Only `Option` makes a category nullable. -/
theorem Classifies.isNullable_iff (h : Classifies context type category) :
    category.isNullable = true ↔ ∃ inner, type = .optional inner := by
  cases h <;> simp [isNullable, DeclaredType.plain, DeclaredType.typedArray]

/-- An object has the type of a known class, with or without `Option` around its name. -/
theorem Classifies.object_inv {className : String} {nullable : Bool} {counting : RefCounting}
    (h : Classifies context type (.object className nullable counting)) :
    type = (if nullable then .optional (.plain className) else .plain className) ∧
      className ≠ "Variant" ∧ className ∉ "TypedArray" :: plainCollections ∧
      context.classCounting? className = some counting := by
  cases h with
  | optionalObject hinner =>
    cases hinner with
    | object _ _ hvariant hcollection hclass => exact ⟨rfl, hvariant, hcollection, hclass⟩
  | object _ _ hvariant hcollection hclass => exact ⟨rfl, hvariant, hcollection, hclass⟩

/-- An array has elements of one type that are always there. -/
theorem Classifies.collection_inv {inner : TypeCategory}
    (h : Classifies context type (.collection inner)) :
    ∃ element, type = .typedArray element ∧ inner.IsElement ∧ Classifies context element inner := by
  cases h with
  | collection helement hcategory => exact ⟨_, rfl, hcategory, helement⟩

/-! ## What is accepted -/

theorem ofBareName_eq_ok_iff {name : String} :
    ofBareName context name = .ok category ↔
      (name = "Variant" ∧ category = .variant false) ∨
      (name ≠ "Variant" ∧ name ∉ "TypedArray" :: plainCollections ∧
        ∃ counting, context.classCounting? name = some counting ∧
          category = .object name false counting) := by
  unfold ofBareName
  split
  · next h => simp [h, eq_comm]
  · next hvariant =>
    split
    · next h => simp [h]
    · next harray =>
      rw [List.mem_cons, not_or]
      split
      · next h => simp [List.contains_iff_mem.mp h, hvariant]
      · next h =>
        have hplain : name ∉ plainCollections := fun hmem => h (List.contains_iff_mem.mpr hmem)
        cases context.classCounting? name <;> simp [hvariant, harray, hplain, eq_comm]

theorem nullableOf_eq_ok_iff {whole : DeclaredType} {inner : TypeCategory} :
    nullableOf whole inner = .ok category ↔
      (∃ nullable, inner = .variant nullable ∧ category = .variant true) ∨
      ∃ className nullable counting, inner = .object className nullable counting ∧
        category = .object className true counting := by
  cases inner <;> simp [nullableOf, eq_comm]

theorem collectionOf_eq_ok_iff {whole : DeclaredType} {element : TypeCategory} :
    collectionOf whole element = .ok category ↔
      element.IsElement ∧ category = .collection element := by
  cases element with
  | object className nullable counting => cases nullable <;> simp [collectionOf, IsElement, eq_comm]
  | _ => simp [collectionOf, IsElement, eq_comm]

theorem classifies_of_classify (h : classify context type = .ok category) :
    Classifies context type category := by
  fun_induction classify context type generalizing category with
  | case3 name bitfield width hwidth =>
    obtain rfl := Except.ok.inj h
    exact .marked hwidth
  | case6 inner hinner found hfound ih =>
    have hclassifies := ih hfound
    -- classification takes any inner type but a literal `Option`, so that the category found is not
    -- nullable has to come from its shape
    have hnullable : found.isNullable = false := by
      refine Bool.eq_false_iff.mpr fun htrue => ?_
      obtain ⟨nested, rfl⟩ := hclassifies.isNullable_iff.mp htrue
      exact hinner nested rfl
    rcases nullableOf_eq_ok_iff.mp h with ⟨nullable, rfl, rfl⟩ | ⟨_, nullable, _, rfl, rfl⟩
    · obtain rfl : nullable = false := hnullable
      exact .optionalVariant hclassifies
    · obtain rfl : nullable = false := hnullable
      exact .optionalObject hclassifies
  | case8 name primitive hprimitive =>
    obtain rfl := Except.ok.inj h
    obtain ⟨hnamed, rfl⟩ := Primitive.ofHostName?_eq_some_iff.mp hprimitive
    exact .primitive hnamed
  | case9 name hprimitive width hwidth =>
    obtain rfl := Except.ok.inj h
    exact .enumeration (Primitive.ofHostName?_eq_none_iff.mp hprimitive) hwidth
  | case10 name hprimitive henumeration =>
    rcases ofBareName_eq_ok_iff.mp h with ⟨rfl, rfl⟩ | ⟨hvariant, hcollection, _, hclass, rfl⟩
    · exact .variant henumeration
    · exact .object (Primitive.ofHostName?_eq_none_iff.mp hprimitive) henumeration hvariant
        hcollection hclass
  | case11 element found hfound ih =>
    obtain ⟨helement, rfl⟩ := collectionOf_eq_ok_iff.mp h
    exact .collection (ih hfound) helement
  | _ => cases h

theorem classify_optional {inner : DeclaredType} (hinner : ∀ nested, inner ≠ .optional nested)
    (h : classify context inner = .ok category) :
    classify context (.optional inner) = nullableOf (.optional inner) category := by
  rw [classify.eq_5 context inner hinner, h]

theorem classify_of_classifies (h : Classifies context type category) :
    classify context type = .ok category := by
  induction h with
  | primitive hnamed =>
    rw [DeclaredType.plain, classify, Primitive.ofHostName?_eq_some_iff.mpr ⟨hnamed, rfl⟩]
  | marked hwidth => rw [classify, hwidth]
  | enumeration hprimitive hwidth =>
    rw [DeclaredType.plain, classify, Primitive.ofHostName?_eq_none_iff.mpr hprimitive]
    simp only [hwidth]
  | variant henumeration =>
    rw [DeclaredType.plain, classify, show Primitive.ofHostName? "Variant" = none from rfl]
    simp only [henumeration, ofBareName, if_true]
  | @optionalVariant inner hinner ih =>
    rw [classify_optional ?_ ih, nullableOf]
    rintro nested rfl
    cases hinner.isNullable_iff.mpr ⟨nested, rfl⟩
  | @optionalObject inner className counting hinner ih =>
    rw [classify_optional ?_ ih, nullableOf]
    rintro nested rfl
    cases hinner.isNullable_iff.mpr ⟨nested, rfl⟩
  | collection helement hcategory ih =>
    rw [DeclaredType.typedArray, classify, if_pos rfl, ih]
    exact collectionOf_eq_ok_iff.mpr ⟨hcategory, rfl⟩
  | object hprimitive henumeration hvariant hcollection hclass =>
    rw [DeclaredType.plain, classify, Primitive.ofHostName?_eq_none_iff.mpr hprimitive]
    simp only [henumeration]
    exact ofBareName_eq_ok_iff.mpr (.inr ⟨hvariant, hcollection, _, hclass, rfl⟩)

/-- Classification accepts the shapes with a category, and no others. -/
theorem classify_eq_ok_iff :
    classify context type = .ok category ↔ Classifies context type category :=
  ⟨classifies_of_classify, classify_of_classifies⟩

/-! ## Collections of the host language -/

/-- Whether a sequence or another collection of the host language stands anywhere in a type. -/
inductive HasPlainCollection : DeclaredType → Prop
  | sequence (element : DeclaredType) : HasPlainCollection (.sequence element)
  | named {name : String} {arg : DeclaredType} {more : List DeclaredType}
    (hname : name ∈ plainCollections) : HasPlainCollection (.named name (arg :: more))
  | optional {inner : DeclaredType} (hinner : HasPlainCollection inner) :
    HasPlainCollection (.optional inner)
  | argument {name : String} {args : List DeclaredType} {arg : DeclaredType} (hmem : arg ∈ args)
    (harg : HasPlainCollection arg) : HasPlainCollection (.named name args)

theorem Classifies.not_hasPlainCollection (h : Classifies context type category) :
    ¬HasPlainCollection type := by
  induction h with
  | optionalVariant _ ih =>
    rintro (_ | _)
    exact ih ‹_›
  | optionalObject _ ih =>
    rintro (_ | _)
    exact ih ‹_›
  | collection _ _ ih =>
    intro hplain
    cases hplain with
    | named hname => exact absurd hname (by decide)
    | argument hmem harg =>
      obtain rfl := List.mem_singleton.mp hmem
      exact ih harg
  | marked _ => rintro (_ | _)
  | _ =>
    intro hplain
    cases hplain with
    | argument hmem => cases hmem

/-- Classification accepts the shapes with a category and no others.  Only an `Option` around the
whole type says that a value may be absent, elements of arrays are values that are always there and
of a type of their own, and a plain collection is refused at every depth. -/
theorem classify_accepts (context : TypeContext) (type : DeclaredType) :
    (∀ category, classify context type = .ok category ↔ Classifies context type category) ∧
    (∀ category, classify context type = .ok category →
      (category.isNullable = true ↔ ∃ inner, type = .optional inner) ∧
        ∀ element, category = .collection element → element.IsElement) ∧
    (HasPlainCollection type → ∃ error, classify context type = .error error) := by
  refine ⟨fun category => classify_eq_ok_iff, fun category h => ?_, fun hplain => ?_⟩
  · have hclassifies := classify_eq_ok_iff.mp h
    refine ⟨hclassifies.isNullable_iff, ?_⟩
    rintro element rfl
    obtain ⟨-, -, helement, -⟩ := hclassifies.collection_inv
    exact helement
  · cases h : classify context type with
    | error error => exact ⟨error, rfl⟩
    | ok category => exact absurd hplain (classify_eq_ok_iff.mp h).not_hasPlainCollection

theorem classify_accepts_nodes :
    let context : TypeContext :=
      ⟨fun _ => none, fun name => if name = "Node" then some .uncounted else none⟩
    let nodes : DeclaredType := .typedArray (.plain "Node")
    let sequences : DeclaredType := .optional (.typedArray (.sequence (.plain "Node")))
    classify context nodes = .ok (.collection (.object "Node" false .uncounted)) ∧
      (IsElement (.object "Node" false .uncounted) ∧ ¬∃ inner, nodes = .optional inner) ∧
      HasPlainCollection sequences ∧ ∃ error, classify context sequences = .error error := by
  intro context nodes sequences
  have hnode : Classifies context (.plain "Node") (.object "Node" false .uncounted) :=
    .object (Primitive.ofHostName?_eq_none_iff.mp rfl) rfl (by decide) (by decide) rfl
  have hnodes : classify context nodes = .ok (.collection (.object "Node" false .uncounted)) :=
    ((classify_accepts context nodes).1 _).mpr (.collection hnode rfl)
  obtain ⟨hnullable, helement⟩ := (classify_accepts context nodes).2.1 _ hnodes
  have hsequences : HasPlainCollection sequences :=
    .optional (.argument (List.mem_singleton.mpr rfl) (.sequence _))
  exact ⟨hnodes, ⟨helement _ rfl, fun hinner => nomatch hnullable.mpr hinner⟩, hsequences,
    (classify_accepts context sequences).2.2 hsequences⟩

end TypeCategory

end EngineBindings
