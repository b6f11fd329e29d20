import EngineBindings.Bindings.TypeMap
import EngineBindings.Proofs.DeclaredType
import EngineBindings.Proofs.Schema.Ancestors
import EngineBindings.Proofs.Traverse
import EngineBindings.Proofs.TypeCategory

/-!
# Types of the engine in generated code

A type is normalized, then classified, and its code is written from the normalized type alone.
`TypeMap.map_ofEngine` says that the three agree on the type strings of the reflection data: the
class of an object in its category is the class in its code, and an enumeration is a path in code
where it is one in the category.
-/

namespace EngineBindings

theorem Schema.classCounting?_eq_some {s : Schema} {name : String} {counting : RefCounting}
    (h : s.typeContext.classCounting? name = some counting) :
    ∃ c, s.class? name = some c ∧ counting = .ofFlag c.isRefCounted := by
  obtain ⟨flag, hflag, rfl⟩ := Option.map_eq_some_iff.mp h
  obtain ⟨c, hc, rfl⟩ := Option.map_eq_some_iff.mp hflag
  exact ⟨c, hc, rfl⟩

namespace TypeMap

variable {m : TypeMap}

/-! ## Fallback -/

/-- The class that stands for a class in a module: the class itself, or else the nearest ancestor
that the module can refer to, or else the root class. -/
inductive StandsFor (m : TypeMap) (name : String) : String → Prop
  | itself (hname : m.isAvailable name = true) : StandsFor m name name
  | ancestor {n : Nat} {other : String} (hname : m.isAvailable name = false)
    (hsteps : stepsFrom m.schema.parent? n (m.schema.parent? name) = some other)
    (hother : m.isAvailable other = true)
    (hnearer : ∀ k < n, ∀ nearer,
      stepsFrom m.schema.parent? k (m.schema.parent? name) = some nearer →
        m.isAvailable nearer = false) : StandsFor m name other
  | foundational (hname : m.isAvailable name = false)
    (hnone : ∀ other, LeadsTo m.schema.parent? name other → m.isAvailable other = false) :
    StandsFor m name m.foundational

theorem StandsFor.available {name other : String} (h : m.StandsFor name other) :
    m.isAvailable other = true ∨ other = m.foundational := by
  cases h with
  | itself hname => exact .inl hname
  | ancestor _ _ hother _ => exact .inl hother
  | foundational _ _ => exact .inr rfl

theorem standsFor_resolveClass (m : TypeMap) (name : String) :
    m.StandsFor name (m.resolveClass name) := by
  unfold resolveClass
  split
  · next hname => exact .itself hname
  · next hname =>
    have hname := Bool.eq_false_iff.mpr hname
    cases hfind : (m.schema.ancestors name).find? m.isAvailable with
    | none =>
      refine .foundational hname fun other hother => ?_
      have hnot := List.find?_eq_none.mp hfind other (Schema.mem_ancestors_iff.mpr hother)
      exact Bool.eq_false_iff.mpr hnot
    | some other =>
      obtain ⟨hother, n, hn, heq, hbefore⟩ := List.find?_eq_some_iff_getElem.mp hfind
      have hsteps : (m.schema.ancestors name)[n]? = some other := by
        rw [List.getElem?_eq_getElem hn, heq]
      -- a nearer ancestor stands earlier in the list, where the search has passed it
      refine .ancestor hname (Schema.stepsFrom_of_ancestors hsteps) hother ?_
      intro k hk nearer hnearer
      have hlt : k < (m.schema.ancestors name).length := Nat.lt_trans hk hn
      have hget : (m.schema.ancestors name)[k]? = some (m.schema.ancestors name)[k] :=
        List.getElem?_eq_getElem hlt
      have hsame := Schema.stepsFrom_of_ancestors hget
      rw [hnearer] at hsame
      obtain rfl := Option.some.inj hsame
      simpa using hbefore k hk

/-! ## Normalized types and their code -/

theorem map_accepts_iff {ty : DeclaredType} {t : MarshaledType} :
    m.map ty = .ok (.ok t) ↔ m.code (m.normalize ty) = .ok t.code ∧ t.declared = m.normalize ty ∧
      TypeCategory.Classifies m.schema.typeContext (m.normalize ty) t.category := by
  rw [← TypeCategory.classify_eq_ok_iff, map]
  cases TypeCategory.classify m.schema.typeContext (m.normalize ty) with
  | error error => simp
  | ok category =>
    simp only [Except.ok.injEq, map_eq_ok_iff]
    constructor
    · rintro ⟨code, hcode, rfl⟩
      exact ⟨hcode, rfl, rfl⟩
    · rintro ⟨hcode, hdeclared, hcategory⟩
      refine ⟨t.code, hcode, ?_⟩
      rw [← hdeclared, hcategory]

theorem normalize_plain (name : String) :
    m.normalize (.plain name) =
      if m.schema.containsClass name then .optional (.plain (m.resolveClass name))
      else .plain name := by
  rw [DeclaredType.plain, normalize]
  rfl

theorem normalize_typedArray (name : String) :
    m.normalize (.typedArray (.plain name)) =
      .typedArray (.plain (if m.schema.containsClass name then m.resolveClass name else name)) := by
  rw [DeclaredType.typedArray, normalize, if_pos rfl, normalizeElements, normalizeElements,
    normalize_plain]
  split <;> rfl

theorem normalize_enumeration (qualified : String) (bitfield : Bool) :
    m.normalize (.enumeration qualified bitfield) =
      if (m.enumOwner? qualified).isNone then .plain "i64"
      else .enumeration qualified bitfield := by
  rw [normalize]

theorem code_class {name : String} (hclass : m.schema.containsClass name = true)
    (hvariant : name ≠ "Variant") (harray : name ≠ "TypedArray") :
    m.code (.plain name) = Naming.identCode name := by
  rw [DeclaredType.plain, code, if_neg harray, if_neg hvariant, if_pos hclass]

theorem code_number : m.code (.plain "i64") = .ok (Code.word "i64") := by
  rw [DeclaredType.plain, code]
  split
  · contradiction
  · split
    · contradiction
    · split
      · rfl
      · rfl

theorem code_optional_eq_ok_iff {inner : DeclaredType} {c : Code} :
    m.code (.optional inner) = .ok c ↔ ∃ d, m.code inner = .ok d ∧
      c = Code.fixed "::core::option::Option<" ++ d ++ Code.fixed ">" := by
  rw [code, bind_eq_ok_iff]
  simp only [pure, Except.pure, Except.ok.injEq, eq_comm]

theorem code_typedArray_eq_ok_iff {element : DeclaredType} {c : Code} :
    m.code (.typedArray element) = .ok c ↔ ∃ d, m.code element = .ok d ∧
      c = Code.fixed "::gdbind_runtime::TypedArray<" ++ d ++ Code.fixed ">" := by
  have hcodes : ∀ ds, m.codes [element] = .ok ds ↔ ∃ d, m.code element = .ok d ∧ ds = [d] := by
    intro ds
    rw [codes, bind_eq_ok_iff]
    simp only [codes, bind, Except.bind, pure, Except.pure, Except.ok.injEq, eq_comm]
  rw [DeclaredType.typedArray, code, if_pos rfl, bind_eq_ok_iff]
  constructor
  · rintro ⟨ds, hds, hc⟩
    obtain ⟨d, hd, rfl⟩ := (hcodes ds).mp hds
    exact ⟨d, hd, (Except.ok.inj hc).symm⟩
  · rintro ⟨d, hd, rfl⟩
    exact ⟨[d], (hcodes [d]).mpr ⟨d, hd, rfl⟩, rfl⟩

/-! ## References to classes -/

/-- Whether a class, with its counting and its identifier, is what a module refers to for the class
with a name. -/
structure Refers (m : TypeMap) (name className : String) (counting : RefCounting)
    (ident : String) : Prop where
  standsFor : m.StandsFor name className
  available : m.isAvailable className = true ∨ className = m.foundational
  counting : ∃ c, m.schema.class? className = some c ∧ counting = .ofFlag c.isRefCounted
  ident : Naming.ident className = .ok ident

theorem containsClass_of_counting {name : String} {counting : RefCounting}
    (h : m.schema.typeContext.classCounting? name = some counting) :
    m.schema.containsClass name = true := by
  obtain ⟨c, hc, -⟩ := Schema.classCounting?_eq_some h
  exact Schema.containsClass_of_class? hc

theorem exists_refers {name : String} {counting : RefCounting} {c : Code}
    (hcounting : m.schema.typeContext.classCounting? (m.resolveClass name) = some counting)
    (hvariant : m.resolveClass name ≠ "Variant")
    (hcollection : m.resolveClass name ∉ "TypedArray" :: TypeCategory.plainCollections)
    (hcode : m.code (.plain (m.resolveClass name)) = .ok c) :
    ∃ ident, m.Refers name (m.resolveClass name) counting ident ∧ c = Code.word ident := by
  obtain ⟨d, hd, hflag⟩ := Schema.classCounting?_eq_some hcounting
  have hstands := m.standsFor_resolveClass name
  have harray : m.resolveClass name ≠ "TypedArray" := List.ne_of_not_mem_cons hcollection
  rw [code_class (Schema.containsClass_of_class? hd) hvariant harray] at hcode
  obtain ⟨ident, hident, rfl⟩ := map_eq_ok_iff.mp hcode
  exact ⟨ident, ⟨hstands, hstands.available, ⟨d, hd, hflag⟩, hident⟩, rfl⟩

/-- A reference to a class may be absent, since the names of classes are normalized to optional
types. -/
theorem map_object {name className : String} {nullable : Bool} {counting : RefCounting}
    {t : MarshaledType} (h : m.map (.plain name) = .ok (.ok t))
    (hobject : t.category = .object className nullable counting) :
    nullable = true ∧ ∃ ident, m.Refers name className counting ident ∧
      t.code = Code.fixed "::core::option::Option<" ++ Code.word ident ++ Code.fixed ">" := by
  obtain ⟨hcode, -, hclassifies⟩ := map_accepts_iff.mp h
  rw [hobject] at hclassifies
  obtain ⟨htype, hvariant, hcollection, hcounting⟩ := hclassifies.object_inv
  rw [normalize_plain] at htype hcode
  split at htype
  · next hclass =>
    rw [if_pos hclass] at hcode
    cases nullable with
    | false => cases htype
    | true =>
      simp only [if_true, DeclaredType.optional.injEq] at htype
      obtain rfl : m.resolveClass name = className := (DeclaredType.named.inj htype).1
      obtain ⟨d, hd, hc⟩ := code_optional_eq_ok_iff.mp hcode
      obtain ⟨ident, hrefers, rfl⟩ := exists_refers hcounting hvariant hcollection hd
      exact ⟨rfl, ident, hrefers, hc⟩
  · next hclass =>
    cases nullable with
    | true => cases htype
    | false =>
      obtain rfl : name = className := (DeclaredType.named.inj htype).1
      exact absurd (containsClass_of_counting hcounting) hclass

theorem map_collection {name className : String} {nullable : Bool} {counting : RefCounting}
    {t : MarshaledType} (h : m.map (.typedArray (.plain name)) = .ok (.ok t))
    (hcollection : t.category = .collection (.object className nullable counting)) :
    nullable = false ∧ ∃ ident, m.Refers name className counting ident ∧
      t.code = Code.fixed "::gdbind_runtime::TypedArray<" ++ Code.word ident ++ Code.fixed ">" := by
  obtain ⟨hcode, -, hclassifies⟩ := map_accepts_iff.mp h
  rw [hcollection, normalize_typedArray] at hclassifies
  rw [normalize_typedArray] at hcode
  obtain ⟨element, harray, hnullable, helement⟩ := hclassifies.collection_inv
  obtain rfl : nullable = false := hnullable
  obtain ⟨rfl, hvariant, hplain, hcounting⟩ := helement.object_inv
  obtain ⟨d, hd, hc⟩ := code_typedArray_eq_ok_iff.mp hcode
  have hnames := List.head_eq_of_cons_eq (DeclaredType.named.inj harray).2
  have hname := (DeclaredType.named.inj hnames).1
  split at hname
  · next hclass =>
    obtain rfl := hname
    rw [if_pos hclass] at hd
    obtain ⟨ident, hrefers, rfl⟩ := exists_refers hcounting hvariant hplain hd
    exact ⟨rfl, ident, hrefers, hc⟩
  · next hclass =>
    obtain rfl := hname
    exact absurd (containsClass_of_counting hcounting) hclass

/-! ## Enumerations -/

theorem classifies_number {context : TypeContext} {category : TypeCategory}
    (h : TypeCategory.Classifies context (.plain "i64") category) :
    category = .primitive (.integer .i64) := by
  have hclassify := TypeCategory.classify_eq_ok_iff.mpr h
  exact (Except.ok.inj hclassify).symm

/-- Whether a type is the path of an enumeration. -/
def IsPath (m : TypeMap) (c : Code) : EnumOwner → Prop
  | .module flatName => ∃ ident, Naming.ident flatName = .ok ident ∧ c = Code.word ident
  | .class className name => m.isAvailable className = true ∧ ∃ module ident,
      Naming.ident (Naming.moduleName className) = .ok module ∧ Naming.ident name = .ok ident ∧
        c = Code.word module ++ Code.fixed "::" ++ Code.word ident

theorem isAvailable_of_enumOwner? {qualified className name : String}
    (h : m.enumOwner? qualified = some (.class className name)) :
    m.isAvailable className = true := by
  unfold enumOwner? at h
  obtain ⟨e, -, h⟩ := Option.bind_eq_some_iff.mp h
  split at h
  · cases h
  · obtain ⟨⟨owner, own⟩, -, h⟩ := Option.bind_eq_some_iff.mp h
    dsimp only at h
    split at h
    · cases h
    · split at h
      · next havailable =>
        obtain ⟨rfl, -⟩ := EnumOwner.class.inj (Option.some.inj h)
        exact havailable
      · cases h

theorem isPath_of_enumPath {qualified : String} {owner : EnumOwner} {c : Code}
    (howner : m.enumOwner? qualified = some owner) (hpath : enumPath owner = .ok c) :
    m.IsPath c owner := by
  cases owner with
  | module flatName =>
    obtain ⟨ident, hident, rfl⟩ := map_eq_ok_iff.mp hpath
    exact ⟨ident, hident, rfl⟩
  | «class» className name =>
    refine ⟨isAvailable_of_enumOwner? howner, ?_⟩
    obtain ⟨_, hmodule, hpath⟩ := bind_eq_ok_iff.mp hpath
    obtain ⟨_, hname, hpath⟩ := bind_eq_ok_iff.mp hpath
    obtain ⟨module, hmoduleIdent, rfl⟩ := map_eq_ok_iff.mp hmodule
    obtain ⟨ident, hident, rfl⟩ := map_eq_ok_iff.mp hname
    exact ⟨module, ident, hmoduleIdent, hident, (Except.ok.inj hpath).symm⟩

/-- An enumeration is always classified, by its width or as the number that stands for it. -/
theorem exists_map_enumeration (m : TypeMap) (qualified : String) (bitfield : Bool) :
    ∃ emission, m.map (.enumeration qualified bitfield) = .ok emission := by
  rw [map, normalize_enumeration]
  cases howner : m.enumOwner? qualified with
  | none => exact ⟨_, rfl⟩
  | some owner =>
    obtain ⟨e, hfind, -⟩ := Option.bind_eq_some_iff.mp howner
    have hwidth : m.schema.typeContext.enumWidth? qualified = some .bits64 :=
      Option.map_eq_some_iff.mpr ⟨e, hfind, rfl⟩
    have hclassify : TypeCategory.classify m.schema.typeContext (.enumeration qualified bitfield) =
        .ok (.enumeration .bits64) := TypeCategory.classify_eq_ok_iff.mpr (.marked hwidth)
    simp only [Option.isNone_some, Bool.false_eq_true, if_false, hclassify]
    exact ⟨_, rfl⟩

theorem map_enumeration {qualified : String} {bitfield : Bool} {t : MarshaledType}
    (h : m.map (.enumeration qualified bitfield) = .ok (.ok t)) :
    (∀ owner, m.enumOwner? qualified = some owner →
      t.category = .enumeration .bits64 ∧ m.IsPath t.code owner) ∧
    (m.enumOwner? qualified = none →
      t.category = .primitive (.integer .i64) ∧ t.code = Code.word "i64") := by
  obtain ⟨hcode, -, hclassifies⟩ := map_accepts_iff.mp h
  rw [normalize_enumeration] at hcode hclassifies
  constructor
  · intro owner howner
    rw [howner, Option.isNone_some, if_neg Bool.false_ne_true] at hcode hclassifies
    rw [code, howner] at hcode
    have hpath := isPath_of_enumPath howner hcode
    generalize t.category = category at hclassifies
    cases hclassifies with
    | marked hwidth =>
      obtain ⟨e, -, rfl⟩ := Option.map_eq_some_iff.mp hwidth
      exact ⟨rfl, hpath⟩
  · intro howner
    rw [howner, Option.isNone_none, if_pos rfl] at hcode hclassifies
    exact ⟨classifies_number hclassifies, Except.ok.inj (hcode.symm.trans code_number)⟩

/-- However an enumeration is shown, its values travel as numbers. -/
theorem variantKind_of_map_enumeration {qualified : String} {bitfield : Bool} {t : MarshaledType}
    (h : m.map (.enumeration qualified bitfield) = .ok (.ok t)) :
    t.category.variantKind = .int := by
  obtain ⟨hsome, hnone⟩ := map_enumeration h
  cases howner : m.enumOwner? qualified with
  | none =>
    rw [(hnone howner).1]
    rfl
  | some owner =>
    rw [(hsome owner howner).1]
    rfl

/-! ## Types of the reflection data -/

theorem map_pointer_ne_ok {spelling : String} {t : MarshaledType} :
    m.map (.pointer spelling) ≠ .ok (.ok t) := by
  intro h
  cases (map_accepts_iff.mp h).2.2

theorem object_of_map_ofEngine {text className : String} {width : Option String} {nullable : Bool}
    {counting : RefCounting} {t : MarshaledType} (h : m.map (.ofEngine text width) = .ok (.ok t))
    (hobject : t.category = .object className nullable counting) :
    nullable = true ∧ ∃ name ident, DeclaredType.ofEngine text width = .plain name ∧
      m.Refers name className counting ident ∧
      t.code = Code.fixed "::core::option::Option<" ++ Code.word ident ++ Code.fixed ">" := by
  rcases DeclaredType.ofEngine_cases text width with
    ⟨_, hty⟩ | ⟨_, _, hty⟩ | ⟨_, hty⟩ | ⟨name, hty⟩ <;> rw [hty] at h
  · exact absurd h map_pointer_ne_ok
  · have hkind := variantKind_of_map_enumeration h
    rw [hobject] at hkind
    cases hkind
  · have hclassifies := (map_accepts_iff.mp h).2.2
    rw [hobject, normalize_typedArray] at hclassifies
    obtain ⟨htype, -⟩ := hclassifies.object_inv
    cases nullable with
    | false => cases (DeclaredType.named.inj htype).2
    | true => cases htype
  · obtain ⟨hnullable, ident, hrefers, hcode⟩ := map_object h hobject
    exact ⟨hnullable, name, ident, hty, hrefers, hcode⟩

theorem collection_of_map_ofEngine {text className : String} {width : Option String}
    {nullable : Bool} {counting : RefCounting} {t : MarshaledType}
    (h : m.map (.ofEngine text width) = .ok (.ok t))
    (hcollection : t.category = .collection (.object className nullable counting)) :
    nullable = false ∧ ∃ name ident,
      DeclaredType.ofEngine text width = .typedArray (.plain name) ∧
      m.Refers name className counting ident ∧
      t.code = Code.fixed "::gdbind_runtime::TypedArray<" ++ Code.word ident ++ Code.fixed ">" := by
  rcases DeclaredType.ofEngine_cases text width with
    ⟨_, hty⟩ | ⟨_, _, hty⟩ | ⟨name, hty⟩ | ⟨_, hty⟩ <;> rw [hty] at h
  · exact absurd h map_pointer_ne_ok
  · have hkind := variantKind_of_map_enumeration h
    rw [hcollection] at hkind
    cases hkind
  · obtain ⟨hnullable, ident, hrefers, hcode⟩ := map_collection h hcollection
    exact ⟨hnullable, name, ident, hty, hrefers, hcode⟩
  · have hclassifies := (map_accepts_iff.mp h).2.2
    rw [hcollection, normalize_plain] at hclassifies
    obtain ⟨element, htype, -⟩ := hclassifies.collection_inv
    split at htype
    · cases htype
    · cases (DeclaredType.named.inj htype).2

theorem enumeration_of_map_ofEngine {text qualified : String} {width : Option String}
    {t : MarshaledType} (h : m.map (.ofEngine text width) = .ok (.ok t))
    (hmarked : Text.trim text = "enum::" ++ qualified ∨
      Text.trim text = "bitfield::" ++ qualified) :
    (∀ owner, m.enumOwner? qualified = some owner →
      t.category = .enumeration .bits64 ∧ m.IsPath t.code owner) ∧
    (m.enumOwner? qualified = none →
      t.category = .primitive (.integer .i64) ∧ t.code = Code.word "i64") := by
  by_cases hpoints : '*' ∈ qualified.toList
  · rw [DeclaredType.ofEngine_of_points width hmarked hpoints] at h
    exact absurd h map_pointer_ne_ok
  · obtain ⟨bitfield, hty⟩ := DeclaredType.ofEngine_of_marked width hmarked hpoints
    rw [hty] at h
    exact map_enumeration h

/-- Category and code of an accepted type string name one class, which stands for the class of the
type string, or one enumeration.  What is marked as an enumeration has a category unless it
points. -/
theorem map_ofEngine (m : TypeMap) (text : String) (width : Option String) :
    (∀ t, m.map (.ofEngine text width) = .ok (.ok t) →
      (∀ className nullable counting, t.category = .object className nullable counting →
        nullable = true ∧ ∃ name ident, DeclaredType.ofEngine text width = .plain name ∧
          m.Refers name className counting ident ∧
          t.code =
            Code.fixed "::core::option::Option<" ++ Code.word ident ++ Code.fixed ">") ∧
      (∀ className nullable counting,
        t.category = .collection (.object className nullable counting) →
        nullable = false ∧ ∃ name ident,
          DeclaredType.ofEngine text width = .typedArray (.plain name) ∧
          m.Refers name className counting ident ∧
          t.code =
            Code.fixed "::gdbind_runtime::TypedArray<" ++ Code.word ident ++ Code.fixed ">") ∧
      ∀ qualified,
        Text.trim text = "enum::" ++ qualified ∨ Text.trim text = "bitfield::" ++ qualified →
        (∀ owner, m.enumOwner? qualified = some owner →
          t.category = .enumeration .bits64 ∧ m.IsPath t.code owner) ∧
        (m.enumOwner? qualified = none →
          t.category = .primitive (.integer .i64) ∧ t.code = Code.word "i64")) ∧
    ∀ qualified,
      Text.trim text = "enum::" ++ qualified ∨ Text.trim text = "bitfield::" ++ qualified →
      '*' ∉ qualified.toList → ∃ emission, m.map (.ofEngine text width) = .ok emission := by
  refine ⟨fun t h => ⟨?_, ?_, ?_⟩, fun qualified hmarked hpoints => ?_⟩
  · exact fun _ _ _ hobject => object_of_map_ofEngine h hobject
  · exact fun _ _ _ hcollection => collection_of_map_ofEngine h hcollection
  · exact fun _ hmarked => enumeration_of_map_ofEngine h hmarked
  · obtain ⟨bitfield, hty⟩ := DeclaredType.ofEngine_of_marked width hmarked hpoints
    rw [hty]
    exact exists_map_enumeration m qualified bitfield

/-- A module that can refer to nodes, but not to the timers below them. -/
def nodeTypes : TypeMap where
  schema :=
    { (default : Schema) with
      classes := [
        { (default : ClassDescriptor) with name := "Object" },
        { (default : ClassDescriptor) with
          name := "Node", parent? := some "Object", enums := [⟨"Mode", false, [("OFF", 0)]⟩] },
        { (default : ClassDescriptor) with name := "Timer", parent? := some "Node" }] }
  available := ["Object", "Node"]
  foundational := "Object"

theorem map_ofEngine_nodeTypes :
    (∃ t, nodeTypes.map (.ofEngine "Timer" none) = .ok (.ok t) ∧
      t.category = .object "Node" true .uncounted ∧ ∃ name ident,
        DeclaredType.ofEngine "Timer" none = .plain name ∧
        nodeTypes.Refers name "Node" .uncounted ident ∧
        t.code = Code.fixed "::core::option::Option<" ++ Code.word ident ++ Code.fixed ">") ∧
    ∃ t, nodeTypes.map (.ofEngine "enum::Node.Mode" none) = .ok (.ok t) ∧
      t.category = .enumeration .bits64 ∧ nodeTypes.IsPath t.code (.class "Node" "Mode") := by
  constructor
  · have hplain : DeclaredType.ofEngine "Timer" none = .plain "Timer" := rfl
    have hnormal : nodeTypes.normalize (.plain "Timer") = .optional (.plain "Node") := by
      rw [normalize_plain]
      rfl
    have hnode : nodeTypes.code (.plain "Node") = .ok (Code.word "Node") := by
      rw [code_class rfl (by decide) (by decide)]
      rfl
    let t : MarshaledType :=
      ⟨Code.fixed "::core::option::Option<" ++ Code.word "Node" ++ Code.fixed ">",
        .optional (.plain "Node"), .object "Node" true .uncounted⟩
    have hmap : nodeTypes.map (.ofEngine "Timer" none) = .ok (.ok t) := by
      rw [hplain, map_accepts_iff, hnormal, code_optional_eq_ok_iff]
      refine ⟨⟨Code.word "Node", hnode, rfl⟩, rfl, .optionalObject (.object ?_ rfl ?_ ?_ rfl)⟩
      · exact Primitive.ofHostName?_eq_none_iff.mp rfl
      · decide
      · decide
    exact ⟨t, hmap, rfl, (((map_ofEngine nodeTypes _ _).1 t hmap).1 _ _ _ rfl).2⟩
  · have hmarked : DeclaredType.ofEngine "enum::Node.Mode" none = .enumeration "Node.Mode" false :=
      rfl
    have howner : nodeTypes.enumOwner? "Node.Mode" = some (.class "Node" "Mode") := rfl
    have hnormal : nodeTypes.normalize (.enumeration "Node.Mode" false) =
        .enumeration "Node.Mode" false := by
      rw [normalize_enumeration, howner]
      rfl
    let t : MarshaledType :=
      ⟨Code.word "node" ++ Code.fixed "::" ++ Code.word "Mode", .enumeration "Node.Mode" false,
        .enumeration .bits64⟩
    have hmap : nodeTypes.map (.ofEngine "enum::Node.Mode" none) = .ok (.ok t) := by
      rw [hmarked, map_accepts_iff, hnormal, code, howner]
      exact ⟨rfl, rfl, .marked rfl⟩
    exact ⟨t, hmap, (((map_ofEngine nodeTypes _ _).1 t hmap).2.2 "Node.Mode" (.inl rfl)).1 _ howner⟩

end TypeMap

end EngineBindings
