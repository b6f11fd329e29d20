import EngineBindings.Proofs.Bindings.Enumerations
import EngineBindings.Proofs.Bindings.Reserving
import EngineBindings.Proofs.Bindings.TypeMap
import EngineBindings.Proofs.Schema.Names

/-!
# Types that have code

`Spells` says of a step of the generation that it does not give up for a name without an
identifier; it goes along with doing steps in turn.  A type that has a category has code where the
names of the schema are identifiers (`TypeMap.spells_map`), with one exception: the name of an
enumeration that stands in a type without its mark is taken for the name of a value type.
-/

namespace EngineBindings

open Naming

variable {α β : Type}

/-! ## Steps that give up for no name -/

/-- Whether a step does not fail for a name that no identifier can spell. -/
def Spells (step : Emission α) : Prop :=
  ∀ name, step ≠ .error (.unspellable name)

theorem spells_ok (a : α) : Spells (.ok a) :=
  fun _ h => nomatch h

theorem spells_pure (a : α) : Spells (pure a) :=
  spells_ok a

theorem Spells.bind {x : Emission α} {f : α → Emission β} (hx : Spells x)
    (hf : ∀ a, x = .ok a → Spells (f a)) : Spells (x >>= f) := by
  cases x with
  | error e => exact fun name h => hx name (congrArg Except.error (Except.error.inj h))
  | ok a => exact hf a rfl

theorem Spells.map {x : Emission α} (hx : Spells x) (f : α → β) : Spells (x.map f) := by
  cases x with
  | error e => exact fun name h => hx name (congrArg Except.error (Except.error.inj h))
  | ok a => exact spells_ok _

theorem spells_mapM {f : α → Emission β} {as : List α} (h : ∀ a ∈ as, Spells (f a)) :
    Spells (as.mapM f) := by
  induction as with
  | nil => exact spells_pure []
  | cons a as ih =>
    rw [List.forall_mem_cons] at h
    rw [List.mapM_cons]
    exact h.1.bind fun _ _ => (ih h.2).bind fun _ _ => spells_pure _

theorem spells_ident {name : String} (h : HasIdent name) : Spells (ident name) := by
  obtain ⟨i, hi⟩ := exists_ident_of_hasIdent h
  rw [hi]
  exact spells_ok i

theorem spells_identCode {name : String} (h : HasIdent name) : Spells (identCode name) :=
  (spells_ident h).map _

namespace Reserving

/-- Whether a step that hands on the names taken so far never fails for a name. -/
def SpellsAlways (step : Reserving α) : Prop :=
  ∀ taken, Spells (step.run taken)

theorem spellsAlways_pure (a : α) : SpellsAlways (pure a) :=
  fun _ => spells_ok _

theorem spellsAlways_lift {x : Emission α} (h : Spells x) : SpellsAlways (liftM x) :=
  fun _ => h.bind fun _ _ => spells_pure _

theorem SpellsAlways.bind {x : Reserving α} {f : α → Reserving β} (hx : SpellsAlways x)
    (hf : ∀ a taken later, x.run taken = .ok (a, later) → SpellsAlways (f a)) :
    SpellsAlways (x >>= f) := by
  intro taken
  rw [StateT.run_bind]
  exact (hx taken).bind fun a ha => hf a.1 taken a.2 ha a.2

theorem spellsAlways_mapM {f : α → Reserving β} {as : List α}
    (h : ∀ a ∈ as, SpellsAlways (f a)) : SpellsAlways (as.mapM f) := by
  induction as with
  | nil => exact spellsAlways_pure []
  | cons a as ih =>
    rw [List.forall_mem_cons] at h
    rw [List.mapM_cons]
    exact h.1.bind fun _ _ _ _ => (ih h.2).bind fun _ _ _ _ => spellsAlways_pure _

theorem SpellsAlways.inTurn {x y : Reserving (List α)} (hx : SpellsAlways x)
    (hy : SpellsAlways y) : SpellsAlways (Reserving.inTurn x y) :=
  hx.bind fun _ _ _ _ => hy.bind fun _ _ _ _ => spellsAlways_pure _

theorem spellsAlways_flatten {f : α → Reserving (List β)} {as : List α}
    (h : ∀ a ∈ as, SpellsAlways (f a)) : SpellsAlways (List.flatten <$> as.mapM f) := by
  rw [map_eq_pure_bind]
  exact (spellsAlways_mapM h).bind fun _ _ _ _ => spellsAlways_pure _

end Reserving

/-! ## Types without a mark -/

namespace DeclaredType

mutual

/-- The names that stand in a type without arguments and without a mark. -/
def bareNames : DeclaredType → List String
  | .named name [] => [name]
  | .named _ (arg :: args) => bareNames arg ++ bareNamesOfMore args
  | .optional inner => bareNames inner
  | .sequence element => bareNames element
  | .enumeration _ _ => []
  | .pointer _ => []

/-- The bare names of several types. -/
def bareNamesOfMore : List DeclaredType → List String
  | [] => []
  | ty :: rest => bareNames ty ++ bareNamesOfMore rest

end

theorem bareNames_withoutOption (ty : DeclaredType) :
    (TypeMap.withoutOption ty).bareNames = ty.bareNames := by
  cases ty <;> rfl

end DeclaredType

/-- Whether a bare name is no enumeration, or has an identifier. -/
def Schema.IsBare (s : Schema) (name : String) : Prop :=
  (s.findEnum? name).isSome = true → HasIdent name

instance (s : Schema) (name : String) : Decidable (s.IsBare name) :=
  inferInstanceAs (Decidable (_ → _))

namespace TypeMap

variable {m : TypeMap} {ty : DeclaredType}

theorem isSpelled_of_containsClass (hnames : m.schema.NamesSpelled) {name : String}
    (h : m.schema.containsClass name = true) : IsSpelled name := by
  obtain ⟨c, hc, hname⟩ := List.any_eq_true.mp h
  obtain rfl := eq_of_beq hname
  exact hnames.of_class hc ClassDescriptor.name_mem_names

theorem isSpelled_of_class? (hnames : m.schema.NamesSpelled) {name : String} {c : ClassDescriptor}
    (h : m.schema.class? name = some c) : IsSpelled name := by
  exact isSpelled_of_containsClass hnames (Schema.containsClass_of_class? h)

/-- The parent of a class of the schema has an identifier. -/
theorem isSpelled_of_parent? (hnames : m.schema.NamesSpelled) {name parent : String}
    (h : m.schema.parent? name = some parent) : IsSpelled parent := by
  obtain ⟨c, hc, hparent⟩ := Option.bind_eq_some_iff.mp h
  exact hnames.of_class (List.mem_of_find?_eq_some hc) (ClassDescriptor.mem_names_of_parent hparent)

theorem isSpelled_of_ancestor (hnames : m.schema.NamesSpelled) {n : Nat} {name other : String}
    (h : stepsFrom m.schema.parent? n (m.schema.parent? name) = some other) :
    IsSpelled other := by
  cases n with
  | zero => exact isSpelled_of_parent? hnames h
  | succ n =>
    rw [stepsFrom_succ] at h
    obtain ⟨child, -, hparent⟩ := Option.bind_eq_some_iff.mp h
    exact isSpelled_of_parent? hnames hparent

/-- The class that stands for another one has an identifier, if the root class has one. -/
theorem isBare_resolveClass (hnames : m.schema.NamesSpelled)
    (hfoundational : m.schema.IsBare m.foundational) {name : String}
    (hclass : m.schema.containsClass name = true) : m.schema.IsBare (m.resolveClass name) := by
  have hstands := m.standsFor_resolveClass name
  generalize m.resolveClass name = other at hstands
  cases hstands with
  | itself => exact fun _ => (isSpelled_of_containsClass hnames hclass).hasIdent
  | ancestor _ hsteps => exact fun _ => (isSpelled_of_ancestor hnames hsteps).hasIdent
  | foundational => exact hfoundational

/-- Bare names in a type that the module shows are those of the declared one, or of classes that
stand for others. -/
theorem isBare_of_mem_normalize (hnames : m.schema.NamesSpelled)
    (hfoundational : m.schema.IsBare m.foundational) (ty : DeclaredType)
    (hty : ∀ n ∈ ty.bareNames, m.schema.IsBare n) :
    ∀ n ∈ (m.normalize ty).bareNames, m.schema.IsBare n := by
  have hall := TypeMap.normalize.mutual_induct m
    (fun ty => (∀ n ∈ ty.bareNames, m.schema.IsBare n) →
      ∀ n ∈ (m.normalize ty).bareNames, m.schema.IsBare n)
    (fun tys => (∀ n ∈ DeclaredType.bareNamesOfMore tys, m.schema.IsBare n) →
      ∀ n ∈ DeclaredType.bareNamesOfMore (m.normalizeElements tys), m.schema.IsBare n)
  refine (hall ?_ ?_ ?_ ?_ ?_ ?_ ?_ ?_ ?_).1 ty hty
  · -- classes
    intro name hclass _ n hn
    rw [normalize, if_pos hclass] at hn
    rw [List.mem_singleton.mp hn]
    exact isBare_resolveClass hnames hfoundational hclass
  · -- other bare names
    intro name hclass hty n hn
    rw [normalize, if_neg hclass] at hn
    exact hty n hn
  · -- typed arrays
    intro arg args ih hty n hn
    rw [normalize, if_pos rfl, normalizeElements] at hn
    exact ih hty n (by rw [normalizeElements]; exact hn)
  · -- other names with arguments
    intro name arg args harray hty n hn
    rw [normalize, if_neg harray] at hn
    exact hty n hn
  · -- enumerations that the module cannot name
    intro name bitfield howner _ n hn
    rw [normalize, if_pos howner] at hn
    rw [List.mem_singleton.mp hn]
    exact fun _ => by decide
  · -- enumerations that it can name
    intro name bitfield howner hty n hn
    rw [normalize, if_neg howner] at hn
    exact hty n hn
  · -- types of other shapes
    intro ty hbare hargs hmarked hty
    rw [normalize.eq_4 m ty hbare hargs hmarked]
    exact hty
  · -- no types
    intro _ n hn
    exact absurd hn List.not_mem_nil
  · -- a type and others
    intro ty rest ihFirst ihRest hty n hn
    rw [DeclaredType.bareNamesOfMore, List.forall_mem_append] at hty
    rw [normalizeElements, DeclaredType.bareNamesOfMore, DeclaredType.bareNames_withoutOption,
      List.mem_append] at hn
    exact hn.elim (ihFirst hty.1 n) (ihRest hty.2 n)

/-! ## Code of types -/

theorem spells_hostType {name : String} (h : HasIdent name) : Spells (hostType name) :=
  (spells_ident h).bind fun _ _ => spells_pure _

theorem spells_code_plain {name : String} (h : HasIdent name) :
    Spells (m.code (.plain name)) := by
  rw [DeclaredType.plain, code]
  split
  · exact (spells_ok []).bind fun _ _ => spells_pure _
  split
  · exact spells_ok _
  split
  · exact spells_identCode h
  · exact spells_hostType h

theorem hasIdent_hostName {type : Primitive} (hnamed : type.IsNamed) :
    HasIdent type.hostName := by
  cases type with
  | integer type => cases type <;> decide
  | builtin kind => cases kind <;> first | decide | exact absurd (by decide) hnamed
  | _ => decide

/-- The names of an enumeration and of its owner have identifiers. -/
theorem isIdentifier_of_findEnum? (hnames : m.schema.NamesSpelled) {qualified : String}
    {e : Enumeration} (h : m.schema.findEnum? qualified = some e) :
    Text.isIdentifier e.name = true ∧ Text.isIdentifier (flatEnum qualified) = true := by
  have henum : e.name ∈ e.names := List.mem_cons_self
  cases Schema.finds_of_findEnum? h with
  | atModule hmem hname =>
    have hspelled := (hnames.of_globalEnum hmem henum).isIdentifier
    exact ⟨hspelled, hname ▸ isIdentifier_flatEnum hspelled⟩
  | @inClass owner name c _ hsplit hclass hfound =>
    have hname := List.find?_some hfound
    obtain rfl := eq_of_beq hname
    have hspelled := hnames.of_class (List.mem_of_find?_eq_some hclass)
      (ClassDescriptor.mem_names_of_enum (List.mem_of_find?_eq_some hfound) henum)
    rw [Schema.eq_of_splitOwner? hsplit]
    exact ⟨hspelled.isIdentifier, isIdentifier_flatEnum_owned
      (isSpelled_of_class? hnames hclass).isIdentifier hspelled.isIdentifier⟩
  | @inBuiltin owner name b _ hsplit hbuiltin hmem hname =>
    obtain rfl := hname
    have hb := List.mem_of_find?_eq_some hbuiltin
    have howner := hnames.of_builtin hb Builtin.name_mem_names
    have hspelled := hnames.of_builtin hb (Builtin.mem_names_of_enum hmem henum)
    rw [Schema.builtin?_name hbuiltin] at howner
    rw [Schema.eq_of_splitOwner? hsplit]
    exact ⟨hspelled.isIdentifier, isIdentifier_flatEnum_owned howner.isIdentifier
      hspelled.isIdentifier⟩

theorem spells_enumPath (hnames : m.schema.NamesSpelled) {qualified : String} {owner : EnumOwner}
    (h : m.enumOwner? qualified = some owner) : Spells (enumPath owner) := by
  obtain ⟨e, hfind, hcases⟩ := enumOwner?_cases h
  obtain ⟨hname, hflat⟩ := isIdentifier_of_findEnum? hnames hfind
  have hmodule := spells_identCode (hasIdent_of_isIdentifier hflat)
  rcases hcases with ⟨-, -, rfl⟩ | ⟨hglobal, className, name, hsplit, hcases⟩
  · exact hmodule
  · rcases hcases with ⟨-, rfl⟩ | ⟨hbuiltin, -, rfl⟩
    · exact hmodule
    · have hclass : IsSpelled className := by
        cases Schema.finds_of_findEnum? hfind with
        | atModule hmem heq => exact absurd heq (hglobal e hmem)
        | inClass _ hown hclass =>
          obtain ⟨rfl, rfl⟩ := Prod.mk.inj (Option.some.inj (hsplit.symm.trans hown))
          exact isSpelled_of_class? hnames hclass
        | inBuiltin _ hown hb =>
          obtain ⟨rfl, rfl⟩ := Prod.mk.inj (Option.some.inj (hsplit.symm.trans hown))
          rw [hbuiltin] at hb
          cases hb
      refine (spells_identCode (hasIdent_of_isIdentifier
        (isIdentifier_moduleName hclass.isIdentifier))).bind fun _ _ => ?_
      exact (spells_identCode (hasIdent_of_isIdentifier hname)).bind fun _ _ => spells_pure _

/-- A bare name with a category, other than that of a class, has an identifier. -/
theorem hasIdent_of_classifies {name : String} {category : TypeCategory}
    (hclassifies : TypeCategory.Classifies m.schema.typeContext (.plain name) category)
    (hbare : m.schema.IsBare name) (hclass : ¬m.schema.containsClass name = true) :
    HasIdent name := by
  generalize htype : DeclaredType.plain name = ty at hclassifies
  cases hclassifies with
  | primitive hnamed =>
    cases htype
    exact hasIdent_hostName hnamed
  | @enumeration _ _ _ hwidth =>
    cases htype
    obtain ⟨e, he, -⟩ := Option.map_eq_some_iff.mp hwidth
    exact hbare (by rw [he]; rfl)
  | variant =>
    cases htype
    decide
  | object _ _ _ _ hcounting =>
    cases htype
    obtain ⟨c, hc, -⟩ := Schema.classCounting?_eq_some hcounting
    exact absurd (Schema.containsClass_of_class? hc) hclass
  | marked => cases htype
  | optionalVariant => cases htype
  | optionalObject => cases htype
  | collection => cases htype

/-- A type with a category has code, unless it names an enumeration without its mark. -/
theorem spells_code (hnames : m.schema.NamesSpelled) {category : TypeCategory}
    (hclassifies : TypeCategory.Classifies m.schema.typeContext ty category)
    (hbare : ∀ n ∈ ty.bareNames, m.schema.IsBare n) : Spells (m.code ty) := by
  induction hclassifies with
  | primitive hnamed => exact spells_code_plain (hasIdent_hostName hnamed)
  | @marked name bitfield =>
    rw [code]
    cases howner : m.enumOwner? name with
    | none => exact spells_ok _
    | some owner => exact spells_enumPath hnames howner
  | @enumeration name _ _ hwidth =>
    refine spells_code_plain (hbare name (List.mem_singleton_self name) ?_)
    obtain ⟨e, he, -⟩ := Option.map_eq_some_iff.mp hwidth
    rw [he]
    rfl
  | variant => exact spells_code_plain (by decide)
  | optionalVariant _ ih =>
    rw [code]
    exact (ih hbare).bind fun _ _ => spells_pure _
  | optionalObject _ ih =>
    rw [code]
    exact (ih hbare).bind fun _ _ => spells_pure _
  | collection _ _ ih =>
    rw [DeclaredType.typedArray, code, if_pos rfl, codes, codes]
    have helement := ih fun n hn => hbare n (List.mem_append_left _ hn)
    exact (helement.bind fun _ _ => (spells_ok []).bind fun _ _ => spells_pure _).bind
      fun _ _ => spells_pure _
  | object _ _ _ _ hclass =>
    obtain ⟨c, hc, -⟩ := Schema.classCounting?_eq_some hclass
    exact spells_code_plain (isSpelled_of_class? hnames hc).hasIdent

/-- Where the names of a schema are identifiers, and the root class is no enumeration. -/
structure IsSpelled (m : TypeMap) : Prop where
  names : m.schema.NamesSpelled
  foundational : m.schema.IsBare m.foundational

/-- Whether a type names no enumeration without its mark. -/
def IsMarked (m : TypeMap) (ty : DeclaredType) : Prop :=
  ∀ n ∈ ty.bareNames, m.schema.IsBare n

instance (m : TypeMap) (ty : DeclaredType) : Decidable (m.IsMarked ty) :=
  inferInstanceAs (Decidable (∀ n ∈ ty.bareNames, m.schema.IsBare n))

/-- The host type of a type has code if there is one. -/
theorem spells_map (hm : m.IsSpelled) (hty : m.IsMarked ty) {emission : Emission MarshaledType}
    (h : m.map ty = .ok emission) : Spells emission := by
  unfold map at h
  dsimp only at h
  split at h
  · cases h
  · next category hcategory =>
    obtain rfl := Except.ok.inj h
    refine Spells.map ?_ _
    exact spells_code hm.names (TypeCategory.classify_eq_ok_iff.mp hcategory)
      (isBare_of_mem_normalize hm.names hm.foundational ty hty)

/-- A name that has a category has no other characters than identifiers have. -/
theorem isSpellable_map (hm : m.IsSpelled) {name : String} {args : List DeclaredType}
    (hty : m.IsMarked (.named name args)) {emission : Emission MarshaledType}
    (h : m.map (.named name args) = .ok emission) :
    IsSpellable name := by
  have hcategory : ∃ category,
      TypeCategory.Classifies m.schema.typeContext (m.normalize (.named name args)) category := by
    unfold map at h
    dsimp only at h
    split at h
    · cases h
    · next category hclassify => exact ⟨category, TypeCategory.classify_eq_ok_iff.mp hclassify⟩
  obtain ⟨category, hclassifies⟩ := hcategory
  cases args with
  | nil =>
    rw [normalize] at hclassifies
    split at hclassifies
    · next hclass =>
      exact (isSpelled_of_containsClass hm.names hclass).hasIdent.tail
    · exact (hasIdent_of_classifies hclassifies (hty name (List.mem_singleton_self name))
        ‹_›).tail
  | cons arg args =>
    rw [normalize] at hclassifies
    split at hclassifies
    · next harray =>
      subst harray
      decide
    · next harray =>
      cases hclassifies
      exact absurd rfl harray

theorem spells_mapMember (hm : m.IsSpelled) (hty : m.IsMarked ty) (owner member : String) :
    Spells (m.mapMember owner member ty) := by
  unfold mapMember
  split
  · exact fun _ h => nomatch h
  · next hmap => exact spells_map hm hty hmap

theorem spells_mapParams (hm : m.IsSpelled) {params : List Param}
    (hnames : ∀ p ∈ params, Naming.IsSpelled p.name) (htypes : ∀ p ∈ params, m.IsMarked p.type)
    (owner member : String) : Spells (m.mapParams owner member params) :=
  spells_mapM fun p hp => (spells_mapMember hm (htypes p hp) owner member).bind fun _ _ =>
    (spells_ident (hnames p hp).hasIdent).bind fun _ _ => spells_pure _

theorem spells_mapReturns (hm : m.IsSpelled) {returns? : Option DeclaredType}
    (htypes : ∀ ty ∈ returns?, m.IsMarked ty) (owner member : String) :
    Spells (m.mapReturns owner member returns?) := by
  unfold mapReturns
  split
  · exact spells_ok _
  · exact (spells_mapMember hm (htypes _ rfl) owner member).map _

/-- The parameters and the result of a signature have host types. -/
theorem spells_signature (hm : m.IsSpelled) {params : List Param} {returns? : Option DeclaredType}
    (hnames : ∀ n ∈ params.map Param.name, Naming.IsSpelled n)
    (htypes : ∀ ty ∈ params.map Param.type ++ returns?.toList, m.IsMarked ty)
    (owner member : String) :
    Spells (m.mapParams owner member params) ∧ Spells (m.mapReturns owner member returns?) := by
  rw [List.forall_mem_append] at htypes
  refine ⟨spells_mapParams hm (fun p hp => ?_) (fun p hp => ?_) owner member,
    spells_mapReturns hm (fun ty hty => ?_) owner member⟩
  · exact hnames _ (List.mem_map_of_mem hp)
  · exact htypes.1 _ (List.mem_map_of_mem hp)
  · exact htypes.2 _ (Option.mem_toList.mpr hty)

end TypeMap

end EngineBindings
