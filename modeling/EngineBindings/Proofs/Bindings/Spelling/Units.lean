import EngineBindings.Proofs.Bindings.BuiltinItems
import EngineBindings.Proofs.Bindings.ClassItems
import EngineBindings.Proofs.Bindings.Spelling.Types

/-!
# Units that are generated

The names that the generator builds are those of constants, of overridable methods, and of operators
by the types they take.  `TypeMap.BuildsNames` says that these have identifiers; then enumerations,
classes, builtin types and global functions are generated unless there is another reason not to.
-/

namespace EngineBindings

open Naming

/-! ## Names that are built -/

/-- Whether the constants of an enumeration have identifiers. -/
def Enumeration.ConstantsSpelled (e : Enumeration) : Prop :=
  ∀ v ∈ e.values, HasIdent (enumConstant e.name v.1)

instance (e : Enumeration) : Decidable e.ConstantsSpelled :=
  inferInstanceAs (Decidable (∀ v ∈ e.values, HasIdent (enumConstant e.name v.1)))

/-- Whether the name of an operator has an identifier, if the operator is generated. -/
def TypeMap.OperandSpelled (m : TypeMap) (o : BuiltinOperator) : Prop :=
  ∀ right ∈ o.right?, BuiltinUnit.hasCategory m right = true →
    BuiltinUnit.hasCategory m o.returns = true → HasIdent right.text

instance (m : TypeMap) (o : BuiltinOperator) : Decidable (m.OperandSpelled o) :=
  inferInstanceAs (Decidable (∀ right ∈ o.right?, _ → _ → HasIdent right.text))

/-- Where everything that the generator makes a name of has an identifier. -/
structure TypeMap.BuildsNames (m : TypeMap) : Prop where
  /-- The root class is no enumeration with a dotted name. -/
  foundational : m.schema.IsBare m.foundational
  /-- No signature names such an enumeration without its mark. -/
  marked : ∀ ty ∈ m.schema.types, m.IsMarked ty
  constants : ∀ e ∈ m.schema.enums, e.ConstantsSpelled
  virtuals : ∀ c ∈ m.schema.classes, ∀ method ∈ c.virtuals,
    HasIdent (virtualMethod method.name)
  operands : ∀ b ∈ m.schema.builtins, ∀ o ∈ b.operators, m.OperandSpelled o

instance (m : TypeMap) : Decidable m.BuildsNames :=
  decidable_of_iff (m.schema.IsBare m.foundational ∧ (∀ ty ∈ m.schema.types, m.IsMarked ty) ∧
      (∀ e ∈ m.schema.enums, e.ConstantsSpelled) ∧
      (∀ c ∈ m.schema.classes, ∀ method ∈ c.virtuals, HasIdent (virtualMethod method.name)) ∧
      ∀ b ∈ m.schema.builtins, ∀ o ∈ b.operators, m.OperandSpelled o)
    ⟨fun ⟨h₁, h₂, h₃, h₄, h₅⟩ => ⟨h₁, h₂, h₃, h₄, h₅⟩, fun ⟨h₁, h₂, h₃, h₄, h₅⟩ =>
      ⟨h₁, h₂, h₃, h₄, h₅⟩⟩

/-! ## Enumerations -/

namespace EnumUnit

theorem exists_of_mem_namedConstants {enumName : String} {seen : List String}
    {values : List (String × Int)} {constant : String × Int}
    (h : constant ∈ namedConstants enumName seen values) :
    ∃ v ∈ values, constant.1 = enumConstant enumName v.1 := by
  induction values generalizing seen with
  | nil => cases h
  | cons v rest ih =>
    rw [namedConstants] at h
    split at h
    · obtain ⟨w, hw, hname⟩ := ih h
      exact ⟨w, List.mem_cons_of_mem v hw, hname⟩
    · rcases List.mem_cons.mp h with rfl | h
      · exact ⟨v, List.mem_cons_self, rfl⟩
      · obtain ⟨w, hw, hname⟩ := ih h
        exact ⟨w, List.mem_cons_of_mem v hw, hname⟩

theorem spells_ofDescriptor {typeName : String} {e : Enumeration} (htype : HasIdent typeName)
    (he : e.ConstantsSpelled) : Spells (ofDescriptor typeName e) := by
  refine (spells_ident htype).bind fun _ _ => Spells.bind ?_ fun _ _ => spells_pure _
  refine spells_mapM fun constant hconstant => ?_
  obtain ⟨v, hv, hname⟩ := exists_of_mem_namedConstants hconstant
  exact (spells_ident (hname ▸ he v hv)).bind fun _ _ => spells_pure _

end EnumUnit

section Units

variable {m : TypeMap} (hnames : m.schema.NamesSpelled) (h : m.BuildsNames)

include hnames h

theorem TypeMap.BuildsNames.isSpelled : m.IsSpelled :=
  ⟨hnames, h.foundational⟩

/-! ## Classes -/

section Classes

variable {c : ClassDescriptor} (hc : c ∈ m.schema.classes)

include hc

theorem ClassDescriptor.spells_signature {method : Method} (hmethod : method ∈ c.methods) :
    Spells (m.mapParams c.name method.name method.params) ∧
      Spells (m.mapReturns c.name method.name method.returns?) := by
  refine TypeMap.spells_signature (h.isSpelled hnames) (fun n hn => ?_) (fun ty hty => ?_) _ _
  · exact hnames.of_class hc
      (ClassDescriptor.mem_names_of_method hmethod (List.mem_cons_of_mem _ hn))
  · exact h.marked ty (Schema.mem_types_of_class hc
      (List.mem_append_left _ (List.mem_flatMap.mpr ⟨method, hmethod, hty⟩)))

namespace VirtualUnit

theorem spells_methodOf {method : Method} (hmethod : method ∈ c.virtuals) :
    Spells (methodOf m c.name method) := by
  obtain ⟨hparams, hreturns⟩ :=
    ClassDescriptor.spells_signature hnames h hc (List.mem_of_mem_filter hmethod)
  exact hparams.bind fun _ _ => hreturns.bind fun _ _ =>
    (spells_ident (h.virtuals c hc method hmethod)).bind fun _ _ => spells_pure _

omit hnames h hc in
theorem spells_parentIdents {parent : String} (hparent : IsSpelled parent) :
    Spells (parentIdents parent) := by
  have hname := hparent.isIdentifier
  refine (spells_ident (hasIdent_of_isIdentifier (isIdentifier_moduleName hname))).bind
    fun _ _ => ?_
  refine (spells_ident (hasIdent_of_isIdentifier (isIdentifier_virtualTrait hname))).bind
    fun _ _ => ?_
  exact (spells_ident (hasIdent_of_isIdentifier (isIdentifier_virtualDispatcher hname))).bind
    fun _ _ => spells_pure _

theorem spells_ofClass : Spells (ofClass m c) := by
  have hname := (hnames.of_class hc ClassDescriptor.name_mem_names).isIdentifier
  have hmethods : Spells (c.virtuals.mapM (methodOf m c.name)) :=
    spells_mapM fun method hmethod => spells_methodOf hnames h hc hmethod
  unfold ofClass
  split
  · exact spells_ok none
  refine (spells_ident (hasIdent_of_isIdentifier (isIdentifier_virtualTrait hname))).bind
    fun _ _ => ?_
  refine (spells_ident (hasIdent_of_isIdentifier (isIdentifier_virtualDispatcher hname))).bind
    fun _ _ => ?_
  dsimp only
  split
  · exact (spells_ok none).bind fun _ _ => hmethods.bind fun _ _ => spells_pure _
  · next parent hparent =>
    have hclass : m.schema.containsClass parent = true := by
      have hfound := List.find?_some hparent
      cases hclass : m.schema.class? parent with
      | none => simp [hclass] at hfound
      | some d => exact Schema.containsClass_of_class? hclass
    have hidents := spells_parentIdents (TypeMap.isSpelled_of_containsClass hnames hclass)
    exact (hidents.map some).bind fun _ _ => hmethods.bind fun _ _ => spells_pure _

end VirtualUnit

namespace ClassUnit

open Reserving

omit hnames h hc in
theorem spellsAlways_itemFor {name : String} {make : Reserving ClassItem}
    (hmake : SpellsAlways make) : SpellsAlways (itemFor name make) := by
  refine SpellsAlways.bind (fun taken => ?_) fun granted _ _ _ => ?_
  · rw [run_reserve]
    exact spells_ok _
  · cases granted with
    | false => exact spellsAlways_pure []
    | true => exact hmake.bind fun _ _ _ _ => spellsAlways_pure _

omit hnames h hc in
theorem spellsAlways_constructors : SpellsAlways (constructors m c) := by
  rw [constructors_eq]
  refine SpellsAlways.inTurn ?_ ?_
  · split
    · exact spellsAlways_itemFor (spellsAlways_pure _)
    · exact spellsAlways_pure []
  · split
    · exact spellsAlways_itemFor (spellsAlways_pure _)
    · exact spellsAlways_pure []

theorem spellsAlways_methodItem {method : Method} (hmethod : method ∈ c.methods) :
    SpellsAlways (methodItem m c method) := by
  obtain ⟨hparams, hreturns⟩ := ClassDescriptor.spells_signature hnames h hc hmethod
  have hname := hnames.of_class hc (ClassDescriptor.mem_names_of_method hmethod List.mem_cons_self)
  rw [methodItem_eq]
  split
  · exact spellsAlways_pure []
  · refine spellsAlways_itemFor ((spellsAlways_lift hparams).bind fun _ _ _ _ => ?_)
    refine (spellsAlways_lift hreturns).bind fun _ _ _ _ => ?_
    exact (spellsAlways_lift (spells_ident hname.hasIdent)).bind
      fun _ _ _ _ => spellsAlways_pure _

omit hnames h hc in
/-- A method that a lookup finds is one of a class of the schema. -/
theorem exists_of_lookupMethod? {name : String} {method : Method}
    (hfound : lookupMethod? m c.name name = some method) :
    ∃ d ∈ m.schema.classes, method ∈ d.methods := by
  obtain ⟨className, -, hlookup⟩ := List.exists_of_findSome?_eq_some hfound
  obtain ⟨d, hclass, hmethod⟩ := Option.bind_eq_some_iff.mp hlookup
  exact ⟨d, List.mem_of_find?_eq_some hclass, List.mem_of_find?_eq_some hmethod⟩

omit hnames hc in
theorem isMarked_of_readableType? {p : Property} {ty : DeclaredType}
    (hreadable : readableType? m c p = some ty) : m.IsMarked ty := by
  unfold readableType? at hreadable
  obtain ⟨-, hreadable⟩ := Option.ite_none_left_eq_some.mp hreadable
  obtain ⟨getter, hgetter, hreadable⟩ := Option.bind_eq_some_iff.mp hreadable
  obtain ⟨-, hreadable⟩ := Option.ite_none_left_eq_some.mp hreadable
  obtain ⟨returns, hreturns, hreadable⟩ := Option.bind_eq_some_iff.mp hreadable
  obtain ⟨-, hreadable⟩ := Option.ite_none_left_eq_some.mp hreadable
  obtain rfl := Option.some.inj hreadable
  obtain ⟨d, hd, hmethod⟩ := exists_of_lookupMethod? hgetter
  refine h.marked _ (Schema.mem_types_of_class hd (List.mem_append_left _
    (List.mem_flatMap.mpr ⟨getter, hmethod, ?_⟩)))
  exact List.mem_append_right _ (Option.mem_toList.mpr hreturns)

theorem spellsAlways_propertyItems {p : Property} (hp : p ∈ c.properties) :
    SpellsAlways (propertyItems m c p) := by
  have hname := hnames.of_class hc (ClassDescriptor.mem_names_of_property hp)
  have hsetter : IsSpelled ("set_" ++ p.name) := .append (by decide) hname
  rw [propertyItems_eq]
  split
  · exact spellsAlways_pure []
  next declared hreadable =>
  have htype := TypeMap.spells_mapMember (h.isSpelled hnames)
    (isMarked_of_readableType? h hreadable) c.name p.name
  refine (spellsAlways_lift htype).bind fun _ _ _ _ => SpellsAlways.inTurn ?_ ?_
  · exact spellsAlways_itemFor ((spellsAlways_lift (spells_ident hname.hasIdent)).bind
      fun _ _ _ _ => spellsAlways_pure _)
  · unfold setterItem
    split
    · exact spellsAlways_pure []
    split
    · exact spellsAlways_pure []
    · exact spellsAlways_itemFor ((spellsAlways_lift (spells_ident hsetter.hasIdent)).bind
        fun _ _ _ _ => spellsAlways_pure _)

theorem spellsAlways_signalItems {s : Signal} (hs : s ∈ c.signals) :
    SpellsAlways (signalItems m c s) := by
  have hname := hnames.of_class hc (ClassDescriptor.mem_names_of_signal hs List.mem_cons_self)
  have haccessor : IsSpelled ("signal_" ++ s.name) := .append (by decide) hname
  have hemitter : IsSpelled ("emit_" ++ s.name) := .append (by decide) hname
  have hparams : Spells (m.mapParams c.name s.name s.params) := by
    refine TypeMap.spells_mapParams (h.isSpelled hnames) (fun p hp => ?_) (fun p hp => ?_) _ _
    · exact hnames.of_class hc (ClassDescriptor.mem_names_of_signal hs
        (List.mem_cons_of_mem _ (List.mem_map_of_mem hp)))
    · exact h.marked _ (Schema.mem_types_of_class hc (List.mem_append_right _
        (List.mem_flatMap.mpr ⟨s, hs, List.mem_map_of_mem hp⟩)))
  rw [signalItems_eq]
  refine SpellsAlways.inTurn (spellsAlways_itemFor ?_) (spellsAlways_itemFor ?_)
  · exact (spellsAlways_lift (spells_ident haccessor.hasIdent)).bind
      fun _ _ _ _ => spellsAlways_pure _
  · exact (spellsAlways_lift hparams).bind fun _ _ _ _ =>
      (spellsAlways_lift (spells_ident hemitter.hasIdent)).bind
        fun _ _ _ _ => spellsAlways_pure _

theorem spellsAlways_functions : SpellsAlways (functions m c) := by
  rw [functions_eq]
  have hmethods : SpellsAlways (List.flatten <$> c.methods.mapM (methodItem m c)) :=
    spellsAlways_flatten fun _ hmethod => spellsAlways_methodItem hnames h hc hmethod
  have hproperties : SpellsAlways (List.flatten <$> c.properties.mapM (propertyItems m c)) :=
    spellsAlways_flatten fun _ hp => spellsAlways_propertyItems hnames h hc hp
  have hsignals : SpellsAlways (List.flatten <$> c.signals.mapM (signalItems m c)) :=
    spellsAlways_flatten fun _ hs => spellsAlways_signalItems hnames h hc hs
  exact ((spellsAlways_constructors.inTurn hmethods).inTurn hproperties).inTurn hsignals

omit h in
theorem spells_parentOf (module : String) : Spells (parentOf m c module) := by
  unfold parentOf
  split
  · exact spells_ok none
  next parent hparent =>
  split
  · have hname := hnames.of_class hc (ClassDescriptor.mem_names_of_parent hparent)
    exact (spells_ident hname.hasIdent).map _
  · exact fun _ herror => nomatch herror

/-- A class is generated unless there is another reason not to than a name. -/
theorem spells_ofClass (level : Level) (module : String) :
    Spells (ofClass m c level module) := by
  have hname := hnames.of_class hc ClassDescriptor.name_mem_names
  refine (spells_ident hname.hasIdent).bind fun _ _ => ?_
  refine (spells_parentOf hnames hc module).bind fun _ _ => ?_
  have hconstants : Spells (c.constants.mapM fun k =>
      (return ClassItem.constant (← Naming.ident k.name) k.value : Emission ClassItem)) := by
    refine spells_mapM fun k hk => ?_
    have hconstant := hnames.of_class hc (ClassDescriptor.mem_names_of_constant hk)
    exact (spells_ident hconstant.hasIdent).bind fun _ _ => spells_pure _
  refine hconstants.bind fun _ _ => ?_
  refine ((spellsAlways_functions hnames h hc []).map Prod.fst).bind fun _ _ => ?_
  refine (VirtualUnit.spells_ofClass hnames h hc).bind fun _ _ => ?_
  refine Spells.bind (spells_mapM fun e he => ?_) fun _ _ => spells_pure _
  have henum := hnames.of_class hc (ClassDescriptor.mem_names_of_enum he List.mem_cons_self)
  exact EnumUnit.spells_ofDescriptor henum.hasIdent
    (h.constants e (Schema.mem_enums_of_class hc he))

end ClassUnit

end Classes

/-! ## Builtin types -/

namespace BuiltinUnit

open Reserving

omit hnames h in
theorem isIdentifier_numbered {base : String} (n : Nat) (hbase : Text.isIdentifier base = true) :
    Text.isIdentifier (numbered base n) = true :=
  isIdentifier_append (isIdentifier_append hbase (by decide)) isSpellable_toString

omit hnames h in
/-- What is made for the name that a base is given can rely on an identifier if the base is one. -/
theorem spellsAlways_reserve {base : String} {n : Nat}
    {make : String → Reserving (List BuiltinItem)}
    (hmake : ∀ name, (Text.isIdentifier base = true → Text.isIdentifier name = true) →
      SpellsAlways (make name)) : SpellsAlways (reserve base n >>= make) := by
  refine SpellsAlways.bind (fun taken => spells_ok _) fun name taken later hrun => hmake name ?_
  rw [run_reserve] at hrun
  obtain ⟨rfl, -⟩ := Prod.mk.inj (Except.ok.inj hrun)
  split
  · exact isIdentifier_numbered n
  · exact id

section Items

variable {b : Builtin} (hb : b ∈ m.schema.builtins)

include hb

omit h in
theorem spellsAlways_constantItem {c : BuiltinConstant} (hc : c ∈ b.constants) :
    SpellsAlways (constantItem b c) := by
  have hname := hnames.of_builtin hb (Builtin.mem_names_of_constant hc)
  unfold constantItem
  split
  · exact spellsAlways_pure []
  · refine spellsAlways_reserve fun name hspelled => ?_
    have hident := hasIdent_of_isIdentifier (hspelled hname.isIdentifier)
    exact (spellsAlways_lift (spells_ident hident)).bind fun _ _ _ _ => spellsAlways_pure _

omit hnames in
theorem isMarked_of_constructor {c : Constructor} (hc : c ∈ b.constructors) {p : Param}
    (hp : p ∈ c.params) : m.IsMarked p.type := by
  have hmem : p.type ∈ b.constructors.flatMap Constructor.types :=
    List.mem_flatMap.mpr ⟨c, hc, List.mem_map_of_mem hp⟩
  refine h.marked _ (Schema.mem_types_of_builtin hb ?_)
  simp only [Builtin.types, List.mem_append]
  exact .inl (.inr hmem)

/-- A constructor whose parameters can be mapped has a name that is an identifier. -/
theorem isIdentifier_constructorName {c : Constructor} (hc : c ∈ b.constructors)
    {member : String} {params : List TypeMap.MappedParam}
    (hparams : m.mapParams b.name member c.params = .ok params) :
    Text.isIdentifier (constructorName c) = true := by
  refine isIdentifier_append (by decide) (isSpellable_join fun part hpart => ?_)
  obtain ⟨p, hp, rfl⟩ := List.mem_map.mp hpart
  have hname := hnames.of_builtin hb
    (Builtin.mem_names_of_constructor hc (List.mem_map_of_mem hp))
  have hspelled := isSpellable_of_isIdentifier hname.isIdentifier
  split
  · next name args htype =>
    split
    · obtain ⟨_, -, hp'⟩ := exists_of_mapM_eq_ok hparams hp
      obtain ⟨type, hmapped, -⟩ := bind_eq_ok_iff.mp hp'
      have hmarked := isMarked_of_constructor h hb hc hp
      unfold TypeMap.mapMember at hmapped
      rw [htype] at hmapped hmarked
      split at hmapped
      · cases hmapped
      · next hmap =>
        exact Text.isSpellable_lower (TypeMap.isSpellable_map (h.isSpelled hnames) hmarked hmap)
    · exact hspelled
  · exact hspelled

theorem spellsAlways_constructorItem {c : Constructor} (hc : c ∈ b.constructors) :
    SpellsAlways (constructorItem m b c) := by
  unfold constructorItem
  split
  · exact spellsAlways_pure []
  · refine spellsAlways_reserve fun name hspelled => ?_
    have hparams : Spells (m.mapParams b.name name c.params) := by
      refine TypeMap.spells_mapParams (h.isSpelled hnames) (fun p hp => ?_) (fun p hp => ?_) _ _
      · exact hnames.of_builtin hb
          (Builtin.mem_names_of_constructor hc (List.mem_map_of_mem hp))
      · exact isMarked_of_constructor h hb hc hp
    refine (spellsAlways_lift hparams).bind fun params taken later hrun => ?_
    have hname := hspelled (isIdentifier_constructorName hnames h hb hc
      (run_lift_eq_ok_iff.mp hrun).1)
    exact (spellsAlways_lift (spells_ident (hasIdent_of_isIdentifier hname))).bind
      fun _ _ _ _ => spellsAlways_pure _

omit h hb hnames in
theorem spells_operandType? {ty : DeclaredType} (hm : m.IsSpelled) (hty : m.IsMarked ty) :
    Spells (operandType? m ty) := by
  unfold operandType?
  split
  · exact spells_ok none
  · next hmap => exact (TypeMap.spells_map hm hty hmap).map some

omit h hb hnames in
theorem isIdentifier_methodSuffix (operator : VariantOperator) :
    Text.isIdentifier ("op_" ++ operator.methodSuffix) = true := by
  cases operator <;> decide

theorem spellsAlways_operatorItem {o : BuiltinOperator} (ho : o ∈ b.operators) (n : Nat) :
    SpellsAlways (operatorItem m b o n) := by
  have hm := h.isSpelled hnames
  have hmarked : ∀ ty ∈ o.types, m.IsMarked ty := fun ty hty =>
    h.marked ty (Schema.mem_types_of_builtin hb
      (List.mem_append_right _ (List.mem_flatMap.mpr ⟨o, ho, hty⟩)))
  have hreturns := spells_operandType? hm
    (hmarked o.returns (List.mem_append_right _ (List.mem_singleton_self _)))
  unfold operatorItem
  split
  · refine (spellsAlways_lift hreturns).bind fun type? _ _ _ => ?_
    cases type? with
    | none => exact spellsAlways_pure []
    | some type =>
      refine spellsAlways_reserve fun name hspelled => ?_
      have hname := hspelled (isIdentifier_methodSuffix o.operator)
      exact (spellsAlways_lift (spells_ident (hasIdent_of_isIdentifier hname))).bind
        fun _ _ _ _ => spellsAlways_pure _
  · next right hright =>
    have hoperand := spells_operandType? hm
      (hmarked right (List.mem_append_left _ (Option.mem_toList.mpr hright)))
    split
    · exact spellsAlways_pure []
    refine (spellsAlways_lift hoperand).bind fun rightType? _ _ hrightRun => ?_
    cases rightType? with
    | none => exact spellsAlways_pure []
    | some rightType =>
    refine (spellsAlways_lift hreturns).bind fun type? _ _ hrun => ?_
    cases type? with
    | none => exact spellsAlways_pure []
    | some type =>
      have hcategory : ∀ {ty : DeclaredType} {t : MarshaledType},
          operandType? m ty = .ok (some t) → hasCategory m ty = true := by
        intro ty t hok
        rcases operandType?_eq_ok hok with ⟨-, hnone⟩ | ⟨hcategory, -⟩
        · cases hnone
        · exact hcategory
      have htext := h.operands b hb o ho right hright
        (hcategory (run_lift_eq_ok_iff.mp hrightRun).1) (hcategory (run_lift_eq_ok_iff.mp hrun).1)
      refine spellsAlways_reserve fun name hspelled => ?_
      have hname := hspelled (isIdentifier_append
        (isIdentifier_append (isIdentifier_methodSuffix o.operator) (by decide))
        (Text.isSpellable_lower htext.tail))
      exact (spellsAlways_lift (spells_ident (hasIdent_of_isIdentifier hname))).bind
        fun _ _ _ _ => spellsAlways_pure _

omit h hb hnames in
/-- An operator that takes a typed array has types, but no name: there is a mark in the text of the
array.  One that takes what has no type would have been left out. -/
theorem unspellable_operatorItem {o : BuiltinOperator} {element : DeclaredType}
    (hright : o.right? = some (.typedArray element)) {rightType returns : MarshaledType}
    (hrightType : operandType? m (.typedArray element) = .ok (some rightType))
    (hreturns : operandType? m o.returns = .ok (some returns)) (n : Nat) (taken : List String) :
    ∃ name, (operatorItem m b o n).run taken = .error (.unspellable name) := by
  have hmark : '<' ∈ (Text.lower (DeclaredType.typedArray element).text).toList := by
    refine Text.mem_lower ?_ (by decide) (by decide)
    simp only [DeclaredType.typedArray, DeclaredType.text, String.toList_append, List.mem_append]
    exact .inl (.inl (.inl (.inr (List.mem_singleton_self '<'))))
  have hnone : ∀ name, '<' ∈ name.toList → ∃ n, Naming.ident name = .error (.unspellable n) :=
    fun name hmem => exists_unspellable fun hspellable =>
      absurd (hspellable.tail _ hmem) (by decide)
  have hvariant : ((DeclaredType.typedArray element).name? == some "Variant") = false := rfl
  have hlift : ∀ {α : Type} (a : α) (f : α → Reserving (List BuiltinItem)),
      (liftM (Except.ok a : Emission α) >>= f) = f a := fun _ _ => rfl
  unfold operatorItem
  rw [hright]
  dsimp only
  rw [hvariant, hrightType, hreturns]
  simp only [Bool.false_eq_true, if_false, hlift]
  rw [StateT.run_bind, run_reserve]
  generalize hbase : "op_" ++ o.operator.methodSuffix ++ "_" ++ _ = base
  have hgiven : '<' ∈ (if taken.contains base then numbered base n else base).toList := by
    have hmem : '<' ∈ base.toList := by
      rw [← hbase, String.toList_append]
      exact List.mem_append_right _ hmark
    split
    · rw [numbered, String.toList_append, String.toList_append]
      exact List.mem_append_left _ (List.mem_append_left _ hmem)
    · exact hmem
  obtain ⟨name, hname⟩ := hnone _ hgiven
  refine ⟨name, ?_⟩
  change (Naming.ident _ >>= _) >>= _ = _
  rw [hname]
  rfl

theorem spellsAlways_operatorItems {os : List BuiltinOperator} (hos : ∀ o ∈ os, o ∈ b.operators)
    (n : Nat) : SpellsAlways (operatorItems m b n os) := by
  induction os generalizing n with
  | nil => exact spellsAlways_pure []
  | cons o rest ih =>
    rw [List.forall_mem_cons] at hos
    exact (spellsAlways_operatorItem hnames h hb hos.1 n).inTurn (ih hos.2 (n + 1))

theorem spellsAlways_namedItems : SpellsAlways (namedItems m b) := by
  have hconstants : SpellsAlways (b.constants.mapM (constantItem b)) :=
    spellsAlways_mapM fun c hc => spellsAlways_constantItem hnames hb hc
  have hconstructors : SpellsAlways (b.constructors.mapM (constructorItem m b)) :=
    spellsAlways_mapM fun c hc => spellsAlways_constructorItem hnames h hb hc
  have hoperators := spellsAlways_operatorItems hnames h hb (fun _ ho => ho) 0
  refine hconstants.bind fun _ _ _ _ => ?_
  split
  · exact spellsAlways_pure _
  · exact hconstructors.bind fun _ _ _ _ => hoperators.bind fun _ _ _ _ => spellsAlways_pure _

theorem spells_methodItem {method : Method} (hmethod : method ∈ b.methods) :
    Spells (methodItem m b method) := by
  have hnamed : ∀ n ∈ method.names, IsSpelled n := fun n hn =>
    hnames.of_builtin hb (Builtin.mem_names_of_method hmethod hn)
  have hmarked : ∀ ty ∈ method.types, m.IsMarked ty := by
    intro ty hty
    have hmem := List.mem_flatMap.mpr ⟨method, hmethod, hty⟩
    refine h.marked ty (Schema.mem_types_of_builtin hb ?_)
    simp only [Builtin.types, List.mem_append]
    exact .inl (.inl hmem)
  obtain ⟨hparams, hreturns⟩ := TypeMap.spells_signature (h.isSpelled hnames)
    (fun n hn => hnamed n (List.mem_cons_of_mem _ hn)) hmarked b.name method.name
  exact hparams.bind fun _ _ => hreturns.bind fun _ _ =>
    (spells_ident (hnamed _ List.mem_cons_self).hasIdent).bind fun _ _ => spells_pure _

/-- A builtin type with the name of its kind is generated unless there is another reason not to than
a name. -/
theorem spells_ofBuiltin (hkind : b.name = b.kind.engineName) : Spells (ofBuiltin m b) := by
  unfold ofBuiltin
  split
  · exact spells_ok none
  next htrait =>
  have hnil : b.kind ≠ .nil := by
    intro hnil
    rw [hasTrait, hnil] at htrait
    exact htrait rfl
  have hname := hasIdent_of_isIdentifier (isIdentifier_builtinTrait b.kind hnil)
  rw [← hkind] at hname
  have hhost : HasIdent b.hostName := by
    unfold Builtin.hostName
    cases hcase : b.kind with
    | nil => exact absurd hcase hnil
    | _ => decide
  refine (spells_ident hname).bind fun _ _ => ?_
  refine (TypeMap.spells_hostType hhost).bind fun _ _ => ?_
  refine ((spellsAlways_namedItems hnames h hb _).map Prod.fst).bind fun _ _ => ?_
  refine Spells.bind (spells_mapM fun method hmethod => ?_) fun _ _ => spells_pure _
  exact spells_methodItem hnames h hb (List.mem_of_mem_filter (List.mem_of_mem_filter hmethod))

end Items

end BuiltinUnit

/-! ## Global functions -/

theorem UtilityUnit.spells_ofFunctions : Spells (ofFunctions m m.schema.utilityFunctions) := by
  refine Spells.bind (spells_mapM fun f hf => ?_) fun _ _ => spells_pure _
  have hnamed : ∀ n ∈ f.names, IsSpelled n := fun n hn => hnames.of_utility hf hn
  have hmarked : ∀ ty ∈ f.types, m.IsMarked ty := fun ty hty =>
    h.marked ty (Schema.mem_types_of_utility hf hty)
  obtain ⟨hparams, hreturns⟩ := TypeMap.spells_signature (h.isSpelled hnames)
    (fun n hn => hnamed n (List.mem_cons_of_mem _ hn)) hmarked ownerName f.name
  unfold ofFunction
  split
  · exact spells_ok none
  · exact hparams.bind fun _ _ => hreturns.bind fun _ _ =>
      (spells_ident (hnamed _ List.mem_cons_self).hasIdent).bind fun _ _ => spells_pure _

/-! ## Enumerations at module scope -/

theorem AssembledModule.spells_moduleEnums : Spells (moduleEnums m.schema) := by
  rw [moduleEnums_eq]
  refine spells_mapM fun x hx => ?_
  rcases List.mem_append.mp hx with hx | hx
  · obtain ⟨e, he, rfl⟩ := List.mem_map.mp hx
    have hname := hnames.of_globalEnum he List.mem_cons_self
    exact EnumUnit.spells_ofDescriptor
      (hasIdent_of_isIdentifier (isIdentifier_flatEnum hname.isIdentifier))
      (h.constants e (Schema.mem_enums_of_global he))
  · obtain ⟨b, hb, hx⟩ := List.mem_flatMap.mp hx
    obtain ⟨e, he, rfl⟩ := List.mem_map.mp hx
    have hname := hnames.of_builtin hb (Builtin.mem_names_of_enum he List.mem_cons_self)
    have howner := hnames.of_builtin hb Builtin.name_mem_names
    exact EnumUnit.spells_ofDescriptor
      (hasIdent_of_isIdentifier
        (isIdentifier_flatEnum_owned howner.isIdentifier hname.isIdentifier))
      (h.constants e (Schema.mem_enums_of_builtin hb he))

end Units

end EngineBindings
