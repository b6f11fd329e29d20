import EngineBindings.Proofs.Declaration.Acceptance
import EngineBindings.Proofs.Declaration.Methods
import EngineBindings.Proofs.Host.Kinds
import EngineBindings.Sample.Garage

/-!
# What is recorded of types

A class records the kind of every exported property and of every parameter and result of its exposed
methods.  `UserClass.Records` says where each record comes from: the type that is written there, and
the width that the field states.  Values are encoded as the kind that is recorded, where the
declaration tells what its types are (`UserClass.recorded_kinds`).

A method has no mark for its types.  An enumeration there counts as a class, and so it is recorded
as an object, although its cases are encoded as numbers (`UserClass.not_recorded_kinds`).
-/

namespace EngineBindings

/-- The records of a member. -/
def RegisteredMember.infos : RegisteredMember → List PropertyInfo
  | group _ _ => []
  | subgroup _ _ => []
  | property info _ _ => [info]
  | method m => m.arguments ++ m.returns?.toList
  | signal s => s.arguments

/-- A property of a class is what an export mark makes of a field. -/
theorem ExportedClass.exists_field_of_property {d : ClassDeclaration} {c : ExportedClass}
    (h : ofDeclaration d = .ok c) {name accessor : String} {p : ExportedProperty}
    (hp : .property name accessor p ∈ c.plan) :
    ∃ field ∈ d.fields, ∃ mark, field.exportMark? = some mark ∧ field.IsExportOf mark p := by
  obtain ⟨base, engineClass, -, hclass⟩ := ofDeclaration_eq_ok_iff.mp h
  obtain ⟨pieces, hpieces, hmembers⟩ := hclass.members
  have hdeclared : .property name p ∈ c.members := by
    rw [← ClassMember.plan_declared c.members]
    exact List.mem_map_of_mem hp
  rw [hmembers, List.mem_flatten] at hdeclared
  obtain ⟨piece, hpiece, hmem⟩ := hdeclared
  obtain ⟨field, hfield, hgives⟩ := exists_of_forall₂ hpieces.flip hpiece
  exact ⟨field, List.mem_of_mem_filter hfield, hgives.exists_mark hmem⟩

namespace UserClass

/-- Where the record of a value comes from: the type that a declaration writes for it, and the width
that the declaration states for this type.  Only fields can state one. -/
inductive Records (d : ClassDeclaration) (b : MethodsDeclaration) (c : UserClass) :
    PropertyInfo → TypeSyntax → Option EnumWidth → Prop
  | property {field : FieldDeclaration} {mark : ExportMark} {name accessor : String}
      {p : ExportedProperty} (hfield : field ∈ d.fields) (hmark : field.exportMark? = some mark)
      (hp : field.IsExportOf mark p) (hplanned : .property name accessor p ∈ c.exported.plan) :
      Records d b c (c.info name p.type p.spec) field.type
        (mark.enumWidth?.bind EnumWidth.ofBits?)
  | argument {m : MethodSyntax} {member : ExposedMember} {attributes pattern : Code}
      {t : TypeSyntax} {p : ExposedParam} (hmethod : .method m ∈ b.block.items)
      (hexposed : m.exposed = .ok (some member))
      (hinput : .typed attributes pattern t ∈ m.signature.inputs)
      (hp : MethodSyntax.param? (.typed attributes pattern t) = some (.ok p)) :
      Records d b c (c.paramInfo p) t none
  | result {m : MethodSyntax} {k : Callable} {t : TypeSyntax} {type : MarshaledType}
      (hmethod : .method m ∈ b.block.items) (hexposed : m.exposed = .ok (some (.callable k)))
      (hresult : m.signature.result? = some t) (htype : k.returns? = some type) :
      Records d b c (c.info "" type .usual) t none

variable {d : ClassDeclaration} {b : MethodsDeclaration} {c : UserClass}

/-! ## Completeness -/

theorem infos_registeredProperty {member : PlannedMember ExportedProperty} {info : PropertyInfo} :
    info ∈ (c.registeredProperty member).infos ↔
      ∃ name accessor p, member = .property name accessor p ∧ info = c.info name p.type p.spec := by
  cases member <;> simp [registeredProperty, RegisteredMember.infos]

theorem infos_registeredMethod {member : ExposedMember} {info : PropertyInfo} :
    info ∈ (c.registeredMethod member).infos ↔
      (∃ p ∈ member.params, info = c.paramInfo p) ∨
        ∃ k type, member = .callable k ∧ k.returns? = some type ∧
          info = c.info "" type .usual := by
  cases member with
  | signal s => simp [registeredMethod, RegisteredMember.infos, ExposedMember.params, eq_comm]
  | callable m =>
    simp only [registeredMethod, RegisteredMember.infos, ExposedMember.params, List.mem_append,
      List.mem_map, Option.mem_toList, Option.map_eq_some_iff,
      ExposedMember.callable.injEq, exists_and_left, exists_eq_left', eq_comm (a := info)]

/-- A class records what its declarations write, and nothing else. -/
theorem registered_iff_records (hexported : ExportedClass.ofDeclaration d = .ok c.exported)
    (hmethods : ExposedMethods.ofDeclaration b = .ok c.methods) {info : PropertyInfo} :
    (∃ member ∈ c.registeredMembers, info ∈ member.infos) ↔
      ∃ t width?, Records d b c info t width? := by
  simp only [registeredMembers, List.mem_append, List.mem_map]
  constructor
  · rintro ⟨_, ⟨member, hmember, rfl⟩ | ⟨member, hmember, rfl⟩, hinfo⟩
    · obtain ⟨name, accessor, p, rfl, rfl⟩ := infos_registeredProperty.mp hinfo
      obtain ⟨field, hfield, mark, hmark, hp⟩ :=
        ExportedClass.exists_field_of_property hexported hmember
      exact ⟨_, _, .property hfield hmark hp hmember⟩
    · obtain ⟨m, hmethod, hexposed⟩ := (ExposedMethods.mem_members_iff hmethods).mp hmember
      rcases infos_registeredMethod.mp hinfo with ⟨p, hp, rfl⟩ | ⟨k, type, rfl, htype, rfl⟩
      · obtain ⟨input, hinput, hparam⟩ := (MethodSyntax.mem_exposedParams_iff
          (MethodSyntax.exposedParams_of_exposed hexposed)).mp hp
        obtain ⟨attributes, pattern, t, category, rfl, -⟩ := MethodSyntax.param?_eq_ok hparam
        exact ⟨_, _, .argument hmethod hexposed hinput hparam⟩
      · obtain ⟨-, hresult⟩ :=
          MethodSyntax.callable_eq_ok (MethodSyntax.exposed_eq_callable hexposed)
        rw [htype] at hresult
        obtain ⟨t, category, ht, -⟩ := MethodSyntax.exposedResult_eq_some hresult
        exact ⟨_, _, .result hmethod hexposed ht htype⟩
  · rintro ⟨t, width?, hrecords⟩
    cases hrecords with
    | property hfield hmark hp hplanned =>
      exact ⟨_, .inl ⟨_, hplanned, rfl⟩, infos_registeredProperty.mpr ⟨_, _, _, rfl, rfl⟩⟩
    | argument hmethod hexposed hinput hp =>
      have hmember := (ExposedMethods.mem_members_iff hmethods).mpr ⟨_, hmethod, hexposed⟩
      have hparam := (MethodSyntax.mem_exposedParams_iff
        (MethodSyntax.exposedParams_of_exposed hexposed)).mpr ⟨_, hinput, hp⟩
      exact ⟨_, .inr ⟨_, hmember, rfl⟩, infos_registeredMethod.mpr (.inl ⟨_, hparam, rfl⟩)⟩
    | result hmethod hexposed hresult htype =>
      have hmember := (ExposedMethods.mem_members_iff hmethods).mpr ⟨_, hmethod, hexposed⟩
      exact ⟨_, .inr ⟨_, hmember, rfl⟩,
        infos_registeredMethod.mpr (.inr ⟨_, _, rfl, htype, rfl⟩)⟩

/-! ## Kinds -/

theorem info_kind (name : String) (type : MarshaledType) (spec : PropertySpec) :
    (c.info name type spec).kind = type.category.variantKind := by
  unfold info
  split <;> rfl

/-- The kind that is recorded is that of the category of the type as it is written. -/
theorem Records.category {info : PropertyInfo} {t : TypeSyntax} {width? : Option EnumWidth}
    (h : Records d b c info t width?) :
    ∃ category, TypeCategory.ofSyntax t width? = .ok category ∧
      info.kind = category.variantKind := by
  cases h with
  | property hfield hmark hp hplanned => exact ⟨_, hp.category, info_kind _ _ _⟩
  | argument hmethod hexposed hinput hp =>
    obtain ⟨_, _, _, category, heq, -, hcategory, htype⟩ := MethodSyntax.param?_eq_ok hp
    obtain ⟨-, -, rfl⟩ := InputSyntax.typed.inj heq
    refine ⟨category, hcategory, ?_⟩
    rw [paramInfo, info_kind, htype]
    rfl
  | result hmethod hexposed hresult htype =>
    obtain ⟨-, hreturns⟩ := MethodSyntax.callable_eq_ok (MethodSyntax.exposed_eq_callable hexposed)
    rw [htype] at hreturns
    obtain ⟨t, category, ht, hcategory, rfl⟩ := MethodSyntax.exposedResult_eq_some hreturns
    obtain rfl := Option.some.inj (hresult.symm.trans ht)
    exact ⟨category, hcategory, info_kind _ _ _⟩

/-- What a class records of a type is the kind as which values of the type are encoded, or none for
an opaque type, provided that the declaration tells what its type is. -/
theorem recorded_kinds (hexported : ExportedClass.ofDeclaration d = .ok c.exported)
    (hmethods : ExposedMethods.ofDeclaration b = .ok c.methods) :
    (∀ info, (∃ member ∈ c.registeredMembers, info ∈ member.infos) ↔
        ∃ t width?, Records d b c info t width?) ∧
      ∀ info t width?, Records d b c info t width? → c.names.Tell (.ofSyntax t) width? →
        ((HostType.ofSyntax c.names t).IsOpaque → info.kind = .nil) ∧
        (¬(HostType.ofSyntax c.names t).IsOpaque → ∀ x, (HostType.ofSyntax c.names t).Has x →
          x.encode ≠ .nil → x.encode.kind = info.kind) := by
  refine ⟨fun info => registered_iff_records hexported hmethods, ?_⟩
  intro info t width? hrecords htell
  obtain ⟨category, hcategory, hkind⟩ := hrecords.category
  rw [hkind]
  rcases TypeCategory.carries_of_classify hcategory htell with ⟨hvariant, hnil⟩ | ⟨hknown, hcarried⟩
  · exact ⟨fun _ => hnil, fun hknown => absurd hvariant hknown⟩
  · exact ⟨fun hvariant => absurd hvariant hknown, fun _ => hcarried⟩

/-! ## A rally -/

namespace Rally

open Garage

/-- A field that is marked as an enumeration. -/
def teamField : FieldDeclaration :=
  field "team" (plain "Team") [exportWith [⟨"enum_width", .integer 32⟩]]

def declaration : ClassDeclaration where
  ident := "Car"
  params := ⟨[], true⟩
  attributes := []
  body := .named [field "base" (generic "Base" "Node") [], teamField]

/-- A method that takes a case of the same enumeration. -/
def methods : MethodsDeclaration :=
  block "Car" [callable "honk" (some .exclusive) [("team", plain "Team")] none] none

def car : UserClass where
  exported := declared (ExportedClass.ofDeclaration declaration)
  methods := declared (ExposedMethods.ofDeclaration methods)
  base := nodeClass
  names := ⟨[⟨"Team", .bits32, false, [⟨"Red", "Red", 0⟩, ⟨"Blue", "Blue", 4⟩]⟩], []⟩
  body _ fields _ := (fields, none)
  virtuals := noVirtuals

theorem exported_eq : ExportedClass.ofDeclaration declaration = .ok car.exported := by rfl

theorem methods_eq : ExposedMethods.ofDeclaration methods = .ok car.methods := by rfl

def team : ExportedProperty :=
  ⟨"team", .ofSyntax (plain "Team") (.enumeration .bits32), .usual⟩

theorem records_field : Records declaration methods car (car.info "team" team.type .usual)
    (plain "Team") (some .bits32) := by
  have hfield : teamField ∈ declaration.fields := List.mem_cons_of_mem _ List.mem_cons_self
  have hp : teamField.IsExportOf ⟨none, none, none, some 32, none⟩ team :=
    ⟨rfl, by rfl, rfl, rfl, rfl, rfl⟩
  have hplanned : .property "team" "team" team ∈ car.exported.plan := List.mem_cons_self
  exact .property hfield (by rfl) hp hplanned

/-- Without a mark, the enumeration is taken for a class. -/
def driver : ExposedParam :=
  ⟨"team", .ofSyntax (plain "Team") (.object "Team" false .dynamic)⟩

theorem records_argument :
    Records declaration methods car (car.paramInfo driver) (plain "Team") none :=
  .argument List.mem_cons_self (by rfl) (List.mem_cons_of_mem _ List.mem_cons_self) (by rfl)

theorem has_blue : (HostType.ofSyntax car.names (plain "Team")).Has (.enumeration 4) :=
  .enumeration (c := ⟨"Blue", "Blue", 4⟩) (by decide)

end Rally

theorem recorded_kinds_rally :
    ExportedClass.ofDeclaration Rally.declaration = .ok Rally.car.exported ∧
      ExposedMethods.ofDeclaration Rally.methods = .ok Rally.car.methods ∧
      Rally.car.names.Tell (.ofSyntax (Garage.plain "Team")) (some .bits32) ∧
      (HostValue.enumeration 4).encode.kind =
        (Rally.car.info "team" Rally.team.type .usual).kind := by
  have htell : Rally.car.names.Tell (.ofSyntax (Garage.plain "Team")) (some .bits32) :=
    ⟨fun _ _ => Option.some_ne_none _, fun _ _ => ⟨_, rfl⟩⟩
  have hkinds := (recorded_kinds Rally.exported_eq Rally.methods_eq).2 _ _ _
    Rally.records_field htell
  exact ⟨Rally.exported_eq, Rally.methods_eq, htell,
    hkinds.2 id _ Rally.has_blue (by simp [HostValue.encode])⟩

/-- An enumeration that nothing marks is recorded as an object and encoded as a number. -/
theorem not_recorded_kinds :
    ¬∀ (d : ClassDeclaration) (b : MethodsDeclaration) (c : UserClass),
      ExportedClass.ofDeclaration d = .ok c.exported →
        ExposedMethods.ofDeclaration b = .ok c.methods →
        ∀ info t width?, Records d b c info t width? →
          ¬(HostType.ofSyntax c.names t).IsOpaque → ∀ x, (HostType.ofSyntax c.names t).Has x →
            x.encode ≠ .nil → x.encode.kind = info.kind := by
  intro hkinds
  have hkind := hkinds _ _ _ Rally.exported_eq Rally.methods_eq _ _ _ Rally.records_argument id _
    Rally.has_blue (by simp [HostValue.encode])
  rw [paramInfo, info_kind] at hkind
  cases hkind

end UserClass

end EngineBindings
