import EngineBindings.Proofs.Declaration.Field
import EngineBindings.Proofs.Marshal.Members

/-!
# Which structures become classes

A structure becomes a class of the engine exactly if its declaration is in order
(`ClassDeclaration.IsValid`) and the names of all accessors can be part of identifiers
(`ExportedClass.ofDeclaration_accepts`).  All conditions but the last are checked field by field and
what fails is collected, so it takes an empty list of errors to tell that all of them hold.

The members of the class are what its fields give, in the order of the fields, and for each of them
there is one statement that registers it.
-/

namespace EngineBindings

/-! ## Declarations -/

namespace ClassDeclaration

open AttributeItem AttributeValue Declaration

/-- The fields other than the base field. -/
def otherFields (d : ClassDeclaration) (base : FieldDeclaration) : List FieldDeclaration :=
  d.fields.filter (·.name != base.name)

/-- Whether a declaration is that of a class which extends an engine class by its base field. -/
structure IsValid (d : ClassDeclaration) (base : FieldDeclaration) (engineClass : Code) : Prop where
  named : ∃ fields, d.body = .named fields
  attributes_readable : AreReadable keys d.items
  not_generic : d.params.isEmpty = true
  /-- No other field has a base object. -/
  base_unique : ∃ before after, d.fields = before ++ base :: after ∧
    baseOf? base.type = some engineClass ∧ ∀ field ∈ before ++ after, baseOf? field.type = none
  base_stated : ∀ stated, value? "base" readPath d.items = some stated →
    lastName stated = lastName engineClass
  level_known : ∀ name, value? "init_level" readText d.items = some name →
    ∃ level : Level, Text.eqIgnoreAsciiCase level.name name = true
  fields_valid : ∀ field ∈ d.otherFields base, field.IsValid

/-- What the fields of a declaration give the class, field by field. -/
def Gives (d : ClassDeclaration) (base : FieldDeclaration)
    (members : List (ClassMember ExportedProperty)) : Prop :=
  ∃ pieces, List.Forall₂ FieldDeclaration.Gives (d.otherFields base) pieces ∧
    members = pieces.flatten

/-! ### Fields -/

theorem membersOf_errors_eq_nil_iff {fields : List FieldDeclaration} :
    (membersOf fields).2 = [] ↔ ∀ field ∈ fields, field.IsValid := by
  induction fields with
  | nil => simp [membersOf]
  | cons field fields ih =>
    rw [List.forall_mem_cons, ← ih, membersOf, List.foldr_cons]
    cases hmembers : field.members with
    | ok more =>
      have hvalid : field.IsValid := (FieldDeclaration.members_eq_ok_iff.mp hmembers).1
      simp [hvalid, membersOf]
    | error more =>
      have hinvalid : ¬field.IsValid := by
        intro hvalid
        obtain ⟨members, hgives⟩ := hvalid.exists_gives
        have hok := FieldDeclaration.members_eq_ok_iff.mpr ⟨hvalid, hgives⟩
        cases hmembers.symm.trans hok
      simp [hinvalid, FieldDeclaration.ne_nil_of_members hmembers]

theorem membersOf_eq_of_gives {fields : List FieldDeclaration}
    {pieces : List (List (ClassMember ExportedProperty))}
    (hvalid : ∀ field ∈ fields, field.IsValid)
    (hgives : List.Forall₂ FieldDeclaration.Gives fields pieces) :
    membersOf fields = (pieces.flatten, []) := by
  induction hgives with
  | nil => rfl
  | @cons field more fields pieces hfield hfields ih =>
    obtain ⟨hfirst, hrest⟩ := List.forall_mem_cons.mp hvalid
    have hmembers := FieldDeclaration.members_eq_ok_iff.mpr ⟨hfirst, hfield⟩
    have ih := ih hrest
    rw [membersOf] at ih
    rw [membersOf, List.foldr_cons, hmembers, ih]
    rfl

theorem exists_forall₂_gives {fields : List FieldDeclaration}
    (hvalid : ∀ field ∈ fields, field.IsValid) :
    ∃ pieces, List.Forall₂ FieldDeclaration.Gives fields pieces := by
  induction fields with
  | nil => exact ⟨[], .nil⟩
  | cons field fields ih =>
    obtain ⟨hfirst, hrest⟩ := List.forall_mem_cons.mp hvalid
    obtain ⟨more, hmore⟩ := hfirst.exists_gives
    obtain ⟨pieces, hpieces⟩ := ih hrest
    exact ⟨more :: pieces, .cons hmore hpieces⟩

theorem IsValid.exists_gives {d : ClassDeclaration} {base : FieldDeclaration} {engineClass : Code}
    (h : d.IsValid base engineClass) : ∃ members, d.Gives base members := by
  obtain ⟨pieces, hpieces⟩ := exists_forall₂_gives h.fields_valid
  exact ⟨_, pieces, hpieces, rfl⟩

/-! ### Checks -/

theorem shapeErrors_eq_nil_iff {d : ClassDeclaration} :
    d.shapeErrors = [] ↔ ∃ fields, d.body = .named fields := by
  unfold shapeErrors
  cases d.body <;> simp

theorem genericErrors_eq_nil_iff {d : ClassDeclaration} :
    d.genericErrors = [] ↔ d.params.isEmpty = true := by
  simp [genericErrors]

theorem baseFields_eq_singleton_iff {d : ClassDeclaration} {base : FieldDeclaration}
    {engineClass : Code} :
    d.baseFields = [(base, engineClass)] ↔
      ∃ before after, d.fields = before ++ base :: after ∧
        baseOf? base.type = some engineClass ∧
        ∀ field ∈ before ++ after, baseOf? field.type = none := by
  rw [baseFields, List.filterMap_eq_cons_iff]
  simp only [List.filterMap_eq_nil_iff, Option.map_eq_none_iff, Option.map_eq_some_iff,
    Prod.mk.injEq, exists_eq_right_right, List.forall_mem_append]
  constructor
  · rintro ⟨before, _, after, hfields, hbefore, ⟨hbase, rfl⟩, hafter⟩
    exact ⟨before, after, hfields, hbase, hbefore, hafter⟩
  · rintro ⟨before, after, hfields, hbase, hbefore, hafter⟩
    exact ⟨before, base, after, hfields, hbefore, ⟨hbase, rfl⟩, hafter⟩

theorem baseErrors_eq_nil_iff {d : ClassDeclaration} {engineClass : Code} :
    d.baseErrors engineClass = [] ↔
      ∀ stated, value? "base" readPath d.items = some stated →
        lastName stated = lastName engineClass := by
  unfold baseErrors
  cases value? "base" readPath d.items <;> simp

/-- The level of a class is the one that its attribute names, or else the usual one. -/
theorem level_eq_ok_iff {d : ClassDeclaration} {level : Level} :
    d.level = .ok level ↔
      match value? "init_level" readText d.items with
      | none => level = .usual
      | some name => Level.ofAnyCase? name = some level := by
  unfold ClassDeclaration.level
  cases value? "init_level" readText d.items with
  | none => simp [eq_comm]
  | some name =>
    dsimp only
    cases Level.ofAnyCase? name <;> simp

theorem exists_level_iff {d : ClassDeclaration} :
    (∃ level, d.level = .ok level) ↔
      ∀ name, value? "init_level" readText d.items = some name →
        ∃ level : Level, Text.eqIgnoreAsciiCase level.name name = true := by
  simp only [level_eq_ok_iff]
  cases value? "init_level" readText d.items with
  | none => simp
  | some name =>
    have hall : ∀ level : Level, level ∈ Level.all := fun level => by cases level <;> decide
    simp only [Option.some.injEq, forall_eq', ← Option.isSome_iff_exists, Level.ofAnyCase?,
      List.find?_isSome, hall, true_and]

end ClassDeclaration

/-! ## Classes -/

namespace ExportedClass

open ClassDeclaration Declaration
open AttributeItem (value?)
open AttributeValue (readText readPath)

/-- Whether a class is the one that a declaration is of. -/
structure IsClassOf (d : ClassDeclaration) (base : FieldDeclaration) (engineClass : Code)
    (c : ExportedClass) : Prop where
  ident_eq : c.ident = d.ident
  name_eq : c.name = (value? "rename" readText d.items).getD d.ident
  baseField_eq : c.baseField = base.name
  base_eq : c.base = engineClass
  level_eq : d.level = .ok c.level
  /-- The members are those that the fields give, in the order of the fields. -/
  members : d.Gives base c.members

theorem ofFields_eq_ok_iff {d : ClassDeclaration} {field : FieldDeclaration} {base : Code}
    {others : List (FieldDeclaration × Code)} {c : ExportedClass} :
    ofFields d field base others = .ok c ↔
      d.genericErrors = [] ∧ others = [] ∧ d.baseErrors base = [] ∧
        (membersOf (d.otherFields field)).2 = [] ∧ ∃ level, d.level = .ok level ∧
          c = ⟨d.ident, (value? "rename" readText d.items).getD d.ident, field.name, base, level,
            (membersOf (d.otherFields field)).1⟩ := by
  unfold ofFields otherFields
  cases d.level with
  | error e => simp
  | ok level =>
    simp only [List.isEmpty_iff, List.append_eq_nil_iff, List.map_eq_nil_iff, Except.ok.injEq]
    split
    · next h =>
      obtain ⟨⟨⟨⟨hgeneric, hothers⟩, hbase⟩, -⟩, hmembers⟩ := h
      simp [hgeneric, hothers, hbase, hmembers, eq_comm]
    · next h =>
      refine ⟨fun hok => (nomatch hok), ?_⟩
      rintro ⟨hgeneric, hothers, hbase, hmembers, -⟩
      exact absurd ⟨⟨⟨⟨hgeneric, hothers⟩, hbase⟩, trivial⟩, hmembers⟩ h

theorem ofDeclaration_eq_ok_iff {d : ClassDeclaration} {c : ExportedClass} :
    ofDeclaration d = .ok c ↔
      ∃ base engineClass, d.IsValid base engineClass ∧ IsClassOf d base engineClass c := by
  have hreads : ofDeclaration d = .ok c ↔
      AttributeItem.errors keys d.items = [] ∧ d.shapeErrors = [] ∧
        ∃ base engineClass others, d.baseFields = (base, engineClass) :: others ∧
          ofFields d base engineClass others = .ok c := by
    simp only [ofDeclaration, Bool.not_eq_true', List.isEmpty_eq_false_iff, ne_eq,
      List.append_eq_nil_iff, ite_not]
    split
    · next h =>
      simp only [h, true_and]
      cases d.baseFields with
      | nil => simp
      | cons first others =>
        simp only [List.cons.injEq]
        constructor
        · exact fun hok => ⟨first.1, first.2, others, ⟨rfl, rfl⟩, hok⟩
        · rintro ⟨base, engineClass, _, ⟨rfl, rfl⟩, hok⟩
          exact hok
    · next h =>
      refine ⟨fun hok => (nomatch hok), ?_⟩
      rintro ⟨hattributes, hshape, -⟩
      exact absurd ⟨hattributes, hshape⟩ h
  rw [hreads, AttributeItem.errors_eq_nil_iff, shapeErrors_eq_nil_iff]
  simp only [ofFields_eq_ok_iff, genericErrors_eq_nil_iff, baseErrors_eq_nil_iff,
    membersOf_errors_eq_nil_iff]
  constructor
  · rintro ⟨hattributes, hnamed, base, engineClass, _, hbase, hgeneric, rfl, hstated, hfields,
      level, hlevel, rfl⟩
    refine ⟨base, engineClass, ⟨hnamed, hattributes, hgeneric,
      baseFields_eq_singleton_iff.mp hbase, hstated, exists_level_iff.mp ⟨level, hlevel⟩, hfields⟩,
      ⟨rfl, rfl, rfl, rfl, hlevel, ?_⟩⟩
    obtain ⟨pieces, hpieces⟩ := exists_forall₂_gives hfields
    exact ⟨pieces, hpieces, congrArg Prod.fst (membersOf_eq_of_gives hfields hpieces)⟩
  · rintro ⟨base, engineClass, hvalid, hclass⟩
    obtain ⟨pieces, hpieces, hmembers⟩ := hclass.members
    refine ⟨hvalid.attributes_readable, hvalid.named, base, engineClass, [],
      baseFields_eq_singleton_iff.mpr hvalid.base_unique, hvalid.not_generic, rfl,
      hvalid.base_stated, hvalid.fields_valid, c.level, hclass.level_eq, ?_⟩
    rw [membersOf_eq_of_gives hvalid.fields_valid hpieces, ← hmembers, ← hclass.ident_eq]
    rw [hclass.ident_eq, ← hclass.name_eq, ← hclass.baseField_eq, ← hclass.base_eq,
      ← hclass.ident_eq]

theorem ne_nil_of_ofFields {d : ClassDeclaration} {field : FieldDeclaration} {base : Code}
    {others : List (FieldDeclaration × Code)} {errors : List DeclarationError}
    (h : ofFields d field base others = .error errors) : errors ≠ [] := by
  simp only [ofFields] at h
  generalize d.genericErrors ++ _ ++ _ ++ _ ++ _ = found at h
  split at h
  · cases h
  · next hsome =>
    obtain rfl := Except.error.inj h
    simpa using hsome

/-- What is wrong with a declaration is told. -/
theorem ne_nil_of_ofDeclaration {d : ClassDeclaration} {errors : List DeclarationError}
    (h : ofDeclaration d = .error errors) : errors ≠ [] := by
  simp only [ofDeclaration] at h
  split at h
  · next hsome =>
    obtain rfl := Except.error.inj h
    simpa using hsome
  · split at h
    · obtain rfl := Except.error.inj h
      simp
    · exact ne_nil_of_ofFields h

/-! ## Code -/

/-- Whether code is that of a class: it says what the class is and what the class exports, with one
statement for each member. -/
structure IsCodeOf (c : ExportedClass) (code : Code) : Prop where
  impls : ∃ members : MemberCode, code = c.identityCode ++ c.exportCode members ++
      Code.fixed "impl" ++ Code.word c.ident ++ Code.brace (Code.concat members.accessors) ∧
    members.registrations = c.plan.map MemberCode.registration
  /-- The statements are for the members of the class in their order. -/
  plan_declared : c.plan.map PlannedMember.declared = c.members

theorem code_eq_ok_iff {c : ExportedClass} {code : Code} :
    c.code = .ok code ↔ ∃ members, MemberCode.ofPlan c.name c.plan = .ok members ∧
      code = c.identityCode ++ c.exportCode members ++ Code.fixed "impl" ++ Code.word c.ident ++
        Code.brace (Code.concat members.accessors) := by
  rw [ExportedClass.code, bind_eq_ok_iff]
  refine exists_congr fun members => and_congr_right fun _ => ?_
  exact ⟨fun h => (Except.ok.inj h).symm, fun h => congrArg Except.ok h.symm⟩

theorem exists_code_iff {c : ExportedClass} :
    (∃ code, c.code = .ok code) ↔
      ∀ accessor ∈ c.plan.filterMap PlannedMember.accessor?, Naming.IsSpellable accessor := by
  simp only [code_eq_ok_iff, MemberCode.ofPlan_eq_ok_iff]
  constructor
  · rintro ⟨code, members, ⟨hspelled, -⟩, -⟩
    exact hspelled
  · exact fun hspelled => ⟨_, _, ⟨hspelled, rfl⟩, rfl⟩

theorem isCodeOf_of_code {c : ExportedClass} {code : Code} (h : c.code = .ok code) :
    c.IsCodeOf code := by
  obtain ⟨members, hmembers, hcode⟩ := code_eq_ok_iff.mp h
  obtain ⟨-, hparts⟩ := MemberCode.ofPlan_eq_ok_iff.mp hmembers
  exact ⟨⟨members, hcode, by rw [hparts]⟩, ClassMember.plan_declared c.members⟩

/-! ## Main statement -/

/-- A structure gets the code of a class exactly if its declaration is in order and all accessors of
what its fields give have names that can be part of identifiers.  If the declaration is not in
order, there are errors instead.  The code is that of a class with just these members, in the order
of the fields. -/
theorem ofDeclaration_accepts (d : ClassDeclaration) :
    ((∃ c code, ofDeclaration d = .ok c ∧ c.code = .ok code) ↔
        ∃ base engineClass members, d.IsValid base engineClass ∧ d.Gives base members ∧
          ∀ accessor ∈ (ClassMember.plan members).filterMap PlannedMember.accessor?,
            Naming.IsSpellable accessor) ∧
      ((¬∃ base engineClass, d.IsValid base engineClass) →
        ∃ errors, errors ≠ [] ∧ ofDeclaration d = .error errors) ∧
      ∀ c code, ofDeclaration d = .ok c → c.code = .ok code →
        ∃ base engineClass, d.IsValid base engineClass ∧ IsClassOf d base engineClass c ∧
          c.IsCodeOf code := by
  refine ⟨⟨?_, ?_⟩, fun hinvalid => ?_, fun c code hc hcode => ?_⟩
  · rintro ⟨c, code, hc, hcode⟩
    obtain ⟨base, engineClass, hvalid, hclass⟩ := ofDeclaration_eq_ok_iff.mp hc
    exact ⟨base, engineClass, c.members, hvalid, hclass.members, exists_code_iff.mp ⟨code, hcode⟩⟩
  · rintro ⟨base, engineClass, members, hvalid, hgives, hspelled⟩
    obtain ⟨level, hlevel⟩ := exists_level_iff.mpr hvalid.level_known
    let c : ExportedClass := ⟨d.ident, (value? "rename" readText d.items).getD d.ident, base.name,
      engineClass, level, members⟩
    obtain ⟨code, hcode⟩ := exists_code_iff (c := c).mpr hspelled
    have hclass : IsClassOf d base engineClass c := ⟨rfl, rfl, rfl, rfl, hlevel, hgives⟩
    exact ⟨c, code, ofDeclaration_eq_ok_iff.mpr ⟨base, engineClass, hvalid, hclass⟩, hcode⟩
  · cases hread : ofDeclaration d with
    | error errors => exact ⟨errors, ne_nil_of_ofDeclaration hread, rfl⟩
    | ok c =>
      obtain ⟨base, engineClass, hvalid, -⟩ := ofDeclaration_eq_ok_iff.mp hread
      exact absurd ⟨base, engineClass, hvalid⟩ hinvalid
  · obtain ⟨base, engineClass, hvalid, hclass⟩ := ofDeclaration_eq_ok_iff.mp hc
    exact ⟨base, engineClass, hvalid, hclass, isCodeOf_of_code hcode⟩

/-! ## Lamps -/

namespace Lamp

/-- A field that a mark exports under another name. -/
def wattsField (name : String) : FieldDeclaration :=
  ⟨"watts", .named "i64" [],
    [⟨"export", some [⟨"rename", .text name⟩, ⟨"hint", .text "range"⟩]⟩,
      ⟨"export_group", some [⟨"name", .text "Light"⟩, ⟨"prefix", .text "light_"⟩]⟩]⟩

/-- The declaration of lamps with some fields. -/
def declaration (fields : List FieldDeclaration) : ClassDeclaration where
  ident := "Lamp"
  params := ⟨[], true⟩
  attributes := [⟨"class", some [⟨"init_level", .text "SCENE"⟩]⟩]
  body := .named fields

def baseField : FieldDeclaration :=
  ⟨"base", .named "Base" [.named "Node" []], []⟩

/-- The power of a lamp. -/
def watts : ExportedProperty :=
  ⟨"watts", ⟨Code.word "i64", .plain "i64", .primitive (.integer .i64)⟩,
    ⟨some .range, none, .usual⟩⟩

/-- The class of lamps, with the name of the property of their power. -/
def lamp (name : String) : ExportedClass :=
  ⟨"Lamp", "Lamp", "base", Code.word "Node", .scene,
    [.group "Light" "light_", .property name watts]⟩

theorem ofDeclaration_eq (name : String) :
    ofDeclaration (declaration [wattsField name, baseField]) = .ok (lamp name) := by
  rfl

end Lamp

/-- The mark of the group counts before that of the property, although it comes later; without a
base field there is no class. -/
theorem ofDeclaration_accepts_lamp :
    (∃ c code, ofDeclaration (Lamp.declaration [Lamp.wattsField "light_watts", Lamp.baseField]) =
        .ok c ∧ c.code = .ok code ∧ c.IsCodeOf code ∧
      c.members = [.group "Light" "light_", .property "light_watts" Lamp.watts]) ∧
    ∃ errors, errors ≠ [] ∧
      ofDeclaration (Lamp.declaration [Lamp.wattsField "light_watts"]) = .error errors := by
  have hlamp := Lamp.ofDeclaration_eq "light_watts"
  constructor
  · obtain ⟨haccepts, -, hcodes⟩ :=
      ofDeclaration_accepts (Lamp.declaration [Lamp.wattsField "light_watts", Lamp.baseField])
    obtain ⟨base, engineClass, hvalid, hclass⟩ := ofDeclaration_eq_ok_iff.mp hlamp
    obtain ⟨c, code, hc, hcode⟩ := haccepts.mpr
      ⟨base, engineClass, _, hvalid, hclass.members, by decide +kernel⟩
    obtain ⟨-, -, -, -, hisCode⟩ := hcodes c code hc hcode
    obtain rfl := Except.ok.inj (hlamp.symm.trans hc)
    exact ⟨_, code, hlamp, hcode, hisCode, rfl⟩
  · refine (ofDeclaration_accepts (Lamp.declaration [Lamp.wattsField "light_watts"])).2.1 ?_
    rintro ⟨base, engineClass, hvalid⟩
    have hnone : (Lamp.declaration [Lamp.wattsField "light_watts"]).baseFields = [] := by rfl
    cases hnone.symm.trans (baseFields_eq_singleton_iff.mpr hvalid.base_unique)

/-- A property can be named so that its accessors have no identifiers. -/
theorem not_accepts_blank_in_name :
    ¬∀ (d : ClassDeclaration) (base : FieldDeclaration) (engineClass : Code),
      d.IsValid base engineClass → ∃ c code, ofDeclaration d = .ok c ∧ c.code = .ok code := by
  intro h
  have hlamp := Lamp.ofDeclaration_eq "has space"
  obtain ⟨base, engineClass, hvalid, -⟩ := ofDeclaration_eq_ok_iff.mp hlamp
  obtain ⟨c, code, hc, hcode⟩ := h _ base engineClass hvalid
  obtain rfl := Except.ok.inj (hlamp.symm.trans hc)
  have hspelled := exists_code_iff.mp ⟨code, hcode⟩ "has space" (by decide)
  exact absurd hspelled (by decide +kernel)

end ExportedClass

end EngineBindings
