import EngineBindings.Marshal.Members
import EngineBindings.Proofs.Property.Accessors
import EngineBindings.Proofs.Text.Identifier
import EngineBindings.Proofs.Traverse
import EngineBindings.World.UserClass

/-!
# What is generated for members

There is code for members just where the names of all accessors can be part of identifiers
(`ofPlan_eq_ok_iff`).  Then every member is registered, in the order of declaration, and since
accessors are distinct, every name of a setter or a getter has one arm, which calls the function
that was made for the same property (`ofPlan_members`).
-/

namespace EngineBindings

/-! ## Identifiers of functions -/

namespace Naming

theorem ident_of_underscores {name : String} {rest : List Char}
    (hname : name.toList = '_' :: '_' :: rest) :
    ident name = if Text.isIdentifier name then .ok name else .error (.unspellable name) := by
  have hempty : name.isEmpty = false := by
    rw [← Bool.not_eq_true, String.isEmpty_iff]
    rintro rfl
    cases hname
  have hother : name ≠ "_" := by
    rintro rfl
    cases hname
  have hwords : (Text.pathKeywords ++ Text.keywords).all
      (fun word => word.toList.head? != some '_') = true := by
    decide +kernel
  have hword : ∀ word ∈ Text.pathKeywords ++ Text.keywords, name ≠ word := by
    rintro word hmem rfl
    have hhead := List.all_eq_true.mp hwords name hmem
    rw [hname] at hhead
    cases hhead
  have hpath : name ∉ Text.pathKeywords := fun hmem =>
    hword name (List.mem_append_left _ hmem) rfl
  have hkeyword : name ∉ Text.keywords := fun hmem =>
    hword name (List.mem_append_right _ hmem) rfl
  simp [ident, hempty, hother, hpath, hkeyword, hname]

/-- Behind underscores every text that is spellable makes an identifier. -/
theorem identCode_eq_ok_iff {lead s : String} {rest : List Char}
    (hlead : lead.toList = '_' :: '_' :: rest) (hspellable : IsSpellable lead) {code : Code} :
    identCode (lead ++ s) = .ok code ↔ IsSpellable s ∧ code = Code.word (lead ++ s) := by
  have hname : (lead ++ s).toList = '_' :: '_' :: (rest ++ s.toList) := by
    rw [String.toList_append, hlead]
    rfl
  have hspelled : Text.isIdentifier (lead ++ s) = true ↔ IsSpellable s := by
    rw [Text.isIdentifier, Text.isIdentifierChars_iff, String.toList_append]
    constructor
    · rintro ⟨-, hall⟩ c hc
      exact hall c (List.mem_append_right _ hc)
    · intro hs
      refine ⟨⟨'_', '_' :: rest ++ s.toList, by rw [hlead]; rfl, rfl⟩, fun c hc => ?_⟩
      rcases List.mem_append.mp hc with hc | hc
      · exact hspellable c hc
      · exact hs c hc
  rw [identCode, map_eq_ok_iff, ident_of_underscores hname, ← hspelled]
  by_cases h : Text.isIdentifier (lead ++ s) = true
  · simp [h, eq_comm]
  · simp [h]

end Naming

/-! ## Names of accessors -/

namespace PlannedMember

theorem setterName_inj {a b : String} (h : setterName a = setterName b) : a = b := by
  simpa [setterName] using h

theorem getterName_inj {a b : String} (h : getterName a = getterName b) : a = b := by
  simpa [getterName] using h

theorem setterName_ne_getterName (a b : String) : setterName a ≠ getterName b := by
  intro h
  have hlist := congrArg (fun s => s.toList.head?) h
  simp [setterName, getterName] at hlist

/-- The names of the setter and the getter. -/
def accessorNames (accessor : String) : List String :=
  [setterName accessor, getterName accessor]

theorem accessorNames_nodup {accessors : List String} (h : accessors.Nodup) :
    (accessors.flatMap accessorNames).Nodup := by
  refine List.nodup_flatMap.mpr ⟨fun a _ => ?_, h.imp fun {a b} hne c hca hcb => ?_⟩
  · simp [accessorNames, setterName_ne_getterName]
  · simp only [accessorNames, List.mem_cons, List.not_mem_nil, or_false] at hca hcb
    rcases hca with rfl | rfl
    · rcases hcb with hset | hget
      · exact hne (setterName_inj hset)
      · exact setterName_ne_getterName a b hget
    · rcases hcb with hset | hget
      · exact setterName_ne_getterName b a hset.symm
      · exact hne (getterName_inj hget)

end PlannedMember

namespace MemberCode

open Code Naming PlannedMember

/-! ## The pieces of code -/

/-- The functions of a property with the identifiers that its accessor gives them. -/
def functionsOf (className name accessor : String) (p : ExportedProperty) : Code :=
  setterFunction className name p (word ("__set_" ++ accessor)) ++
    getterFunction p (word ("__get_" ++ accessor))

/-- The arms of a property. -/
def armsOf (accessor : String) : Code :=
  setterArm accessor (word ("__set_" ++ accessor)) ++ getterArm accessor (word ("__get_" ++ accessor))

def functionsOf? (className : String) : PlannedMember ExportedProperty → Option Code
  | .property name accessor p => some (functionsOf className name accessor p)
  | _ => none

def armsOf? : PlannedMember ExportedProperty → Option Code
  | .property _ accessor _ => some (armsOf accessor)
  | _ => none

variable {className : String} {plan : List (PlannedMember ExportedProperty)}

theorem propertyCode_eq_ok_iff (m : PlannedMember ExportedProperty)
    (code? : Option (Code × Code)) :
    propertyCode className m = .ok code? ↔
      (∀ accessor, m.accessor? = some accessor → IsSpellable accessor) ∧
        code? = (functionsOf? className m).bind fun f => (armsOf? m).map fun a => (f, a) := by
  cases m with
  | group name lead => simp [propertyCode, accessor?, functionsOf?, pure, Except.pure, eq_comm]
  | subgroup name lead => simp [propertyCode, accessor?, functionsOf?, pure, Except.pure, eq_comm]
  | property name accessor p =>
    have hset : ∀ code, identCode ("__set_" ++ accessor) = .ok code ↔
        IsSpellable accessor ∧ code = word ("__set_" ++ accessor) :=
      fun _ => identCode_eq_ok_iff (by rfl) (by decide +kernel)
    have hget : ∀ code, identCode ("__get_" ++ accessor) = .ok code ↔
        IsSpellable accessor ∧ code = word ("__get_" ++ accessor) :=
      fun _ => identCode_eq_ok_iff (by rfl) (by decide +kernel)
    simp only [propertyCode, bind_eq_ok_iff, hset, hget, accessor?, Option.some.injEq,
      forall_eq', functionsOf?, armsOf?, Option.bind_some, Option.map_some]
    constructor
    · rintro ⟨_, ⟨hspelled, rfl⟩, _, ⟨-, rfl⟩, hcode⟩
      exact ⟨hspelled, (Except.ok.inj hcode).symm⟩
    · rintro ⟨hspelled, rfl⟩
      exact ⟨_, ⟨hspelled, rfl⟩, _, ⟨hspelled, rfl⟩, rfl⟩

/-- There is code for members if the names of all accessors are spellable. -/
theorem ofPlan_eq_ok_iff {code : MemberCode} :
    ofPlan className plan = .ok code ↔
      (∀ accessor ∈ plan.filterMap accessor?, IsSpellable accessor) ∧
        code = ⟨plan.map registration, plan.filterMap (functionsOf? className),
          plan.filterMap armsOf?⟩ := by
  have hspelled : (∀ m ∈ plan, ∀ accessor, m.accessor? = some accessor → IsSpellable accessor) ↔
      ∀ accessor ∈ plan.filterMap accessor?, IsSpellable accessor := by
    simp only [List.mem_filterMap]
    exact ⟨fun h a ⟨m, hm, ha⟩ => h m hm a ha, fun h m hm a ha => h a ⟨m, hm, ha⟩⟩
  let pieces (m : PlannedMember ExportedProperty) : Option (Code × Code) :=
    (functionsOf? className m).bind fun f => (armsOf? m).map fun a => (f, a)
  have hfunctions : ((plan.map pieces).filterMap id).map Prod.fst =
      plan.filterMap (functionsOf? className) := by
    rw [List.filterMap_map, List.map_filterMap]
    refine List.filterMap_congr fun m _ => ?_
    cases m <;> rfl
  have harms : ((plan.map pieces).filterMap id).map Prod.snd = plan.filterMap armsOf? := by
    rw [List.filterMap_map, List.map_filterMap]
    refine List.filterMap_congr fun m _ => ?_
    cases m <;> rfl
  rw [ofPlan, bind_eq_ok_iff]
  simp only [mapM_eq_ok_map_iff propertyCode_eq_ok_iff, hspelled]
  constructor
  · rintro ⟨_, ⟨hall, rfl⟩, hcode⟩
    refine ⟨hall, (Except.ok.inj hcode).symm.trans ?_⟩
    rw [← hfunctions, ← harms]
  · rintro ⟨hall, rfl⟩
    refine ⟨_, ⟨hall, rfl⟩, ?_⟩
    rw [← hfunctions, ← harms]
    rfl

/-! ## Arms -/

/-- The name that an arm of a match on names is for. -/
def routedName? : Token → Option String
  | .arm [.text name _] _ _ _ => some name
  | _ => none

/-- The arms for a name. -/
def armsFor (code : MemberCode) (name : String) : Code :=
  (concat code.dispatchArms).filter fun token => routedName? token == some name

theorem concat_armsOf? :
    concat (plan.filterMap armsOf?) = (plan.filterMap accessor?).flatMap armsOf := by
  induction plan with
  | nil => rfl
  | cons m plan ih =>
    cases m with
    | group name lead => exact ih
    | subgroup name lead => exact ih
    | property name accessor p => exact congrArg (armsOf accessor ++ ·) ih

theorem armsOf_names (accessors : List String) :
    (accessors.flatMap armsOf).map routedName? = (accessors.flatMap accessorNames).map some := by
  rw [List.map_flatMap, List.map_flatMap]
  rfl

/-- Where accessors are distinct, a token is the only one for its name. -/
theorem armsFor_eq_singleton {code : MemberCode}
    (harms : code.dispatchArms = plan.filterMap armsOf?)
    (hdistinct : (plan.filterMap accessor?).Nodup) {accessor : String}
    (haccessor : accessor ∈ plan.filterMap accessor?) {token : Token}
    (htoken : token ∈ armsOf accessor) {name : String} (hname : routedName? token = some name) :
    armsFor code name = [token] := by
  have hnodup : ((concat code.dispatchArms).map routedName?).Nodup := by
    rw [harms, concat_armsOf?, armsOf_names]
    exact (accessorNames_nodup hdistinct).map fun _ _ h => Option.some.inj h
  have hmem : token ∈ concat code.dispatchArms := by
    rw [harms, concat_armsOf?]
    exact List.mem_flatMap.mpr ⟨accessor, haccessor, htoken⟩
  rw [armsFor, ← hname]
  exact filter_eq_singleton hnodup hmem

/-! ## Calls by name -/

section Access

open UserClass

variable {before after : List (PlannedMember ExportedProperty)} {name accessor : String}
  {p : ExportedProperty}

theorem accessOf?_eq_none {m : PlannedMember ExportedProperty} (h : m.accessor? ≠ some accessor) :
    accessOf? (setterName accessor) m = none ∧ accessOf? (getterName accessor) m = none := by
  cases m with
  | group name lead => exact ⟨rfl, rfl⟩
  | subgroup name lead => exact ⟨rfl, rfl⟩
  | property name other p =>
    have hne : accessor ≠ other := fun heq => h (congrArg some heq.symm)
    have hset : setterName accessor ≠ setterName other := fun heq => hne (setterName_inj heq)
    have hget : getterName accessor ≠ getterName other := fun heq => hne (getterName_inj heq)
    have hcross := setterName_ne_getterName accessor other
    have hcross' := (setterName_ne_getterName other accessor).symm
    simp [accessOf?, hset, hget, hcross, hcross']

theorem filterMap_accessOf?_eq_nil {members : List (PlannedMember ExportedProperty)}
    (h : accessor ∉ members.filterMap accessor?) :
    members.filterMap (accessOf? (setterName accessor)) = [] ∧
      members.filterMap (accessOf? (getterName accessor)) = [] := by
  have hnone : ∀ m ∈ members, m.accessor? ≠ some accessor := by
    intro m hm heq
    exact h (List.mem_filterMap.mpr ⟨m, hm, heq⟩)
  constructor
  · exact List.filterMap_eq_nil_iff.mpr fun m hm => (accessOf?_eq_none (hnone m hm)).1
  · exact List.filterMap_eq_nil_iff.mpr fun m hm => (accessOf?_eq_none (hnone m hm)).2

/-- The names of the accessors of a property lead to that property only. -/
theorem filterMap_accessOf? (hplan : plan = before ++ .property name accessor p :: after)
    (hdistinct : (plan.filterMap accessor?).Nodup) :
    plan.filterMap (accessOf? (setterName accessor)) = [(.set, name, p)] ∧
      plan.filterMap (accessOf? (getterName accessor)) = [(.get, name, p)] := by
  subst hplan
  rw [List.filterMap_append, List.filterMap_cons_some (by rfl)] at hdistinct
  have hbefore : accessor ∉ before.filterMap accessor? := (notMem_of_split hdistinct).1
  have hafter : accessor ∉ after.filterMap accessor? :=
    (List.nodup_cons.mp (List.nodup_append.mp hdistinct).2.1).1
  have hset : accessOf? (setterName accessor) (.property name accessor p) =
      some (.set, name, p) := by
    simp [accessOf?]
  have hget : accessOf? (getterName accessor) (.property name accessor p) =
      some (.get, name, p) := by
    simp [accessOf?, (setterName_ne_getterName accessor accessor).symm]
  obtain ⟨hbset, hbget⟩ := filterMap_accessOf?_eq_nil hbefore
  obtain ⟨haset, haget⟩ := filterMap_accessOf?_eq_nil hafter
  constructor
  · rw [List.filterMap_append, hbset, List.filterMap_cons_some hset, haset, List.nil_append]
  · rw [List.filterMap_append, hbget, List.filterMap_cons_some hget, haget, List.nil_append]

end Access

/-! ## Main statement -/

/-- How the accessors of a property are reached. -/
structure Routes (className : String) (plan : List (PlannedMember ExportedProperty))
    (code : MemberCode) (name accessor : String) (p : ExportedProperty) : Prop where
  registration_mem :
    builderCall "add_property" [(PropertyOutline.of name p.type.category p.spec).code p.type.code,
      text (setterName accessor), text (getterName accessor)] ∈ code.registrations
  functions_mem : functionsOf className name accessor p ∈ code.accessors
  setter_arm : armsFor code (setterName accessor) =
    setterArm accessor (word ("__set_" ++ accessor))
  getter_arm : armsFor code (getterName accessor) =
    getterArm accessor (word ("__get_" ++ accessor))
  setter_access : plan.filterMap (UserClass.accessOf? (setterName accessor)) = [(.set, name, p)]
  getter_access : plan.filterMap (UserClass.accessOf? (getterName accessor)) = [(.get, name, p)]

theorem routes_of_split {code : MemberCode} (hcode : ofPlan className plan = .ok code)
    (hdistinct : (plan.filterMap accessor?).Nodup)
    {before after : List (PlannedMember ExportedProperty)} {name accessor : String}
    {p : ExportedProperty} (hplan : plan = before ++ .property name accessor p :: after) :
    Routes className plan code name accessor p := by
  obtain ⟨-, rfl⟩ := ofPlan_eq_ok_iff.mp hcode
  have hmem : .property name accessor p ∈ plan := by
    rw [hplan]
    exact List.mem_append_right _ List.mem_cons_self
  have haccessor : accessor ∈ plan.filterMap accessor? :=
    List.mem_filterMap.mpr ⟨_, hmem, rfl⟩
  obtain ⟨hset, hget⟩ := filterMap_accessOf? hplan hdistinct
  exact
    { registration_mem := List.mem_map_of_mem hmem
      functions_mem := List.mem_filterMap.mpr ⟨_, hmem, rfl⟩
      setter_arm := armsFor_eq_singleton rfl hdistinct haccessor List.mem_cons_self rfl
      getter_arm := armsFor_eq_singleton rfl hdistinct haccessor
        (List.mem_cons_of_mem _ List.mem_cons_self) rfl
      setter_access := hset
      getter_access := hget }

/-- What is generated for members whose properties have distinct names. -/
structure IsCodeOf (className : String) (members : List (ClassMember ExportedProperty))
    (code : MemberCode) : Prop where
  /-- There is one statement for each member, in the order of declaration. -/
  registrations_eq : code.registrations = (ClassMember.plan members).map registration
  /-- There is one pair of functions for each property. -/
  accessors_eq : code.accessors = (ClassMember.plan members).filterMap (functionsOf? className)
  declared_eq : (ClassMember.plan members).map declared = members
  accessors_nodup : ((ClassMember.plan members).filterMap accessor?).Nodup
  accessor_rule : ∀ before name accessor p after,
    ClassMember.plan members = before ++ .property name accessor p :: after →
      ClassMember.AccessorRule (ClassMember.storedNames members) (before.map declared)
        (before.filterMap accessor?) name accessor
  routes : ∀ name accessor p, .property name accessor p ∈ ClassMember.plan members →
    Routes className (ClassMember.plan members) code name accessor p

/-- Members whose properties have distinct names get code just if the names of all accessors are
spellable; then every accessor goes by the right name and leads to its property alone. -/
theorem ofPlan_members (className : String) (members : List (ClassMember ExportedProperty))
    (hdistinct : (ClassMember.storedNames members).Nodup) :
    ((∃ code, ofPlan className (ClassMember.plan members) = .ok code) ↔
      ∀ accessor ∈ (ClassMember.plan members).filterMap accessor?, IsSpellable accessor) ∧
    ∀ code, ofPlan className (ClassMember.plan members) = .ok code →
      IsCodeOf className members code := by
  constructor
  · simp only [ofPlan_eq_ok_iff, exists_and_left, exists_eq, and_true]
  · intro code hcode
    have haccessors := ClassMember.plan_accessors_nodup hdistinct
    obtain ⟨-, hparts⟩ := ofPlan_eq_ok_iff.mp hcode
    refine
      { registrations_eq := by rw [hparts]
        accessors_eq := by rw [hparts]
        declared_eq := ClassMember.plan_declared members
        accessors_nodup := haccessors
        accessor_rule := fun _ _ _ _ _ h => ClassMember.plan_accessorRule h
        routes := fun name accessor p hmem => ?_ }
    obtain ⟨before, after, hplan⟩ := List.append_of_mem hmem
    exact routes_of_split hcode haccessors hplan

namespace Paint

/-- A property of integers. -/
def number (name : String) : ClassMember ExportedProperty :=
  .property name ⟨name, ⟨word "i64", .plain "i64", .primitive (.integer .i64)⟩, .usual⟩

/-- A rest that is taken, one that is empty, and one that can be used. -/
def members : List (ClassMember ExportedProperty) :=
  [number "color", .group "Paint" "paint_", number "paint_color", number "paint_",
    number "paint_gloss"]

end Paint

theorem ofPlan_members_paint :
    (ClassMember.storedNames Paint.members).Nodup ∧
      (ClassMember.plan Paint.members).filterMap accessor? =
        ["color", "paint_color", "paint_", "gloss"] ∧
      ∃ code, ofPlan "Car" (ClassMember.plan Paint.members) = .ok code ∧
        IsCodeOf "Car" Paint.members code := by
  have hdistinct : (ClassMember.storedNames Paint.members).Nodup := by decide
  have hmembers := ofPlan_members "Car" Paint.members hdistinct
  obtain ⟨code, hcode⟩ := hmembers.1.mpr (by decide +kernel)
  exact ⟨hdistinct, by decide, code, hcode, hmembers.2 code hcode⟩

theorem not_ofPlan_blank_in_name :
    ¬∀ (className : String) (members : List (ClassMember ExportedProperty)),
      (ClassMember.storedNames members).Nodup →
        ∃ code, ofPlan className (ClassMember.plan members) = .ok code := by
  intro h
  obtain ⟨code, hcode⟩ := h "Car" [Paint.number "has space"] (by decide)
  have hspelled := (ofPlan_eq_ok_iff.mp hcode).1 "has space" (by decide)
  exact absurd hspelled (by decide +kernel)

end MemberCode

end EngineBindings
