import EngineBindings.Bindings.Assembly
import EngineBindings.Proofs.Bindings.ClassItems
import EngineBindings.Proofs.Sequence
import EngineBindings.Proofs.Traverse

/-!
# Enumerations in generated code

A name of a type string is looked up among global enumerations, then in a class, then in a builtin
type.  Where it is generated is decided in another order: a builtin type comes before a class.  The
two agree unless a class and a builtin type have one name (`Schema.IsDisputed`), and then a module
refers to the enumeration where it is generated (`TypeMap.enumOwner?_defined`).

Enumerations at module scope lose their dots, so different ones can end up under one identifier.
-/

namespace EngineBindings

/-! ## Lookup -/

namespace Schema

variable {s : Schema} {qualified : String} {e : Enumeration}

theorem eq_of_splitOwner? {owner name : String} (h : splitOwner? qualified = some (owner, name)) :
    qualified = owner ++ "." ++ name := by
  unfold splitOwner? at h
  dsimp only at h
  split at h
  · cases h
  · next c rest hdrop =>
    obtain ⟨rfl, rfl⟩ := Prod.mk.inj (Option.some.inj h)
    have hdot : c = '.' := by
      have hhead := List.head?_dropWhile_not (· != '.') qualified.toList
      rw [hdrop] at hhead
      simpa using hhead
    subst hdot
    rw [← String.toList_inj]
    simp only [String.toList_append, String.toList_ofList, List.append_assoc]
    have happend : qualified.toList.takeWhile (· != '.') ++ qualified.toList.dropWhile (· != '.') =
        qualified.toList := List.takeWhile_append_dropWhile
    rw [hdrop] at happend
    exact happend.symm

/-- Where lookup finds an enumeration. -/
inductive Finds (s : Schema) (qualified : String) (e : Enumeration) : Prop
  | atModule (hmem : e ∈ s.globalEnums) (hname : e.name = qualified)
  | inClass {owner name : String} {c : ClassDescriptor}
    (hglobal : ∀ g ∈ s.globalEnums, g.name ≠ qualified)
    (hsplit : splitOwner? qualified = some (owner, name)) (hclass : s.class? owner = some c)
    (henum : c.enum? name = some e)
  | inBuiltin {owner name : String} {b : Builtin}
    (hglobal : ∀ g ∈ s.globalEnums, g.name ≠ qualified)
    (hsplit : splitOwner? qualified = some (owner, name)) (hbuiltin : s.builtin? owner = some b)
    (hmem : e ∈ b.enums) (hname : e.name = name)

theorem finds_of_findEnum? (h : s.findEnum? qualified = some e) : s.Finds qualified e := by
  unfold findEnum? at h
  split at h
  · next g hfind =>
    obtain rfl := Option.some.inj h
    have hname := List.find?_some hfind
    exact .atModule (List.mem_of_find?_eq_some hfind) (eq_of_beq hname)
  · next hfind =>
    have hglobal : ∀ g ∈ s.globalEnums, g.name ≠ qualified := by
      intro g hg heq
      exact List.find?_eq_none.mp hfind g hg (beq_iff_eq.mpr heq)
    obtain ⟨⟨owner, name⟩, hsplit, h⟩ := Option.bind_eq_some_iff.mp h
    dsimp only at h
    split at h
    · next found hfound =>
      obtain rfl := Option.some.inj h
      obtain ⟨c, hclass, henum⟩ := Option.bind_eq_some_iff.mp hfound
      exact .inClass hglobal hsplit hclass henum
    · obtain ⟨b, hbuiltin, henum⟩ := Option.bind_eq_some_iff.mp h
      have hname := List.find?_some henum
      exact .inBuiltin hglobal hsplit hbuiltin (List.mem_of_find?_eq_some henum) (eq_of_beq hname)

/-- Whether a class and a builtin type both have the name of an owner and the class declares the
enumeration. -/
def IsDisputed (s : Schema) (qualified : String) : Prop :=
  (∀ g ∈ s.globalEnums, g.name ≠ qualified) ∧ ∃ owner name c,
    splitOwner? qualified = some (owner, name) ∧ s.class? owner = some c ∧
      (c.enum? name).isSome = true ∧ (s.builtin? owner).isSome = true

/-- The enumerations at module scope, with their names there. -/
def scopedEnums (s : Schema) : List (String × Enumeration) :=
  s.globalEnums.map (fun e => (Naming.flatEnum e.name, e)) ++
    s.builtins.flatMap fun b =>
      b.enums.map fun e => (Naming.flatEnum (b.name ++ "." ++ e.name), e)

end Schema

/-! ## Owners -/

namespace TypeMap

variable {m : TypeMap} {qualified : String}

/-- Of a class and a builtin type with the name of the owner, the builtin type counts. -/
theorem enumOwner?_cases {owner : EnumOwner} (h : m.enumOwner? qualified = some owner) :
    ∃ e, m.schema.findEnum? qualified = some e ∧
      ((e ∈ m.schema.globalEnums ∧ e.name = qualified ∧
        owner = .module (Naming.flatEnum qualified)) ∨
      (∀ g ∈ m.schema.globalEnums, g.name ≠ qualified) ∧ ∃ className name,
        Schema.splitOwner? qualified = some (className, name) ∧
        (((m.schema.builtin? className).isSome = true ∧
          owner = .module (Naming.flatEnum qualified)) ∨
        (m.schema.builtin? className = none ∧ m.isAvailable className = true ∧
          owner = .class className e.name))) := by
  unfold enumOwner? at h
  obtain ⟨e, hfind, h⟩ := Option.bind_eq_some_iff.mp h
  refine ⟨e, hfind, ?_⟩
  split at h
  · next hany =>
    obtain rfl := Option.some.inj h
    obtain ⟨g, hg, hname⟩ := List.any_eq_true.mp hany
    cases Schema.finds_of_findEnum? hfind with
    | atModule hmem heq => exact .inl ⟨hmem, heq, rfl⟩
    | inClass hglobal => exact absurd (eq_of_beq hname) (hglobal g hg)
    | inBuiltin hglobal => exact absurd (eq_of_beq hname) (hglobal g hg)
  · next hany =>
    obtain ⟨⟨className, name⟩, hsplit, h⟩ := Option.bind_eq_some_iff.mp h
    refine .inr ⟨fun g hg heq => hany (List.any_eq_true.mpr ⟨g, hg, beq_iff_eq.mpr heq⟩),
      className, name, hsplit, ?_⟩
    dsimp only at h
    split at h
    · next hbuiltin =>
      obtain rfl := Option.some.inj h
      exact .inl ⟨hbuiltin, rfl⟩
    · next hbuiltin =>
      split at h
      · next havailable =>
        obtain rfl := Option.some.inj h
        exact .inr ⟨Option.not_isSome_iff_eq_none.mp hbuiltin, havailable, rfl⟩
      · cases h

/-- An enumeration that is referred to at module scope is generated there under that name. -/
theorem exists_scoped {flatName : String} (h : m.enumOwner? qualified = some (.module flatName))
    (hdisputed : ¬m.schema.IsDisputed qualified) :
    ∃ e, m.schema.findEnum? qualified = some e ∧ (flatName, e) ∈ m.schema.scopedEnums := by
  obtain ⟨e, hfind, hcases⟩ := enumOwner?_cases h
  refine ⟨e, hfind, ?_⟩
  rcases hcases with ⟨hmem, rfl, howner⟩ | ⟨hglobal, className, name, hsplit, hcases⟩
  · obtain rfl := EnumOwner.module.inj howner
    exact List.mem_append_left _ (List.mem_map.mpr ⟨e, hmem, rfl⟩)
  · rcases hcases with ⟨hbuiltin, howner⟩ | ⟨-, -, howner⟩
    · obtain rfl := EnumOwner.module.inj howner
      cases Schema.finds_of_findEnum? hfind with
      | atModule hmem heq => exact absurd heq (hglobal e hmem)
      | @inClass owner own c _ hown hclass henum =>
        obtain ⟨rfl, rfl⟩ := Prod.mk.inj (Option.some.inj (hsplit.symm.trans hown))
        have hdeclares : (c.enum? name).isSome = true := Option.isSome_iff_exists.mpr ⟨e, henum⟩
        exact absurd ⟨hglobal, _, _, c, hsplit, hclass, hdeclares, hbuiltin⟩ hdisputed
      | @inBuiltin owner own b _ hown hb hmem hname =>
        -- the flat name is that of the reference, and it is built again from owner and enumeration
        have hbname := List.find?_some hb
        obtain rfl : b.name = owner := eq_of_beq hbname
        refine List.mem_append_right _ (List.mem_flatMap.mpr ⟨b, List.mem_of_find?_eq_some hb, ?_⟩)
        refine List.mem_map.mpr ⟨e, hmem, ?_⟩
        rw [hname, ← Schema.eq_of_splitOwner? hown]
    · cases howner

/-- An enumeration that is referred to in a class is declared by that class. -/
theorem exists_declaring {className name : String}
    (h : m.enumOwner? qualified = some (.class className name)) :
    m.isAvailable className = true ∧ ∃ c e, m.schema.class? className = some c ∧
      m.schema.findEnum? qualified = some e ∧ e ∈ c.enums ∧ e.name = name := by
  obtain ⟨e, hfind, hcases⟩ := enumOwner?_cases h
  rcases hcases with ⟨-, -, howner⟩ | ⟨hglobal, owner, own, hsplit, hcases⟩
  · cases howner
  · rcases hcases with ⟨-, howner⟩ | ⟨hbuiltin, havailable, howner⟩
    · cases howner
    · obtain ⟨rfl, rfl⟩ := EnumOwner.class.inj howner
      refine ⟨havailable, ?_⟩
      cases Schema.finds_of_findEnum? hfind with
      | atModule hmem heq => exact absurd heq (hglobal e hmem)
      | @inClass other _ c _ hown hclass henum =>
        obtain ⟨rfl, rfl⟩ := Prod.mk.inj (Option.some.inj (hsplit.symm.trans hown))
        exact ⟨c, e, hclass, hfind, List.mem_of_find?_eq_some henum, rfl⟩
      | @inBuiltin other _ b _ hown hb =>
        obtain ⟨rfl, rfl⟩ := Prod.mk.inj (Option.some.inj (hsplit.symm.trans hown))
        rw [hbuiltin] at hb
        cases hb

end TypeMap

/-! ## Definitions -/

theorem EnumUnit.ident_of_ofDescriptor {name : String} {e : Enumeration} {u : EnumUnit}
    (h : ofDescriptor name e = .ok u) : Naming.ident name = .ok u.ident := by
  unfold ofDescriptor at h
  obtain ⟨ident, hident, h⟩ := bind_eq_ok_iff.mp h
  obtain ⟨constants, -, h⟩ := bind_eq_ok_iff.mp h
  obtain rfl := Except.ok.inj h
  exact hident

theorem AssembledModule.moduleEnums_eq (s : Schema) :
    moduleEnums s = s.scopedEnums.mapM fun x => EnumUnit.ofDescriptor x.1 x.2 := by
  have hbuiltins : EnumUnit.ofBuiltins s.builtins = (s.builtins.flatMap fun b =>
      b.enums.map fun e => (Naming.flatEnum (b.name ++ "." ++ e.name), e)).mapM
        fun x => EnumUnit.ofDescriptor x.1 x.2 := by
    have hpairs : (s.builtins.flatMap fun b =>
        b.enums.map fun e => (Naming.flatEnum (b.name ++ "." ++ e.name), e)) =
        (s.builtins.flatMap fun b => b.enums.map fun e => (b, e)).map
          fun x => (Naming.flatEnum (x.1.name ++ "." ++ x.2.name), x.2) := by
      simp only [List.map_flatMap, List.map_map]
      rfl
    rw [hpairs, List.mapM_map]
    rfl
  rw [Schema.scopedEnums, List.mapM_append, List.mapM_map, ← hbuiltins]
  rfl

/-- Where no two enumerations at module scope have the identifier of a name, a type with it is the
only one. -/
theorem AssembledModule.filter_moduleEnums {s : Schema} {units : List EnumUnit} {flatName : String}
    {e : Enumeration} (h : moduleEnums s = .ok units) (hmem : (flatName, e) ∈ s.scopedEnums)
    (hpairwise : s.scopedEnums.Pairwise fun x y =>
      Naming.ident x.1 = Naming.ident flatName → Naming.ident y.1 ≠ Naming.ident flatName) :
    ∃ unit, EnumUnit.ofDescriptor flatName e = .ok unit ∧
      units.filter (fun u => u.ident == unit.ident) = [unit] := by
  rw [moduleEnums_eq] at h
  obtain ⟨unit, hunit, hok⟩ := exists_of_mapM_eq_ok h hmem
  have hident := EnumUnit.ident_of_ofDescriptor hok
  have hidents : (units.map fun u => (.ok u.ident : Emission String)) =
      s.scopedEnums.map fun x => Naming.ident x.1 := by
    refine map_eq_of_map_eq (mapM_eq_ok_iff.mp h) fun x _ u hu => ?_
    exact (EnumUnit.ident_of_ofDescriptor hu).symm
  have hnames : (s.scopedEnums.map fun x => Naming.ident x.1).Pairwise fun a b =>
      a = Naming.ident flatName → b ≠ Naming.ident flatName := List.pairwise_map.mpr hpairwise
  rw [← hidents, List.pairwise_map, hident] at hnames
  refine ⟨unit, hok, filter_eq_singleton_of_pairwise (hnames.imp ?_) hunit rfl⟩
  intro u v huv hu hv
  exact huv (congrArg Except.ok hu) (congrArg Except.ok hv)

theorem ClassUnit.exists_enum {m : TypeMap} {c : ClassDescriptor} {level : Level} {module : String}
    {u : ClassUnit} (h : ofClass m c level module = .ok u) {e : Enumeration} (he : e ∈ c.enums) :
    ∃ unit ∈ u.enums, EnumUnit.ofDescriptor e.name e = .ok unit :=
  exists_of_mapM_eq_ok (isFor_of_ofClass h).enums he

namespace TypeMap

/-- A reference to an enumeration leads to its definition.  At module scope there is one type with
the name of the reference, unless the owner of the enumeration is disputed or another enumeration
there has the same identifier.  A class may be generated for another module, with other classes
available. -/
theorem owner_defines (m : TypeMap) (qualified : String) :
    (∀ flatName units, m.enumOwner? qualified = some (.module flatName) →
      AssembledModule.moduleEnums m.schema = .ok units → ¬m.schema.IsDisputed qualified →
      (m.schema.scopedEnums.Pairwise fun x y =>
        Naming.ident x.1 = Naming.ident flatName → Naming.ident y.1 ≠ Naming.ident flatName) →
      ∃ e unit, m.schema.findEnum? qualified = some e ∧
        EnumUnit.ofDescriptor flatName e = .ok unit ∧
        units.filter (fun u => u.ident == unit.ident) = [unit]) ∧
    ∀ className name, m.enumOwner? qualified = some (.class className name) →
      m.isAvailable className = true ∧ ∃ c e, m.schema.class? className = some c ∧
        m.schema.findEnum? qualified = some e ∧
        ∀ other level module u, ClassUnit.ofClass other c level module = .ok u →
          ∃ unit ∈ u.enums, EnumUnit.ofDescriptor name e = .ok unit := by
  constructor
  · intro flatName units howner hunits hdisputed hpairwise
    obtain ⟨e, hfind, hmem⟩ := exists_scoped howner hdisputed
    obtain ⟨unit, hunit, hfilter⟩ := AssembledModule.filter_moduleEnums hunits hmem hpairwise
    exact ⟨e, unit, hfind, hunit, hfilter⟩
  · intro className name howner
    obtain ⟨havailable, c, e, hclass, hfind, hmem, rfl⟩ := exists_declaring howner
    exact ⟨havailable, c, e, hclass, hfind, fun _ _ _ _ hu => ClassUnit.exists_enum hu hmem⟩

/-- A module with an enumeration of each kind. -/
def axisTypes : TypeMap where
  schema :=
    { (default : Schema) with
      classes := [
        { (default : ClassDescriptor) with name := "Object" },
        { (default : ClassDescriptor) with
          name := "Node", parent? := some "Object", enums := [⟨"Mode", false, []⟩] }]
      builtins := [
        { (default : Builtin) with
          name := "Vector2", kind := .vector2, enums := [⟨"Axis", false, [("AXIS_X", 0)]⟩] }]
      globalEnums := [⟨"Error", false, []⟩] }
  available := ["Object", "Node"]
  foundational := "Object"

theorem owner_defines_axis :
    (∃ units e unit, AssembledModule.moduleEnums axisTypes.schema = .ok units ∧
      axisTypes.schema.findEnum? "Vector2.Axis" = some e ∧
      EnumUnit.ofDescriptor "Vector2Axis" e = .ok unit ∧
      units.filter (fun u => u.ident == unit.ident) = [unit]) ∧
    ∃ c e u unit, axisTypes.schema.class? "Node" = some c ∧
      axisTypes.schema.findEnum? "Node.Mode" = some e ∧
      ClassUnit.ofClass axisTypes c .scene "godot" = .ok u ∧ unit ∈ u.enums ∧
      EnumUnit.ofDescriptor "Mode" e = .ok unit := by
  obtain ⟨hmodule, -⟩ := owner_defines axisTypes "Vector2.Axis"
  obtain ⟨-, hclass⟩ := owner_defines axisTypes "Node.Mode"
  constructor
  · obtain ⟨units, hunits⟩ : ∃ units, AssembledModule.moduleEnums axisTypes.schema = .ok units :=
      ⟨_, eq_ok_of_isOk (by decide +kernel) []⟩
    have hdisputed : ¬axisTypes.schema.IsDisputed "Vector2.Axis" := by
      rintro ⟨-, owner, name, c, hsplit, hc, -⟩
      obtain ⟨rfl, -⟩ := Prod.mk.inj (Option.some.inj hsplit)
      cases hc
    have hpairwise : axisTypes.schema.scopedEnums.Pairwise fun x y =>
        Naming.ident x.1 = Naming.ident "Vector2Axis" →
          Naming.ident y.1 ≠ Naming.ident "Vector2Axis" := by
      have herror : Naming.ident "Error" = .ok "Error" := rfl
      have haxis : Naming.ident "Vector2Axis" = .ok "Vector2Axis" := rfl
      refine .cons (fun _ _ hsame => ?_) (.cons (fun _ hmem => nomatch hmem) .nil)
      change Naming.ident "Error" = _ at hsame
      rw [herror, haxis] at hsame
      exact absurd (Except.ok.inj hsame) (by decide)
    obtain ⟨e, unit, hdefined⟩ := hmodule "Vector2Axis" _ rfl hunits hdisputed hpairwise
    exact ⟨units, e, unit, hunits, hdefined⟩
  · obtain ⟨-, c, e, hc, hfind, hdefines⟩ := hclass "Node" "Mode" rfl
    obtain ⟨u, hu⟩ : ∃ u, ClassUnit.ofClass axisTypes c .scene "godot" = .ok u := by
      obtain rfl := Option.some.inj hc
      exact ⟨_, rfl⟩
    obtain ⟨unit, hunit, hok⟩ := hdefines _ _ _ u hu
    exact ⟨c, e, u, unit, hc, hfind, hu, hunit, hok⟩

/-- A schema in which a builtin type shares its name with a class, and one of its enumerations with
a dotted one at module scope. -/
def clashing : Schema :=
  { (default : Schema) with
    classes := [
      { (default : ClassDescriptor) with name := "Object" },
      { (default : ClassDescriptor) with
        name := "Vector2", parent? := some "Object", enums := [⟨"Kind", false, []⟩] }]
    builtins := [
      { (default : Builtin) with
        name := "Vector2", kind := .vector2, enums := [⟨"Axis", false, []⟩] }]
    globalEnums := [⟨"Vector2.Axis", false, []⟩] }

/-- A reference to a disputed enumeration leads nowhere, and two types share a flat name. -/
theorem not_owner_defines :
    Schema.ofDescriptors clashing.version clashing.classes clashing.builtins clashing.globalEnums
      clashing.singletons clashing.utilityFunctions = .ok clashing ∧
    ∃ units, AssembledModule.moduleEnums clashing = .ok units ∧
      (let m : TypeMap := ⟨clashing, ["Object", "Vector2"], "Object"⟩
      m.enumOwner? "Vector2.Kind" = some (.module "Vector2Kind") ∧
        (∀ u ∈ units, u.ident ≠ "Vector2Kind") ∧
      m.enumOwner? "Vector2.Axis" = some (.module "Vector2Axis") ∧
        (units.filter fun u => u.ident == "Vector2Axis").length = 2) := by
  have hunits : AssembledModule.moduleEnums clashing =
      .ok [⟨"Vector2Axis", false, [], [], ""⟩, ⟨"Vector2Axis", false, [], [], ""⟩] := rfl
  refine ⟨rfl, _, hunits, rfl, ?_, rfl, by decide⟩
  decide

end TypeMap

end EngineBindings
