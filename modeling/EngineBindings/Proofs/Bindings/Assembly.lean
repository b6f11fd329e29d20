import EngineBindings.Bindings.StartupCalls
import EngineBindings.Proofs.Bindings.ClassItems
import EngineBindings.Proofs.Schema.Ancestors
import EngineBindings.Proofs.Startup.Resolve
import EngineBindings.Proofs.Traverse

/-!
# What is in an assembled module

A `GeneratedModule` is a plan together with what was assembled for it.

* `GeneratedModule.parent_available`: a module can refer to the parents of its classes.
* `GeneratedModule.resolve_eq`: its classes can be ordered for startup.
* `GeneratedModule.initialize?_eq`: its startup functions register the classes of each level in that
  order, and remove them backwards.
-/

namespace EngineBindings

/-! ## Classes of a schema -/

namespace Schema

/-- A class with its parent. -/
def node (s : Schema) (name : String) : ClassNode :=
  ⟨name, s.parent? name⟩

/-- The call that registers a class. -/
def registration (s : Schema) (name : String) : RegistryCall :=
  .register name (s.parent? name) ((s.isRefCounted? name).getD false)

theorem node_of_class? {s : Schema} {name : String} {c : ClassDescriptor}
    (h : s.class? name = some c) : (⟨c.name, c.parent?⟩ : ClassNode) = s.node name := by
  simp only [node, parent?, h, class?_name h, Option.bind_some]

end Schema

/-! ## Units -/

/-- The startup functions have the identifiers of the classes that are planned for each level. -/
theorem EntryUnit.identsAt_ofPlan {p : StartupPlan} {e : EntryUnit} (h : ofPlan p = .ok e)
    (level : Level) : (p.classesAt level).mapM Naming.ident = .ok (e.identsAt level) := by
  unfold ofPlan at h
  rw [bind_eq_ok_iff] at h
  obtain ⟨blocks, hblocks, h⟩ := h
  cases h
  rw [mapM_eq_ok_iff] at hblocks
  unfold StartupPlan.classesAt identsAt
  simp only
  generalize p.blocks = planned at hblocks
  induction planned generalizing blocks with
  | nil =>
    cases blocks with
    | nil => rfl
    | cons entry blocks => cases hblocks
  | cons block planned ih =>
    cases blocks with
    | nil => cases hblocks
    | cons entry blocks =>
      obtain ⟨hentry, hrest⟩ := List.cons.inj hblocks
      obtain ⟨idents, hidents, hentry⟩ := bind_eq_ok_iff.mp hentry
      obtain rfl := Except.ok.inj hentry
      rw [List.find?_cons, List.find?_cons]
      cases hlevel : block.level == level with
      | true => exact hidents
      | false => exact ih blocks hrest

/-- The builtin types of a plan that get a trait. -/
def ModulePlan.traitBuiltins (p : ModulePlan) (s : Schema) : List String :=
  p.builtins.filter fun name => (s.builtin? name).any BuiltinUnit.hasTrait

theorem BuiltinUnit.name_of_ofBuiltin {m : TypeMap} {b : Builtin} {u? : Option BuiltinUnit}
    (h : ofBuiltin m b = .ok u?) :
    u?.map BuiltinUnit.name = if hasTrait b then some b.name else none := by
  unfold ofBuiltin at h
  cases htrait : hasTrait b with
  | false =>
    rw [htrait] at h
    obtain rfl := Except.ok.inj h
    rfl
  | true =>
    rw [htrait] at h
    obtain ⟨_, -, h⟩ := bind_eq_ok_iff.mp h
    obtain ⟨_, -, h⟩ := bind_eq_ok_iff.mp h
    obtain ⟨_, -, h⟩ := bind_eq_ok_iff.mp h
    obtain ⟨_, -, h⟩ := bind_eq_ok_iff.mp h
    obtain rfl := Except.ok.inj h
    rfl

namespace AssembledModule

variable {s : Schema} {p : ModulePlan} {levels : LevelAssignment} {foundational : String}

theorem exists_plannedClass {classes : List ClassDescriptor} (h : plannedClasses s p = .ok classes)
    {name : String} (hname : name ∈ p.generatedClasses) :
    ∃ c ∈ classes, s.class? name = some c := by
  obtain ⟨c, hc, hclass⟩ := exists_of_mapM_eq_ok h hname
  split at hclass
  · next d hd =>
    obtain rfl := Except.ok.inj hclass
    exact ⟨d, hc, hd⟩
  · cases hclass

theorem plannedClasses_nodes {classes : List ClassDescriptor}
    (h : plannedClasses s p = .ok classes) :
    classes.map (fun c => (⟨c.name, c.parent?⟩ : ClassNode)) = p.generatedClasses.map s.node := by
  refine map_eq_of_map_eq (mapM_eq_ok_iff.mp h) fun name _ c hclass => ?_
  split at hclass
  · next d hd =>
    obtain rfl := Except.ok.inj hclass
    exact Schema.node_of_class? hd
  · cases hclass

theorem startupPlan_eq_ok_iff {classes : List ClassDescriptor} {plan : StartupPlan} :
    startupPlan levels p classes = .ok plan ↔
      StartupPlan.resolve levels (classes.map fun c => ⟨c.name, c.parent?⟩) = .ok plan := by
  unfold startupPlan
  cases StartupPlan.resolve levels (classes.map fun c => ⟨c.name, c.parent?⟩) <;> simp

theorem checkParents_eq_ok_iff {classes : List ClassDescriptor} :
    checkParents p classes = .ok () ↔
      ∀ c ∈ classes, ∀ parent, c.parent? = some parent → parent ∈ p.availableClasses := by
  have hmissing : ∀ c, missingParent? p c = none ↔
      ∀ parent, c.parent? = some parent → parent ∈ p.availableClasses := by
    intro c
    unfold missingParent?
    cases c.parent? with
    | none => simp
    | some parent => simp [ModulePlan.isAvailable]
  unfold checkParents
  cases hfirst : classes.findSome? (missingParent? p) with
  | none =>
    have hnone := List.findSome?_eq_none_iff.mp hfirst
    exact ⟨fun _ c hc => (hmissing c).mp (hnone c hc), fun _ => rfl⟩
  | some e =>
    refine ⟨fun h => (nomatch h), fun h => ?_⟩
    rw [List.findSome?_eq_none_iff.mpr fun c hc => (hmissing c).mpr (h c hc)] at hfirst
    cases hfirst

/-- What an assembled module was made of. -/
theorem ofPlan_inv {a : AssembledModule} (h : ofPlan s p levels foundational = .ok a) :
    ∃ classes plan, plannedClasses s p = .ok classes ∧ checkParents p classes = .ok () ∧
      classes.mapM (fun c => ClassUnit.ofClass ⟨s, p.availableClasses, foundational⟩ c
        (levels.levelOf c.name) p.module) = .ok a.classes ∧
      StartupPlan.resolve levels (p.generatedClasses.map s.node) = .ok plan ∧
      EntryUnit.ofPlan plan = .ok a.entry ∧
      ∃ builtins units, plannedBuiltins s p = .ok builtins ∧
        builtins.mapM (BuiltinUnit.ofBuiltin ⟨s, p.availableClasses, foundational⟩) = .ok units ∧
        a.builtins = units.filterMap id := by
  unfold ofPlan at h
  obtain ⟨classes, hclasses, h⟩ := bind_eq_ok_iff.mp h
  obtain ⟨builtins, hbuiltins, h⟩ := bind_eq_ok_iff.mp h
  obtain ⟨_, hparents, h⟩ := bind_eq_ok_iff.mp h
  obtain ⟨units, hunits, h⟩ := bind_eq_ok_iff.mp h
  obtain ⟨builtinUnits, hbuiltinUnits, h⟩ := bind_eq_ok_iff.mp h
  obtain ⟨plan, hplan, h⟩ := bind_eq_ok_iff.mp h
  obtain ⟨entry, hentry, h⟩ := bind_eq_ok_iff.mp h
  -- enumerations and functions at module scope do not matter to the rest
  have hfields : a.classes = units ∧ a.entry = entry ∧ a.builtins = builtinUnits.filterMap id := by
    dsimp only at h
    split at h <;> obtain ⟨_, -, h⟩ := bind_eq_ok_iff.mp h <;> split at h <;>
      obtain ⟨_, -, h⟩ := bind_eq_ok_iff.mp h <;> cases h <;> exact ⟨rfl, rfl, rfl⟩
  rw [startupPlan_eq_ok_iff, plannedClasses_nodes hclasses] at hplan
  rw [hfields.1, hfields.2.1]
  exact ⟨classes, plan, hclasses, hparents, hunits, hplan, hentry, builtins, builtinUnits,
    hbuiltins, hbuiltinUnits, hfields.2.2⟩

/-! ### Names -/

theorem classes_names {a : AssembledModule} (h : ofPlan s p levels foundational = .ok a) :
    a.classes.map ClassUnit.name = p.generatedClasses := by
  obtain ⟨classes, -, hclasses, -, hunits, -⟩ := ofPlan_inv h
  have hnodes := congrArg (List.map ClassNode.name) (plannedClasses_nodes hclasses)
  rw [List.map_map, List.map_map] at hnodes
  have hplanned : classes.map ClassDescriptor.name = p.generatedClasses :=
    hnodes.trans (List.map_id _)
  rw [← hplanned]
  refine map_eq_of_map_eq (mapM_eq_ok_iff.mp hunits) fun c _ u hu => ?_
  exact (ClassUnit.isFor_of_ofClass hu).name

theorem builtins_names {a : AssembledModule} (h : ofPlan s p levels foundational = .ok a) :
    a.builtins.map BuiltinUnit.name = p.traitBuiltins s := by
  obtain ⟨-, -, -, -, -, -, -, builtins, units, hbuiltins, hunits, ha⟩ := ofPlan_inv h
  let traitName? (name : String) : Option String :=
    Option.guard (fun name => (s.builtin? name).any BuiltinUnit.hasTrait) name
  have hnames : units.map (Option.map BuiltinUnit.name) = p.builtins.map traitName? := by
    have hplanned : builtins.map (fun b => if BuiltinUnit.hasTrait b then some b.name else none) =
        p.builtins.map traitName? := by
      refine map_eq_of_map_eq (mapM_eq_ok_iff.mp hbuiltins) fun name _ b hb => ?_
      split at hb
      · next found hfound =>
        obtain rfl := Except.ok.inj hb
        simp only [traitName?, Option.guard, hfound, Option.any_some, Schema.builtin?_name hfound]
      · cases hb
    rw [← hplanned]
    exact map_eq_of_map_eq (mapM_eq_ok_iff.mp hunits) fun b _ u? hu =>
      BuiltinUnit.name_of_ofBuiltin hu
  have hunitNames : a.builtins.map BuiltinUnit.name =
      (units.map (Option.map BuiltinUnit.name)).filterMap id := by
    rw [ha, List.map_filterMap, List.filterMap_map]
    rfl
  rw [hunitNames, hnames, List.filterMap_map, Function.id_comp]
  exact congrFun List.filterMap_eq_filter _

end AssembledModule

/-! ## Generated modules -/

/-- A module whose files can be generated, with what is in them. -/
structure GeneratedModule (s : Schema) (levels : LevelAssignment) (foundational : String) where
  plan : ModulePlan
  unit : AssembledModule
  files : List GeneratedFile
  unit_eq : AssembledModule.ofPlan s plan levels foundational = .ok unit
  assemble_eq : plan.assemble s levels foundational = .ok files

namespace GeneratedModule

open StartupPlan

variable {s : Schema} {levels : LevelAssignment} {foundational : String}

/-- Whatever is assembled is a generated module. -/
theorem exists_of_assemble {p : ModulePlan} {files : List GeneratedFile}
    (h : p.assemble s levels foundational = .ok files) :
    ∃ g : GeneratedModule s levels foundational, g.plan = p ∧ g.files = files := by
  obtain ⟨unit, hunit, -⟩ := bind_eq_ok_iff.mp h
  exact ⟨⟨p, unit, files, hunit, h⟩, rfl, rfl⟩

/-- The module of a plan for which everything can be generated. -/
def ofIsOk (p : ModulePlan) (h : (AssembledModule.ofPlan s p levels foundational).isOk = true ∧
    (p.assemble s levels foundational).isOk = true) : GeneratedModule s levels foundational where
  plan := p
  unit := (AssembledModule.ofPlan s p levels foundational).toOption.getD default
  files := (p.assemble s levels foundational).toOption.getD []
  unit_eq := eq_ok_of_isOk h.1 default
  assemble_eq := eq_ok_of_isOk h.2 []

/-- The classes of a module with their parents. -/
def nodes (g : GeneratedModule s levels foundational) : List ClassNode :=
  g.plan.generatedClasses.map s.node

/-- The classes of a module at one level in the order of their registration. -/
def namesAt (g : GeneratedModule s levels foundational) (level : Level) : List String :=
  (takenAt levels g.nodes level).map ClassNode.name

variable (g : GeneratedModule s levels foundational)

theorem nodes_names : g.nodes.map ClassNode.name = g.plan.generatedClasses := by
  rw [nodes, List.map_map]
  exact List.map_id _

theorem resolve_eq : resolve levels g.nodes = .ok (takenPlan levels g.nodes) := by
  obtain ⟨classes, plan, -, -, -, hplan, -⟩ := AssembledModule.ofPlan_inv g.unit_eq
  obtain rfl := (resolve_eq_ok_iff.mp hplan).2.2.2
  exact hplan

theorem generatedClasses_nodup : g.plan.generatedClasses.Nodup := by
  rw [← g.nodes_names]
  exact (resolve_eq_ok_iff.mp g.resolve_eq).1

theorem stuckAt_eq_nil (level : Level) : stuckAt levels g.nodes level = [] :=
  (resolve_eq_ok_iff.mp g.resolve_eq).2.2.1 level

/-- A parent is not at a later level, whether the module generates it or not. -/
theorem parent_level_le {name parent : String} (hname : name ∈ g.plan.generatedClasses)
    (hparent : s.parent? name = some parent) : levels.levelOf parent ≤ levels.levelOf name :=
  lateParent?_eq_none_iff.mp
    ((resolve_eq_ok_iff.mp g.resolve_eq).2.1 _ (List.mem_map_of_mem hname)) parent hparent

/-- A module can refer to the parents of its classes. -/
theorem parent_available {name parent : String} (hname : name ∈ g.plan.generatedClasses)
    (hparent : s.parent? name = some parent) : parent ∈ g.plan.availableClasses := by
  obtain ⟨classes, -, hclasses, hparents, -⟩ := AssembledModule.ofPlan_inv g.unit_eq
  obtain ⟨c, hc, hclass⟩ := AssembledModule.exists_plannedClass hclasses hname
  rw [Schema.parent?, hclass, Option.bind_some] at hparent
  exact AssembledModule.checkParents_eq_ok_iff.mp hparents c hc parent hparent

theorem mem_namesAt {name : String} {level : Level} :
    name ∈ g.namesAt level ↔ name ∈ g.plan.generatedClasses ∧ levels.levelOf name = level := by
  rw [namesAt, List.mem_map]
  constructor
  · rintro ⟨c, hc, rfl⟩
    obtain ⟨hc, hlevel⟩ := (mem_takenAt (g.stuckAt_eq_nil level)).mp hc
    exact ⟨g.nodes_names ▸ List.mem_map_of_mem hc, hlevel⟩
  · rintro ⟨hname, hlevel⟩
    exact ⟨s.node name, (mem_takenAt (g.stuckAt_eq_nil level)).mpr
      ⟨List.mem_map_of_mem hname, hlevel⟩, rfl⟩

/-- No class of a module is registered twice at a level. -/
theorem namesAt_nodup (level : Level) : (g.namesAt level).Nodup := by
  have hperm := (drains_level levels g.nodes level).perm
  rw [g.stuckAt_eq_nil, List.append_nil] at hperm
  refine ((hperm.map ClassNode.name).nodup_iff).mpr ?_
  exact (resolve_eq_ok_iff.mp g.resolve_eq).1.sublist (List.filter_sublist.map _)

/-- The parent of a class, if it is one of the module at the same level, is registered before. -/
theorem parent_mem_front {level : Level} {front back : List String} {name parent : String}
    (heq : g.namesAt level = front ++ name :: back) (hparent : s.parent? name = some parent)
    (hgenerated : parent ∈ g.plan.generatedClasses) (hlevel : levels.levelOf parent = level) :
    parent ∈ front := by
  obtain ⟨taken, rest, htaken, rfl, hrest⟩ := List.map_eq_append_iff.mp heq
  obtain ⟨c, others, rfl, rfl, rfl⟩ := List.map_eq_cons_iff.mp hrest
  have hc : c ∈ g.nodes := ((mem_takenAt (g.stuckAt_eq_nil level)).mp
    (htaken ▸ List.mem_append_right _ List.mem_cons_self)).1
  obtain ⟨name, -, rfl⟩ := List.mem_map.mp hc
  have hwaits : s.node parent ∈ classesAtLevel levels g.nodes level :=
    mem_classesAtLevel.mpr ⟨List.mem_map_of_mem hgenerated, hlevel⟩
  exact List.mem_map_of_mem (f := ClassNode.name)
    ((drains_level levels g.nodes level).parent_mem_before htaken hwaits hparent)

/-! ### Startup functions -/

theorem mapM_ident_namesAt (level : Level) :
    (g.namesAt level).mapM Naming.ident = .ok (g.unit.entry.identsAt level) := by
  obtain ⟨classes, plan, -, -, -, hplan, hentry, -⟩ := AssembledModule.ofPlan_inv g.unit_eq
  obtain rfl := (resolve_eq_ok_iff.mp hplan).2.2.2
  rw [← EntryUnit.identsAt_ofPlan hentry level, classesAt_takenPlan]
  rfl

/-- The unit of a class has its identifier, and what it registers is the class of the schema. -/
theorem exists_class {name : String} (hname : name ∈ g.plan.generatedClasses) :
    ∃ u ∈ g.unit.classes, Naming.ident name = .ok u.ident ∧ u.registration = s.registration name ∧
      u.removal = .unregister name := by
  obtain ⟨classes, plan, hclasses, -, hunits, -⟩ := AssembledModule.ofPlan_inv g.unit_eq
  obtain ⟨c, hc, hclass⟩ := AssembledModule.exists_plannedClass hclasses hname
  obtain rfl := Schema.class?_name hclass
  obtain ⟨u, hu, hunit⟩ := exists_of_mapM_eq_ok hunits hc
  obtain ⟨huname, hident, huparent, hcounted, -⟩ := ClassUnit.isFor_of_ofClass hunit
  refine ⟨u, hu, hident, ?_, ?_⟩
  · simp only [ClassUnit.registration, Schema.registration, huname, huparent, hcounted,
      Schema.parent?, Schema.isRefCounted?, hclass, Option.bind_some, Option.map_some,
      Option.getD_some]
  · rw [ClassUnit.removal, huname]

/-- The class that an identifier stands for is the one whose name it spells. -/
theorem classOf?_eq {name ident : String} {u : ClassUnit} (hname : name ∈ g.plan.generatedClasses)
    (hident : Naming.ident name = .ok ident) (h : g.unit.classOf? ident = some u) :
    u.registration = s.registration name ∧ u.removal = .unregister name := by
  obtain ⟨v, hv, hvident, hregistration, hremoval⟩ := g.exists_class hname
  obtain rfl : ident = v.ident := Except.ok.inj (hident.symm.trans hvident)
  have hmem : v ∈ g.unit.classes.filter fun w => w.ident == v.ident :=
    List.mem_filter.mpr ⟨hv, beq_self_eq_true _⟩
  unfold AssembledModule.classOf? at h
  split at h
  · next w hw =>
    obtain rfl := Option.some.inj h
    obtain rfl : v = w := List.mem_singleton.mp (hw ▸ hmem)
    exact ⟨hregistration, hremoval⟩
  · cases h

/-- The identifiers of a level stand for the classes that are planned there, in this order. -/
theorem units_eq {level : Level} {units : List ClassUnit}
    (h : (g.unit.entry.identsAt level).mapM g.unit.classOf? = some units) :
    units.map ClassUnit.registration = (g.namesAt level).map s.registration ∧
      units.map ClassUnit.removal = (g.namesAt level).map .unregister := by
  have hnames : (g.namesAt level).map (fun name =>
      (Naming.ident name).toOption.bind g.unit.classOf?) = units.map some := by
    have hidents := mapM_eq_ok_iff.mp (g.mapM_ident_namesAt level)
    have hclasses := congrArg (List.map fun ident => ident.toOption.bind g.unit.classOf?) hidents
    rw [List.map_map, List.map_map] at hclasses
    exact hclasses.trans (mapM_eq_some_iff.mp h)
  have hunit : ∀ name ∈ g.namesAt level, ∀ u,
      (Naming.ident name).toOption.bind g.unit.classOf? = some u →
        u.registration = s.registration name ∧ u.removal = .unregister name := by
    intro name hname u hu
    obtain ⟨ident, hident, hclass⟩ := Option.bind_eq_some_iff.mp hu
    exact g.classOf?_eq ((g.mem_namesAt).mp hname).1 (toOption_eq_some_iff.mp hident) hclass
  exact ⟨map_eq_of_map_eq hnames fun name hname u hu => (hunit name hname u hu).1,
    map_eq_of_map_eq hnames fun name hname u hu => (hunit name hname u hu).2⟩

/-- The startup functions register the planned classes in order and remove them backwards. -/
theorem initialize?_eq {level : Level} {calls : List RegistryCall}
    (h : g.unit.initialize? level = some calls) :
    calls = (g.namesAt level).map s.registration ∧
      g.unit.deinitialize? level = some ((g.namesAt level).reverse.map .unregister) := by
  obtain ⟨units, hunits, rfl⟩ := Option.map_eq_some_iff.mp h
  obtain ⟨hregistrations, hremovals⟩ := g.units_eq hunits
  refine ⟨hregistrations, ?_⟩
  have hreverse : (g.unit.entry.identsAt level).reverse.mapM g.unit.classOf? =
      some units.reverse := by
    rw [mapM_eq_some_iff, List.map_reverse, mapM_eq_some_iff.mp hunits, List.map_reverse]
  rw [AssembledModule.deinitialize?, hreverse, Option.map_some, List.map_reverse, hremovals,
    List.map_reverse]

/-- Where classes have different identifiers, the startup functions can be run. -/
theorem exists_initialize? (hdistinct : (g.unit.classes.map ClassUnit.ident).Nodup)
    (level : Level) : ∃ calls, g.unit.initialize? level = some calls := by
  have hclass : ∀ ident ∈ g.unit.entry.identsAt level, ∃ u, g.unit.classOf? ident = some u := by
    intro ident hident
    obtain ⟨name, hname, hspelled⟩ := exists_of_mem_mapM (g.mapM_ident_namesAt level) hident
    obtain ⟨u, hu, huident, -⟩ := g.exists_class ((g.mem_namesAt).mp hname).1
    obtain rfl : ident = u.ident := Except.ok.inj (hspelled.symm.trans huident)
    exact ⟨u, by rw [AssembledModule.classOf?, filter_eq_singleton hdistinct hu]⟩
  choose! unit hunit using hclass
  exact ⟨_, by rw [AssembledModule.initialize?, mapM_eq_some_map hunit]; rfl⟩

end GeneratedModule

end EngineBindings
