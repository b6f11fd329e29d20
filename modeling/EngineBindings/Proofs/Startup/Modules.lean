import EngineBindings.Proofs.Bindings.Assembly
import EngineBindings.Proofs.Module.Partition
import EngineBindings.Proofs.Registry.ClassDatabase

/-!
# Starting several modules

The engine comes to all modules at one level before it comes to the next level.  Every parent is
registered before its children (`preceded_startupNames`): a module can refer to it, so the module
itself or one that it depends on generates it; it is not at a later level; and at the same level
dependencies come first, or else the order of the module's own classes decides.

`startup_parents_first` says so of the calls that are made (`RegistersParentsFirst`), and that
shutting down, which comes to everything backwards, removes children before their parents
(`RemovesChildrenFirst`).
-/

namespace EngineBindings

variable {s : Schema} {levels : LevelAssignment} {foundational : String}

/-- Whether modules were planned together, with everything that they depend on among them. -/
structure ClosedUnderDependencies (plans : List ModulePlan)
    (members : List (GeneratedModule s levels foundational)) : Prop where
  planned : ∀ g ∈ members, g.plan ∈ plans
  closed : ∀ g ∈ members, ∀ name ∈ g.plan.dependencies, ∃ d ∈ members, d.plan.module = name

/-- Whether modules come in this order: at every level all of them, each after those that it
depends on. -/
structure DependenciesFirst (members : List (GeneratedModule s levels foundational))
    (order : Level → List (GeneratedModule s levels foundational)) : Prop where
  perm : ∀ level, (order level).Perm members
  preceded : ∀ level, ∀ g ∈ members, ∀ d ∈ members, d.plan.module ∈ g.plan.dependencies →
    Preceded (order level) d g

/-- What the engine comes to at each level. -/
def unitsOf (order : Level → List (GeneratedModule s levels foundational)) :
    Level → List AssembledModule :=
  fun level => (order level).map GeneratedModule.unit

/-- The classes of all modules in the order of their registration. -/
def startupNames (order : Level → List (GeneratedModule s levels foundational)) : List String :=
  Level.all.flatMap fun level => (order level).flatMap fun g => g.namesAt level

variable {members : List (GeneratedModule s levels foundational)}
  {order : Level → List (GeneratedModule s levels foundational)}

/-! ## Calls -/

/-- The levels and modules in the order in which the engine comes to them. -/
def moduleVisits (order : Level → List (GeneratedModule s levels foundational)) :
    List (Level × GeneratedModule s levels foundational) :=
  Level.all.flatMap fun level => (order level).map fun g => (level, g)

theorem visits_unitsOf :
    AssembledModule.visits (unitsOf order) =
      (moduleVisits order).map fun visit => (visit.1, visit.2.unit) := by
  simp only [AssembledModule.visits, unitsOf, moduleVisits, List.map_flatMap, List.map_map]
  rfl

theorem flatMap_moduleVisits :
    (moduleVisits order).flatMap (fun visit => visit.2.namesAt visit.1) = startupNames order := by
  simp only [moduleVisits, startupNames, List.flatMap_assoc, List.flatMap_map]

/-- The calls register the classes in order; if they can be made, then so can those that remove the
classes backwards. -/
theorem startupCalls?_eq {calls : List RegistryCall}
    (h : AssembledModule.startupCalls? (unitsOf order) = some calls) :
    calls = (startupNames order).map s.registration ∧
      AssembledModule.shutdownCalls? (unitsOf order) =
        some ((startupNames order).reverse.map .unregister) := by
  obtain ⟨pieces, hpieces, rfl⟩ := Option.map_eq_some_iff.mp h
  rw [visits_unitsOf, mapM_eq_some_iff, List.map_map] at hpieces
  have hregistered : pieces =
      (moduleVisits order).map fun visit => (visit.2.namesAt visit.1).map s.registration := by
    rw [← List.map_id pieces]
    exact map_eq_of_map_eq hpieces fun visit _ calls hcalls => (visit.2.initialize?_eq hcalls).1
  have hremoved : ∀ visit ∈ (moduleVisits order).reverse,
      visit.2.unit.deinitialize? visit.1 =
        some ((visit.2.namesAt visit.1).reverse.map .unregister) := by
    intro visit hvisit
    have hmem : visit.2.unit.initialize? visit.1 ∈ pieces.map some :=
      hpieces ▸ List.mem_map_of_mem (List.mem_reverse.mp hvisit)
    obtain ⟨calls, -, hcalls⟩ := List.mem_map.mp hmem
    exact (visit.2.initialize?_eq hcalls.symm).2
  constructor
  · rw [hregistered, ← flatMap_moduleVisits, List.map_flatMap]
    rfl
  · rw [AssembledModule.shutdownCalls?, visits_unitsOf, ← List.map_reverse, List.mapM_map]
    refine (congrArg (Option.map List.flatten) (mapM_eq_some_map hremoved)).trans ?_
    rw [Option.map_some, ← flatMap_moduleVisits, List.reverse_flatMap, List.map_flatMap]
    rfl

/-- Where the classes of each module have different identifiers, all calls can be made. -/
theorem exists_startupCalls? (horder : DependenciesFirst members order)
    (hdistinct : ∀ g ∈ members, (g.unit.classes.map ClassUnit.ident).Nodup) :
    ∃ calls, AssembledModule.startupCalls? (unitsOf order) = some calls := by
  have hvisit : ∀ visit ∈ moduleVisits order,
      ∃ calls, visit.2.unit.initialize? visit.1 = some calls := by
    intro visit hvisit
    obtain ⟨level, -, hvisit⟩ := List.mem_flatMap.mp hvisit
    obtain ⟨g, hg, rfl⟩ := List.mem_map.mp hvisit
    exact g.exists_initialize? (hdistinct g ((horder.perm level).mem_iff.mp hg)) level
  choose! calls hcalls using hvisit
  refine ⟨((moduleVisits order).map calls).flatten, ?_⟩
  rw [AssembledModule.startupCalls?, visits_unitsOf, List.mapM_map]
  exact congrArg (Option.map List.flatten) (mapM_eq_some_map hcalls)

/-! ## Order -/

/-- A class of a member is registered when its level is over at the latest. -/
theorem mem_startupNames_before (horder : DependenciesFirst members order) {ls ls' : List Level}
    {level : Level} (hall : Level.all = ls ++ level :: ls')
    {g : GeneratedModule s levels foundational} (hg : g ∈ members) {name : String}
    (hname : name ∈ g.plan.generatedClasses) (hlt : levels.levelOf name < level) :
    name ∈ ls.flatMap fun l => (order l).flatMap fun d => d.namesAt l := by
  refine List.mem_flatMap.mpr ⟨_, Level.mem_of_lt hall hlt, ?_⟩
  exact List.mem_flatMap.mpr ⟨g, (horder.perm _).mem_iff.mpr hg, g.mem_namesAt.mpr ⟨hname, rfl⟩⟩

/-- Parents are registered before their children, whichever modules they are of. -/
theorem preceded_startupNames {modules : List ModuleDefinition} {options : PartitionOptions}
    {plans : List ModulePlan} (hpartition : partition modules options = .ok plans)
    (hmembers : ClosedUnderDependencies plans members) (horder : DependenciesFirst members order)
    {name parent : String} (hparent : s.parent? name = some parent) :
    Preceded (startupNames order) parent name := by
  intro before after heq
  obtain ⟨ls, level, ls', inner, inner', hall, rfl, hlevel⟩ := flatMap_eq_append_cons heq
  obtain ⟨gs, g, gs', front, back, hvisits, rfl, hnames⟩ := flatMap_eq_append_cons hlevel
  have hg : g ∈ members := (horder.perm level).mem_iff.mp
    (hvisits ▸ List.mem_append_right _ List.mem_cons_self)
  obtain ⟨hname, rfl⟩ : name ∈ g.plan.generatedClasses ∧ levels.levelOf name = level :=
    g.mem_namesAt.mp (hnames ▸ List.mem_append_right _ List.mem_cons_self)
  have hle := g.parent_level_le hname hparent
  -- a parent at an earlier level is registered there; at the same level it matters who registers it
  rcases Partition.generated_of_available hpartition (hmembers.planned g hg)
    (g.parent_available hname hparent) with hown | ⟨dependency, hdependency, hprovided⟩
  · by_cases hsame : levels.levelOf parent = levels.levelOf name
    · have hfront := g.parent_mem_front hnames hparent hown hsame
      exact List.mem_append_right _ (List.mem_append_right _ hfront)
    · exact List.mem_append_left _
        (mem_startupNames_before horder hall hg hown (Level.lt_of_le_of_ne hle hsame))
  · obtain ⟨d, hd, rfl⟩ := hmembers.closed g hg dependency hdependency
    have hgenerated := hprovided d.plan (hmembers.planned d hd) rfl
    by_cases hsame : levels.levelOf parent = levels.levelOf name
    · have hearlier : d ∈ gs := horder.preceded _ g hg d hd hdependency gs gs' hvisits
      refine List.mem_append_right _ (List.mem_append_left _ (List.mem_flatMap.mpr ⟨d, hearlier, ?_⟩))
      exact d.mem_namesAt.mpr ⟨hgenerated, hsame⟩
    · exact List.mem_append_left _
        (mem_startupNames_before horder hall hd hgenerated (Level.lt_of_le_of_ne hle hsame))

/-- If no two modules generate the same class, then no class is registered twice. -/
theorem startupNames_nodup (horder : DependenciesFirst members order)
    (hdisjoint : members.Pairwise fun g d => g.plan.generatedClasses.Disjoint d.plan.generatedClasses) :
    (startupNames order).Nodup := by
  refine List.nodup_flatMap.mpr ⟨fun level _ => List.nodup_flatMap.mpr ⟨?_, ?_⟩, ?_⟩
  · exact fun g _ => g.namesAt_nodup level
  · refine ((horder.perm level).pairwise_iff fun h => h.symm).mpr hdisjoint |>.imp ?_
    intro g d hgd name hname hname'
    exact hgd (g.mem_namesAt.mp hname).1 (d.mem_namesAt.mp hname').1
  · refine Level.all_nodup.imp fun hne name hname hname' => ?_
    obtain ⟨g, -, hg⟩ := List.mem_flatMap.mp hname
    obtain ⟨d, -, hd⟩ := List.mem_flatMap.mp hname'
    exact hne ((g.mem_namesAt.mp hg).2.symm.trans (d.mem_namesAt.mp hd).2)

/-! ## Registered classes -/

/-- Whether calls register every class with its parent of the schema, and no class before its
parent, whatever is registered at first. -/
def RegistersParentsFirst (s : Schema) (calls : List RegistryCall) : Prop :=
  ∀ (db : ClassDatabase) before name parent? isRefCounted after,
    calls = before ++ .register name parent? isRefCounted :: after →
      parent? = s.parent? name ∧
        ∀ parent, s.parent? name = some parent → (db.run before).isRegistered parent = true

/-- Whether removals after some calls leave no class of the schema registered without its parent,
if none is registered at first. -/
def RemovesChildrenFirst (s : Schema) (calls removals : List RegistryCall) : Prop :=
  ∀ db : ClassDatabase, (∀ name, s.containsClass name = true → db.isRegistered name = false) →
    ∀ before name after, removals = before ++ .unregister name :: after →
      ∀ child, s.parent? child = some name →
        (db.run (calls ++ before)).isRegistered child = false

theorem isRegistered_run_startup (db : ClassDatabase) (names : List String) (x : String) :
    (db.run (names.map s.registration)).isRegistered x = (names.contains x || db.isRegistered x) :=
  db.isRegistered_run_register x names s.parent? fun n => (s.isRefCounted? n).getD false

theorem registersParentsFirst_of_preceded {names : List String}
    (h : ∀ name parent, s.parent? name = some parent → Preceded names parent name) :
    RegistersParentsFirst s (names.map s.registration) := by
  intro db before name parent? isRefCounted after heq
  obtain ⟨front, rest, hnames, rfl, hrest⟩ := List.map_eq_append_iff.mp heq
  obtain ⟨n, back, rfl, hcall, rfl⟩ := List.map_eq_cons_iff.mp hrest
  obtain ⟨rfl, rfl, -⟩ : n = name ∧ s.parent? n = parent? ∧
      (s.isRefCounted? n).getD false = isRefCounted := by
    simpa [Schema.registration] using hcall
  refine ⟨rfl, fun parent hparent => ?_⟩
  have hearlier : parent ∈ front := h n parent hparent front back hnames
  rw [isRegistered_run_startup, List.contains_iff_mem.mpr hearlier, Bool.true_or]

/-- Where no class is registered twice, going backwards brings children before their parents. -/
theorem removesChildrenFirst_of_preceded {names : List String} (hnodup : names.Nodup)
    (h : ∀ name parent, s.parent? name = some parent → Preceded names parent name) :
    RemovesChildrenFirst s (names.map s.registration) (names.reverse.map .unregister) := by
  intro db hdb before name after heq child hparent
  obtain ⟨front, rest, hnames, rfl, hrest⟩ := List.map_eq_append_iff.mp heq
  obtain ⟨n, back, rfl, hcall, rfl⟩ := List.map_eq_cons_iff.mp hrest
  obtain rfl : n = name := RegistryCall.unregister.inj hcall
  rw [ClassDatabase.run_append, ClassDatabase.isRegistered_run_unregister,
    isRegistered_run_startup]
  by_cases hchild : child ∈ names
  · have hgone : child ∈ front := (h child n hparent).reverse hnodup hchild front back hnames
    rw [List.contains_iff_mem.mpr hgone, Bool.not_true, Bool.false_and]
  · have hnever : names.contains child = false :=
      Bool.eq_false_iff.mpr fun hmem => hchild (List.contains_iff_mem.mp hmem)
    rw [hnever, hdb child (Schema.containsClass_of_parent? hparent), Bool.false_or,
      Bool.and_false]

/-! ## Two modules -/

namespace TwoModules

/-- A class without members. -/
def plainClass (name : String) (parent? : Option String) : ClassDescriptor :=
  { name, parent?, isRefCounted := false, isInstantiable := false, part := .core, methods := [],
    properties := [], signals := [], enums := [], constants := [] }

/-- A class and its parent, which is declared after it. -/
def schema : Schema :=
  { version := ⟨4, 0, 0, "", ""⟩
    classes := [plainClass "Node" (some "Object"), plainClass "Object" none]
    builtins := [], globalEnums := [], singletons := [], utilityFunctions := [] }

/-- A module for each class; that of the child depends on that of the parent. -/
def definitions : List ModuleDefinition :=
  [⟨"scene", ["Node"], [], "", ["kernel"]⟩, ⟨"kernel", ["Object"], [], "", []⟩]

def kernelPlan : ModulePlan :=
  ⟨"kernel", ["Object"], ["Object"], [], "", [], false, .perType⟩

def scenePlan : ModulePlan :=
  ⟨"scene", ["Node"], ["Node", "Object"], [], "", ["kernel"], false, .perType⟩

theorem kernelPlan_assembles :
    (AssembledModule.ofPlan schema kernelPlan (.uniform .scene) "Object").isOk = true ∧
      (kernelPlan.assemble schema (.uniform .scene) "Object").isOk = true := by
  decide +kernel

theorem scenePlan_assembles :
    (AssembledModule.ofPlan schema scenePlan (.uniform .scene) "Object").isOk = true ∧
      (scenePlan.assemble schema (.uniform .scene) "Object").isOk = true := by
  decide +kernel

def kernel : GeneratedModule schema (.uniform .scene) "Object" :=
  .ofIsOk kernelPlan kernelPlan_assembles

def scene : GeneratedModule schema (.uniform .scene) "Object" :=
  .ofIsOk scenePlan scenePlan_assembles

theorem closedUnderDependencies :
    ClosedUnderDependencies [scenePlan, kernelPlan] [scene, kernel] := by
  constructor
  · simp [scene, kernel, GeneratedModule.ofIsOk]
  · simp [scene, kernel, GeneratedModule.ofIsOk, scenePlan, kernelPlan]

theorem dependenciesFirst : DependenciesFirst [scene, kernel] fun _ => [kernel, scene] := by
  refine ⟨fun _ => .swap _ _ _, fun _ g hg d hd hdependency => ?_⟩
  obtain rfl | rfl : g = scene ∨ g = kernel := by simpa using hg
  · obtain rfl | rfl : d = scene ∨ d = kernel := by simpa using hd
    · simp [scene, GeneratedModule.ofIsOk, scenePlan] at hdependency
    · exact preceded_head fun h => absurd (congrArg (·.plan.module) h) (by decide)
  · cases hdependency

end TwoModules

/-! ## Main statement -/

/-- While the engine starts up, no class is registered before its parent; while it shuts down, no
class is removed that a registered one has as its parent, provided that no class is generated twice.
The startup functions can be run if the classes of each module have different identifiers. -/
theorem startup_parents_first {modules : List ModuleDefinition} {options : PartitionOptions}
    {plans : List ModulePlan} (hpartition : partition modules options = .ok plans)
    (hmembers : ClosedUnderDependencies plans members) (horder : DependenciesFirst members order) :
    ((∀ g ∈ members, (g.unit.classes.map ClassUnit.ident).Nodup) →
        ∃ calls, AssembledModule.startupCalls? (unitsOf order) = some calls) ∧
      ∀ calls, AssembledModule.startupCalls? (unitsOf order) = some calls →
        RegistersParentsFirst s calls ∧
          ((members.Pairwise fun g d =>
              g.plan.generatedClasses.Disjoint d.plan.generatedClasses) →
            ∃ removals, AssembledModule.shutdownCalls? (unitsOf order) = some removals ∧
              RemovesChildrenFirst s calls removals) := by
  refine ⟨exists_startupCalls? horder, fun calls hcalls => ?_⟩
  obtain ⟨rfl, hremovals⟩ := startupCalls?_eq hcalls
  have hpreceded : ∀ name parent, s.parent? name = some parent →
      Preceded (startupNames order) parent name :=
    fun _ _ hparent => preceded_startupNames hpartition hmembers horder hparent
  refine ⟨registersParentsFirst_of_preceded hpreceded, fun hdisjoint => ⟨_, hremovals, ?_⟩⟩
  exact removesChildrenFirst_of_preceded (startupNames_nodup horder hdisjoint) hpreceded

theorem startup_parents_first_two_modules :
    AssembledModule.startupCalls? (unitsOf fun _ => [TwoModules.kernel, TwoModules.scene]) =
        some [.register "Object" none false, .register "Node" (some "Object") false] ∧
      (ClassDatabase.empty.run [.register "Object" none false]).isRegistered "Object" = true ∧
      (ClassDatabase.empty.run [.register "Object" none false,
        .register "Node" (some "Object") false, .unregister "Node"]).isRegistered "Node" = false := by
  have hpartition : partition TwoModules.definitions ⟨none, "Object", .perType⟩ =
      .ok [TwoModules.scenePlan, TwoModules.kernelPlan] := by decide +kernel
  have hcalls : AssembledModule.startupCalls?
      (unitsOf fun _ => [TwoModules.kernel, TwoModules.scene]) =
        some [.register "Object" none false, .register "Node" (some "Object") false] := by
    decide +kernel
  have hshutdown : AssembledModule.shutdownCalls?
      (unitsOf fun _ => [TwoModules.kernel, TwoModules.scene]) =
        some [.unregister "Node", .unregister "Object"] := by
    decide +kernel
  obtain ⟨hparents, hchildren⟩ := (startup_parents_first hpartition
    TwoModules.closedUnderDependencies TwoModules.dependenciesFirst).2 _ hcalls
  refine ⟨hcalls, ?_, ?_⟩
  · exact (hparents .empty [.register "Object" none false] "Node" (some "Object") false [] rfl).2
      "Object" rfl
  · obtain ⟨removals, hremovals, hgone⟩ := hchildren (by
      simp [TwoModules.scene, TwoModules.kernel, GeneratedModule.ofIsOk, TwoModules.scenePlan,
        TwoModules.kernelPlan])
    obtain rfl := Option.some.inj (hshutdown.symm.trans hremovals)
    exact hgone .empty (fun _ _ => rfl) [.unregister "Node"] "Object" [] rfl "Node" rfl

end EngineBindings
