import EngineBindings.Proofs.Module.Dependencies
import Mathlib.Data.List.Pairwise

/-!
# Modules that have a partition

Modules are well formed (`WellFormed`) if their names, the umbrella and their dependencies make
sense, every one of them has something to generate, and no class gets two owners.  These are the
modules that have a partition (`partition_accepts_iff`).

What a plan holds is put in terms of the declared modules first: its dependencies are what the
module requires (`mem_dependencies_iff`), and it generates what is listed by the module itself and,
for the umbrella, by every module that it does not require (`mem_generatedClasses_iff`).
-/

namespace EngineBindings.Partition

open Relation

variable {modules : List ModuleDefinition} {options : PartitionOptions}

/-- Whether what a module lists is generated for `m`: its own lists are, and the umbrella takes in
those of every module that it does not require. -/
def Supplies (modules : List ModuleDefinition) (options : PartitionOptions)
    (m source : ModuleDefinition) : Prop :=
  source = m ∨ options.umbrella? = some m.name ∧ ¬Requires modules m.name source.name

/-- Whether a name of some lists, those of classes or of builtin types, is generated for `m`. -/
def Generates (modules : List ModuleDefinition) (options : PartitionOptions)
    (listed : ModuleDefinition → List String) (m : ModuleDefinition) (name : String) : Prop :=
  ∃ source ∈ modules, Supplies modules options m source ∧ name ∈ listed source

/-- Whether modules can be split into output modules. -/
structure WellFormed (modules : List ModuleDefinition) (options : PartitionOptions) : Prop where
  names_nodup : (modules.map ModuleDefinition.name).Nodup
  umbrella_declared : ∀ name, options.umbrella? = some name → ∃ m ∈ modules, m.name = name
  dependencies_declared : DependenciesDeclared modules
  acyclic : ∀ name, ¬Requires modules name name
  nonempty : ∀ m ∈ modules, (∃ c, Generates modules options ModuleDefinition.nativeClasses m c) ∨
    ∃ b, Generates modules options ModuleDefinition.builtins m b
  /-- The root class is not generated where it is provided. -/
  root_provided_once : ∀ m ∈ modules, ∀ d ∈ modules, Requires modules m.name d.name →
    options.foundationalClass ∈ d.nativeClasses →
      ¬Generates modules options ModuleDefinition.nativeClasses m options.foundationalClass
  /-- No two modules besides the umbrella own the same class. -/
  owners_unique : ∀ m ∈ modules, ∀ n ∈ modules, m.name ≠ n.name →
    options.umbrella? ≠ some m.name → options.umbrella? ≠ some n.name →
      m.nativeClasses.Disjoint n.nativeClasses

/-! ## Plans -/

section Plans

variable (hnodup : (modules.map ModuleDefinition.name).Nodup) {m : ModuleDefinition}
  (hm : m ∈ modules)

include hnodup hm

theorem mem_transitiveDependencies_iff {dependencies : List String}
    (h : transitiveDependencies modules m = .ok dependencies) {name : String} :
    name ∈ dependencies ↔ Requires modules m.name name := by
  obtain ⟨visits, hwalk, rfl⟩ := (transitiveDependencies_eq_ok_iff hnodup hm).mp h
  rw [mem_firstOccurrences, hwalk.mem_iff_requires hnodup hm]

theorem mem_sources_iff {dependencies : List String}
    (h : transitiveDependencies modules m = .ok dependencies) {n : ModuleDefinition} :
    n ∈ sources modules (options.umbrella? == some m.name) m dependencies ↔
      n ∈ modules ∧ Supplies modules options m n := by
  unfold sources Supplies
  split
  · next humbrella =>
    have humbrella := eq_of_beq humbrella
    simp only [List.mem_cons, List.mem_filter, Bool.and_eq_true, bne_iff_ne, Bool.not_eq_true',
      ← Bool.not_eq_true, List.contains_iff_mem, mem_transitiveDependencies_iff hnodup hm h,
      humbrella, true_and]
    constructor
    · rintro (rfl | ⟨hn, -, hfree⟩)
      · exact ⟨hm, .inl rfl⟩
      · exact ⟨hn, .inr hfree⟩
    · rintro ⟨hn, heq | hfree⟩
      · exact .inl heq
      · by_cases heq : n = m
        · exact .inl heq
        · exact .inr ⟨hn, fun hname => heq (List.inj_on_of_nodup_map hnodup hn hm hname), hfree⟩
  · next hother =>
    have hother : options.umbrella? ≠ some m.name := fun h => hother (beq_iff_eq.mpr h)
    simp only [List.mem_singleton, hother, false_and, or_false]
    exact ⟨fun heq => ⟨heq ▸ hm, heq⟩, fun h => h.2⟩

variable {p : ModulePlan} (hp : planOf modules options m = .ok p)

include hp

theorem mem_dependencies_iff {name : String} :
    name ∈ p.dependencies ↔ Requires modules m.name name := by
  obtain ⟨dependencies, h, rfl, -⟩ := planOf_eq_ok_iff.mp hp
  exact mem_transitiveDependencies_iff hnodup hm h

theorem mem_generatedClasses_iff {c : String} :
    c ∈ p.generatedClasses ↔ Generates modules options ModuleDefinition.nativeClasses m c := by
  obtain ⟨dependencies, h, rfl, -⟩ := planOf_eq_ok_iff.mp hp
  simp only [planWith, mem_firstOccurrences, List.mem_flatMap, mem_sources_iff hnodup hm h,
    Generates, and_assoc]

theorem mem_builtins_iff {b : String} :
    b ∈ p.builtins ↔ Generates modules options ModuleDefinition.builtins m b := by
  obtain ⟨dependencies, h, rfl, -⟩ := planOf_eq_ok_iff.mp hp
  simp only [planWith, mem_firstOccurrences, List.mem_flatMap, mem_sources_iff hnodup hm h,
    Generates, and_assoc]

end Plans

theorem isUmbrella_iff {m : ModuleDefinition} {p : ModulePlan}
    (hp : planOf modules options m = .ok p) :
    p.isUmbrella = true ↔ options.umbrella? = some m.name := by
  obtain ⟨dependencies, -, rfl, -⟩ := planOf_eq_ok_iff.mp hp
  exact beq_iff_eq

/-- A module of well-formed ones has a plan. -/
theorem WellFormed.exists_planOf (h : WellFormed modules options) {m : ModuleDefinition}
    (hm : m ∈ modules) : ∃ p, planOf modules options m = .ok p := by
  obtain ⟨visits, hwalk⟩ := exists_walk h.dependencies_declared h.acyclic hm
  have hdependencies := (transitiveDependencies_eq_ok_iff h.names_nodup hm).mpr ⟨visits, hwalk, rfl⟩
  have hsources : ∀ n, n ∈ sources modules (options.umbrella? == some m.name) m
      (firstOccurrences visits) ↔ n ∈ modules ∧ Supplies modules options m n :=
    fun n => mem_sources_iff h.names_nodup hm hdependencies
  refine ⟨_, planOf_eq_ok_iff.mpr ⟨_, hdependencies, rfl, ?_⟩⟩
  rintro ⟨hclasses, hbuiltins⟩
  rcases h.nonempty m hm with ⟨c, n, hn, hsupplies, hc⟩ | ⟨b, n, hn, hsupplies, hb⟩
  · have hmem : c ∈ ([] : List String) := hclasses ▸ mem_firstOccurrences.mpr
      (List.mem_flatMap.mpr ⟨n, (hsources n).mpr ⟨hn, hsupplies⟩, hc⟩)
    cases hmem
  · have hmem : b ∈ ([] : List String) := hbuiltins ▸ mem_firstOccurrences.mpr
      (List.mem_flatMap.mpr ⟨n, (hsources n).mpr ⟨hn, hsupplies⟩, hb⟩)
    cases hmem

/-- A planned module has something to generate. -/
theorem generates_of_planOf (hnodup : (modules.map ModuleDefinition.name).Nodup)
    {m : ModuleDefinition} (hm : m ∈ modules) {p : ModulePlan}
    (hp : planOf modules options m = .ok p) :
    (∃ c, Generates modules options ModuleDefinition.nativeClasses m c) ∨
      ∃ b, Generates modules options ModuleDefinition.builtins m b := by
  obtain ⟨-, -, -, hsome⟩ := planOf_eq_ok_iff.mp hp
  by_cases hclasses : p.generatedClasses = []
  · obtain ⟨b, hb⟩ := List.exists_mem_of_ne_nil _ fun hbuiltins => hsome ⟨hclasses, hbuiltins⟩
    exact .inr ⟨b, (mem_builtins_iff hnodup hm hp).mp hb⟩
  · obtain ⟨c, hc⟩ := List.exists_mem_of_ne_nil _ hclasses
    exact .inl ⟨c, (mem_generatedClasses_iff hnodup hm hp).mp hc⟩

/-! ## Checks -/

theorem unknownUmbrella?_eq_none_iff :
    unknownUmbrella? modules options = none ↔
      ∀ name, options.umbrella? = some name → ∃ m ∈ modules, m.name = name := by
  unfold unknownUmbrella?
  rw [Option.filter_eq_none_iff]
  simp [module?, Option.isNone_iff_eq_none, List.find?_eq_none]

theorem providedByDependency_iff {p : ModulePlan} {c : String} :
    providedByDependency modules p c = true ↔
      ∃ name ∈ p.dependencies, ∃ d, module? modules name = some d ∧ c ∈ d.nativeClasses := by
  unfold providedByDependency
  rw [List.any_eq_true]
  refine exists_congr fun name => and_congr_right fun _ => ?_
  cases module? modules name <;> simp

theorem foundationalError?_eq_none_iff {root : String} {plans : List ModulePlan} :
    foundationalError? modules root plans = none ↔
      ∀ p ∈ plans, providedByDependency modules p root = true → root ∉ p.generatedClasses := by
  unfold foundationalError?
  rw [Option.map_eq_none_iff, List.find?_eq_none]
  simp [ModulePlan.generates]

theorem lookup_cons_eq_none_iff {owners : List (String × String)} {c module name : String} :
    ((c, module) :: owners).lookup name = none ↔ name ≠ c ∧ owners.lookup name = none := by
  rw [List.lookup_cons]
  by_cases h : name = c
  · simp [h]
  · simp [h, beq_false_of_ne h]

theorem sharedError?_eq_none_iff {owners entries : List (String × String)} :
    sharedError? owners entries = none ↔
      (entries.map Prod.fst).Nodup ∧ ∀ c ∈ entries.map Prod.fst, owners.lookup c = none := by
  induction entries generalizing owners with
  | nil => simp [sharedError?]
  | cons entry rest ih =>
    obtain ⟨c, module⟩ := entry
    rw [sharedError?, List.map_cons, List.nodup_cons, List.forall_mem_cons]
    cases hfirst : owners.lookup c with
    | some first => simp
    | none =>
      simp only [ih, lookup_cons_eq_none_iff]
      constructor
      · rintro ⟨hnodup, hnew⟩
        exact ⟨⟨fun hc => (hnew c hc).1 rfl, hnodup⟩, trivial, fun d hd => (hnew d hd).2⟩
      · rintro ⟨⟨hc, hnodup⟩, -, hnew⟩
        exact ⟨hnodup, fun d hd => ⟨fun heq => hc (heq ▸ hd), hnew d hd⟩⟩

/-- The classes of all plans besides the umbrella's are different. -/
theorem ownershipError?_eq_none_iff {plans : List ModulePlan} :
    ownershipError? plans = none ↔
      ((plans.filter fun p => !p.isUmbrella).flatMap ModulePlan.generatedClasses).Nodup := by
  have hclasses : ((plans.filter fun p => !p.isUmbrella).flatMap fun p =>
      p.generatedClasses.map fun c => (c, p.module)).map Prod.fst =
        (plans.filter fun p => !p.isUmbrella).flatMap ModulePlan.generatedClasses := by
    simp [List.map_flatMap, Function.comp_def]
  rw [ownershipError?, sharedError?_eq_none_iff, hclasses]
  exact ⟨fun h => h.1, fun h => ⟨h, fun _ _ => rfl⟩⟩

/-! ## Plans of all modules -/

theorem plan_mem_split {plans : List ModulePlan} {m : ModuleDefinition} {p : ModulePlan}
    (hp : p ∈ plans) (hplan : planOf modules options m = .ok p)
    (hother : options.umbrella? ≠ some m.name) : p ∈ plans.filter fun p => !p.isUmbrella := by
  refine List.mem_filter.mpr ⟨hp, ?_⟩
  rw [Bool.not_eq_true', ← Bool.not_eq_true, isUmbrella_iff hplan]
  exact hother

section Partition

variable {plans : List ModulePlan} (hnodup : (modules.map ModuleDefinition.name).Nodup)
  (hplans : modules.mapM (planOf modules options) = .ok plans)

include hplans

theorem plans_modules : plans.map ModulePlan.module = modules.map ModuleDefinition.name :=
  map_eq_of_map_eq (mapM_eq_ok_iff.mp hplans) fun _ _ _ h => planOf_module h

include hnodup

theorem foundationalError?_of_plans :
    foundationalError? modules options.foundationalClass plans = none ↔
      ∀ m ∈ modules, ∀ d ∈ modules, Requires modules m.name d.name →
        options.foundationalClass ∈ d.nativeClasses →
          ¬Generates modules options ModuleDefinition.nativeClasses m options.foundationalClass := by
  rw [foundationalError?_eq_none_iff]
  constructor
  · intro h m hm d hd hrequires hroot hgenerates
    obtain ⟨p, hp, hplan⟩ := exists_of_mapM_eq_ok hplans hm
    refine h p hp (providedByDependency_iff.mpr ?_)
      ((mem_generatedClasses_iff hnodup hm hplan).mpr hgenerates)
    exact ⟨d.name, (mem_dependencies_iff hnodup hm hplan).mpr hrequires, d,
      (module?_eq_some_iff hnodup).mpr ⟨hd, rfl⟩, hroot⟩
  · intro h p hp hprovided hgenerated
    obtain ⟨m, hm, hplan⟩ := exists_of_mem_mapM hplans hp
    obtain ⟨name, hname, d, hfound, hroot⟩ := providedByDependency_iff.mp hprovided
    obtain ⟨hd, rfl⟩ := module?_name hfound
    exact h m hm d hd ((mem_dependencies_iff hnodup hm hplan).mp hname) hroot
      ((mem_generatedClasses_iff hnodup hm hplan).mp hgenerated)

/-- What a plan besides the umbrella's generates is owned by its module. -/
theorem exists_owner {p : ModulePlan} (hp : p ∈ plans.filter fun p => !p.isUmbrella) {c : String}
    (hc : c ∈ p.generatedClasses) :
    ∃ m ∈ modules, planOf modules options m = .ok p ∧ options.umbrella? ≠ some m.name ∧
      c ∈ m.nativeClasses := by
  obtain ⟨hp, hsplit⟩ := List.mem_filter.mp hp
  obtain ⟨m, hm, hplan⟩ := exists_of_mem_mapM hplans hp
  have hother : options.umbrella? ≠ some m.name := by
    rwa [Bool.not_eq_true', ← Bool.not_eq_true, isUmbrella_iff hplan] at hsplit
  obtain ⟨source, -, hsupplies, hsource⟩ := (mem_generatedClasses_iff hnodup hm hplan).mp hc
  obtain rfl : source = m := hsupplies.resolve_right fun h => hother h.1
  exact ⟨source, hm, hplan, hother, hsource⟩

theorem ownershipError?_of_plans :
    ownershipError? plans = none ↔
      ∀ m ∈ modules, ∀ n ∈ modules, m.name ≠ n.name → options.umbrella? ≠ some m.name →
        options.umbrella? ≠ some n.name → m.nativeClasses.Disjoint n.nativeClasses := by
  rw [ownershipError?_eq_none_iff, List.nodup_flatMap]
  constructor
  · rintro ⟨-, hpairwise⟩ m hm n hn hne hmother hnother c hcm hcn
    obtain ⟨p, hp, hpplan⟩ := exists_of_mapM_eq_ok hplans hm
    obtain ⟨q, hq, hqplan⟩ := exists_of_mapM_eq_ok hplans hn
    have hpq : p ≠ q := by
      rintro rfl
      exact hne ((planOf_module hpplan).symm.trans (planOf_module hqplan))
    have : Std.Symm (Function.onFun List.Disjoint ModulePlan.generatedClasses) :=
      ⟨fun _ _ h => List.Disjoint.symm h⟩
    have hdisjoint := hpairwise.forall (plan_mem_split hp hpplan hmother)
      (plan_mem_split hq hqplan hnother) hpq
    exact hdisjoint (native_mem_generated hpplan hcm) (native_mem_generated hqplan hcn)
  · intro h
    -- plans of different modules own different classes, and no plan has a class twice
    have hdistinct : plans.Nodup := (plans_modules hplans ▸ hnodup).of_map
    constructor
    · intro p hp
      obtain ⟨m, -, hplan⟩ := exists_of_mem_mapM hplans (List.mem_filter.mp hp).1
      exact generated_nodup hplan
    · refine (hdistinct.filter _).pairwise_of_forall_ne fun p hp q hq hne c hcp hcq => ?_
      obtain ⟨m, hm, hpplan, hmother, hcm⟩ := exists_owner hnodup hplans hp hcp
      obtain ⟨n, hn, hqplan, hnother, hcn⟩ := exists_owner hnodup hplans hq hcq
      have hnames : m.name ≠ n.name := by
        intro heq
        obtain rfl := List.inj_on_of_nodup_map hnodup hm hn heq
        exact hne (Except.ok.inj (hpplan.symm.trans hqplan))
      exact h m hm n hn hnames hmother hnother hcm hcn

end Partition

/-! ## Main statement -/

/-- Planned modules depend on modules. -/
theorem dependenciesDeclared_of_plans (hnodup : (modules.map ModuleDefinition.name).Nodup)
    {plans : List ModulePlan} (hplans : modules.mapM (planOf modules options) = .ok plans) :
    DependenciesDeclared modules := by
  intro m hm name hname
  obtain ⟨p, -, hplan⟩ := exists_of_mapM_eq_ok hplans hm
  obtain ⟨dependencies, hdependencies, -⟩ := planOf_eq_ok_iff.mp hplan
  obtain ⟨visits, hwalk, -⟩ := (transitiveDependencies_eq_ok_iff hnodup hm).mp hdependencies
  obtain ⟨d, hd, hdname, -⟩ := hwalk.exists_below (hwalk.names_subset hname)
  exact ⟨d, hd, hdname⟩

/-- Planned modules never depend on themselves. -/
theorem acyclic_of_plans (hnodup : (modules.map ModuleDefinition.name).Nodup)
    {plans : List ModulePlan} (hplans : modules.mapM (planOf modules options) = .ok plans)
    (name : String) : ¬Requires modules name name := by
  intro hcycle
  obtain ⟨_, ⟨m, hm, rfl, -⟩, -⟩ := TransGen.head'_iff.mp hcycle
  obtain ⟨p, -, hplan⟩ := exists_of_mapM_eq_ok hplans hm
  obtain ⟨dependencies, hdependencies, -⟩ := planOf_eq_ok_iff.mp hplan
  obtain ⟨visits, hwalk, -⟩ := (transitiveDependencies_eq_ok_iff hnodup hm).mp hdependencies
  exact hwalk.notMem_of_dependencies hnodup hm ((hwalk.mem_iff_requires hnodup hm).mpr hcycle)

theorem wellFormed_of_partition {plans : List ModulePlan}
    (h : partition modules options = .ok plans) : WellFormed modules options := by
  obtain ⟨hnodup, humbrella, hplans, hroot, howners⟩ := partition_eq_ok_iff.mp h
  refine
    { names_nodup := hnodup
      umbrella_declared := unknownUmbrella?_eq_none_iff.mp humbrella
      dependencies_declared := dependenciesDeclared_of_plans hnodup hplans
      acyclic := acyclic_of_plans hnodup hplans
      nonempty := fun m hm => ?_
      root_provided_once := (foundationalError?_of_plans hnodup hplans).mp hroot
      owners_unique := (ownershipError?_of_plans hnodup hplans).mp howners }
  obtain ⟨p, -, hplan⟩ := exists_of_mapM_eq_ok hplans hm
  exact generates_of_planOf hnodup hm hplan

theorem WellFormed.exists_partition (h : WellFormed modules options) :
    ∃ plans, partition modules options = .ok plans := by
  have hplan : ∀ m ∈ modules, ∃ p, planOf modules options m = .ok p :=
    fun m hm => h.exists_planOf hm
  choose! plan hplan using hplan
  have hplans : modules.mapM (planOf modules options) = .ok (modules.map plan) := by
    rw [mapM_eq_ok_iff, List.map_map]
    exact List.map_congr_left hplan
  exact ⟨modules.map plan, partition_eq_ok_iff.mpr ⟨h.names_nodup,
    unknownUmbrella?_eq_none_iff.mpr h.umbrella_declared, hplans,
    (foundationalError?_of_plans h.names_nodup hplans).mpr h.root_provided_once,
    (ownershipError?_of_plans h.names_nodup hplans).mpr h.owners_unique⟩⟩

/-- Modules have a partition exactly when they are well formed.  The walk along the dependencies of
a module ends by itself: however many steps it may take, its outcome is the same. -/
theorem partition_accepts_iff (modules : List ModuleDefinition) (options : PartitionOptions) :
    ((∃ plans, partition modules options = .ok plans) ↔ WellFormed modules options) ∧
      ∀ m ∈ modules, ∀ more,
        visit modules (modules.length + 1 + more) [] m [] = transitiveDependencies modules m := by
  refine ⟨⟨fun ⟨_, h⟩ => wellFormed_of_partition h, WellFormed.exists_partition⟩, ?_⟩
  intro m hm more
  exact visit_add (.singleton hm) (Nat.le_succ _) more []

/-! ## A diamond of modules -/

namespace Diamond

/-- Two modules on top of the same one, one on top of both, and the umbrella. -/
def definitions : List ModuleDefinition :=
  [⟨"kernel", ["Object", "Engine", "Object"], ["int"], "", []⟩,
    ⟨"scene", ["Node"], [], "", ["kernel"]⟩,
    ⟨"audio", ["Sound"], [], "", ["kernel"]⟩,
    ⟨"game", ["Level"], [], "", ["audio", "scene"]⟩,
    ⟨"all", ["Editor"], ["int"], "", ["audio"]⟩]

def settings : PartitionOptions :=
  ⟨some "all", "Object", .buckets⟩

def plans : List ModulePlan :=
  [⟨"kernel", ["Object", "Engine"], ["Object", "Engine"], ["int"], "", [], false, .perType⟩,
    ⟨"scene", ["Node"], ["Node", "Object", "Engine"], [], "", ["kernel"], false, .perType⟩,
    ⟨"audio", ["Sound"], ["Sound", "Object", "Engine"], [], "", ["kernel"], false, .perType⟩,
    ⟨"game", ["Level"], ["Level", "Sound", "Object", "Engine", "Node"], [], "",
      ["audio", "kernel", "scene"], false, .perType⟩,
    ⟨"all", ["Editor", "Node", "Level"], ["Editor", "Node", "Level", "Sound", "Object", "Engine"],
      ["int"], "", ["audio", "kernel"], true, .buckets⟩]

theorem partition_eq : partition definitions settings = .ok plans := by
  decide +kernel

/-- A cycle below a module that is come to twice. -/
def cyclic : List ModuleDefinition :=
  [⟨"game", ["Level"], [], "", ["scene", "audio"]⟩, ⟨"scene", ["Node"], [], "", ["audio"]⟩,
    ⟨"audio", ["Sound"], [], "", ["scene"]⟩]

end Diamond

theorem partition_accepts_iff_diamond :
    WellFormed Diamond.definitions Diamond.settings ∧
      ¬WellFormed Diamond.cyclic Diamond.settings := by
  refine ⟨(partition_accepts_iff _ _).1.mp ⟨_, Diamond.partition_eq⟩, fun h => ?_⟩
  obtain ⟨plans, hplans⟩ := (partition_accepts_iff _ _).1.mpr h
  have hrefused : (partition Diamond.cyclic Diamond.settings).isOk = false := by decide +kernel
  rw [hplans] at hrefused
  cases hrefused

end EngineBindings.Partition
