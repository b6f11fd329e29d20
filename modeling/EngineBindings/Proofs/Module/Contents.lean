import EngineBindings.Proofs.Module.WellFormed

/-!
# What plans hold

A partition has one plan for each module, in the order of their declaration (`partition_plans`).
The dependencies of a plan come in the order in which a walk first meets them; what the module may
refer to is what it generates, followed by what its dependencies own.

The umbrella leaves nothing out (`umbrella_covers`): what it does not depend on it generates, and
what it depends on it may refer to.
-/

namespace EngineBindings.Partition

variable {modules : List ModuleDefinition} {options : PartitionOptions}

/-- What the modules with these names own, one after another. -/
def ownedBy (modules : List ModuleDefinition) (names : List String) : List String :=
  (names.filterMap (module? modules)).flatMap ModuleDefinition.nativeClasses

/-- Whether a plan is that of a module. -/
structure IsPlanOf (modules : List ModuleDefinition) (options : PartitionOptions)
    (m : ModuleDefinition) (p : ModulePlan) : Prop where
  module_eq : p.module = m.name
  dependencies_nodup : p.dependencies.Nodup
  self_notMem : m.name ∉ p.dependencies
  mem_dependencies : ∀ name, name ∈ p.dependencies ↔ Requires modules m.name name
  dependencies_order :
    ∃ visits, Walk modules m.dependencies visits ∧ KeepsFirst visits p.dependencies
  generated_nodup : p.generatedClasses.Nodup
  builtins_nodup : p.builtins.Nodup
  own_classes : options.umbrella? ≠ some m.name → KeepsFirst m.nativeClasses p.generatedClasses
  own_builtins : options.umbrella? ≠ some m.name → KeepsFirst m.builtins p.builtins
  available_nodup : p.availableClasses.Nodup
  /-- After the generated classes come those of the dependencies that are not among them. -/
  available_order : ∃ others, p.availableClasses = p.generatedClasses ++ others ∧
    KeepsFirst ((ownedBy modules p.dependencies).filter fun c => c ∉ p.generatedClasses) others

section Lists

variable {m : ModuleDefinition} {p : ModulePlan} (hp : planOf modules options m = .ok p)

include hp

theorem generatedClasses_eq :
    p.generatedClasses = firstOccurrences
      ((sources modules (options.umbrella? == some m.name) m p.dependencies).flatMap
        ModuleDefinition.nativeClasses) := by
  obtain ⟨dependencies, -, rfl, -⟩ := planOf_eq_ok_iff.mp hp
  rfl

theorem builtins_eq :
    p.builtins = firstOccurrences
      ((sources modules (options.umbrella? == some m.name) m p.dependencies).flatMap
        ModuleDefinition.builtins) := by
  obtain ⟨dependencies, -, rfl, -⟩ := planOf_eq_ok_iff.mp hp
  rfl

theorem availableClasses_eq :
    p.availableClasses =
      firstOccurrences (p.generatedClasses ++ ownedBy modules p.dependencies) := by
  obtain ⟨dependencies, -, rfl, -⟩ := planOf_eq_ok_iff.mp hp
  rfl

theorem availableClasses_eq_append :
    p.availableClasses = p.generatedClasses ++ firstOccurrences
      ((ownedBy modules p.dependencies).filter fun c => c ∉ p.generatedClasses) := by
  rw [availableClasses_eq hp, firstOccurrences_append,
    firstOccurrences_of_nodup (generated_nodup hp)]
  simp

theorem planned_builtins_nodup : p.builtins.Nodup := by
  rw [builtins_eq hp]
  exact firstOccurrences_nodup _

theorem available_nodup : p.availableClasses.Nodup := by
  rw [availableClasses_eq hp]
  exact firstOccurrences_nodup _

end Lists

/-- The plan of a module besides the umbrella has the module's own lists. -/
theorem sources_of_not_umbrella {m : ModuleDefinition} (hother : options.umbrella? ≠ some m.name)
    (dependencies : List String) :
    sources modules (options.umbrella? == some m.name) m dependencies = [m] := by
  rw [beq_false_of_ne hother]
  rfl

theorem isPlanOf_of_planOf (hnodup : (modules.map ModuleDefinition.name).Nodup)
    {m : ModuleDefinition} (hm : m ∈ modules) {p : ModulePlan}
    (hp : planOf modules options m = .ok p) : IsPlanOf modules options m p := by
  have hmem : ∀ name, name ∈ p.dependencies ↔ Requires modules m.name name :=
    fun _ => mem_dependencies_iff hnodup hm hp
  obtain ⟨visits, hwalk, hvisits⟩ : ∃ visits, Walk modules m.dependencies visits ∧
      p.dependencies = firstOccurrences visits := by
    obtain ⟨dependencies, hdependencies, rfl, -⟩ := planOf_eq_ok_iff.mp hp
    exact (transitiveDependencies_eq_ok_iff hnodup hm).mp hdependencies
  refine
    { module_eq := planOf_module hp
      dependencies_nodup := hvisits ▸ firstOccurrences_nodup visits
      self_notMem := fun hself => ?_
      mem_dependencies := hmem
      dependencies_order := ⟨visits, hwalk, hvisits ▸ keepsFirst_firstOccurrences visits⟩
      generated_nodup := generated_nodup hp
      builtins_nodup := planned_builtins_nodup hp
      own_classes := fun hother => ?_
      own_builtins := fun hother => ?_
      available_nodup := available_nodup hp
      available_order := ⟨_, availableClasses_eq_append hp, keepsFirst_firstOccurrences _⟩ }
  · have hvisited : m.name ∈ visits := (hwalk.mem_iff_requires hnodup hm).mpr ((hmem _).mp hself)
    exact hwalk.notMem_of_dependencies hnodup hm hvisited
  · rw [generatedClasses_eq hp, sources_of_not_umbrella hother, List.flatMap_singleton]
    exact keepsFirst_firstOccurrences _
  · rw [builtins_eq hp, sources_of_not_umbrella hother, List.flatMap_singleton]
    exact keepsFirst_firstOccurrences _

/-- There is one plan for each module, in the order of their declaration. -/
theorem partition_plans {plans : List ModulePlan} (h : partition modules options = .ok plans) :
    List.Forall₂ (IsPlanOf modules options) modules plans := by
  obtain ⟨hnodup, -, hplans, -⟩ := partition_eq_ok_iff.mp h
  exact forall₂_of_mapM_eq_ok hplans fun m hm p hp => isPlanOf_of_planOf hnodup hm hp

theorem partition_plans_diamond :
    partition Diamond.definitions Diamond.settings = .ok Diamond.plans ∧
      List.Forall₂ (IsPlanOf Diamond.definitions Diamond.settings) Diamond.definitions
        Diamond.plans :=
  ⟨Diamond.partition_eq, partition_plans Diamond.partition_eq⟩

/-! ## The umbrella -/

/-- The plan of the umbrella is that of the module with its name. -/
theorem exists_umbrella {plans : List ModulePlan} (h : partition modules options = .ok plans)
    {name : String} (humbrella : options.umbrella? = some name) :
    ∃ m ∈ modules, m.name = name ∧ ∃ p, umbrella? plans = some p ∧
      planOf modules options m = .ok p := by
  obtain ⟨hnodup, hdeclared, hplans, -⟩ := partition_eq_ok_iff.mp h
  obtain ⟨m, hm, rfl⟩ := unknownUmbrella?_eq_none_iff.mp hdeclared name humbrella
  obtain ⟨p, hp, hplan⟩ := exists_of_mapM_eq_ok hplans hm
  have hfound : (umbrella? plans).isSome := by
    rw [umbrella?, List.find?_isSome]
    exact ⟨p, hp, (isUmbrella_iff hplan).mpr humbrella⟩
  obtain ⟨q, hq⟩ := Option.isSome_iff_exists.mp hfound
  obtain ⟨n, hn, hqplan⟩ := exists_of_mem_mapM hplans (List.mem_of_find?_eq_some hq)
  have hname := (isUmbrella_iff hqplan).mp (List.find?_some (p := ModulePlan.isUmbrella) hq)
  obtain rfl : m = n :=
    List.inj_on_of_nodup_map hnodup hm hn (Option.some.inj (humbrella.symm.trans hname))
  exact ⟨m, hm, rfl, q, hq, hqplan⟩

/-- The umbrella, and then the modules that it does not depend on as they are declared. -/
def takenIn (modules : List ModuleDefinition) (m : ModuleDefinition) (dependencies : List String) :
    List ModuleDefinition :=
  m :: modules.filter fun n => n.name ≠ m.name ∧ n.name ∉ dependencies

theorem sources_of_umbrella {m : ModuleDefinition} (humbrella : options.umbrella? = some m.name)
    (dependencies : List String) :
    sources modules (options.umbrella? == some m.name) m dependencies =
      takenIn modules m dependencies := by
  rw [humbrella, beq_self_eq_true]
  simp only [sources, takenIn, if_true, Bool.decide_and, decide_not, List.contains_eq_mem]
  rfl

/-- The umbrella takes in all modules that it does not require. -/
theorem generates_umbrella_iff {m : ModuleDefinition} (hm : m ∈ modules)
    (humbrella : options.umbrella? = some m.name) {listed : ModuleDefinition → List String}
    {x : String} :
    Generates modules options listed m x ↔
      x ∈ listed m ∨ ∃ n ∈ modules, ¬Requires modules m.name n.name ∧ x ∈ listed n := by
  constructor
  · rintro ⟨n, hn, rfl | ⟨-, hfree⟩, hx⟩
    · exact .inl hx
    · exact .inr ⟨n, hn, hfree, hx⟩
  · rintro (hx | ⟨n, hn, hfree, hx⟩)
    · exact ⟨m, hm, .inl rfl, hx⟩
    · exact ⟨n, hn, .inr ⟨humbrella, hfree⟩, hx⟩

/-- The umbrella generates what it owns and what is owned by modules that it does not require,
itself first and then the others as they are declared; whatever a module owns, the umbrella may
refer to. -/
theorem umbrella_covers {plans : List ModulePlan} (h : partition modules options = .ok plans)
    {name : String} (humbrella : options.umbrella? = some name) :
    ∃ m ∈ modules, m.name = name ∧ ∃ p, umbrella? plans = some p ∧ p.module = name ∧
      (∀ d, d ∈ p.dependencies ↔ Requires modules name d) ∧
      (∀ c, c ∈ p.generatedClasses ↔
        c ∈ m.nativeClasses ∨ ∃ n ∈ modules, ¬Requires modules name n.name ∧ c ∈ n.nativeClasses) ∧
      (∀ b, b ∈ p.builtins ↔
        b ∈ m.builtins ∨ ∃ n ∈ modules, ¬Requires modules name n.name ∧ b ∈ n.builtins) ∧
      KeepsFirst ((takenIn modules m p.dependencies).flatMap ModuleDefinition.nativeClasses)
        p.generatedClasses ∧
      KeepsFirst ((takenIn modules m p.dependencies).flatMap ModuleDefinition.builtins)
        p.builtins ∧
      ∀ n ∈ modules, ∀ c ∈ n.nativeClasses, c ∈ p.availableClasses := by
  obtain ⟨hnodup, -⟩ := partition_eq_ok_iff.mp h
  obtain ⟨m, hm, rfl, p, hfound, hp⟩ := exists_umbrella h humbrella
  refine ⟨m, hm, rfl, p, hfound, planOf_module hp, fun d => mem_dependencies_iff hnodup hm hp,
    fun c => ?_, fun b => ?_, ?_, ?_, fun n hn c hc => ?_⟩
  · rw [mem_generatedClasses_iff hnodup hm hp, generates_umbrella_iff hm humbrella]
  · rw [mem_builtins_iff hnodup hm hp, generates_umbrella_iff hm humbrella]
  · rw [generatedClasses_eq hp, sources_of_umbrella humbrella]
    exact keepsFirst_firstOccurrences _
  · rw [builtins_eq hp, sources_of_umbrella humbrella]
    exact keepsFirst_firstOccurrences _
  · rw [mem_available_iff hp]
    by_cases hrequires : Requires modules m.name n.name
    · refine .inr ⟨n.name, (mem_dependencies_iff hnodup hm hp).mpr hrequires, n, ?_, hc⟩
      exact (module?_eq_some_iff hnodup).mpr ⟨hn, rfl⟩
    · refine .inl ((mem_generatedClasses_iff hnodup hm hp).mpr ?_)
      exact ⟨n, hn, .inr ⟨humbrella, hrequires⟩, hc⟩

theorem umbrella_covers_diamond :
    partition Diamond.definitions Diamond.settings = .ok Diamond.plans ∧
      Diamond.settings.umbrella? = some "all" ∧
      ∃ p, umbrella? Diamond.plans = some p ∧ ¬Requires Diamond.definitions "all" "game" ∧
        "Level" ∈ p.generatedClasses ∧ "Sound" ∈ p.availableClasses := by
  obtain ⟨m, -, -, p, hfound, -, hdependencies, hgenerated, -, -, -, havailable⟩ :=
    umbrella_covers Diamond.partition_eq rfl
  have hplan : p.dependencies = ["audio", "kernel"] := by
    rw [← Option.some.inj ((show umbrella? Diamond.plans = some _ from rfl).symm.trans hfound)]
  have hfree : ¬Requires Diamond.definitions "all" "game" := by
    rw [← hdependencies, hplan]
    decide
  refine ⟨Diamond.partition_eq, rfl, p, hfound, hfree, (hgenerated "Level").mpr (.inr ?_), ?_⟩
  · exact ⟨⟨"game", ["Level"], [], "", ["audio", "scene"]⟩, by decide, hfree, by decide⟩
  · exact havailable ⟨"audio", ["Sound"], [], "", ["kernel"]⟩ (by decide) "Sound" (by decide)

end EngineBindings.Partition
