import EngineBindings.Proofs.Module.Contents

/-!
# The order of declarations

Modules in another order have a partition when they had one before, and every module keeps its plan
(`partition_perm`).  Only the umbrella takes in other modules as they are declared: its lists may
come in another order, with the same names.

A walk looks at the modules by their names alone, so it is the very same walk, and whether modules
are well formed says nothing about their order.
-/

namespace EngineBindings

/-- Whether two plans differ at most in the order of what they list.  Their dependencies come from
the same walk. -/
structure ModulePlan.EqUpToOrder (p q : ModulePlan) : Prop where
  module_eq : p.module = q.module
  generatedClasses_perm : p.generatedClasses.Perm q.generatedClasses
  availableClasses_perm : p.availableClasses.Perm q.availableClasses
  builtins_perm : p.builtins.Perm q.builtins
  preamble_eq : p.preamble = q.preamble
  dependencies_eq : p.dependencies = q.dependencies
  isUmbrella_eq : p.isUmbrella = q.isUmbrella
  layout_eq : p.layout = q.layout

namespace Partition

variable {modules modules' : List ModuleDefinition} {options : PartitionOptions}

/-! ## Walks -/

/-- A walk depends on which module has which name. -/
theorem visit_congr (h : module? modules = module? modules') {steps : Nat} {path : List String}
    {m : ModuleDefinition} {visited : List String} :
    visit modules steps path m visited = visit modules' steps path m visited := by
  induction steps generalizing path m visited with
  | zero => rfl
  | succ steps ih =>
    have hdependency : visitDependency modules steps (m.name :: path) m.name =
        visitDependency modules' steps (m.name :: path) m.name := by
      funext visited dependency
      unfold visitDependency
      simp only [h, ih]
    rw [visit_succ, visit_succ, hdependency]

section Perm

variable (hperm : modules.Perm modules')

include hperm

theorem names_nodup_perm (hnodup : (modules.map ModuleDefinition.name).Nodup) :
    (modules'.map ModuleDefinition.name).Nodup :=
  (hperm.map ModuleDefinition.name).nodup_iff.mp hnodup

theorem module?_perm (hnodup : (modules.map ModuleDefinition.name).Nodup) :
    module? modules = module? modules' := by
  funext name
  refine Option.ext fun m => ?_
  rw [module?_eq_some_iff hnodup,
    module?_eq_some_iff (names_nodup_perm hperm hnodup), hperm.mem_iff]

theorem transitiveDependencies_perm (hnodup : (modules.map ModuleDefinition.name).Nodup)
    (m : ModuleDefinition) :
    transitiveDependencies modules m = transitiveDependencies modules' m := by
  unfold transitiveDependencies
  rw [hperm.length_eq, visit_congr (module?_perm hperm hnodup)]

/-! ## Well-formed modules -/

theorem requires_perm : Requires modules = Requires modules' := by
  have hdepends : DependsOn modules = DependsOn modules' := by
    funext name dependency
    simp only [DependsOn, hperm.mem_iff]
  rw [Requires, Requires, hdepends]

theorem generates_perm : Generates modules options = Generates modules' options := by
  funext listed m name
  simp only [Generates, Supplies, hperm.mem_iff, requires_perm hperm]

theorem WellFormed.of_perm (h : WellFormed modules options) : WellFormed modules' options where
  names_nodup := names_nodup_perm hperm h.names_nodup
  umbrella_declared := by simpa only [hperm.mem_iff] using h.umbrella_declared
  dependencies_declared := by
    simpa only [DependenciesDeclared, hperm.mem_iff] using h.dependencies_declared
  acyclic := requires_perm hperm ▸ h.acyclic
  nonempty := by simpa only [hperm.mem_iff, generates_perm hperm] using h.nonempty
  root_provided_once := by
    simpa only [hperm.mem_iff, generates_perm hperm, requires_perm hperm] using
      h.root_provided_once
  owners_unique := by simpa only [hperm.mem_iff] using h.owners_unique

theorem exists_partition_perm (h : ∃ plans, partition modules options = .ok plans) :
    ∃ plans, partition modules' options = .ok plans := by
  obtain ⟨plans, hplans⟩ := h
  exact (WellFormed.of_perm hperm (wellFormed_of_partition hplans)).exists_partition

/-! ## Plans -/

section Plans

variable (hnodup : (modules.map ModuleDefinition.name).Nodup) {m : ModuleDefinition}
  (hm : m ∈ modules) {p q : ModulePlan} (hp : planOf modules options m = .ok p)
  (hq : planOf modules' options m = .ok q)

include hnodup hp hq

theorem dependencies_perm : p.dependencies = q.dependencies := by
  obtain ⟨dependencies, hwalk, rfl, -⟩ := planOf_eq_ok_iff.mp hp
  obtain ⟨dependencies', hwalk', rfl, -⟩ := planOf_eq_ok_iff.mp hq
  rw [transitiveDependencies_perm hperm hnodup] at hwalk
  exact Except.ok.inj (hwalk.symm.trans hwalk')

/-- Besides the umbrella, a module generates what it lists itself. -/
theorem plan_eq_of_perm (hother : options.umbrella? ≠ some m.name) : p = q := by
  have hdependencies := dependencies_perm hperm hnodup hp hq
  obtain ⟨dependencies, -, rfl, -⟩ := planOf_eq_ok_iff.mp hp
  obtain ⟨dependencies', -, rfl, -⟩ := planOf_eq_ok_iff.mp hq
  obtain rfl : dependencies = dependencies' := hdependencies
  simp only [planWith, sources_of_not_umbrella hother, module?_perm hperm hnodup]

include hm

theorem generatedClasses_perm : p.generatedClasses.Perm q.generatedClasses := by
  rw [List.perm_ext_iff_of_nodup (generated_nodup hp) (generated_nodup hq)]
  intro c
  rw [mem_generatedClasses_iff hnodup hm hp, generates_perm hperm,
    mem_generatedClasses_iff (names_nodup_perm hperm hnodup) (hperm.mem_iff.mp hm) hq]

theorem builtins_perm : p.builtins.Perm q.builtins := by
  rw [List.perm_ext_iff_of_nodup (planned_builtins_nodup hp) (planned_builtins_nodup hq)]
  intro b
  rw [mem_builtins_iff hnodup hm hp, generates_perm hperm,
    mem_builtins_iff (names_nodup_perm hperm hnodup) (hperm.mem_iff.mp hm) hq]

theorem availableClasses_perm : p.availableClasses.Perm q.availableClasses := by
  rw [List.perm_ext_iff_of_nodup (available_nodup hp) (available_nodup hq)]
  intro c
  rw [mem_available_iff hp, mem_available_iff hq, dependencies_perm hperm hnodup hp hq,
    module?_perm hperm hnodup, (generatedClasses_perm hperm hnodup hm hp hq).mem_iff]

theorem eqUpToOrder_of_perm : p.EqUpToOrder q := by
  have hgenerated := generatedClasses_perm hperm hnodup hm hp hq
  have havailable := availableClasses_perm hperm hnodup hm hp hq
  have hbuiltins := builtins_perm hperm hnodup hm hp hq
  have hdependencies := dependencies_perm hperm hnodup hp hq
  obtain ⟨_, -, rfl, -⟩ := planOf_eq_ok_iff.mp hp
  obtain ⟨_, -, rfl, -⟩ := planOf_eq_ok_iff.mp hq
  exact ⟨rfl, hgenerated, havailable, hbuiltins, rfl, hdependencies, rfl, rfl⟩

end Plans

end Perm

/-- A partition holds the plan of a module under its name. -/
theorem plan?_eq_some_iff {plans : List ModulePlan} (h : partition modules options = .ok plans)
    {m : ModuleDefinition} (hm : m ∈ modules) {p : ModulePlan} :
    plan? plans m.name = some p ↔ planOf modules options m = .ok p := by
  obtain ⟨hnodup, -, hplans, -⟩ := partition_eq_ok_iff.mp h
  obtain ⟨own, hown, hplan⟩ := exists_of_mapM_eq_ok hplans hm
  have hfound : (plan? plans m.name).isSome := by
    rw [plan?, List.find?_isSome]
    exact ⟨own, hown, beq_iff_eq.mpr (planOf_module hplan)⟩
  obtain ⟨q, hq⟩ := Option.isSome_iff_exists.mp hfound
  have hname : q.module = m.name :=
    eq_of_beq (List.find?_some (p := fun p : ModulePlan => p.module == m.name) hq)
  obtain rfl : q = own := by
    refine List.inj_on_of_nodup_map (f := ModulePlan.module) ?_ (List.mem_of_find?_eq_some hq)
      hown (hname.trans (planOf_module hplan).symm)
    rw [plans_modules hplans]
    exact hnodup
  rw [hq, hplan, Option.some.injEq, Except.ok.injEq]

/-- Modules in another order have a partition exactly when they have one as they stand.  Then every
module has its plan in both, the same one but for the umbrella, whose lists may come in another
order. -/
theorem partition_perm (hperm : modules.Perm modules')
    (hnodup : (modules.map ModuleDefinition.name).Nodup) (options : PartitionOptions) :
    ((∃ plans, partition modules options = .ok plans) ↔
        ∃ plans', partition modules' options = .ok plans') ∧
      ∀ plans plans', partition modules options = .ok plans →
        partition modules' options = .ok plans' →
          (plans.map ModulePlan.module).Perm (plans'.map ModulePlan.module) ∧
          ∀ m ∈ modules, ∃ p q, plan? plans m.name = some p ∧ plan? plans' m.name = some q ∧
            (options.umbrella? ≠ some m.name → p = q) ∧
            (options.umbrella? = some m.name → p.EqUpToOrder q) := by
  constructor
  · exact ⟨exists_partition_perm hperm, exists_partition_perm hperm.symm⟩
  · intro plans plans' h h'
    obtain ⟨-, -, hplans, -⟩ := partition_eq_ok_iff.mp h
    obtain ⟨-, -, hplans', -⟩ := partition_eq_ok_iff.mp h'
    refine ⟨?_, fun m hm => ?_⟩
    · rw [plans_modules hplans, plans_modules hplans']
      exact hperm.map _
    · have hm' := hperm.mem_iff.mp hm
      obtain ⟨p, -, hp⟩ := exists_of_mapM_eq_ok hplans hm
      obtain ⟨q, -, hq⟩ := exists_of_mapM_eq_ok hplans' hm'
      exact ⟨p, q, (plan?_eq_some_iff h hm).mpr hp, (plan?_eq_some_iff h' hm').mpr hq,
        plan_eq_of_perm hperm hnodup hp hq,
        fun _ => eqUpToOrder_of_perm hperm hnodup hm hp hq⟩

/-- The diamond from its end. -/
theorem partition_perm_diamond :
    Diamond.definitions.Perm Diamond.definitions.reverse ∧
      (Diamond.definitions.map ModuleDefinition.name).Nodup ∧
      ∃ plans, partition Diamond.definitions.reverse Diamond.settings = .ok plans ∧
        (∀ m ∈ Diamond.definitions, Diamond.settings.umbrella? ≠ some m.name →
          plan? plans m.name = plan? Diamond.plans m.name) ∧
        ∃ p q, plan? Diamond.plans "all" = some p ∧ plan? plans "all" = some q ∧
          p.EqUpToOrder q := by
  have hperm : Diamond.definitions.Perm Diamond.definitions.reverse :=
    (List.reverse_perm _).symm
  have hnodup : (Diamond.definitions.map ModuleDefinition.name).Nodup := by decide
  obtain ⟨haccepts, hplans⟩ := partition_perm hperm hnodup Diamond.settings
  obtain ⟨plans, h⟩ := haccepts.mp ⟨_, Diamond.partition_eq⟩
  obtain ⟨-, hsame⟩ := hplans _ plans Diamond.partition_eq h
  refine ⟨hperm, hnodup, plans, h, fun m hm hother => ?_, ?_⟩
  · obtain ⟨p, q, hp, hq, heq, -⟩ := hsame m hm
    rw [hp, hq, heq hother]
  · obtain ⟨p, q, hp, hq, -, horder⟩ :=
      hsame ⟨"all", ["Editor"], ["int"], "", ["audio"]⟩ (by decide)
    exact ⟨p, q, hp, hq, horder rfl⟩

-- the umbrella takes in the level before the node now
example : (partition Diamond.definitions.reverse Diamond.settings).toOption.bind
    (fun plans => (plan? plans "all").map ModulePlan.generatedClasses) =
      some ["Editor", "Level", "Node"] := by
  decide +kernel

end Partition

end EngineBindings
