import EngineBindings.Module.Partition
import EngineBindings.Proofs.Sequence
import EngineBindings.Proofs.Traverse

/-!
# What modules generate and may refer to

The plan of a module in terms of its dependencies (`planOf_eq_ok_iff`), when there is a partition
(`partition_eq_ok_iff`), and where an available class comes from: it is generated by the module
itself or by the plan of a dependency (`generated_of_available`).
-/

namespace EngineBindings.Partition

variable {modules : List ModuleDefinition} {options : PartitionOptions}

/-! ## Names of modules -/

theorem firstDuplicate?_eq_none_iff {seen : List String} :
    firstDuplicate? seen modules = none ↔
      (modules.map ModuleDefinition.name).Nodup ∧ ∀ m ∈ modules, m.name ∉ seen := by
  induction modules generalizing seen with
  | nil => simp [firstDuplicate?]
  | cons m rest ih =>
    rw [firstDuplicate?]
    split
    · next hseen =>
      refine ⟨fun h => (nomatch h), fun h => ?_⟩
      exact absurd (List.contains_iff_mem.mp hseen) (h.2 m List.mem_cons_self)
    · next hseen =>
      have hnew : m.name ∉ seen := fun hmem => hseen (List.contains_iff_mem.mpr hmem)
      rw [ih, List.map_cons, List.nodup_cons, List.forall_mem_cons]
      simp only [List.mem_cons, not_or, List.mem_map, not_exists, not_and]
      constructor
      · rintro ⟨hnodup, hold⟩
        exact ⟨⟨fun d hd => (hold d hd).1, hnodup⟩, hnew, fun d hd => (hold d hd).2⟩
      · rintro ⟨⟨hm, hnodup⟩, -, hold⟩
        exact ⟨hnodup, fun d hd => ⟨hm d hd, hold d hd⟩⟩

theorem firstDuplicate?_nil_eq_none_iff :
    firstDuplicate? [] modules = none ↔ (modules.map ModuleDefinition.name).Nodup := by
  rw [firstDuplicate?_eq_none_iff]
  simp

theorem module?_name {name : String} {m : ModuleDefinition} (h : module? modules name = some m) :
    m ∈ modules ∧ m.name = name := by
  unfold module? at h
  have hname := List.find?_some h
  exact ⟨List.mem_of_find?_eq_some h, eq_of_beq hname⟩

/-- Where names are distinct, a name finds each module that has it. -/
theorem module?_eq_some_iff (hnodup : (modules.map ModuleDefinition.name).Nodup) {name : String}
    {m : ModuleDefinition} : module? modules name = some m ↔ m ∈ modules ∧ m.name = name := by
  refine ⟨module?_name, ?_⟩
  rintro ⟨hm, rfl⟩
  cases hfound : module? modules m.name with
  | none => exact absurd (beq_self_eq_true m.name) (List.find?_eq_none.mp hfound m hm)
  | some n =>
    obtain ⟨hn, hname⟩ := module?_name hfound
    rw [List.inj_on_of_nodup_map hnodup hn hm hname]

/-! ## Plans -/

/-- The plan of a module with these dependencies. -/
def planWith (modules : List ModuleDefinition) (options : PartitionOptions) (m : ModuleDefinition)
    (dependencies : List String) : ModulePlan :=
  let isUmbrella := options.umbrella? == some m.name
  let sources := sources modules isUmbrella m dependencies
  let generatedClasses := firstOccurrences (sources.flatMap ModuleDefinition.nativeClasses)
  let provided := (dependencies.filterMap (module? modules)).flatMap ModuleDefinition.nativeClasses
  { module := m.name
    generatedClasses
    availableClasses := firstOccurrences (generatedClasses ++ provided)
    builtins := firstOccurrences (sources.flatMap ModuleDefinition.builtins)
    preamble := m.preamble
    dependencies
    isUmbrella
    layout := if isUmbrella then options.umbrellaLayout else .perType }

/-- Whether a plan generates anything of its own. -/
def GeneratesNothing (p : ModulePlan) : Prop :=
  p.generatedClasses = [] ∧ p.builtins = []

theorem planOf_eq_ok_iff {m : ModuleDefinition} {p : ModulePlan} :
    planOf modules options m = .ok p ↔
      ∃ dependencies, transitiveDependencies modules m = .ok dependencies ∧
        p = planWith modules options m dependencies ∧ ¬GeneratesNothing p := by
  unfold planOf
  cases transitiveDependencies modules m with
  | error e => simp
  | ok dependencies =>
    simp only [Except.ok.injEq, exists_eq_left']
    split
    · next hempty =>
      rw [Bool.and_eq_true, List.isEmpty_iff, List.isEmpty_iff] at hempty
      refine ⟨fun h => (nomatch h), ?_⟩
      rintro ⟨rfl, hsome⟩
      exact absurd hempty hsome
    · next hsome =>
      rw [Bool.and_eq_true, List.isEmpty_iff, List.isEmpty_iff] at hsome
      rw [Except.ok.injEq, eq_comm]
      refine ⟨?_, fun h => h.1⟩
      rintro rfl
      exact ⟨rfl, hsome⟩

theorem mem_sources_self {isUmbrella : Bool} {m : ModuleDefinition} {dependencies : List String} :
    m ∈ sources modules isUmbrella m dependencies := by
  unfold sources
  split <;> exact List.mem_cons_self

theorem native_mem_generated {m : ModuleDefinition} {p : ModulePlan}
    (h : planOf modules options m = .ok p) {className : String} (hc : className ∈ m.nativeClasses) :
    className ∈ p.generatedClasses := by
  obtain ⟨dependencies, -, rfl, -⟩ := planOf_eq_ok_iff.mp h
  exact mem_firstOccurrences.mpr (List.mem_flatMap.mpr ⟨m, mem_sources_self, hc⟩)

theorem generated_nodup {m : ModuleDefinition} {p : ModulePlan}
    (h : planOf modules options m = .ok p) : p.generatedClasses.Nodup := by
  obtain ⟨dependencies, -, rfl, -⟩ := planOf_eq_ok_iff.mp h
  exact firstOccurrences_nodup _

/-- A module may refer to what it generates and to what its dependencies own. -/
theorem mem_available_iff {m : ModuleDefinition} {p : ModulePlan}
    (h : planOf modules options m = .ok p) {className : String} :
    className ∈ p.availableClasses ↔
      className ∈ p.generatedClasses ∨
        ∃ d ∈ p.dependencies, ∃ n, module? modules d = some n ∧ className ∈ n.nativeClasses := by
  obtain ⟨dependencies, -, rfl, -⟩ := planOf_eq_ok_iff.mp h
  simp only [planWith, mem_firstOccurrences, List.mem_append, List.mem_flatMap, List.mem_filterMap]
  refine or_congr_right ?_
  constructor
  · rintro ⟨n, ⟨d, hd, hn⟩, hc⟩
    exact ⟨d, hd, n, hn, hc⟩
  · rintro ⟨d, hd, n, hn, hc⟩
    exact ⟨n, ⟨d, hd, hn⟩, hc⟩

/-! ## Partitions -/

theorem partition_eq_ok_iff {plans : List ModulePlan} :
    partition modules options = .ok plans ↔
      (modules.map ModuleDefinition.name).Nodup ∧ unknownUmbrella? modules options = none ∧
        modules.mapM (planOf modules options) = .ok plans ∧
        foundationalError? modules options.foundationalClass plans = none ∧
        ownershipError? plans = none := by
  unfold partition
  cases hduplicate : firstDuplicate? [] modules with
  | some name =>
    simp only [reduceCtorEq, false_iff, not_and]
    intro hnodup
    rw [firstDuplicate?_nil_eq_none_iff.mpr hnodup] at hduplicate
    cases hduplicate
  | none =>
    simp only [firstDuplicate?_nil_eq_none_iff.mp hduplicate, true_and]
    cases unknownUmbrella? modules options with
    | some name => simp
    | none =>
      simp only [true_and]
      cases modules.mapM (planOf modules options) with
      | error e => simp
      | ok found =>
        simp only [Except.ok.injEq]
        cases hfoundational : foundationalError? modules options.foundationalClass found with
        | some e =>
          simp only [reduceCtorEq, false_iff]
          rintro ⟨rfl, hnone, -⟩
          rw [hfoundational] at hnone
          cases hnone
        | none =>
          cases howner : ownershipError? found with
          | some e =>
            simp only [reduceCtorEq, false_iff]
            rintro ⟨rfl, -, hnone⟩
            rw [howner] at hnone
            cases hnone
          | none =>
            simp only [Except.ok.injEq]
            refine ⟨?_, fun h => h.1⟩
            rintro rfl
            exact ⟨rfl, hfoundational, howner⟩

variable {plans : List ModulePlan}

theorem exists_planOf (h : partition modules options = .ok plans) {p : ModulePlan}
    (hp : p ∈ plans) : ∃ m ∈ modules, planOf modules options m = .ok p :=
  exists_of_mem_mapM (partition_eq_ok_iff.mp h).2.2.1 hp

theorem planOf_module {m : ModuleDefinition} {p : ModulePlan}
    (h : planOf modules options m = .ok p) : p.module = m.name := by
  obtain ⟨dependencies, -, rfl, -⟩ := planOf_eq_ok_iff.mp h
  rfl

/-- A class that a module may refer to is generated by the module or by a dependency. -/
theorem generated_of_available (h : partition modules options = .ok plans) {p : ModulePlan}
    (hp : p ∈ plans) {className : String} (hc : className ∈ p.availableClasses) :
    className ∈ p.generatedClasses ∨
      ∃ d ∈ p.dependencies, ∀ q ∈ plans, q.module = d → className ∈ q.generatedClasses := by
  obtain ⟨m, -, hplan⟩ := exists_planOf h hp
  rcases (mem_available_iff hplan).mp hc with hown | ⟨d, hd, n, hn, hnative⟩
  · exact .inl hown
  · refine .inr ⟨d, hd, fun q hq hmodule => ?_⟩
    obtain ⟨k, hk, hqplan⟩ := exists_planOf h hq
    have hfound : module? modules d = some k :=
      (module?_eq_some_iff (partition_eq_ok_iff.mp h).1).mpr
        ⟨hk, (planOf_module hqplan).symm.trans hmodule⟩
    obtain rfl : n = k := Option.some.inj (hn.symm.trans hfound)
    exact native_mem_generated hqplan hnative

end EngineBindings.Partition
