import EngineBindings.Proofs.Bindings.Assembly
import EngineBindings.Proofs.Module.Contents
import EngineBindings.Proofs.Schema.Ancestors
import EngineBindings.Proofs.Startup.Modules

/-!
# Ancestors that a module may refer to

A module can be generated only if it may refer to the parents of its classes.  That goes for the
modules that it depends on, too, and whatever they depend on the module depends on itself.  So what
a module may refer to is closed under parents (`parent_available_of_available`), and with a class it
has all ancestors of the class at hand (`ancestors_available`).

The umbrella is an exception: it generates classes that it does not own, and those are not provided
to a module that depends on it.
-/

namespace EngineBindings

/-- Whether code can be generated for a plan. -/
def ModulePlan.Assembles (s : Schema) (p : ModulePlan) : Prop :=
  ∃ levels foundational files, p.assemble s levels foundational = .ok files

theorem ModulePlan.Assembles.parent_available {s : Schema} {p : ModulePlan} (h : p.Assembles s)
    {name parent : String} (hname : name ∈ p.generatedClasses)
    (hparent : s.parent? name = some parent) : parent ∈ p.availableClasses := by
  obtain ⟨levels, foundational, files, hfiles⟩ := h
  obtain ⟨g, rfl, -⟩ := GeneratedModule.exists_of_assemble hfiles
  exact g.parent_available hname hparent

namespace Partition

variable {s : Schema} {modules : List ModuleDefinition} {options : PartitionOptions}

/-- Whether no module depends on the umbrella. -/
def UmbrellaUnused (modules : List ModuleDefinition) (options : PartitionOptions) : Prop :=
  ∀ m ∈ modules, ∀ dependency ∈ m.dependencies, options.umbrella? ≠ some dependency

instance : Decidable (UmbrellaUnused modules options) :=
  inferInstanceAs (Decidable (∀ m ∈ modules, ∀ dependency ∈ m.dependencies,
    options.umbrella? ≠ some dependency))

theorem UmbrellaUnused.ne_of_requires (h : UmbrellaUnused modules options)
    {name dependency : String} (hrequires : Requires modules name dependency) :
    options.umbrella? ≠ some dependency := by
  obtain ⟨_, -, m, hm, -, hdependency⟩ := Relation.TransGen.tail'_iff.mp hrequires
  exact h m hm dependency hdependency

section Closed

variable {plans : List ModulePlan} (hpartition : partition modules options = .ok plans)
  (humbrella : UmbrellaUnused modules options) (hassembles : ∀ p ∈ plans, p.Assembles s)

include hpartition humbrella

/-- What a module requires provides just the classes that it generates. -/
theorem native_of_generated {m n : ModuleDefinition} (hn : n ∈ modules)
    (hrequires : Requires modules m.name n.name) {q : ModulePlan}
    (hq : planOf modules options n = .ok q) {c : String} (hc : c ∈ q.generatedClasses) :
    c ∈ n.nativeClasses := by
  have hnodup := (partition_eq_ok_iff.mp hpartition).1
  obtain ⟨source, -, hsupplies, hsource⟩ := (mem_generatedClasses_iff hnodup hn hq).mp hc
  obtain rfl := hsupplies.resolve_right fun h => humbrella.ne_of_requires hrequires h.1
  exact hsource

include hassembles

theorem parent_available_of_available {p : ModulePlan} (hp : p ∈ plans) {name parent : String}
    (hparent : s.parent? name = some parent) (hname : name ∈ p.availableClasses) :
    parent ∈ p.availableClasses := by
  obtain ⟨hnodup, -, hplans, -⟩ := partition_eq_ok_iff.mp hpartition
  obtain ⟨m, hm, hplan⟩ := exists_planOf hpartition hp
  rcases (mem_available_iff hplan).mp hname with hown | ⟨d, hd, n, hfound, hnative⟩
  · exact (hassembles p hp).parent_available hown hparent
  · -- the dependency generates the class, so it may refer to the parent
    obtain ⟨hn, rfl⟩ := module?_name hfound
    obtain ⟨q, hq, hqplan⟩ := exists_of_mapM_eq_ok hplans hn
    have hrequires := (mem_dependencies_iff hnodup hm hplan).mp hd
    have hbelow := (hassembles q hq).parent_available (native_mem_generated hqplan hnative) hparent
    rw [mem_available_iff hplan]
    rcases (mem_available_iff hqplan).mp hbelow with hown | ⟨e, he, k, hk, hlisted⟩
    · have howned := native_of_generated hpartition humbrella hn hrequires hqplan hown
      exact .inr ⟨n.name, hd, n, hfound, howned⟩
    · have hdeeper := hrequires.trans ((mem_dependencies_iff hnodup hn hqplan).mp he)
      exact .inr ⟨e, (mem_dependencies_iff hnodup hm hplan).mpr hdeeper, k, hk, hlisted⟩

theorem available_of_leadsTo {p : ModulePlan} (hp : p ∈ plans) {name other : String}
    (hname : name ∈ p.availableClasses) (hleads : LeadsTo s.parent? name other) :
    other ∈ p.availableClasses := by
  induction hleads with
  | single hstep =>
    exact parent_available_of_available hpartition humbrella hassembles hp hstep hname
  | tail _ hstep ih =>
    exact parent_available_of_available hpartition humbrella hassembles hp hstep ih

end Closed

/-- Where every module of a partition can be generated and none depends on the umbrella, a module
may refer to all ancestors of its classes. -/
theorem ancestors_available {plans : List ModulePlan}
    (hpartition : partition modules options = .ok plans)
    (humbrella : UmbrellaUnused modules options) (hassembles : ∀ p ∈ plans, p.Assembles s) :
    ∀ p ∈ plans, ∀ c ∈ p.generatedClasses, ∀ ancestor ∈ s.ancestors c,
      ancestor ∈ p.availableClasses := by
  intro p hp c hc ancestor hancestor
  obtain ⟨m, -, hplan⟩ := exists_planOf hpartition hp
  exact available_of_leadsTo hpartition humbrella hassembles hp
    ((mem_available_iff hplan).mpr (.inl hc)) (Schema.mem_ancestors_iff.mp hancestor)

/-! ## A chain of modules -/

namespace Chain

/-- A class, its parent and the root class. -/
def schema : Schema :=
  { version := ⟨4, 0, 0, "", ""⟩
    classes := [TwoModules.plainClass "Control" (some "Node"),
      TwoModules.plainClass "Node" (some "Object"), TwoModules.plainClass "Object" none]
    builtins := [], globalEnums := [], singletons := [], utilityFunctions := [] }

/-- A module for each class, which depends on that of the parent, and the umbrella. -/
def definitions : List ModuleDefinition :=
  [⟨"ui", ["Control"], [], "", ["scene"]⟩, ⟨"scene", ["Node"], [], "", ["kernel"]⟩,
    ⟨"kernel", ["Object"], [], "", []⟩, ⟨"all", [], [], "", ["scene"]⟩]

def settings : PartitionOptions :=
  ⟨some "all", "Object", .perType⟩

def plans : List ModulePlan :=
  [⟨"ui", ["Control"], ["Control", "Node", "Object"], [], "", ["scene", "kernel"], false, .perType⟩,
    ⟨"scene", ["Node"], ["Node", "Object"], [], "", ["kernel"], false, .perType⟩,
    ⟨"kernel", ["Object"], ["Object"], [], "", [], false, .perType⟩,
    ⟨"all", ["Control"], ["Control", "Node", "Object"], [], "", ["scene", "kernel"], true,
      .perType⟩]

theorem partition_eq : partition definitions settings = .ok plans := by
  decide +kernel

theorem assembles : ∀ p ∈ plans, p.Assembles schema := by
  have hok : plans.all fun p => (p.assemble schema (.uniform .scene) "Object").isOk := by
    decide +kernel
  intro p hp
  exact ⟨_, _, _, eq_ok_of_isOk (List.all_eq_true.mp hok p hp) []⟩

end Chain

/-- The module at the end of a chain may refer to the root class, two modules away. -/
theorem ancestors_available_chain :
    partition Chain.definitions Chain.settings = .ok Chain.plans ∧
      UmbrellaUnused Chain.definitions Chain.settings ∧
      (∀ p ∈ Chain.plans, p.Assembles Chain.schema) ∧
      "Object" ∈ Chain.schema.ancestors "Control" ∧
      ∀ p ∈ Chain.plans, "Control" ∈ p.generatedClasses → "Object" ∈ p.availableClasses := by
  have hunused : UmbrellaUnused Chain.definitions Chain.settings := by decide
  have hroot : "Object" ∈ Chain.schema.ancestors "Control" := by decide
  refine ⟨Chain.partition_eq, hunused, Chain.assembles, hroot, fun p hp hc => ?_⟩
  exact ancestors_available Chain.partition_eq hunused Chain.assembles p hp "Control" hc "Object"
    hroot

end Partition

end EngineBindings
