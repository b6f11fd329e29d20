import EngineBindings.Proofs.Module.Contents

/-!
# Classes that two modules generate

Besides the umbrella every module generates just what it lists, and no two of them list the same
class.  The umbrella takes in what it does not depend on, but nothing that one of its dependencies
provides.  So a module and a dependency of it generate different classes, unless the dependency is
the umbrella, which has taken the module in, or the umbrella lists a class of its dependency itself
(`generated_by_dependency`).
-/

namespace EngineBindings.Partition

variable {modules : List ModuleDefinition} {options : PartitionOptions}

theorem ownedBy_singleton (hnodup : (modules.map ModuleDefinition.name).Nodup)
    {m : ModuleDefinition} (hm : m ∈ modules) : ownedBy modules [m.name] = m.nativeClasses := by
  have hfound : module? modules m.name = some m := (module?_eq_some_iff hnodup).mpr ⟨hm, rfl⟩
  simp [ownedBy, hfound]

theorem generates_iff_of_not_umbrella {m : ModuleDefinition} (hm : m ∈ modules)
    (hother : options.umbrella? ≠ some m.name) {listed : ModuleDefinition → List String}
    {x : String} : Generates modules options listed m x ↔ x ∈ listed m := by
  constructor
  · rintro ⟨source, -, rfl | ⟨humbrella, -⟩, hx⟩
    · exact hx
    · exact absurd humbrella hother
  · intro hx
    exact ⟨m, hm, .inl rfl, hx⟩

/-! ## A module and one that it requires -/

section Required

variable (h : WellFormed modules options) {m n : ModuleDefinition} (hm : m ∈ modules)
  (hn : n ∈ modules) (hrequires : Requires modules m.name n.name) {c : String}

include h hrequires

theorem WellFormed.name_ne_of_requires : m.name ≠ n.name := by
  intro hname
  rw [hname] at hrequires
  exact h.acyclic n.name hrequires

include hm hn

theorem WellFormed.not_generates_of_requires (hmother : options.umbrella? ≠ some m.name)
    (hnother : options.umbrella? ≠ some n.name)
    (hc : Generates modules options ModuleDefinition.nativeClasses m c) :
    ¬Generates modules options ModuleDefinition.nativeClasses n c := by
  rw [generates_iff_of_not_umbrella hm hmother] at hc
  rw [generates_iff_of_not_umbrella hn hnother]
  have hdisjoint := h.owners_unique m hm n hn (h.name_ne_of_requires hrequires) hmother hnother
  exact fun hcn => hdisjoint hc hcn

/-- What the umbrella shares with a module that it requires, it lists itself. -/
theorem WellFormed.listed_of_generates (humbrella : options.umbrella? = some m.name)
    (hc : Generates modules options ModuleDefinition.nativeClasses m c)
    (hcn : Generates modules options ModuleDefinition.nativeClasses n c) :
    c ∈ m.nativeClasses ∧ c ≠ options.foundationalClass := by
  have hnother : options.umbrella? ≠ some n.name := by
    intro hname
    exact h.name_ne_of_requires hrequires (Option.some.inj (humbrella.symm.trans hname))
  rw [generates_iff_of_not_umbrella hn hnother] at hcn
  constructor
  · rcases (generates_umbrella_iff hm humbrella).mp hc with hown | ⟨k, hk, hfree, hck⟩
    · exact hown
    · -- a module that was taken in owns nothing that another module owns
      by_cases hkn : k.name = n.name
      · rw [hkn] at hfree
        exact absurd hrequires hfree
      · by_cases hkm : k.name = m.name
        · obtain rfl := List.inj_on_of_nodup_map h.names_nodup hk hm hkm
          exact hck
        · have hkother : options.umbrella? ≠ some k.name := by
            intro hname
            exact hkm (Option.some.inj (hname.symm.trans humbrella))
          exact absurd hcn (h.owners_unique k hk n hn hkn hkother hnother hck)
  · rintro rfl
    exact h.root_provided_once m hm n hn hrequires hcn hc

omit hn in
/-- The umbrella generates everything that a module above it generates. -/
theorem WellFormed.generates_of_required_umbrella (humbrella : options.umbrella? = some n.name)
    (hc : Generates modules options ModuleDefinition.nativeClasses m c) :
    Generates modules options ModuleDefinition.nativeClasses n c := by
  have hmother : options.umbrella? ≠ some m.name := by
    intro hname
    exact h.name_ne_of_requires hrequires (Option.some.inj (hname.symm.trans humbrella))
  have hfree : ¬Requires modules n.name m.name := by
    intro hback
    exact h.acyclic m.name (hrequires.trans hback)
  rw [generates_iff_of_not_umbrella hm hmother] at hc
  exact ⟨m, hm, .inr ⟨humbrella, hfree⟩, hc⟩

end Required

/-! ## Main statement -/

/-- A module and a dependency of it generate different classes if neither is the umbrella.  What the
umbrella takes over from others, or the root class, is generated by no dependency of it.  A
dependency that is the umbrella has taken in the module. -/
theorem generated_by_dependency {plans : List ModulePlan}
    (h : partition modules options = .ok plans) {p d : ModulePlan} (hp : p ∈ plans)
    (hd : d ∈ plans) (hdependency : d.module ∈ p.dependencies) :
    (p.isUmbrella = false → d.isUmbrella = false →
      p.generatedClasses.Disjoint d.generatedClasses) ∧
    (p.isUmbrella = true → ∀ c ∈ p.generatedClasses, c ∈ d.generatedClasses →
      c ∈ ownedBy modules [p.module] ∧ c ≠ options.foundationalClass) ∧
    (d.isUmbrella = true → ∀ c ∈ p.generatedClasses, c ∈ d.generatedClasses) := by
  have hwell := wellFormed_of_partition h
  obtain ⟨m, hm, hpplan⟩ := exists_planOf h hp
  obtain ⟨n, hn, hdplan⟩ := exists_planOf h hd
  have hrequires : Requires modules m.name n.name := by
    rw [← planOf_module hdplan]
    exact (mem_dependencies_iff hwell.names_nodup hm hpplan).mp hdependency
  have hmem : ∀ c, c ∈ p.generatedClasses ↔
      Generates modules options ModuleDefinition.nativeClasses m c :=
    fun _ => mem_generatedClasses_iff hwell.names_nodup hm hpplan
  have hdmem : ∀ c, c ∈ d.generatedClasses ↔
      Generates modules options ModuleDefinition.nativeClasses n c :=
    fun _ => mem_generatedClasses_iff hwell.names_nodup hn hdplan
  refine ⟨fun hpother hdother c hc hcd => ?_, fun humbrella c hc hcd => ?_,
    fun humbrella c hc => ?_⟩
  · rw [← Bool.not_eq_true, isUmbrella_iff hpplan] at hpother
    rw [← Bool.not_eq_true, isUmbrella_iff hdplan] at hdother
    rw [hmem] at hc
    rw [hdmem] at hcd
    exact hwell.not_generates_of_requires hm hn hrequires hpother hdother hc hcd
  · rw [isUmbrella_iff hpplan] at humbrella
    rw [hmem] at hc
    rw [hdmem] at hcd
    rw [planOf_module hpplan, ownedBy_singleton hwell.names_nodup hm]
    exact hwell.listed_of_generates hm hn hrequires humbrella hc hcd
  · rw [isUmbrella_iff hdplan] at humbrella
    rw [hmem] at hc
    rw [hdmem]
    exact hwell.generates_of_required_umbrella hm hrequires humbrella hc

theorem generated_by_dependency_diamond :
    ∃ p ∈ Diamond.plans, ∃ d ∈ Diamond.plans, ∃ u ∈ Diamond.plans,
      p.module = "game" ∧ d.module = "audio" ∧ u.isUmbrella = true ∧
      d.module ∈ p.dependencies ∧ d.module ∈ u.dependencies ∧
      p.generatedClasses.Disjoint d.generatedClasses ∧
      u.generatedClasses = ["Editor", "Node", "Level"] ∧ "Node" ∉ d.generatedClasses := by
  let p := Diamond.plans[3]
  let d := Diamond.plans[2]
  let u := Diamond.plans[4]
  have hp : p ∈ Diamond.plans := by decide
  have hd : d ∈ Diamond.plans := by decide
  have hu : u ∈ Diamond.plans := by decide
  have hbelow : d.module ∈ p.dependencies := by decide
  have hubelow : d.module ∈ u.dependencies := by decide
  refine ⟨p, hp, d, hd, u, hu, rfl, rfl, rfl, hbelow, hubelow, ?_, rfl, fun hshared => ?_⟩
  · exact (generated_by_dependency Diamond.partition_eq hp hd hbelow).1 rfl rfl
  · -- a class that was taken over is not among those the umbrella lists
    have hown := ((generated_by_dependency Diamond.partition_eq hu hd hubelow).2.1 rfl "Node"
      (by decide) hshared).1
    exact absurd hown (by decide)

namespace AroundUmbrella

/-- The umbrella lists a class of the module below it, and there is a module above it. -/
def definitions : List ModuleDefinition :=
  [⟨"runtime", ["Object", "Node"], [], "", []⟩,
    ⟨"godot", ["Node", "Editor"], [], "", ["runtime"]⟩, ⟨"game", ["Level"], [], "", ["godot"]⟩]

def settings : PartitionOptions :=
  ⟨some "godot", "Object", .perType⟩

def plans : List ModulePlan :=
  [⟨"runtime", ["Object", "Node"], ["Object", "Node"], [], "", [], false, .perType⟩,
    ⟨"godot", ["Node", "Editor", "Level"], ["Node", "Editor", "Level", "Object"], [], "",
      ["runtime"], true, .perType⟩,
    ⟨"game", ["Level"], ["Level", "Node", "Editor", "Object"], [], "", ["godot", "runtime"], false,
      .perType⟩]

theorem partition_eq : partition definitions settings = .ok plans := by
  decide +kernel

end AroundUmbrella

/-- The umbrella may share classes with what is above it and with what is below it. -/
theorem not_disjoint_around_umbrella :
    (¬∀ (modules : List ModuleDefinition) (options : PartitionOptions) (plans : List ModulePlan),
      partition modules options = .ok plans → ∀ p ∈ plans, ∀ d ∈ plans,
        d.module ∈ p.dependencies → p.generatedClasses.Disjoint d.generatedClasses) ∧
    (∃ p ∈ AroundUmbrella.plans, ∃ d ∈ AroundUmbrella.plans, d.module ∈ p.dependencies ∧
      d.isUmbrella = true ∧ "Level" ∈ p.generatedClasses ∧ "Level" ∈ d.generatedClasses) ∧
    ∃ p ∈ AroundUmbrella.plans, ∃ d ∈ AroundUmbrella.plans, d.module ∈ p.dependencies ∧
      p.isUmbrella = true ∧ "Node" ∈ p.generatedClasses ∧ "Node" ∈ d.generatedClasses := by
  have hgame : AroundUmbrella.plans[2] ∈ AroundUmbrella.plans := by decide
  have hgodot : AroundUmbrella.plans[1] ∈ AroundUmbrella.plans := by decide
  have hruntime : AroundUmbrella.plans[0] ∈ AroundUmbrella.plans := by decide
  refine ⟨fun h => ?_, ⟨_, hgame, _, hgodot, ?_⟩, ⟨_, hgodot, _, hruntime, ?_⟩⟩
  · have hdisjoint := h _ _ _ AroundUmbrella.partition_eq _ hgame _ hgodot (by decide)
    exact hdisjoint (a := "Level") (by decide) (by decide)
  · decide
  · decide

end EngineBindings.Partition
