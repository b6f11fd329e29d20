import EngineBindings.Proofs.Chain
import EngineBindings.Proofs.Module.Partition

/-!
# Dependencies of modules

`Walk modules names visits`: following `names` in order, each with everything below it, visits
`visits`.  A walk goes down every dependency anew, so it is there exactly when dependencies are
declared and never come back to where they were (`Walk.acc`, `exists_walk`).

The walk of a partition goes down no module twice.  It is the same but for the repeats
(`transitiveDependencies_eq_ok_iff`): a module that was visited before and is not on the way from
the root is done (`Settled`), so all below it was visited too.  The bound on its steps is never
met, since a way through different modules is no longer than their number
(`visit_add`).
-/

namespace EngineBindings.Partition

open Relation

variable {modules : List ModuleDefinition}

/-- Whether a module lists a name among its dependencies. -/
def DependsOn (modules : List ModuleDefinition) (name dependency : String) : Prop :=
  ∃ m ∈ modules, m.name = name ∧ dependency ∈ m.dependencies

/-- Whether a module depends on a name, directly or through others. -/
def Requires (modules : List ModuleDefinition) : String → String → Prop :=
  TransGen (DependsOn modules)

/-- The walk that follows names in order and goes down the dependencies of each before the next
one. -/
inductive Walk (modules : List ModuleDefinition) : List String → List String → Prop
  | nil : Walk modules [] []
  | cons {m : ModuleDefinition} {names below after : List String} (declared : m ∈ modules)
      (down : Walk modules m.dependencies below) (next : Walk modules names after) :
      Walk modules (m.name :: names) (m.name :: (below ++ after))

/-! ## Walks -/

namespace Walk

variable {names visits : List String}

theorem names_subset (h : Walk modules names visits) {name : String} (hname : name ∈ names) :
    name ∈ visits := by
  induction h with
  | nil => cases hname
  | cons declared down next _ ih =>
    rcases List.mem_cons.mp hname with rfl | hname
    · exact List.mem_cons_self
    · exact List.mem_cons_of_mem _ (List.mem_append_right _ (ih hname))

/-- What is visited is a module, and everything below it is visited, too. -/
theorem exists_below (h : Walk modules names visits) {name : String} (hname : name ∈ visits) :
    ∃ m ∈ modules, m.name = name ∧
      ∃ below, Walk modules m.dependencies below ∧ ∀ x ∈ below, x ∈ visits := by
  induction h with
  | nil => cases hname
  | @cons m names below after declared down next ihdown ihnext =>
    rcases List.mem_cons.mp hname with rfl | hname
    · refine ⟨m, declared, rfl, below, down, fun x hx => ?_⟩
      exact List.mem_cons_of_mem _ (List.mem_append_left _ hx)
    · rcases List.mem_append.mp hname with hbelow | hafter
      · obtain ⟨d, hd, hdname, deeper, hwalk, hsub⟩ := ihdown hbelow
        exact ⟨d, hd, hdname, deeper, hwalk,
          fun x hx => List.mem_cons_of_mem _ (List.mem_append_left _ (hsub x hx))⟩
      · obtain ⟨d, hd, hdname, deeper, hwalk, hsub⟩ := ihnext hafter
        exact ⟨d, hd, hdname, deeper, hwalk,
          fun x hx => List.mem_cons_of_mem _ (List.mem_append_right _ (hsub x hx))⟩

section Distinct

variable (hnodup : (modules.map ModuleDefinition.name).Nodup)

include hnodup

theorem dependsOn_iff {m : ModuleDefinition} (hm : m ∈ modules) {dependency : String} :
    DependsOn modules m.name dependency ↔ dependency ∈ m.dependencies := by
  constructor
  · rintro ⟨n, hn, hname, hdependency⟩
    rw [← List.inj_on_of_nodup_map hnodup hn hm hname]
    exact hdependency
  · exact fun hdependency => ⟨m, hm, rfl, hdependency⟩

/-- No walk comes back to where it was. -/
theorem acc (h : Walk modules names visits) {name : String} (hname : name ∈ visits) :
    Acc (fun b a => DependsOn modules a b) name := by
  induction h generalizing name with
  | nil => cases hname
  | @cons m names below after declared down next ihdown ihnext =>
    rcases List.mem_cons.mp hname with rfl | hname
    · refine ⟨_, fun dependency hdependency => ihdown ?_⟩
      exact down.names_subset ((dependsOn_iff hnodup declared).mp hdependency)
    · exact (List.mem_append.mp hname).elim ihdown ihnext

/-- A walk visits what its names lead to. -/
theorem mem_iff (h : Walk modules names visits) {x : String} :
    x ∈ visits ↔ ∃ name ∈ names, ReflTransGen (DependsOn modules) name x := by
  constructor
  · intro hx
    induction h with
    | nil => cases hx
    | @cons m names below after declared down next ihdown ihnext =>
      rcases List.mem_cons.mp hx with rfl | hx
      · exact ⟨m.name, List.mem_cons_self, .refl⟩
      · rcases List.mem_append.mp hx with hbelow | hafter
        · obtain ⟨d, hd, hreach⟩ := ihdown hbelow
          exact ⟨m.name, List.mem_cons_self,
            hreach.head ((dependsOn_iff hnodup declared).mpr hd)⟩
        · obtain ⟨name, hname, hreach⟩ := ihnext hafter
          exact ⟨name, List.mem_cons_of_mem _ hname, hreach⟩
  · rintro ⟨name, hname, hreach⟩
    induction hreach with
    | refl => exact h.names_subset hname
    | @tail b c _ hstep ih =>
      obtain ⟨m, hm, rfl, below, hdown, hsub⟩ := h.exists_below ih
      exact hsub c (hdown.names_subset ((dependsOn_iff hnodup hm).mp hstep))

/-- What the dependencies of a module lead to is what the module requires. -/
theorem mem_iff_requires {m : ModuleDefinition} (hm : m ∈ modules)
    (h : Walk modules m.dependencies visits) {x : String} :
    x ∈ visits ↔ Requires modules m.name x := by
  rw [h.mem_iff hnodup, Requires, TransGen.head'_iff]
  simp only [dependsOn_iff hnodup hm]

theorem notMem_of_dependencies {m : ModuleDefinition} (hm : m ∈ modules)
    (h : Walk modules m.dependencies visits) : m.name ∉ visits := by
  intro hmem
  have hback : Requires modules m.name m.name := (h.mem_iff_requires hnodup hm).mp hmem
  exact not_runsIntoLoop_of_acc (h.acc hnodup hmem) ⟨m.name, .refl, hback⟩

/-- The same names have only one walk. -/
theorem unique {visits' : List String} (h : Walk modules names visits)
    (h' : Walk modules names visits') : visits = visits' := by
  induction h generalizing visits' with
  | nil =>
    cases h'
    rfl
  | @cons m names below after declared down next ihdown ihnext =>
    generalize hnames : m.name :: names = all at h'
    cases h' with
    | nil => cases hnames
    | @cons n names' below' after' declared' down' next' =>
      obtain ⟨hname, rfl⟩ := List.cons.inj hnames
      obtain rfl := List.inj_on_of_nodup_map hnodup declared declared' hname
      rw [ihdown down', ihnext next']

end Distinct

end Walk

/-! ### Existence -/

/-- Whether every dependency is a module. -/
def DependenciesDeclared (modules : List ModuleDefinition) : Prop :=
  ∀ m ∈ modules, ∀ name ∈ m.dependencies, ∃ d ∈ modules, d.name = name

theorem exists_walk_of_forall {names : List String}
    (h : ∀ name ∈ names, ∃ m ∈ modules, m.name = name ∧
      ∃ below, Walk modules m.dependencies below) :
    ∃ visits, Walk modules names visits := by
  induction names with
  | nil => exact ⟨[], .nil⟩
  | cons name names ih =>
    obtain ⟨m, hm, rfl, below, hdown⟩ := h name List.mem_cons_self
    obtain ⟨after, hnext⟩ := ih fun x hx => h x (List.mem_cons_of_mem _ hx)
    exact ⟨_, .cons hm hdown hnext⟩

/-- Names that never lead back to themselves can be followed to the end: there are only so many
modules. -/
theorem acc_of_acyclic (hacyclic : ∀ name, ¬Requires modules name name) (name : String) :
    Acc (fun b a => DependsOn modules a b) name := by
  classical
  by_contra hbad
  -- a name that cannot be followed to the end depends on another one, and all of them are modules
  have hnext : ∀ a, ¬Acc (fun b a => DependsOn modules a b) a →
      ∃ b, ¬Acc (fun b a => DependsOn modules a b) b ∧ DependsOn modules a b :=
    fun a ha => exists_not_acc_lt_of_not_acc ha
  let endless := (modules.map ModuleDefinition.name).filter fun a =>
    decide (¬Acc (fun b a => DependsOn modules a b) a)
  have hmem : ∀ a, ¬Acc (fun b a => DependsOn modules a b) a → a ∈ endless := by
    intro a ha
    obtain ⟨b, -, m, hm, rfl, -⟩ := hnext a ha
    exact List.mem_filter.mpr ⟨List.mem_map_of_mem hm, decide_eq_true ha⟩
  have hloop : RunsIntoLoop (DependsOn modules) name := by
    have hsuccessor : ∀ a ∈ endless, ∃ b ∈ endless, DependsOn modules a b := by
      intro a ha
      obtain ⟨b, hb, hstep⟩ := hnext a (of_decide_eq_true (List.mem_filter.mp ha).2)
      exact ⟨b, hmem b hb, hstep⟩
    exact runsIntoLoop_of_forall_exists hsuccessor (hmem name hbad)
  obtain ⟨b, -, hb⟩ := hloop
  exact hacyclic b hb

/-- Without a cycle, the dependencies of every module can be walked. -/
theorem exists_walk (hdeclared : DependenciesDeclared modules)
    (hacyclic : ∀ name, ¬Requires modules name name) {m : ModuleDefinition} (hm : m ∈ modules) :
    ∃ visits, Walk modules m.dependencies visits := by
  obtain ⟨name, hname⟩ : ∃ name, m.name = name := ⟨_, rfl⟩
  induction acc_of_acyclic hacyclic name generalizing m with
  | intro name _ ih =>
    refine exists_walk_of_forall fun dependency hdependency => ?_
    obtain ⟨d, hd, hdname⟩ := hdeclared m hm dependency hdependency
    exact ⟨d, hd, hdname, ih dependency ⟨m, hm, hname, hdependency⟩ hd hdname⟩

/-! ## Visits -/

/-- What one dependency adds to the modules visited on a walk. -/
def visitDependency (modules : List ModuleDefinition) (steps : Nat) (path : List String)
    (owner : String) (visited : List String) (dependency : String) :
    Except PartitionError (List String) :=
  if path.contains dependency then .error (.dependencyCycle dependency)
  else
    match module? modules dependency with
    | none => .error (.unknownDependency owner dependency)
    | some definition =>
      if visited.contains dependency then .ok visited
      else visit modules steps path definition (visited ++ [dependency])

theorem visit_succ (steps : Nat) (path : List String) (m : ModuleDefinition)
    (visited : List String) :
    visit modules (steps + 1) path m visited =
      m.dependencies.foldlM (visitDependency modules steps (m.name :: path) m.name) visited :=
  rfl

theorem visitDependency_eq_ok_iff {steps : Nat} {path visited out : List String}
    {owner dependency : String} :
    visitDependency modules steps path owner visited dependency = .ok out ↔
      dependency ∉ path ∧ ∃ d, module? modules dependency = some d ∧
        (dependency ∈ visited ∧ out = visited ∨
          dependency ∉ visited ∧
            visit modules steps path d (visited ++ [dependency]) = .ok out) := by
  unfold visitDependency
  by_cases hpath : dependency ∈ path
  · simp [hpath]
  · cases module? modules dependency with
    | none => simp [hpath]
    | some d =>
      by_cases hvisited : dependency ∈ visited
      · simp [hpath, hvisited, eq_comm]
      · simp [hpath, hvisited]

/-! ### The bound on the steps -/

/-- Whether a way goes through different modules only. -/
structure IsWay (modules : List ModuleDefinition) (way : List String) : Prop where
  nodup : way.Nodup
  declared : ∀ name ∈ way, name ∈ modules.map ModuleDefinition.name

namespace IsWay

theorem length_le {way : List String} (h : IsWay modules way) : way.length ≤ modules.length := by
  have hle := (h.nodup.subperm h.declared).length_le
  rwa [List.length_map] at hle

theorem singleton {m : ModuleDefinition} (hm : m ∈ modules) : IsWay modules [m.name] :=
  ⟨List.nodup_singleton _, fun _ h => List.mem_singleton.mp h ▸ List.mem_map_of_mem hm⟩

theorem cons {way : List String} (h : IsWay modules way) {m : ModuleDefinition} (hm : m ∈ modules)
    (hnew : m.name ∉ way) : IsWay modules (m.name :: way) := by
  refine ⟨List.nodup_cons.mpr ⟨hnew, h.nodup⟩, fun name hname => ?_⟩
  rcases List.mem_cons.mp hname with rfl | hname
  · exact List.mem_map_of_mem hm
  · exact h.declared name hname

end IsWay

/-- More steps than there are modules left make no difference. -/
theorem visit_add {steps : Nat} {path : List String} {m : ModuleDefinition}
    (hway : IsWay modules (m.name :: path)) (hsteps : modules.length ≤ steps + path.length)
    (more : Nat) (visited : List String) :
    visit modules (steps + more) path m visited = visit modules steps path m visited := by
  induction steps generalizing path m visited with
  | zero =>
    -- the way would be longer than there are modules
    have hle := hway.length_le
    rw [List.length_cons] at hle
    omega
  | succ steps ih =>
    rw [Nat.succ_add, visit_succ, visit_succ]
    congr 1
    funext visited dependency
    unfold visitDependency
    by_cases hpath : dependency ∈ m.name :: path
    · simp only [List.contains_iff_mem.mpr hpath, if_true]
    · cases hfound : module? modules dependency with
      | none => rfl
      | some d =>
        obtain ⟨hd, rfl⟩ := module?_name hfound
        have hlonger : modules.length ≤ steps + (m.name :: path).length := by
          rw [List.length_cons]
          omega
        simp only [ih (hway.cons hd hpath) hlonger]

/-! ### From a visit to a walk -/

/-- Whether all below a visited module was visited, unless the module is still on the way. -/
def Settled (modules : List ModuleDefinition) (way visited : List String) : Prop :=
  ∀ name ∈ visited, name ∉ way →
    ∃ m ∈ modules, m.name = name ∧
      ∃ below, Walk modules m.dependencies below ∧ ∀ x ∈ below, x ∈ visited

theorem Settled.push {way visited : List String} (h : Settled modules way visited)
    (name : String) : Settled modules (name :: way) (visited ++ [name]) := by
  intro x hx hway
  obtain ⟨hne, hway⟩ := not_or.mp (List.mem_cons.not.mp hway)
  have hx : x ∈ visited :=
    (List.mem_append.mp hx).resolve_right fun h => hne (List.mem_singleton.mp h)
  obtain ⟨m, hm, hname, below, hwalk, hsub⟩ := h x hx hway
  exact ⟨m, hm, hname, below, hwalk, fun y hy => List.mem_append_left _ (hsub y hy)⟩

/-- When a module and all below it was visited, it is settled. -/
theorem Settled.extend {way visited below : List String} (h : Settled modules way visited)
    {m : ModuleDefinition} (hm : m ∈ modules) (hwalk : Walk modules m.dependencies below) :
    Settled modules way ((m.name :: below).foldl keep visited) := by
  intro x hx hway
  rcases mem_foldl_keep.mp hx with hold | hnew
  · obtain ⟨d, hd, hname, deeper, hdeeper, hsub⟩ := h x hold hway
    exact ⟨d, hd, hname, deeper, hdeeper, fun y hy => mem_foldl_keep.mpr (.inl (hsub y hy))⟩
  · rcases List.mem_cons.mp hnew with rfl | hbelow
    · refine ⟨m, hm, rfl, below, hwalk, fun y hy => mem_foldl_keep.mpr (.inr ?_)⟩
      exact List.mem_cons_of_mem _ hy
    · obtain ⟨d, hd, hname, deeper, hdeeper, hsub⟩ := hwalk.exists_below hbelow
      refine ⟨d, hd, hname, deeper, hdeeper, fun y hy => mem_foldl_keep.mpr (.inr ?_)⟩
      exact List.mem_cons_of_mem _ (hsub y hy)

/-- Where a visit ends well, it has followed a walk, and kept what it had not visited yet. -/
theorem exists_walk_of_visit {steps : Nat} {path visited out : List String} {m : ModuleDefinition}
    (h : visit modules steps path m visited = .ok out)
    (hsettled : Settled modules (m.name :: path) visited) :
    ∃ below, Walk modules m.dependencies below ∧ out = below.foldl keep visited := by
  -- on the steps for what is below a dependency, on the names for the dependencies after it
  induction steps generalizing path m visited out with
  | zero => cases h
  | succ steps ih =>
    rw [visit_succ] at h
    generalize m.dependencies = names at h ⊢
    induction names generalizing visited with
    | nil =>
      obtain rfl := Except.ok.inj h
      exact ⟨[], .nil, rfl⟩
    | cons name names ihnames =>
      rw [List.foldlM_cons, bind_eq_ok_iff] at h
      obtain ⟨next, hname, hnames⟩ := h
      obtain ⟨hpath, d, hfound, hcases⟩ := visitDependency_eq_ok_iff.mp hname
      obtain ⟨d, hd, rfl, below, hwalk, rfl⟩ : ∃ d ∈ modules, d.name = name ∧ ∃ below,
          Walk modules d.dependencies below ∧ next = (name :: below).foldl keep visited := by
        rcases hcases with ⟨hvisited, rfl⟩ | ⟨hnew, hvisit⟩
        · -- not on the way, so all below it was visited before
          obtain ⟨d, hd, hname, below, hwalk, hsub⟩ := hsettled name hvisited hpath
          refine ⟨d, hd, hname, below, hwalk, (foldl_keep_of_subset ?_).symm⟩
          exact List.forall_mem_cons.mpr ⟨hvisited, hsub⟩
        · obtain ⟨hd, rfl⟩ := module?_name hfound
          obtain ⟨below, hwalk, rfl⟩ := ih hvisit (hsettled.push d.name)
          exact ⟨d, hd, rfl, below, hwalk, by rw [List.foldl_cons, keep_of_notMem hnew]⟩
      obtain ⟨after, hafter, rfl⟩ := ihnames (hsettled.extend hd hwalk) hnames
      refine ⟨_, .cons hd hwalk hafter, ?_⟩
      rw [← List.cons_append, List.foldl_append]

/-! ### From a walk to a visit -/

/-- Where there is a walk that does not come back to the way so far, a visit ends well. -/
theorem exists_visit_of_walk (hnodup : (modules.map ModuleDefinition.name).Nodup) {steps : Nat}
    {path : List String} {m : ModuleDefinition} {below : List String}
    (hwalk : Walk modules m.dependencies below) (hway : IsWay modules (m.name :: path))
    (hsteps : modules.length ≤ steps + path.length)
    (hfresh : ∀ x ∈ below, x ∉ m.name :: path) (visited : List String) :
    ∃ out, visit modules steps path m visited = .ok out := by
  induction steps generalizing path m below visited with
  | zero =>
    have hle := hway.length_le
    rw [List.length_cons] at hle
    omega
  | succ steps ih =>
    rw [visit_succ]
    generalize m.dependencies = names at hwalk
    induction hwalk generalizing visited with
    | nil => exact ⟨visited, rfl⟩
    | @cons d names deeper after hd hdown hnext _ ihnext =>
      have hpath : d.name ∉ m.name :: path := hfresh d.name List.mem_cons_self
      have hfound : module? modules d.name = some d :=
        (module?_eq_some_iff hnodup).mpr ⟨hd, rfl⟩
      have hstep : ∃ next,
          visitDependency modules steps (m.name :: path) m.name visited d.name = .ok next := by
        -- a module that was visited needs no steps, another one makes the way longer
        by_cases hvisited : d.name ∈ visited
        · exact ⟨visited, visitDependency_eq_ok_iff.mpr ⟨hpath, d, hfound, .inl ⟨hvisited, rfl⟩⟩⟩
        · have hlonger : modules.length ≤ steps + (m.name :: path).length := by
            rw [List.length_cons]
            omega
          have hdeeper : ∀ x ∈ deeper, x ∉ d.name :: m.name :: path := by
            intro x hx hmem
            rcases List.mem_cons.mp hmem with rfl | hmem
            · exact hdown.notMem_of_dependencies hnodup hd hx
            · exact hfresh x (List.mem_cons_of_mem _ (List.mem_append_left _ hx)) hmem
          obtain ⟨next, hnext⟩ := ih hdown (hway.cons hd hpath) hlonger hdeeper
            (visited ++ [d.name])
          exact ⟨next, visitDependency_eq_ok_iff.mpr
            ⟨hpath, d, hfound, .inr ⟨hvisited, hnext⟩⟩⟩
      obtain ⟨next, hstep⟩ := hstep
      obtain ⟨out, hout⟩ := ihnext
        (fun x hx => hfresh x (List.mem_cons_of_mem _ (List.mem_append_right _ hx))) next
      exact ⟨out, by rw [List.foldlM_cons, bind_eq_ok_iff]; exact ⟨next, hstep, hout⟩⟩

/-- A module's transitive dependencies are what the walk of its dependencies visits, each once. -/
theorem transitiveDependencies_eq_ok_iff (hnodup : (modules.map ModuleDefinition.name).Nodup)
    {m : ModuleDefinition} (hm : m ∈ modules) {dependencies : List String} :
    transitiveDependencies modules m = .ok dependencies ↔
      ∃ visits, Walk modules m.dependencies visits ∧ dependencies = firstOccurrences visits := by
  constructor
  · exact fun h => exists_walk_of_visit h fun _ hx => (nomatch hx)
  · rintro ⟨visits, hwalk, rfl⟩
    have hfresh : ∀ x ∈ visits, x ∉ [m.name] := fun x hx hmem =>
      hwalk.notMem_of_dependencies hnodup hm (List.mem_singleton.mp hmem ▸ hx)
    obtain ⟨out, hout⟩ := exists_visit_of_walk hnodup hwalk (.singleton hm)
      (Nat.le_succ modules.length) hfresh []
    obtain ⟨visits', hwalk', rfl⟩ := exists_walk_of_visit hout fun _ hx => (nomatch hx)
    rw [hwalk.unique hnodup hwalk']
    exact hout

end EngineBindings.Partition
