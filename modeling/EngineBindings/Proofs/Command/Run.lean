import EngineBindings.Command.Run
import EngineBindings.Proofs.Bindings.Files
import EngineBindings.Proofs.File.Writes

/-!
# What commands write

The name lists of plans (`writeLists_eq_ok_iff`) and the files of modules
(`exists_generateModules_iff`) are files that are written below a directory one after another.  A
build writes both (`run_build_eq_ok`); each step by itself succeeds when what it reads is there and
what it writes can be written (`run_plan_eq_ok`, `run_generate_eq_ok`).
-/

namespace EngineBindings

open FilePath FileTree Naming

variable {t t' : FileTree}

/-! ## Name lists -/

namespace ModuleLists

theorem writeFiles_cons (t : FileTree) (changed : Nat) (path contents : String)
    (rest : List (String × String)) :
    writeFiles t changed ((path, contents) :: rest) =
      match t.writeIfChanged path contents with
      | (t, .error e) => (t, .error e)
      | (t, .ok written) => writeFiles t (if written then changed + 1 else changed) rest :=
  rfl

theorem exists_writeFiles_iff {files : List (String × String)} (changed : Nat) :
    (∃ n, writeFiles t changed files = (t', .ok n)) ↔ Writes "" t (atPaths files) t' := by
  induction files generalizing t changed with
  | nil =>
    constructor
    · rintro ⟨n, h⟩
      obtain ⟨rfl, -⟩ := Prod.mk.inj h
      exact .nil t
    · rintro ⟨⟩
      exact ⟨changed, rfl⟩
  | cons file rest ih =>
    obtain ⟨path, contents⟩ := file
    rw [atPaths, List.map_cons, writeFiles_cons]
    constructor
    · rintro ⟨n, h⟩
      split at h
      · cases h
      · next hwrite => exact .cons hwrite ((ih _).mp ⟨n, h⟩)
    · rintro ⟨⟩
      next hwrite hrest =>
      rw [below_empty_singleton] at hwrite
      rw [hwrite]
      exact (ih _).mpr hrest

/-- Files that are there already are left as they are. -/
theorem writeFiles_of_read {files : List (String × String)} (changed : Nat)
    (h : ∀ file ∈ files, t.read file.1 = .ok file.2) :
    writeFiles t changed files = (t, .ok changed) := by
  induction files generalizing changed with
  | nil => rfl
  | cons file rest ih =>
    obtain ⟨path, contents⟩ := file
    obtain ⟨hfile, hrest⟩ := List.forall_mem_cons.mp h
    rw [writeFiles_cons, writeIfChanged_of_read hfile]
    exact ih changed hrest

end ModuleLists

namespace Command

/-- The name of the directory of all lists. -/
def listsName : String :=
  "filters"

theorem isFileName_listsName : IsFileName listsName := by
  decide

theorem below_listsPath (workDirectory : String) {names : List String} (h : LeadsDown names) :
    below (WorkDirectory.listsPath workDirectory) names =
      below workDirectory (listsName :: names) := by
  have hbelow := join_below workDirectory (leadsDown_singleton isFileName_listsName) h
  rwa [below_singleton] at hbelow

/-- The name lists of plans by the names that lead to them from a work directory. -/
def listPlacements (plans : List ModulePlan) : List Placement :=
  inside listsName (ModuleLists.allPlacements plans)

theorem placed_placements {p : ModulePlan} (h : IsIdentifier p.module) :
    Placed (ModuleLists.placements p) := by
  rintro ⟨names, text⟩ hfile
  obtain ⟨ending, hending, rfl, -⟩ := ModuleLists.exists_ending hfile
  exact ModuleLists.leadsDown_ending h hending

theorem placed_listPlacements {plans : List ModulePlan}
    (hmodules : ∀ p ∈ plans, IsIdentifier p.module) : Placed (listPlacements plans) := by
  refine placed_inside isFileName_listsName fun file hfile => ?_
  obtain ⟨p, hp, hfile⟩ := List.mem_flatMap.mp hfile
  exact placed_placements (hmodules p hp) file hfile

theorem mem_listPlacements {plans : List ModulePlan} {p : ModulePlan} (hp : p ∈ plans) :
    ([listsName, p.module ++ "-classes.txt"], NameList.render p.generatedClasses) ∈
      listPlacements plans := by
  have hfile : ([p.module ++ "-classes.txt"], NameList.render p.generatedClasses) ∈
      ModuleLists.placements p :=
    List.mem_map.mpr ⟨_, List.mem_cons_self, rfl⟩
  exact List.mem_map.mpr ⟨_, List.mem_flatMap.mpr ⟨p, hp, hfile⟩, rfl⟩

theorem writeLists_cons (directory : String) (t : FileTree) (p : ModulePlan)
    (rest : List ModulePlan) :
    writeLists directory t (p :: rest) =
      match ModuleLists.write t directory p with
      | (t, .error e) => (t, .error (.moduleLists p.module e))
      | (t, .ok _) => writeLists directory t rest := by
  delta writeLists
  rfl

theorem writeLists_eq_ok_iff_atPaths {directory : String} {plans : List ModulePlan} :
    writeLists directory t plans = (t', .ok ()) ↔
      Writes "" t (atPaths (plans.flatMap (ModuleLists.filesOf directory))) t' := by
  induction plans generalizing t with
  | nil =>
    constructor
    · intro h
      obtain ⟨rfl, -⟩ := Prod.mk.inj h
      exact .nil t
    · rintro ⟨⟩
      rfl
  | cons p rest ih =>
    rw [List.flatMap_cons, atPaths, List.map_append, writeLists_cons]
    constructor
    · intro h
      split at h
      · cases h
      · next hwrite =>
        exact ((ModuleLists.exists_writeFiles_iff 0).mp ⟨_, hwrite⟩).append (ih.mp h)
    · intro h
      obtain ⟨t₁, hfirst, hlater⟩ := h.of_append
      obtain ⟨n, hwrite⟩ := (ModuleLists.exists_writeFiles_iff 0).mpr hfirst
      rw [ModuleLists.write, hwrite]
      exact ih.mpr hlater

/-- The lists of modules that are named by identifiers are in the directory of all lists. -/
theorem filesOf_eq_listPlacements {workDirectory : String} {plans : List ModulePlan}
    (hmodules : ∀ p ∈ plans, IsIdentifier p.module) :
    plans.flatMap (ModuleLists.filesOf (WorkDirectory.listsPath workDirectory)) =
      (listPlacements plans).map fun file => (below workDirectory file.1, file.2) := by
  rw [listPlacements, inside, ModuleLists.allPlacements, List.map_flatMap, List.map_flatMap]
  refine List.flatMap_congr fun p hp => ?_
  rw [ModuleLists.filesOf_eq, List.map_map]
  refine List.map_congr_left fun file hfile => ?_
  rw [Function.comp_apply,
    below_listsPath workDirectory (placed_placements (hmodules p hp) file hfile)]

theorem writeLists_eq_ok_iff {workDirectory : String} {plans : List ModulePlan}
    (hmodules : ∀ p ∈ plans, IsIdentifier p.module) :
    writeLists (WorkDirectory.listsPath workDirectory) t plans = (t', .ok ()) ↔
      Writes workDirectory t (listPlacements plans) t' := by
  rw [writeLists_eq_ok_iff_atPaths, filesOf_eq_listPlacements hmodules, Writes.atPaths_iff]

end Command

/-! ## Generated files -/

namespace Command

/-- What is generated for a plan, by the names that lead to it from the directory of all modules. -/
def modulePlacements (c : GenerationContext) (p : ModulePlan) : List Placement :=
  ((p.assemble c.schema c.levels c.settings.foundationalClass).toOption.getD []).map
    GeneratedFile.placement

/-- Whether everything can be generated for a plan. -/
def CanGenerate (c : GenerationContext) (p : ModulePlan) : Prop :=
  ∃ files, p.assemble c.schema c.levels c.settings.foundationalClass = .ok files

variable {c : GenerationContext} {p : ModulePlan}

theorem exists_generateModule_iff :
    (∃ r, generateModule c t p = (t', .ok r)) ↔
      CanGenerate c p ∧ Writes c.directory t (modulePlacements c p) t' := by
  unfold generateModule CanGenerate modulePlacements
  cases p.assemble c.schema c.levels c.settings.foundationalClass with
  | error e => simp
  | ok files =>
    simp only [Except.ok.injEq, exists_eq', true_and, Except.toOption, Option.getD_some]
    rw [← exists_writeGenerated_iff ⟨0, 0⟩]
    constructor
    · rintro ⟨r, h⟩
      split at h
      · cases h
      · next hwrite =>
        obtain ⟨rfl, -⟩ := Prod.mk.inj h
        exact ⟨_, hwrite⟩
    · rintro ⟨r, h⟩
      exact ⟨r, by rw [h]⟩

/-- What is generated does not show which modules a module depends on, nor whether it is the
umbrella. -/
theorem generateModule_with (dependencies : List String) (isUmbrella : Bool) :
    generateModule c t { p with dependencies, isUmbrella } = generateModule c t p := by
  rw [generateModule, generateModule, ModulePlan.assemble_with]

theorem generateModules_cons (c : GenerationContext) (t : FileTree) (report : WriteReport)
    (p : ModulePlan) (rest : List ModulePlan) :
    generateModules c t report (p :: rest) =
      match generateModule c t p with
      | (t, .error e) => (t, .error e)
      | (t, .ok written) => generateModules c t (report.merge written) rest :=
  rfl

theorem exists_generateModules_iff {plans : List ModulePlan} {report : WriteReport} :
    (∃ r, generateModules c t report plans = (t', .ok r)) ↔
      (∀ p ∈ plans, CanGenerate c p) ∧
        Writes c.directory t (plans.flatMap (modulePlacements c)) t' := by
  induction plans generalizing t report with
  | nil =>
    constructor
    · rintro ⟨r, h⟩
      obtain ⟨rfl, -⟩ := Prod.mk.inj h
      exact ⟨fun p hp => (nomatch hp), .nil t⟩
    · rintro ⟨-, ⟨⟩⟩
      exact ⟨report, rfl⟩
  | cons p rest ih =>
    rw [List.forall_mem_cons, List.flatMap_cons, generateModules_cons]
    constructor
    · rintro ⟨r, h⟩
      split at h
      · cases h
      · next hfirst =>
        obtain ⟨hcan, hwrites⟩ := exists_generateModule_iff.mp ⟨_, hfirst⟩
        obtain ⟨hcans, hlater⟩ := ih.mp ⟨r, h⟩
        exact ⟨⟨hcan, hcans⟩, hwrites.append hlater⟩
    · rintro ⟨⟨hcan, hcans⟩, hwrites⟩
      obtain ⟨t₁, hfirst, hlater⟩ := hwrites.of_append
      obtain ⟨written, hmodule⟩ := exists_generateModule_iff.mpr ⟨hcan, hfirst⟩
      rw [hmodule]
      exact ih.mpr ⟨hcans, hlater⟩

theorem modulePlacements_spec (hcan : CanGenerate c p) (hmodule : IsIdentifier p.module) :
    Placed (modulePlacements c p) ∧ View.Under p.module (modulePlacements c p) := by
  obtain ⟨files, hfiles⟩ := hcan
  have hname := isFileName_of_isIdentifier hmodule
  have hspec : ∀ file ∈ modulePlacements c p, LeadsDown file.1 ∧ file.1.head? = some p.module := by
    intro file hfile
    rw [modulePlacements, hfiles] at hfile
    obtain ⟨f, hf, rfl⟩ := List.mem_map.mp hfile
    exact (ModulePlan.inModule_of_assemble hname hfiles f hf).placement hname
  exact ⟨fun file hfile => (hspec file hfile).1, fun file hfile => (hspec file hfile).2⟩

/-! ## The runs of commands -/

section Runs

variable {configurationPath api workDirectory : String} {configuration : Configuration}
  {plans : List ModulePlan}

/-- What is read of a text does not depend on where the text is. -/
theorem load_eq_ok {α ε : Type} {path path' : String} {read : String → Except ε α} {a : α}
    (hread : ∀ text, t.read path = .ok text → t'.read path' = .ok text)
    (h : load t path read = .ok a) : load t' path' read = .ok a := by
  unfold load at h ⊢
  split at h
  · cases h
  · next text htext =>
    rw [hread text htext]
    exact h

theorem loadConfiguration_eq_ok {path path' : String}
    (hread : ∀ text, t.read path = .ok text → t'.read path' = .ok text)
    (h : loadConfiguration t path = .ok configuration) :
    loadConfiguration t' path' = .ok configuration := by
  rw [loadConfiguration, mapError_eq_ok_iff] at h ⊢
  exact load_eq_ok hread h

theorem loadSchema_eq_ok {path path' : String} {schema : Schema}
    (hread : ∀ text, t.read path = .ok text → t'.read path' = .ok text)
    (h : loadSchema t path = .ok schema) : loadSchema t' path' = .ok schema := by
  rw [loadSchema, mapError_eq_ok_iff] at h ⊢
  exact load_eq_ok hread h

theorem loadPlans_eq_ok_iff {path : String} :
    loadPlans t path = .ok (configuration, plans) ↔
      loadConfiguration t path = .ok configuration ∧
        partition configuration.modules configuration.partitionOptions = .ok plans := by
  unfold loadPlans
  rw [bind_eq_ok_iff]
  constructor
  · rintro ⟨found, hfound, h⟩
    obtain ⟨planned, hplanned, h⟩ := bind_eq_ok_iff.mp h
    obtain ⟨rfl, rfl⟩ := Prod.mk.inj (Except.ok.inj h)
    exact ⟨hfound, mapError_eq_ok_iff.mp hplanned⟩
  · rintro ⟨hconfiguration, hplans⟩
    exact ⟨configuration, hconfiguration,
      bind_eq_ok_iff.mpr ⟨plans, mapError_eq_ok_iff.mpr hplans, rfl⟩⟩

/-- What the generation of modules needs of a configuration and a schema. -/
def context (configuration : Configuration) (schema : Schema) (directory : String) :
    GenerationContext :=
  ⟨schema, configuration.levelAssignment (some schema), configuration.generation, directory⟩

theorem forget_eq_ok_iff {α ε : Type} {run : FileTree × Except ε α} :
    (run.1, run.2.map fun _ => ()) = (t', .ok ()) ↔ ∃ r, run = (t', .ok r) := by
  obtain ⟨t, _ | r⟩ := run <;> simp [Except.map]

/-- A build that has read everything writes the name lists and generates the selected modules. -/
theorem runBuild_of_loaded {schema : Schema} (combined : Bool)
    (hplans : loadPlans t configurationPath = .ok (configuration, plans))
    (hschema : loadSchema t api = .ok schema) :
    runBuild configurationPath api workDirectory combined t =
      match writeLists (WorkDirectory.listsPath workDirectory) t plans with
      | (t, .error e) => (t, .error e)
      | (t, .ok ()) => generateModules (context configuration schema workDirectory) t ⟨0, 0⟩
          (selectedPlans plans combined) := by
  unfold runBuild
  rw [hplans]
  dsimp only [bind, Except.bind]
  rw [hschema]
  rfl

theorem runBuild_eq_ok_iff {combined : Bool} {r : WriteReport} :
    runBuild configurationPath api workDirectory combined t = (t', .ok r) ↔
      ∃ configuration plans schema t₁,
        loadPlans t configurationPath = .ok (configuration, plans) ∧
        loadSchema t api = .ok schema ∧
        writeLists (WorkDirectory.listsPath workDirectory) t plans = (t₁, .ok ()) ∧
        generateModules (context configuration schema workDirectory) t₁ ⟨0, 0⟩
          (selectedPlans plans combined) = (t', .ok r) := by
  constructor
  · intro h
    cases hplans : loadPlans t configurationPath with
    | error e =>
      unfold runBuild at h
      rw [hplans] at h
      cases h
    | ok loaded =>
      obtain ⟨configuration, plans⟩ := loaded
      cases hschema : loadSchema t api with
      | error e =>
        unfold runBuild at h
        rw [hplans] at h
        dsimp only [bind, Except.bind] at h
        rw [hschema] at h
        cases h
      | ok schema =>
        rw [runBuild_of_loaded combined hplans hschema] at h
        split at h
        · cases h
        · next t₁ hwrite => exact ⟨configuration, plans, schema, t₁, rfl, rfl, hwrite, h⟩
  · rintro ⟨configuration, plans, schema, t₁, hplans, hschema, hwrite, h⟩
    rw [runBuild_of_loaded combined hplans hschema, hwrite]
    exact h

theorem exists_runBuild {combined : Bool}
    (h : (Command.build configurationPath api workDirectory combined).run t = (t', .ok ())) :
    ∃ r, runBuild configurationPath api workDirectory combined t = (t', .ok r) :=
  forget_eq_ok_iff.mp h

theorem run_build_eq_ok {combined : Bool}
    (hplans : loadPlans t configurationPath = .ok (configuration, plans))
    (h : (Command.build configurationPath api workDirectory combined).run t = (t', .ok ())) :
    ∃ schema t₁, loadSchema t api = .ok schema ∧
      writeLists (WorkDirectory.listsPath workDirectory) t plans = (t₁, .ok ()) ∧
      ∃ r, generateModules (context configuration schema workDirectory) t₁ ⟨0, 0⟩
        (selectedPlans plans combined) = (t', .ok r) := by
  obtain ⟨r, h⟩ := exists_runBuild h
  obtain ⟨_, _, schema, t₁, hplans', hschema, hwrite, hgenerated⟩ := runBuild_eq_ok_iff.mp h
  obtain ⟨rfl, rfl⟩ := Prod.mk.inj (Except.ok.inj (hplans'.symm.trans hplans))
  exact ⟨schema, t₁, hschema, hwrite, r, hgenerated⟩

theorem run_plan_eq_ok (hplans : loadPlans t configurationPath = .ok (configuration, plans))
    (h : writeLists (WorkDirectory.listsPath workDirectory) t plans = (t', .ok ())) :
    (Command.plan configurationPath workDirectory).run t = (t', .ok ()) := by
  refine forget_eq_ok_iff.mpr ⟨plans, ?_⟩
  rw [hplans]
  dsimp only
  rw [h]
  rfl

theorem run_generate_eq_ok {a : GenerateArguments} {schema : Schema} {r : WriteReport}
    (hschema : loadSchema t a.api = .ok schema) (ha : a.configuration? = some configurationPath)
    (hconfiguration : loadConfiguration t configurationPath = .ok configuration)
    (hplan : planOfLists t a = .ok p)
    (h : generateModule (context configuration schema a.outDirectory) t p = (t', .ok r)) :
    (Command.generate a).run t = (t', .ok ()) := by
  refine forget_eq_ok_iff.mpr ⟨r, ?_⟩
  rw [hschema, ha]
  dsimp only
  rw [hconfiguration, hplan]
  exact h

end Runs

end Command

end EngineBindings
