import EngineBindings.Proofs.Command.Agreement

/-!
# Builds that fail

A build that cannot read what it needs changes nothing.  One that cannot generate a module has
written the name lists and the files of the modules before it, and nothing of that module or of a
later one (`Command.runBuild_failure`).  What fails in generating a module fails before any of its
files is written (`generateModule_eq_error`).
-/

namespace EngineBindings

open FilePath FileTree Naming

/-- Whether what a command reads is at fault: a configuration, its modules or a schema. -/
def CommandError.isOfReading : CommandError → Bool
  | configuration .. | schema .. | partition .. => true
  | _ => false

/-- Whether a file could not be written. -/
def CommandError.isOfWriting : CommandError → Bool
  | moduleLists .. | output .. => true
  | _ => false

namespace Command

variable {t t' : FileTree} {plans : List ModulePlan} {p : ModulePlan} {c : GenerationContext}
  {e : CommandError}

/-! ## What fails -/

theorem isOfReading_of_loadPlans {path : String} (h : loadPlans t path = .error e) :
    e.isOfReading = true := by
  unfold loadPlans at h
  cases hconfiguration : load t path Configuration.ofText with
  | error error =>
    rw [loadConfiguration, hconfiguration] at h
    cases h
    rfl
  | ok configuration =>
    rw [loadConfiguration, hconfiguration] at h
    dsimp only [Except.mapError, bind, Except.bind] at h
    cases hplans : partition configuration.modules configuration.partitionOptions with
    | error error =>
      rw [hplans] at h
      cases h
      rfl
    | ok plans =>
      rw [hplans] at h
      cases h

theorem isOfReading_of_loadSchema {path : String} (h : loadSchema t path = .error e) :
    e.isOfReading = true := by
  unfold loadSchema at h
  cases hschema : load t path Schema.ofText with
  | error error =>
    rw [hschema] at h
    cases h
    rfl
  | ok schema =>
    rw [hschema] at h
    cases h

theorem isOfWriting_of_writeLists {directory : String}
    (h : writeLists directory t plans = (t', .error e)) : e.isOfWriting = true := by
  induction plans generalizing t with
  | nil => cases h
  | cons p rest ih =>
    rw [writeLists_cons] at h
    split at h
    · obtain ⟨-, he⟩ := Prod.mk.inj h
      cases he
      rfl
    · exact ih h

/-- Where a module cannot be generated, none of its files is written. -/
theorem generateModule_eq_error (h : generateModule c t p = (t', .error e))
    (hwriting : e.isOfWriting = false) :
    t' = t ∧ ∃ error, p.assemble c.schema c.levels c.settings.foundationalClass = .error error ∧
      e = .generation p.module error := by
  unfold generateModule at h
  split at h
  · next error herror =>
    obtain ⟨rfl, he⟩ := Prod.mk.inj h
    cases he
    exact ⟨rfl, error, herror, rfl⟩
  · split at h
    · obtain ⟨-, he⟩ := Prod.mk.inj h
      cases he
      cases hwriting
    · cases h

/-- Modules are generated one after another up to the first one that fails. -/
theorem generateModules_eq_error {report : WriteReport}
    (h : generateModules c t report plans = (t', .error e)) :
    ∃ front p back t₁ r, plans = front ++ p :: back ∧
      generateModules c t report front = (t₁, .ok r) ∧ generateModule c t₁ p = (t', .error e) := by
  induction plans generalizing t report with
  | nil => cases h
  | cons p rest ih =>
    rw [generateModules_cons] at h
    split at h
    · next error hfailed =>
      obtain ⟨rfl, he⟩ := Prod.mk.inj h
      cases he
      exact ⟨[], p, rest, t, report, rfl, rfl, hfailed⟩
    · next t₁ written hfirst =>
      obtain ⟨front, q, back, t₂, r, rfl, hfront, hfailed⟩ := ih h
      refine ⟨p :: front, q, back, t₂, r, rfl, ?_, hfailed⟩
      rw [generateModules_cons, hfirst]
      exact hfront

/-! ## What is there when a module fails -/

/-- Whether the files of a module are in a directory, each unless a later one has its path. -/
def HoldsFiles (t : FileTree) (directory : String) (files : List GeneratedFile) : Prop :=
  ∀ before f after, files = before ++ f :: after → (∀ later ∈ after, later.path ≠ f.path) →
    t.read (join directory f.path) = .ok f.contents

theorem exists_last_path {files : List GeneratedFile} {f : GeneratedFile} (hf : f ∈ files) :
    ∃ before last after, files = before ++ last :: after ∧ last.path = f.path ∧
      ∀ later ∈ after, later.path ≠ f.path := by
  have hpath : f.path ∈ (files.map GeneratedFile.path).reverse :=
    List.mem_reverse.mpr (List.mem_map_of_mem hf)
  obtain ⟨back, front, hsplit, hback⟩ := List.eq_append_cons_of_mem hpath
  rw [List.reverse_eq_iff, List.reverse_append, List.reverse_cons, List.append_assoc,
    List.singleton_append] at hsplit
  obtain ⟨before, rest, rfl, -, hrest⟩ := List.map_eq_append_iff.mp hsplit
  obtain ⟨last, after, rfl, hlast, hafter⟩ := List.map_eq_cons_iff.mp hrest
  refine ⟨before, last, after, rfl, hlast, fun later hlater heq => hback ?_⟩
  rw [← List.mem_reverse, ← hafter, ← heq]
  exact List.mem_map_of_mem hlater

/-- All files of a module are there just if those with one path have the same contents. -/
theorem HoldsFiles.read_all_iff {directory : String} {files : List GeneratedFile}
    (h : HoldsFiles t directory files) :
    (∀ f ∈ files, t.read (join directory f.path) = .ok f.contents) ↔
      ∀ f ∈ files, ∀ g ∈ files, f.path = g.path → f.contents = g.contents := by
  constructor
  · intro hread f hf g hg hpath
    have hfile := hread f hf
    rw [hpath] at hfile
    exact Except.ok.inj (hfile.symm.trans (hread g hg))
  · intro hsame f hf
    obtain ⟨before, last, after, rfl, hpath, hlater⟩ := exists_last_path hf
    have hlast : last ∈ before ++ last :: after := List.mem_append_right _ List.mem_cons_self
    have hread := h before last after rfl (by rwa [hpath])
    rw [hpath, ← hsame f hf last hlast hpath.symm] at hread
    exact hread

section Stopped

variable {front back : List ModulePlan} {q : ModulePlan}
  (hlists : ∀ q ∈ plans, IsIdentifier q.module)
  (hmodules : ∀ q ∈ front ++ p :: back, IsIdentifier q.module)
  (hnodup : ((front ++ p :: back).map ModulePlan.module).Nodup)
  (hcan : ∀ q ∈ front, CanGenerate c q)
  (hwrites : Writes c.directory t (listPlacements plans ++ front.flatMap (modulePlacements c)) t')

include hlists hmodules hcan

theorem placed_stopped :
    Placed (listPlacements plans ++ front.flatMap (modulePlacements c)) := by
  intro file hfile
  rcases List.mem_append.mp hfile with hlist | hgenerated
  · exact placed_listPlacements hlists file hlist
  · exact placed_modulePlacements hcan (fun q hq => hmodules q (List.mem_append_left _ hq)) file
      hgenerated

include hwrites

/-- The files of the modules before are there. -/
theorem holdsFiles_front {files : List GeneratedFile} (hnodup : (front.map ModulePlan.module).Nodup)
    (hq : q ∈ front)
    (hfiles : q.assemble c.schema c.levels c.settings.foundationalClass = .ok files) :
    HoldsFiles t' c.directory files := by
  rintro before f after rfl hlater
  have hplaced := placed_stopped hlists hmodules hcan
  obtain ⟨first, others, rfl⟩ := List.append_of_mem hq
  rw [List.map_append, List.map_cons] at hnodup
  obtain ⟨-, hothers, -⟩ := List.nodup_append.mp hnodup
  have hself : modulePlacements c q = before.map GeneratedFile.placement ++
      f.placement :: after.map GeneratedFile.placement := by
    rw [modulePlacements, hfiles]
    simp only [Except.toOption, Option.getD_some, List.map_append, List.map_cons]
  obtain ⟨l, -, hlocate⟩ := hwrites.exists_located_end hplaced (by
    rw [List.flatMap_append, List.flatMap_cons, hself]
    simp)
  rw [List.flatMap_append, List.flatMap_cons, hself, List.append_assoc, List.cons_append,
    ← List.append_assoc, ← List.append_assoc] at hwrites hlocate
  have hread := hwrites.read_of_last fun later hafter => ?_
  · rwa [f.below_placement] at hread
  · rw [hlocate later (List.mem_append_right _ (List.mem_cons_of_mem _ hafter)),
      hlocate f.placement (List.mem_append_right _ List.mem_cons_self)]
    intro heq
    have hnames := List.append_cancel_left (Except.ok.inj heq)
    rcases List.mem_append.mp hafter with hsame | hmodule
    · -- a later file of the same module has another path
      obtain ⟨g, hg, rfl⟩ := List.mem_map.mp hsame
      have hpath := congrArg (Text.join "/") hnames
      rw [GeneratedFile.placement, GeneratedFile.placement, Text.join_splitAt rfl,
        Text.join_splitAt rfl] at hpath
      exact hlater g hg hpath
    · -- and one of a later module is in another directory
      obtain ⟨other, hother, hfile⟩ := List.mem_flatMap.mp hmodule
      have hmem : other ∈ first ++ q :: others :=
        List.mem_append_right _ (List.mem_cons_of_mem _ hother)
      have hunder := (modulePlacements_spec (hcan other hmem)
        (hmodules other (List.mem_append_left _ hmem))).2 later hfile
      have hunder' := (modulePlacements_spec (hcan q hq)
        (hmodules q (List.mem_append_left _ hq))).2 f.placement (by
          rw [hself]
          exact List.mem_append_right _ List.mem_cons_self)
      rw [hnames, hunder'] at hunder
      exact (List.nodup_cons.mp hothers).1 (Option.some.inj hunder ▸ List.mem_map_of_mem hother)

include hnodup

/-- Under the names of the other modules there is what was there before, but for name lists. -/
theorem contents?_back {l : Location} (hbase : t'.Located c.directory l) (hq : q ∈ p :: back)
    {names : List String} (hnames : q.module :: names ∉ (listPlacements plans).map Prod.fst) :
    t'.contents? (l ++ q.module :: names) = t.contents? (l ++ q.module :: names) := by
  have hplaced := placed_stopped hlists hmodules hcan
  rw [List.map_append] at hnodup
  obtain ⟨-, -, hdisjoint⟩ := List.nodup_append.mp hnodup
  refine hwrites.contents?_eq fun file hfile heq => ?_
  obtain ⟨l', hbase', hlocate⟩ := hwrites.exists_located_end hplaced (List.ne_nil_of_mem hfile)
  obtain rfl := hbase'.unique hbase
  rw [hlocate file hfile] at heq
  have hplace := List.append_cancel_left (Except.ok.inj heq)
  rcases List.mem_append.mp hfile with hlist | hgenerated
  · exact hnames (hplace ▸ List.mem_map_of_mem hlist)
  · obtain ⟨other, hother, hfile⟩ := List.mem_flatMap.mp hgenerated
    have hunder := (modulePlacements_spec (hcan other hother)
      (hmodules other (List.mem_append_left _ hother))).2 file hfile
    rw [hplace] at hunder
    exact hdisjoint _ (List.mem_map_of_mem hother) _ (List.mem_map_of_mem hq)
      (Option.some.inj hunder).symm

end Stopped

/-- What is there when a module cannot be generated: the files of the modules before it, and of the
rest nothing that was not there already, besides name lists. -/
structure StoppedBefore (c : GenerationContext) (plans front rest : List ModulePlan)
    (t t' : FileTree) : Prop where
  front_holds : ∀ q ∈ front, ∃ files,
    q.assemble c.schema c.levels c.settings.foundationalClass = .ok files ∧
      HoldsFiles t' c.directory files ∧
      ((∀ f ∈ files, t'.read (join c.directory f.path) = .ok f.contents) ↔
        ∀ f ∈ files, ∀ g ∈ files, f.path = g.path → f.contents = g.contents)
  rest_untouched : ∃ l, t'.Located c.directory l ∧ ∀ q ∈ rest, ∀ names,
    q.module :: names ∉ (listPlacements plans).map Prod.fst →
      t'.contents? (l ++ q.module :: names) = t.contents? (l ++ q.module :: names)

section Build

variable {configurationPath api workDirectory : String} {combined : Bool}

/-- A build that fails and could write does so in reading, before anything is written, or in
generating a module, after the modules before it. -/
theorem runBuild_eq_error (h : runBuild configurationPath api workDirectory combined t =
    (t', .error e)) (hwriting : e.isOfWriting = false) :
    (e.isOfReading = true ∧ t' = t) ∨
      ∃ configuration plans schema front p back error t₁,
        loadPlans t configurationPath = .ok (configuration, plans) ∧
        loadSchema t api = .ok schema ∧
        selectedPlans plans combined = front ++ p :: back ∧
        p.assemble schema (configuration.levelAssignment (some schema))
          configuration.generation.foundationalClass = .error error ∧
        e = .generation p.module error ∧
        writeLists (WorkDirectory.listsPath workDirectory) t plans = (t₁, .ok ()) ∧
        ∃ r, generateModules (context configuration schema workDirectory) t₁ ⟨0, 0⟩ front =
          (t', .ok r) := by
  cases hplans : loadPlans t configurationPath with
  | error error =>
    unfold runBuild at h
    rw [hplans] at h
    cases h
    exact .inl ⟨isOfReading_of_loadPlans hplans, rfl⟩
  | ok loaded =>
    obtain ⟨configuration, plans⟩ := loaded
    cases hschema : loadSchema t api with
    | error error =>
      unfold runBuild at h
      rw [hplans] at h
      dsimp only [bind, Except.bind] at h
      rw [hschema] at h
      cases h
      exact .inl ⟨isOfReading_of_loadSchema hschema, rfl⟩
    | ok schema =>
      rw [runBuild_of_loaded combined hplans hschema] at h
      split at h
      · next hlists =>
        cases h
        cases (isOfWriting_of_writeLists hlists).symm.trans hwriting
      · next t₁ hlists =>
        obtain ⟨front, p, back, t₂, r, hselected, hfront, hfailed⟩ := generateModules_eq_error h
        obtain ⟨rfl, error, herror, he⟩ := generateModule_eq_error hfailed hwriting
        exact .inr ⟨configuration, plans, schema, front, p, back, error, t₁, rfl, rfl, hselected,
          herror, he, hlists, r, hfront⟩

theorem stoppedBefore {configuration : Configuration} {schema : Schema}
    {front back : List ModulePlan} {t₁ : FileTree}
    (hplans : loadPlans t configurationPath = .ok (configuration, plans))
    (hmodules : ∀ q ∈ plans, IsIdentifier q.module)
    (hselected : selectedPlans plans combined = front ++ p :: back)
    (hlists : writeLists (WorkDirectory.listsPath workDirectory) t plans = (t₁, .ok ()))
    (hgenerated : ∃ r, generateModules (context configuration schema workDirectory) t₁ ⟨0, 0⟩
      front = (t', .ok r)) :
    StoppedBefore (context configuration schema workDirectory) plans front (p :: back) t t' := by
  have hnodup := selectedPlans_nodup combined
    (Partition.modules_nodup (loadPlans_eq_ok_iff.mp hplans).2)
  have hnames := isIdentifier_of_selected combined hmodules
  rw [hselected] at hnodup hnames
  obtain ⟨hcan, hfiles⟩ := exists_generateModules_iff.mp hgenerated
  have hwrites := ((writeLists_eq_ok_iff hmodules).mp hlists).append hfiles
  constructor
  · intro q hq
    obtain ⟨files, hassembled⟩ := hcan q hq
    have hfront : (front.map ModulePlan.module).Nodup := by
      rw [List.map_append] at hnodup
      exact (List.nodup_append.mp hnodup).1
    have hholds := holdsFiles_front hmodules hnames hcan hwrites hfront hq hassembled
    exact ⟨files, hassembled, hholds, hholds.read_all_iff⟩
  · -- the work directory is there, since the lists are
    have hmem : p ∈ selectedPlans plans combined := by
      rw [hselected]
      exact List.mem_append_right front List.mem_cons_self
    obtain ⟨q, hq, -⟩ := exists_of_mem_selectedPlans hmem
    have hne : listPlacements plans ++ front.flatMap (modulePlacements
        (context configuration schema workDirectory)) ≠ [] :=
      List.append_ne_nil_of_left_ne_nil (List.ne_nil_of_mem (mem_listPlacements hq)) _
    obtain ⟨l, hbase, -⟩ :=
      hwrites.exists_located_end (placed_stopped hmodules hnames hcan) hne
    exact ⟨l, hbase, fun q hq names hother =>
      contents?_back hmodules hnames hnodup hcan hwrites hbase hq hother⟩

/-- A build whose modules are named by identifiers, and that fails though it could write. -/
theorem runBuild_failure (h : runBuild configurationPath api workDirectory combined t =
    (t', .error e)) (hwriting : e.isOfWriting = false) :
    (e.isOfReading = true ∧ t' = t) ∨
      ∃ configuration plans schema front p back error,
        loadPlans t configurationPath = .ok (configuration, plans) ∧
        loadSchema t api = .ok schema ∧
        selectedPlans plans combined = front ++ p :: back ∧
        p.assemble schema (configuration.levelAssignment (some schema))
          configuration.generation.foundationalClass = .error error ∧
        e = .generation p.module error ∧
        ((∀ q ∈ plans, IsIdentifier q.module) →
          StoppedBefore (context configuration schema workDirectory) plans front (p :: back)
            t t') := by
  rcases runBuild_eq_error h hwriting with hreading | hgenerating
  · exact .inl hreading
  · obtain ⟨configuration, plans, schema, front, p, back, error, t₁, hplans, hschema, hselected,
      herror, he, hlists, hgenerated⟩ := hgenerating
    refine .inr ⟨configuration, plans, schema, front, p, back, error, hplans, hschema, hselected,
      herror, he, fun hmodules => ?_⟩
    exact stoppedBefore hplans hmodules hselected hlists hgenerated

end Build

/-! ## Two modules, the second of which fails -/

namespace FailingEngine

def configurationText : String :=
  "[[modules]]
name=\"a\"
native_classes=[\"Mod\"]
[[modules]]
name=\"b\"
native_classes=[\"Ghost\"]"

def apiText : String :=
  "\x7b\"classes\":[\x7b\"name\":\"Mod\"\x7d]\x7d"

/-- The engine does not have the class of the second module; the file of the class of the first one
has the path of a root file. -/
def tree : FileTree :=
  ⟨[(["gdbind.toml"], .file configurationText), (["api.json"], .file apiText)]⟩

def first : ModulePlan :=
  ⟨"a", ["Mod"], ["Mod"], [], "", [], false, .perType⟩

def second : ModulePlan :=
  ⟨"b", ["Ghost"], ["Ghost"], [], "", [], false, .perType⟩

def failure : CommandError :=
  .generation "b" (.unknownClass "b" "Ghost")

/-- Whether a run fails at the second module, with two files of the first one at one path. -/
def failsAtSecond (loaded : Except CommandError (Configuration × List ModulePlan))
    (api : Except CommandError Schema) (run : FileTree × Except CommandError WriteReport) : Bool :=
  match loaded, api, run with
  | .ok (configuration, plans), .ok schema,
      (_, .error (.generation "b" (.unknownClass "b" "Ghost"))) =>
    match first.assemble schema (configuration.levelAssignment (some schema))
        configuration.generation.foundationalClass with
    | .ok files => decide (plans = [first, second] ∧
        ∃ f ∈ files, ∃ g ∈ files, f.path = g.path ∧ f.contents ≠ g.contents)
    | .error _ => false
  | _, _, _ => false

theorem of_failsAtSecond {loaded : Except CommandError (Configuration × List ModulePlan)}
    {api : Except CommandError Schema} {run : FileTree × Except CommandError WriteReport}
    (h : failsAtSecond loaded api run = true) : ∃ configuration schema t' files,
      loaded = .ok (configuration, [first, second]) ∧ api = .ok schema ∧
      run = (t', .error failure) ∧
      first.assemble schema (configuration.levelAssignment (some schema))
        configuration.generation.foundationalClass = .ok files ∧
      ∃ f ∈ files, ∃ g ∈ files, f.path = g.path ∧ f.contents ≠ g.contents := by
  unfold failsAtSecond at h
  split at h
  · next configuration plans schema t' =>
    split at h
    · next files hfiles =>
      obtain ⟨rfl, hsame⟩ := of_decide_eq_true h
      exact ⟨configuration, schema, t', files, rfl, rfl, rfl, hfiles, hsame⟩
    · cases h
  · cases h

theorem exists_run : ∃ configuration schema t' files,
    loadPlans tree "gdbind.toml" = .ok (configuration, [first, second]) ∧
      loadSchema tree "api.json" = .ok schema ∧
      runBuild "gdbind.toml" "api.json" "built" false tree = (t', .error failure) ∧
      first.assemble schema (configuration.levelAssignment (some schema))
        configuration.generation.foundationalClass = .ok files ∧
      ∃ f ∈ files, ∃ g ∈ files, f.path = g.path ∧ f.contents ≠ g.contents := by
  have hrun : failsAtSecond (loadPlans tree "gdbind.toml") (loadSchema tree "api.json")
      (runBuild "gdbind.toml" "api.json" "built" false tree) = true := by
    decide +kernel
  exact of_failsAtSecond hrun

theorem split_eq {front back : List ModulePlan} {p : ModulePlan}
    (h : selectedPlans [first, second] false = front ++ p :: back) (hp : p.module = "b") :
    front = [first] ∧ p = second ∧ back = [] := by
  have h : [first, second] = front ++ p :: back := h
  rcases front with _ | ⟨q, _ | ⟨q', rest⟩⟩
  · obtain ⟨rfl, -⟩ := List.cons.inj h
    exact absurd hp (by decide)
  · obtain ⟨rfl, hrest⟩ := List.cons.inj h
    obtain ⟨rfl, hback⟩ := List.cons.inj hrest
    exact ⟨rfl, rfl, hback.symm⟩
  · have hlength := congrArg List.length h
    simp at hlength

theorem isIdentifier_modules : ∀ q ∈ [first, second], IsIdentifier q.module := by
  decide +kernel

end FailingEngine

open FailingEngine in
theorem runBuild_failure_second : ∃ configuration schema t',
    loadPlans tree "gdbind.toml" = .ok (configuration, [first, second]) ∧
      loadSchema tree "api.json" = .ok schema ∧
      runBuild "gdbind.toml" "api.json" "built" false tree = (t', .error failure) ∧
      StoppedBefore (context configuration schema "built") [first, second] [first] [second]
        tree t' := by
  obtain ⟨configuration, schema, t', -, hplans, hschema, hrun, -⟩ := exists_run
  refine ⟨configuration, schema, t', hplans, hschema, hrun, ?_⟩
  rcases runBuild_failure hrun rfl with ⟨hreading, -⟩ | hgenerating
  · cases hreading
  · obtain ⟨_, _, _, front, p, back, error, hplans', hschema', hselected, -, he, hstopped⟩ :=
      hgenerating
    obtain ⟨rfl, rfl⟩ := Prod.mk.inj (Except.ok.inj (hplans.symm.trans hplans'))
    obtain rfl := Except.ok.inj (hschema.symm.trans hschema')
    obtain ⟨hmodule, -⟩ := CommandError.generation.inj he
    obtain ⟨rfl, rfl, rfl⟩ := split_eq hselected hmodule.symm
    exact hstopped isIdentifier_modules

open FailingEngine in
/-- A file of the first module is not there: another one of that module has its path. -/
theorem not_read_all_of_failure : ∃ configuration schema t' files,
    loadPlans tree "gdbind.toml" = .ok (configuration, [first, second]) ∧
      loadSchema tree "api.json" = .ok schema ∧
      selectedPlans [first, second] false = [first] ++ [second] ∧
      runBuild "gdbind.toml" "api.json" "built" false tree = (t', .error failure) ∧
      first.assemble schema (configuration.levelAssignment (some schema))
        configuration.generation.foundationalClass = .ok files ∧
      ∃ f ∈ files, t'.read (join "built" f.path) ≠ .ok f.contents := by
  obtain ⟨configuration, schema, t', files, hplans, hschema, hrun, hfiles, f, hf, g, hg, hpath,
    hcontents⟩ := exists_run
  refine ⟨configuration, schema, t', files, hplans, hschema, rfl, hrun, hfiles, ?_⟩
  by_cases hfirst : t'.read (join "built" f.path) = .ok f.contents
  · refine ⟨g, hg, fun hread => hcontents ?_⟩
    rw [← hpath, hfirst] at hread
    exact Except.ok.inj hread
  · exact ⟨f, hf, hfirst⟩

end Command

end EngineBindings
