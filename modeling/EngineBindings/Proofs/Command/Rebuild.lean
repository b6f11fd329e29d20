import EngineBindings.Proofs.Command.Agreement

/-!
# Building again

What a build has to write is known from the texts that it reads (`buildFiles`).  A build that
succeeds leaves every one of these files with its contents and changes no other one; unless two of
them went to the same place, or one of them replaced a text that the build reads, the same build
finds all of them there and changes nothing (`Command.runBuild_again`).
-/

namespace EngineBindings

open FilePath FileTree Naming

namespace Command

variable {t t' : FileTree} {plans : List ModulePlan} {c : GenerationContext}

/-! ## What a build has to write -/

/-- The files of a build by their paths, with their contents: the name lists of all modules, and
what is generated for the selected ones. -/
structure BuildFiles where
  lists : List (String × String)
  generated : List (String × String)

def BuildFiles.all (files : BuildFiles) : List (String × String) :=
  files.lists ++ files.generated

/-- The files that are generated for a module, by their paths. -/
def moduleFiles (c : GenerationContext) (p : ModulePlan) :
    Except CommandError (List (String × String)) :=
  match p.assemble c.schema c.levels c.settings.foundationalClass with
  | .error e => .error (.generation p.module e)
  | .ok files => .ok (files.map fun f => (join c.directory f.path, f.contents))

/-- What a build has to write. -/
def buildFiles (configurationPath api workDirectory : String) (combined : Bool) (t : FileTree) :
    Except CommandError BuildFiles := do
  let (configuration, plans) ← loadPlans t configurationPath
  let schema ← loadSchema t api
  let generated ← (selectedPlans plans combined).mapM
    (moduleFiles (context configuration schema workDirectory))
  return ⟨plans.flatMap (ModuleLists.filesOf (WorkDirectory.listsPath workDirectory)),
    generated.flatten⟩

theorem moduleFiles_of_canGenerate {p : ModulePlan} (hcan : CanGenerate c p) :
    moduleFiles c p =
      .ok ((modulePlacements c p).map fun file => (below c.directory file.1, file.2)) := by
  obtain ⟨files, hfiles⟩ := hcan
  rw [moduleFiles, modulePlacements, hfiles]
  simp only [Except.toOption, Option.getD_some, List.map_map, Except.ok.injEq]
  refine List.map_congr_left fun f _ => ?_
  rw [Function.comp_apply, GeneratedFile.below_placement]
  rfl

theorem mapM_moduleFiles (hcan : ∀ p ∈ plans, CanGenerate c p) :
    plans.mapM (moduleFiles c) = .ok (plans.map fun p =>
      (modulePlacements c p).map fun file => (below c.directory file.1, file.2)) := by
  rw [mapM_eq_ok_iff, List.map_map]
  exact List.map_congr_left fun p hp => moduleFiles_of_canGenerate (hcan p hp)

section Build

variable {configurationPath api workDirectory : String} {combined : Bool} {r : WriteReport}

theorem buildFiles_eq_ok_iff {files : BuildFiles} :
    buildFiles configurationPath api workDirectory combined t = .ok files ↔
      ∃ configuration plans schema generated,
        loadPlans t configurationPath = .ok (configuration, plans) ∧
        loadSchema t api = .ok schema ∧
        (selectedPlans plans combined).mapM
          (moduleFiles (context configuration schema workDirectory)) = .ok generated ∧
        files = ⟨plans.flatMap (ModuleLists.filesOf (WorkDirectory.listsPath workDirectory)),
          generated.flatten⟩ := by
  unfold buildFiles
  rw [bind_eq_ok_iff]
  constructor
  · rintro ⟨⟨configuration, plans⟩, hplans, h⟩
    obtain ⟨schema, hschema, h⟩ := bind_eq_ok_iff.mp h
    obtain ⟨generated, hgenerated, h⟩ := bind_eq_ok_iff.mp h
    exact ⟨configuration, plans, schema, generated, hplans, hschema, hgenerated,
      (Except.ok.inj h).symm⟩
  · rintro ⟨configuration, plans, schema, generated, hplans, hschema, hgenerated, rfl⟩
    exact ⟨_, hplans, bind_eq_ok_iff.mpr ⟨schema, hschema,
      bind_eq_ok_iff.mpr ⟨generated, hgenerated, rfl⟩⟩⟩

/-- A build that succeeds has written what it had to. -/
theorem writes_buildFiles
    (h : runBuild configurationPath api workDirectory combined t = (t', .ok r)) :
    ∃ files, buildFiles configurationPath api workDirectory combined t = .ok files ∧
      Writes "" t (atPaths files.all) t' := by
  obtain ⟨configuration, plans, schema, t₁, hplans, hschema, hlists, hgenerated⟩ :=
    runBuild_eq_ok_iff.mp h
  obtain ⟨hcan, hwrites⟩ := exists_generateModules_iff.mp ⟨r, hgenerated⟩
  refine ⟨_, buildFiles_eq_ok_iff.mpr ⟨configuration, plans, schema, _, hplans, hschema,
    mapM_moduleFiles hcan, rfl⟩, ?_⟩
  rw [BuildFiles.all, atPaths, List.map_append, ← List.flatMap_def, ← List.map_flatMap]
  exact (writeLists_eq_ok_iff_atPaths.mp hlists).append (Writes.atPaths_iff.mpr hwrites)

end Build

/-! ## Files that are there already -/

theorem writeLists_of_read {directory : String}
    (h : ∀ file ∈ plans.flatMap (ModuleLists.filesOf directory), t.read file.1 = .ok file.2) :
    writeLists directory t plans = (t, .ok ()) := by
  induction plans with
  | nil => rfl
  | cons p rest ih =>
    rw [List.flatMap_cons] at h
    have hfirst := ModuleLists.writeFiles_of_read 0 fun file hfile =>
      h file (List.mem_append_left _ hfile)
    rw [writeLists_cons, ModuleLists.write, hfirst]
    exact ih fun file hfile => h file (List.mem_append_right _ hfile)

theorem writeGenerated_of_read {directory : String} {files : List GeneratedFile}
    (report : WriteReport)
    (h : ∀ f ∈ files, t.read (join directory f.path) = .ok f.contents) :
    writeGenerated directory t report files =
      (t, .ok { report with unchanged := report.unchanged + files.length }) := by
  induction files generalizing report with
  | nil => rfl
  | cons file rest ih =>
    obtain ⟨hfile, hrest⟩ := List.forall_mem_cons.mp h
    rw [writeGenerated, writeIfChanged_of_read hfile]
    dsimp only
    rw [ih _ hrest]
    simp only [List.length_cons, Nat.add_assoc, Nat.add_comm 1]

theorem generateModule_of_read {p : ModulePlan} {files : List (String × String)}
    (hfiles : moduleFiles c p = .ok files) (h : ∀ file ∈ files, t.read file.1 = .ok file.2) :
    generateModule c t p = (t, .ok ⟨0, files.length⟩) := by
  unfold moduleFiles at hfiles
  split at hfiles
  · cases hfiles
  · next assembled hassembled =>
    obtain rfl := Except.ok.inj hfiles
    have hread : ∀ f ∈ assembled, t.read (join c.directory f.path) = .ok f.contents :=
      fun f hf => h (join c.directory f.path, f.contents) (List.mem_map.mpr ⟨f, hf, rfl⟩)
    rw [generateModule, hassembled]
    dsimp only
    rw [writeGenerated_of_read ⟨0, 0⟩ hread]
    simp only [Nat.zero_add, List.length_map]

theorem generateModules_of_read {files : List (List (String × String))} (report : WriteReport)
    (hfiles : plans.mapM (moduleFiles c) = .ok files)
    (h : ∀ file ∈ files.flatten, t.read file.1 = .ok file.2) :
    generateModules c t report plans =
      (t, .ok { report with unchanged := report.unchanged + files.flatten.length }) := by
  induction plans generalizing report files with
  | nil =>
    obtain rfl := Except.ok.inj hfiles
    rfl
  | cons p rest ih =>
    rw [List.mapM_cons] at hfiles
    obtain ⟨first, hfirst, hfiles⟩ := bind_eq_ok_iff.mp hfiles
    obtain ⟨others, hothers, hfiles⟩ := bind_eq_ok_iff.mp hfiles
    obtain rfl := Except.ok.inj hfiles
    rw [List.flatten_cons] at h ⊢
    have hmodule := generateModule_of_read hfirst fun file hfile =>
      h file (List.mem_append_left _ hfile)
    rw [generateModules_cons, hmodule]
    dsimp only
    rw [ih _ hothers fun file hfile => h file (List.mem_append_right _ hfile)]
    simp only [WriteReport.merge, Nat.add_zero, List.length_append, Nat.add_assoc]

/-! ## The same build -/

section Build

variable {configurationPath api workDirectory : String} {combined : Bool} {r : WriteReport}

/-- Whether the files of a build are at different places, and none of them where another path
leads.  Different paths may still lead to one place, through two dots for instance. -/
structure BuildFiles.AreApart (files : BuildFiles) (t : FileTree) (others : List String) :
    Prop where
  nodup : (files.all.map fun file => t.locate file.1).Nodup
  beside : ∀ file ∈ files.all, ∀ other ∈ others, t.locate file.1 ≠ t.locate other

section Identifiers

variable {configuration : Configuration} {files : BuildFiles}
  (hplans : loadPlans t configurationPath = .ok (configuration, plans))
  (hmodules : ∀ p ∈ plans, IsIdentifier p.module)
  (h : runBuild configurationPath api workDirectory combined t = (t', .ok r))
  (hfiles : buildFiles configurationPath api workDirectory combined t = .ok files)

include hplans hmodules h hfiles

/-- The files of modules that are named by identifiers are below the work directory. -/
theorem exists_placed_buildFiles : ∃ placed, Placed placed ∧ Writes workDirectory t placed t' ∧
    files.all = placed.map fun file => (below workDirectory file.1, file.2) := by
  obtain ⟨_, _, schema, t₁, hplans', hschema, hlists, hgenerated⟩ := runBuild_eq_ok_iff.mp h
  obtain ⟨rfl, rfl⟩ := Prod.mk.inj (Except.ok.inj (hplans.symm.trans hplans'))
  obtain ⟨hcan, hwrites⟩ := exists_generateModules_iff.mp ⟨r, hgenerated⟩
  have hfiles' := buildFiles_eq_ok_iff.mpr
    ⟨_, _, schema, _, hplans, hschema, mapM_moduleFiles hcan, rfl⟩
  refine ⟨_, placed_buildPlacements hmodules hcan,
    ((writeLists_eq_ok_iff hmodules).mp hlists).append hwrites, ?_⟩
  rw [Except.ok.inj (hfiles.symm.trans hfiles'), BuildFiles.all, buildPlacements, List.map_append,
    filesOf_eq_listPlacements hmodules, ← List.flatMap_def, List.map_flatMap]
  rfl

/-- With modules that are named by identifiers, files with different paths are at different
places. -/
theorem locate_nodup_of_paths (hnodup : (files.all.map Prod.fst).Nodup) :
    (files.all.map fun file => t'.locate file.1).Nodup := by
  obtain ⟨placed, hplaced, hwrites, hall⟩ := exists_placed_buildFiles hplans hmodules h hfiles
  rw [hall, List.map_map] at hnodup ⊢
  refine hwrites.locate_nodup hplaced (List.Nodup.of_map (below workDirectory) ?_)
  rwa [List.map_map]

end Identifiers

/-- A text that is read is the same after a build that did not write there. -/
theorem read_of_beside {files : List (String × String)} {path text : String}
    (hwrites : Writes "" t (atPaths files) t')
    (hbeside : ∀ file ∈ files, t'.locate file.1 ≠ t'.locate path)
    (h : t.read path = .ok text) : t'.read path = .ok text := by
  obtain ⟨l, hlocate, hcontents⟩ := read_eq_ok_iff_contents?.mp h
  have hlocate' := hwrites.keepsDirectories.locate hlocate
  refine read_eq_ok_iff_contents?.mpr ⟨l, hlocate', ?_⟩
  rw [hwrites.contents?_eq fun file hfile => ?_]
  · exact hcontents
  · obtain ⟨written, hwritten, rfl⟩ := List.mem_map.mp hfile
    rw [below_empty_singleton, ← hlocate']
    exact hbeside written hwritten

/-- The same build finds every file where it was written.  Nothing besides these files is changed
in the first place. -/
theorem runBuild_again
    (h : runBuild configurationPath api workDirectory combined t = (t', .ok r)) :
    ∃ files, buildFiles configurationPath api workDirectory combined t = .ok files ∧
      (∀ place, (∀ file ∈ files.all, t'.locate file.1 ≠ .ok place) →
        t'.contents? place = t.contents? place) ∧
      (files.AreApart t' [configurationPath, api] →
        (∀ file ∈ files.all, t'.read file.1 = .ok file.2) ∧
          runBuild configurationPath api workDirectory combined t' =
            (t', .ok ⟨0, files.generated.length⟩)) := by
  obtain ⟨files, hfiles, hwrites⟩ := writes_buildFiles h
  refine ⟨files, hfiles, fun place hplace => hwrites.contents?_eq fun file hfile => ?_,
    fun hapart => ?_⟩
  · obtain ⟨written, hwritten, rfl⟩ := List.mem_map.mp hfile
    rw [below_empty_singleton]
    exact hplace written hwritten
  have hnodup : ((atPaths files.all).map fun file => t'.locate (below "" file.1)).Nodup := by
    simpa only [atPaths, List.map_map, Function.comp_def, below_empty_singleton] using hapart.nodup
  have hread : ∀ file ∈ files.all, t'.read file.1 = .ok file.2 := by
    intro file hfile
    have hwritten := hwrites.read_of_nodup hnodup (List.mem_map.mpr ⟨file, hfile, rfl⟩)
    rwa [below_empty_singleton] at hwritten
  refine ⟨hread, ?_⟩
  -- the texts that are read have not changed
  have hbeside : ∀ path ∈ [configurationPath, api], ∀ text, t.read path = .ok text →
      t'.read path = .ok text := fun path hpath text =>
    read_of_beside hwrites fun file hfile => hapart.beside file hfile path hpath
  obtain ⟨configuration, plans, schema, generated, hplans, hschema, hgenerated, rfl⟩ :=
    buildFiles_eq_ok_iff.mp hfiles
  obtain ⟨hconfiguration, hpartition⟩ := loadPlans_eq_ok_iff.mp hplans
  have hplans' : loadPlans t' configurationPath = .ok (configuration, plans) :=
    loadPlans_eq_ok_iff.mpr
      ⟨loadConfiguration_eq_ok (hbeside _ List.mem_cons_self) hconfiguration, hpartition⟩
  have hschema' : loadSchema t' api = .ok schema :=
    loadSchema_eq_ok (hbeside _ (List.mem_cons_of_mem _ List.mem_cons_self)) hschema
  -- every file is there already
  have hlists := writeLists_of_read fun file hfile => hread file (List.mem_append_left _ hfile)
  have hmodules := generateModules_of_read ⟨0, 0⟩ hgenerated fun file hfile =>
    hread file (List.mem_append_right _ hfile)
  rw [runBuild_of_loaded combined hplans' hschema', hlists]
  dsimp only
  rw [hmodules, Nat.zero_add]

namespace SmallEngine

theorem paths_eq : (buildFiles "gdbind.toml" "api.json" "built" false tree).toOption.map
    (fun files => (files.lists.map Prod.fst, files.generated.map Prod.fst)) =
      some (["built/filters/kernel-classes.txt", "built/filters/kernel-available-classes.txt",
          "built/filters/kernel-builtins.txt", "built/filters/scene-classes.txt",
          "built/filters/scene-available-classes.txt", "built/filters/scene-builtins.txt",
          "built/filters/scene-preamble.txt"],
        ["built/kernel/classes/object.rs", "built/kernel/classes/mod.rs", "built/kernel/mod.rs",
          "built/scene/classes/node.rs", "built/scene/classes/mod.rs", "built/scene/mod.rs"]) := by
  decide +kernel

end SmallEngine

open SmallEngine in
theorem runBuild_again_small : ∃ t' r files,
    runBuild "gdbind.toml" "api.json" "built" false tree = (t', .ok r) ∧
      buildFiles "gdbind.toml" "api.json" "built" false tree = .ok files ∧
      files.AreApart t' ["gdbind.toml", "api.json"] ∧
      (∀ file ∈ files.all, t'.read file.1 = .ok file.2) ∧
      runBuild "gdbind.toml" "api.json" "built" false t' = (t', .ok ⟨0, 6⟩) := by
  obtain ⟨r, hrun⟩ := exists_runBuild build_succeeds
  obtain ⟨files, hfiles, -, hagain⟩ := runBuild_again hrun
  obtain ⟨configuration, hplans, hnames⟩ := exists_plans
  have hmodules : ∀ p ∈ planned, IsIdentifier p.module := fun p hp =>
    (Partition.isListable hnames (loadPlans_eq_ok_iff.mp hplans).2 p hp).module
  have hpaths := paths_eq
  rw [hfiles] at hpaths
  obtain ⟨hlists, hgenerated⟩ := Prod.mk.inj (Option.some.inj hpaths)
  have hnodup : (files.all.map Prod.fst).Nodup := by
    rw [BuildFiles.all, List.map_append, hlists, hgenerated]
    decide +kernel
  have hlength : files.generated.length = 6 := by
    rw [← List.length_map Prod.fst, hgenerated]
    rfl
  -- every file is in the work directory, and the texts are beside it
  obtain ⟨placed, hplaced, hwrites, hall⟩ :=
    exists_placed_buildFiles hplans hmodules hrun hfiles
  have hapart : files.AreApart (command.run tree).1 ["gdbind.toml", "api.json"] := by
    refine ⟨locate_nodup_of_paths hplans hmodules hrun hfiles hnodup, fun file hfile => ?_⟩
    rw [hall] at hfile
    obtain ⟨names, hnames, rfl⟩ := List.mem_map.mp hfile
    have hbase : tree.Located "built" ["built"] := ⟨by decide, by decide⟩
    obtain ⟨l, hbase', hlocate⟩ := hwrites.exists_located_end hplaced (List.ne_nil_of_mem hnames)
    obtain rfl := (hwrites.keepsDirectories.located hbase).unique hbase'
    have hconfiguration : tree.locate "gdbind.toml" = .ok ["gdbind.toml"] := by decide
    have hapi : tree.locate "api.json" = .ok ["api.json"] := by decide
    simp only [List.forall_mem_cons, hlocate names hnames,
      hwrites.keepsDirectories.locate hconfiguration, hwrites.keepsDirectories.locate hapi]
    simp
  obtain ⟨hread, hsame⟩ := hagain hapart
  rw [hlength] at hsame
  exact ⟨_, r, files, hrun, hfiles, hapart, hread, hsame⟩

end Build

end Command

end EngineBindings
