import EngineBindings.Proofs.Bindings.Outline

/-!
# The paths of generated files

A file that is written twice keeps what was written last.  The files of a module have paths of their
own just if the types in each directory have modules with names of their own that are not the root
file's (`ModulePlan.paths_nodup_iff`), and then all of them are there once they are written.
-/

namespace EngineBindings

open FilePath Naming

/-! ## Outlines -/

namespace ModuleOutline

variable (o : ModuleOutline)

/-- The root file is named like the file of a module. -/
theorem map_names_directory (d : String × List String) :
    (directory d).map FileOutline.names =
      (d.2 ++ ["mod"]).map fun stem => [d.1, stem ++ ".rs"] := by
  rw [directory, sources, List.map_append, List.map_append, List.map_map]
  rfl

theorem map_names_files :
    o.files.map FileOutline.names =
      (o.directories.flatMap fun d => (d.2 ++ ["mod"]).map fun stem => [d.1, stem ++ ".rs"]) ++
        (o.stems ++ ["mod"]).map fun stem => [stem ++ ".rs"] := by
  rw [files, List.map_append, List.map_append, List.map_flatMap, List.append_assoc]
  simp only [map_names_directory]
  rw [sources, List.map_map, List.map_append]
  rfl

/-- Modules beside the root file have files of their own. -/
theorem nodup_stems_iff {stems : List String} :
    (stems ++ ["mod"]).Nodup ↔ stems.Nodup ∧ "mod" ∉ stems := by
  rw [List.nodup_append']
  simp

/-- Files are in different places just if the modules of each directory have names of their own. -/
theorem names_nodup_iff :
    (o.files.map FileOutline.names).Nodup ↔ ∀ d ∈ o.directories, d.2.Nodup ∧ "mod" ∉ d.2 := by
  have hsource (front : List String) :
      Function.Injective fun stem => front ++ [stem ++ ".rs"] := fun a b h => by
    have hlast := List.cons.inj (List.append_cancel_left h)
    exact (String.append_left_inj ".rs").mp hlast.1
  have hroot : ((o.stems ++ ["mod"]).map fun stem => [stem ++ ".rs"]).Nodup :=
    (List.nodup_map_iff (hsource [])).mpr (nodup_stems_iff.mpr ⟨o.stems_nodup, o.mod_notMem⟩)
  rw [map_names_files, List.nodup_append']
  have hdirectory (d : String × List String) :
      ((d.2 ++ ["mod"]).map fun stem => [d.1, stem ++ ".rs"]).Nodup ↔ d.2.Nodup ∧ "mod" ∉ d.2 :=
    (List.nodup_map_iff (hsource [d.1])).trans nodup_stems_iff
  rw [List.nodup_flatMap]
  constructor
  · exact fun ⟨⟨hall, _⟩, _⟩ d hd => (hdirectory d).mp (hall d hd)
  · refine fun hall => ⟨⟨fun d hd => (hdirectory d).mpr (hall d hd), ?_⟩, hroot, ?_⟩
    · refine (List.pairwise_map.mp o.directories_nodup).imp fun {d e} hne names hd he => ?_
      obtain ⟨_, -, rfl⟩ := List.mem_map.mp hd
      obtain ⟨_, -, heq⟩ := List.mem_map.mp he
      exact hne (List.cons.inj heq).1.symm
    · intro names hbelow hbeside
      obtain ⟨d, -, hnames⟩ := List.mem_flatMap.mp hbelow
      obtain ⟨_, -, rfl⟩ := List.mem_map.mp hnames
      obtain ⟨_, -, heq⟩ := List.mem_map.mp hbeside
      cases (List.cons.inj heq).2

end ModuleOutline

namespace FileOutline

variable {module : String} {os : List FileOutline} {files : List GeneratedFile}

/-- Paths are known by the names in them. -/
theorem nodup_paths_iff (h : List.Forall₂ (Fits module) os files) :
    (files.map GeneratedFile.path).Nodup ↔ (os.map names).Nodup := by
  have hdown : ∀ place ∈ os.map names, LeadsDown place :=
    List.forall_mem_map.mpr
      ((List.forall₂_and_left _ _).mp (h.imp fun _ _ hfits => ⟨hfits.leadsDown, hfits⟩)).1
  have hpaths : (os.map names).map (below module) = files.map GeneratedFile.path := by
    rw [List.map_map]
    exact map_eq_of_forall₂ h fun _ _ _ hfits => hfits.path_eq.symm
  rw [← hpaths]
  exact ⟨List.Nodup.of_map _, List.Nodup.map_on fun xs hxs ys hys =>
    below_injective (hdown xs hxs) (hdown ys hys)⟩

/-- Files along an outline are written below the directory of their module. -/
theorem exists_placements (h : List.Forall₂ (Fits module) os files) :
    ∃ placements : List Placement, Placed placements ∧ placements.map Prod.fst = os.map names ∧
      List.Forall₂ (fun (f : GeneratedFile) placement =>
        (∀ directory, join directory f.path = below (join directory module) placement.1) ∧
          f.contents = placement.2) files placements := by
  induction h with
  | nil => exact ⟨[], nofun, rfl, .nil⟩
  | @cons o f _ _ hfirst _ ih =>
    obtain ⟨placements, hplaced, hnames, hall⟩ := ih
    refine ⟨(o.names, f.contents) :: placements,
      List.forall_mem_cons.mpr ⟨hfirst.leadsDown, hplaced⟩,
      congrArg _ hnames, .cons ⟨fun directory => ?_, rfl⟩ hall⟩
    rw [hfirst.path_eq]
    exact join_below_eq directory module hfirst.leadsDown

end FileOutline

/-! ## Written modules -/

/-- Whether modules have files of their own beside a root file. -/
def HaveOwnFiles (stems : List String) : Prop :=
  stems.Nodup ∧ "mod" ∉ stems

instance (stems : List String) : Decidable (HaveOwnFiles stems) :=
  inferInstanceAs (Decidable (stems.Nodup ∧ "mod" ∉ stems))

/-! ### Small modules -/

namespace SmallModule

/-- Classes without members below a root, and a builtin type with a constant. -/
def schema (names : List String) : Schema :=
  { (default : Schema) with
    classes := { (default : ClassDescriptor) with name := "Object" } :: names.map fun name =>
      { (default : ClassDescriptor) with name, parent? := some "Object" }
    builtins := [{ (default : Builtin) with
      name := "Vector2", kind := .vector2
      constants := [⟨"ZERO", .plain "Vector2", "Vector2(0, 0)"⟩] }] }

/-- A plan for all of them. -/
def plan (module : String) (layout : FileLayout) (names : List String) : ModulePlan :=
  ⟨module, "Object" :: names, "Object" :: names, ["Vector2"], "", [], false, layout⟩

/-- What is generated for them. -/
def files (module : String) (layout : FileLayout) (names : List String) :
    Emission (List GeneratedFile) :=
  (plan module layout names).assemble (schema names) (.uniform .scene) "Object"

end SmallModule

/-! ### Main statement -/

namespace ModulePlan

variable {s : Schema} {p : ModulePlan} {levels : LevelAssignment} {foundational : String}
  {files : List GeneratedFile}

theorem paths_nodup_iff (h : p.assemble s levels foundational = .ok files) :
    ((files.map GeneratedFile.path).Nodup ↔
      (p.layout = .perType → HaveOwnFiles p.classStems ∧ HaveOwnFiles (p.builtinStems s))) ∧
    ((files.map GeneratedFile.path).Nodup → ∀ directory t report t' r,
      writeGenerated directory t report files = (t', .ok r) →
        ∀ f ∈ files, t'.read (join directory f.path) = .ok f.contents) := by
  obtain ⟨a, ha, hfits⟩ := outline_of_assemble h
  have hnodup := FileOutline.nodup_paths_iff hfits
  constructor
  · rw [hnodup, ModuleOutline.names_nodup_iff]
    exact forall_directories_iff (P := HaveOwnFiles) ha ⟨List.nodup_nil, List.not_mem_nil⟩
  · intro hpaths directory t report t' r hwrite
    obtain ⟨placements, hplaced, hnames, hall⟩ := FileOutline.exists_placements hfits
    have hwrites := (exists_writeGenerated_iff report).mp ⟨r, hwrite⟩
    have hbelow : Writes (join directory p.module) t placements t' := by
      refine hwrites.congr (List.forall₂_map_left_iff.mpr (hall.imp fun f placement hsame => ?_))
      rw [f.below_placement]
      exact ⟨hsame.1 directory, hsame.2⟩
    intro f hf
    obtain ⟨placement, hplacement, hpath, hcontents⟩ := exists_of_forall₂ hall hf
    rw [hpath directory, hcontents]
    exact hbelow.read_all hplaced (hnames ▸ hnodup.mp hpaths) placement hplacement

theorem paths_nodup_iff_node :
    ∃ files t r, SmallModule.files "scene" .perType ["Node"] = .ok files ∧
      HaveOwnFiles ["object", "node"] ∧ HaveOwnFiles ["vector2"] ∧
      writeGenerated "out" .empty ⟨0, 0⟩ files = (t, .ok r) ∧
      ∀ f ∈ files, t.read (join "out" f.path) = .ok f.contents := by
  obtain ⟨files, hfiles⟩ : ∃ files, SmallModule.files "scene" .perType ["Node"] = .ok files :=
    ⟨_, eq_ok_of_isOk (by decide +kernel) []⟩
  have hwrites : (SmallModule.files "scene" .perType ["Node"]).toOption.map
      (fun files => (writeGenerated "out" .empty ⟨0, 0⟩ files).2.isOk) = some true := by
    decide +kernel
  rw [hfiles] at hwrites
  obtain ⟨t, r, hwrite⟩ : ∃ t r, writeGenerated "out" .empty ⟨0, 0⟩ files = (t, .ok r) := by
    have hok := eq_ok_of_isOk (Option.some.inj hwrites) ⟨0, 0⟩
    exact ⟨_, _, Prod.ext rfl hok⟩
  have hclasses : HaveOwnFiles ["object", "node"] := by decide
  have hbuiltins : HaveOwnFiles ["vector2"] := by decide
  obtain ⟨hiff, hread⟩ := paths_nodup_iff hfiles
  have hnodup := hiff.mpr fun _ => ⟨hclasses, hbuiltins⟩
  exact ⟨files, t, r, hfiles, hclasses, hbuiltins, hwrite, hread hnodup _ _ _ _ _ hwrite⟩

/-- Classes with the same name in lower case share a file, and the file of a class can be the root
file of the directory. -/
theorem not_paths_nodup :
    (SmallModule.schema ["Node", "NODE"]).IsValid ∧ (SmallModule.schema ["Mod"]).IsValid ∧
    (∃ files, SmallModule.files "scene" .perType ["Node", "NODE"] = .ok files ∧
      (files.map GeneratedFile.path).count "scene/classes/node.rs" = 2) ∧
    ∃ files, SmallModule.files "scene" .perType ["Mod"] = .ok files ∧
      (files.map GeneratedFile.path).count "scene/classes/mod.rs" = 2 := by
  have hcount {names : List String} {path : String}
      (h : (SmallModule.files "scene" .perType names).toOption.map
        (fun files => (files.map GeneratedFile.path).count path) = some 2) :
      ∃ files, SmallModule.files "scene" .perType names = .ok files ∧
        (files.map GeneratedFile.path).count path = 2 := by
    obtain ⟨files, hfiles, hpaths⟩ := Option.map_eq_some_iff.mp h
    exact ⟨files, toOption_eq_some_iff.mp hfiles, hpaths⟩
  exact ⟨rfl, rfl, hcount (by decide +kernel), hcount (by decide +kernel)⟩

end ModulePlan

end EngineBindings
