import EngineBindings.Proofs.Bindings.FilePaths
import EngineBindings.Proofs.Bindings.RootFile

/-!
# Layouts

A module has the same types in either layout: in files of their own, or by their letters in the
files of letters, where they keep the order of the plan.  Everything else is the same in both
(`ModulePlan.layouts_agree`).
-/

namespace EngineBindings

open FilePath Naming Code AssembledModule

/-! ## Types by their letters -/

/-- Cut by letters, no type is lost and none is repeated. -/
theorem InLetters.types_perm {module : String} {types : List TypeEntry}
    {files : List GeneratedFile} (h : InLetters module types files) :
    (files.flatMap GeneratedFile.types).Perm (types.map TypeEntry.inlined) := by
  have hfiles : files.map GeneratedFile.types = FileLayout.letters.map fun letter =>
      (types.filter fun t => FileLayout.letterOf t.name == letter).map TypeEntry.inlined :=
    (map_eq_of_forall₂ h fun _ _ _ hfile => hfile.types_eq.symm).symm
  have hall : (types.filter fun t => FileLayout.letters.contains (FileLayout.letterOf t.name)) =
      types := by
    refine List.filter_eq_self.mpr fun t _ => ?_
    exact List.contains_iff_mem.mpr (FileLayout.letterOf_mem_letters t.name)
  have hperm := StartupPlan.flatMap_filter_perm (fun t : TypeEntry => FileLayout.letterOf t.name)
    types FileLayout.letters_nodup
  rw [hall] at hperm
  rw [List.flatMap_def, hfiles, ← List.flatMap_def, ← List.map_flatMap]
  exact hperm.map TypeEntry.inlined

theorem InLetters.length_eq {module : String} {types : List TypeEntry} {files : List GeneratedFile}
    (h : InLetters module types files) : files.length = 26 :=
  (List.Forall₂.length_eq h).symm

/-! ## Planned types -/

variable {s : Schema} {p : ModulePlan} {levels : LevelAssignment} {foundational : String}

/-- Whether the types of a module are those of its plan in order, no two of them with one name. -/
structure HasPlannedTypes (s : Schema) (p : ModulePlan) (a : AssembledModule) : Prop where
  class_names : a.classEntries.map TypeEntry.name = p.generatedClasses
  builtin_names : a.builtinEntries.map TypeEntry.name = p.traitBuiltins s
  classes_nodup : p.generatedClasses.Nodup
  builtins_nodup : (p.traitBuiltins s).Nodup
  idents : ∀ t ∈ a.classModules ++ a.builtinModules, t.HasIdents

theorem AssembledModule.classEntries_names {a : AssembledModule}
    (h : ofPlan s p levels foundational = .ok a) :
    a.classEntries.map TypeEntry.name = p.generatedClasses := by
  rw [← classes_names h, classEntries, classModules, List.map_map, List.map_map]
  rfl

theorem AssembledModule.builtinEntries_names {a : AssembledModule}
    (h : ofPlan s p levels foundational = .ok a) :
    a.builtinEntries.map TypeEntry.name = p.traitBuiltins s := by
  rw [← builtins_names h, builtinEntries, builtinModules, List.map_map, List.map_map]
  rfl

/-! ## Main statement -/

/-- Whether root files are the same but for the declarations in front, those of the files of types.
No functions are among these, and neither root file has types. -/
structure RootsAgree (f g : GeneratedFile) : Prop where
  path_eq : f.path = g.path
  head_eq : f.head = g.head
  code_eq : ∃ items items' rest, f.code = items ++ rest ∧ g.code = items' ++ rest ∧
    functions items = [] ∧ functions items' = []
  functions_eq : functions f.code = functions g.code
  functions_named :
    (functions f.code).map Prod.fst = ["initialize_level", "deinitialize_level"]
  types_eq : f.types = [] ∧ g.types = []

theorem AssembledModule.IsRootFile.agree {layout layout' : FileLayout} {a : AssembledModule}
    {f g : GeneratedFile} (hf : IsRootFile s { p with layout } a f)
    (hg : IsRootFile s { p with layout := layout' } a g) : RootsAgree f g where
  path_eq := hf.path_eq.trans hg.path_eq.symm
  head_eq := hf.head_eq.trans hg.head_eq.symm
  code_eq := by
    obtain ⟨_, hitems, hcode⟩ := hf.code_eq
    obtain ⟨_, hitems', hcode'⟩ := hg.code_eq
    exact ⟨_, _, _, hcode, hcode', hitems.functions.readAll_eq, hitems'.functions.readAll_eq⟩
  functions_eq := hf.functions_eq.trans hg.functions_eq.symm
  functions_named := by
    rw [hf.functions_eq, EntryUnit.functions_code]
    rfl
  types_eq := ⟨hf.types_eq, hg.types_eq⟩

namespace ModulePlan

theorem ofPlan_with (p : ModulePlan) (layout : FileLayout) :
    ofPlan s { p with layout } levels foundational = ofPlan s p levels foundational :=
  rfl

/-- In either layout a module has the types of its plan with the same code and the same names, each
once, and the same other files.  The root files differ in what they say of the files of types. -/
theorem layouts_agree {perType buckets : List GeneratedFile} (hbuiltins : p.builtins.Nodup)
    (hperType : { p with layout := .perType }.assemble s levels foundational = .ok perType)
    (hbuckets : { p with layout := .buckets }.assemble s levels foundational = .ok buckets) :
    ∃ a, ofPlan s p levels foundational = .ok a ∧ HasPlannedTypes s p a ∧
      ∃ directories letters engine root root',
        perType = directories ++ engine ++ [root] ∧ buckets = letters ++ engine ++ [root'] ∧
        InDirectories p.module a.classEntries a.builtinEntries directories ∧
        InLetters p.module (a.classEntries ++ a.builtinEntries) letters ∧ letters.length = 26 ∧
        (letters.flatMap GeneratedFile.types).Perm
          ((a.classEntries ++ a.builtinEntries).map TypeEntry.inlined) ∧
        (engine.map GeneratedFile.path).Sublist
          [join p.module "core_defs.rs", join p.module "utility.rs"] ∧
        RootsAgree root root' := by
  obtain ⟨a, ha, hidents, directories, root, rfl, hdirectories, hroot⟩ :=
    sections_of_assemble hperType
  obtain ⟨b, hb, -, letters, root', rfl, hletters, hroot'⟩ := sections_of_assemble hbuckets
  rw [ofPlan_with] at ha hb
  obtain rfl : a = b := Except.ok.inj (ha.symm.trans hb)
  obtain ⟨g, hplan, -⟩ := GeneratedModule.exists_of_assemble hperType
  have hclasses := g.generatedClasses_nodup
  rw [hplan] at hclasses
  have htypes : HasPlannedTypes s p a :=
    ⟨classEntries_names ha, builtinEntries_names ha, hclasses, hbuiltins.filter _, hidents⟩
  exact ⟨a, ha, htypes, directories, letters, engineFiles p a, root, root', rfl, rfl, hdirectories,
    hletters, hletters.length_eq, hletters.types_perm, engineFiles_paths p a, hroot.agree hroot'⟩

theorem layouts_agree_node :
    ["Vector2"].Nodup ∧ ∃ perType buckets,
      SmallModule.files "scene" .perType ["Node"] = .ok perType ∧
      SmallModule.files "scene" .buckets ["Node"] = .ok buckets ∧
      ∃ directories letters engine root root',
        perType = directories ++ engine ++ [root] ∧ buckets = letters ++ engine ++ [root'] ∧
        letters.length = 26 ∧ RootsAgree root root' := by
  obtain ⟨perType, hperType⟩ : ∃ files, SmallModule.files "scene" .perType ["Node"] = .ok files :=
    ⟨_, eq_ok_of_isOk (by decide +kernel) []⟩
  obtain ⟨buckets, hbuckets⟩ : ∃ files, SmallModule.files "scene" .buckets ["Node"] = .ok files :=
    ⟨_, eq_ok_of_isOk (by decide +kernel) []⟩
  have hbuiltins : ["Vector2"].Nodup := by decide
  obtain ⟨a, -, -, directories, letters, engine, root, root', hdirectories, hletters, -, -, hlength,
    -, -, hagree⟩ := layouts_agree (p := SmallModule.plan "scene" .perType ["Node"])
      hbuiltins hperType hbuckets
  exact ⟨hbuiltins, perType, buckets, hperType, hbuckets, directories, letters, engine, root, root',
    hdirectories, hletters, hlength, hagree⟩

end ModulePlan

end EngineBindings
