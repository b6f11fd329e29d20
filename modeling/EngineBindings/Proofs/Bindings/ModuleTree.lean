import EngineBindings.Proofs.Bindings.FilePaths

/-!
# The tree of generated modules

A module that is declared in the root file of a directory is looked for beside that file: in the
file with its name, or in the root file of the directory with its name.  Files get their names from
`Naming.moduleName`, and declarations get theirs from `Naming.ident`, which changes some names.
-/

namespace EngineBindings

open FilePath Naming

/-! ## Declarations and files -/

/-- A declared module: the names that lead to the directory, and the name that is looked for. -/
abbrev DeclaredModule := List String × String

/-- The names that lead to a generated file. -/
def GeneratedFile.names (f : GeneratedFile) : List String :=
  Text.splitAt '/' f.path

/-- The modules that the code of a file declares in files of their own, if it is the root file of a
directory.  The name of a module is its identifier, without the mark of an escaped one. -/
def GeneratedFile.declarations (f : GeneratedFile) : List DeclaredModule :=
  if f.names.getLast? = some "mod.rs" then
    f.code.modules.map fun identifier => (f.names.dropLast, unescaped identifier)
  else []

/-- Whether a file is the one of a declared module. -/
def DeclaredModule.IsIn (d : DeclaredModule) (file : List String) : Prop :=
  file = d.1 ++ [d.2 ++ ".rs"] ∨ file = d.1 ++ [d.2] ++ ["mod.rs"]

instance (d : DeclaredModule) (file : List String) : Decidable (d.IsIn file) :=
  inferInstanceAs (Decidable (_ ∨ _))

/-- Whether the files of a module are a tree: what is declared has a file, and every file besides
the root file of the module is declared exactly once. -/
structure IsModuleTree (root : List String) (files : List (List String))
    (declarations : List DeclaredModule) : Prop where
  exists_file : ∀ d ∈ declarations, ∃ file ∈ files, d.IsIn file
  declared_once : ∀ file ∈ files, file ≠ root → declarations.countP (·.IsIn file) = 1

instance (root : List String) (files : List (List String)) (declarations : List DeclaredModule) :
    Decidable (IsModuleTree root files declarations) :=
  decidable_of_iff
    ((∀ d ∈ declarations, ∃ file ∈ files, d.IsIn file) ∧
      ∀ file ∈ files, file ≠ root → declarations.countP (·.IsIn file) = 1)
    ⟨fun h => ⟨h.1, h.2⟩, fun h => ⟨h.1, h.2⟩⟩

theorem eq_of_countP_eq_one {α : Type} {q : α → Bool} {xs : List α} (h : xs.countP q = 1) {a b : α}
    (ha : a ∈ xs) (hb : b ∈ xs) (hqa : q a = true) (hqb : q b = true) : a = b := by
  rw [List.countP_eq_length_filter] at h
  obtain ⟨x, hx⟩ := List.length_eq_one_iff.mp h
  have hmem : ∀ y ∈ xs, q y = true → y = x := fun y hy hqy =>
    List.mem_singleton.mp (hx ▸ List.mem_filter.mpr ⟨hy, hqy⟩)
  rw [hmem a ha hqa, hmem b hb hqb]

namespace DeclaredModule

variable {d : DeclaredModule} {directory : List String} {stem : String}

theorem eq_mod_of_source (h : stem ++ ".rs" = "mod.rs") : stem = "mod" :=
  (String.append_left_inj ".rs").mp h

/-- The file of a module is found by its declaration only. -/
theorem isIn_source_iff (hstem : stem ≠ "mod") :
    d.IsIn (directory ++ [stem ++ ".rs"]) ↔ d = (directory, stem) := by
  obtain ⟨above, name⟩ := d
  constructor
  · rintro (h | h)
    · obtain ⟨rfl, hlast⟩ := List.append_inj' h rfl
      rw [(String.append_left_inj ".rs").mp (List.cons.inj hlast).1]
    · have hlast := (List.append_inj' h rfl).2
      exact absurd (eq_mod_of_source (List.cons.inj hlast).1) hstem
  · intro h
    obtain ⟨rfl, rfl⟩ := Prod.mk.inj h
    exact .inl rfl

/-- The root file of a directory is found by the declaration of the directory, and by one of a
module in it that is named like the file. -/
theorem isIn_root_iff {name : String} :
    d.IsIn (directory ++ [name] ++ ["mod.rs"]) ↔
      d = (directory, name) ∨ d = (directory ++ [name], "mod") := by
  obtain ⟨above, last⟩ := d
  constructor
  · rintro (h | h)
    · obtain ⟨rfl, hlast⟩ := List.append_inj' h rfl
      exact .inr (congrArg _ (eq_mod_of_source (List.cons.inj hlast).1.symm))
    · obtain ⟨rfl, hlast⟩ := List.append_inj' (List.append_inj' h rfl).1 rfl
      rw [(List.cons.inj hlast).1]
      exact .inl rfl
  · rintro (h | h)
    · obtain ⟨rfl, rfl⟩ := Prod.mk.inj h
      exact .inr rfl
    · obtain ⟨rfl, rfl⟩ := Prod.mk.inj h
      exact .inl rfl

end DeclaredModule

/-! ## The tree of an outline -/

/-- The modules that a file of an outline declares. -/
def FileOutline.declarations (module : String) (o : FileOutline) : List DeclaredModule :=
  (o.declares?.getD []).map fun stem => (module :: o.names.dropLast, declaredName stem)

namespace ModuleOutline

variable (o : ModuleOutline) (module : String)

/-- The directories of a module, each with the names of the modules that its root file declares. -/
def places : List (List String × List String) :=
  o.directories.map (fun d => ([module, d.1], d.2)) ++
    [([module], o.directories.map Prod.fst ++ o.stems)]

/-- The declared modules of the directories of a module. -/
def declarations : List DeclaredModule :=
  (o.places module).flatMap fun place => place.2.map fun stem => (place.1, declaredName stem)

/-- The names that lead to the files of a module. -/
def fileNames : List (List String) :=
  o.files.map fun f => module :: f.names

theorem flatMap_sources (directory stems : List String) :
    (sources directory stems).flatMap (FileOutline.declarations module) = [] := by
  rw [List.flatMap_eq_nil_iff]
  intro f hf
  obtain ⟨stem, -, rfl⟩ := List.mem_map.mp hf
  rfl

theorem declarations_root (directory stems : List String) :
    (root directory stems).declarations module =
      stems.map fun stem => (module :: directory, declaredName stem) := by
  rw [FileOutline.declarations, root, List.dropLast_concat]
  rfl

/-- What the files declare is what the directories have. -/
theorem flatMap_declarations :
    o.files.flatMap (FileOutline.declarations module) = o.declarations module := by
  have hdirectory (d : String × List String) :
      (directory d).flatMap (FileOutline.declarations module) =
        d.2.map fun stem => ([module, d.1], declaredName stem) := by
    rw [directory, List.flatMap_append, flatMap_sources, List.nil_append, List.flatMap_singleton,
      declarations_root]
  rw [files, List.flatMap_append, List.flatMap_append, List.flatMap_assoc, flatMap_sources,
    List.append_nil, List.flatMap_singleton, declarations_root, declarations, places,
    List.flatMap_append, List.flatMap_map, List.flatMap_singleton]
  simp only [hdirectory]

theorem places_nodup : ((o.places module).map Prod.fst).Nodup := by
  have hfst : (o.places module).map Prod.fst =
      (o.directories.map Prod.fst).map (fun name => [module, name]) ++ [[module]] := by
    rw [places, List.map_append, List.map_map, List.map_map]
    rfl
  rw [hfst]
  refine (o.directories_nodup.map ?_).append (List.nodup_singleton _) ?_
  · exact fun a b h => (List.cons.inj (List.cons.inj h).2).1
  · intro place hbelow hmodule
    obtain ⟨_, -, rfl⟩ := List.mem_map.mp hbelow
    cases List.mem_singleton.mp hmodule

theorem mem_fileNames_iff {file : List String} :
    file ∈ o.fileNames module ↔
      (∃ d ∈ o.directories, ∃ stem ∈ d.2, file = [module, d.1] ++ [stem ++ ".rs"]) ∨
      (∃ d ∈ o.directories, file = [module] ++ [d.1] ++ ["mod.rs"]) ∨
      (∃ stem ∈ o.stems, file = [module] ++ [stem ++ ".rs"]) ∨ file = [module, "mod.rs"] := by
  have hnames : o.fileNames module = (o.files.map FileOutline.names).map (module :: ·) := by
    rw [fileNames, List.map_map]
    rfl
  rw [hnames, map_names_files, List.map_append, List.map_flatMap, List.mem_append]
  simp only [List.map_append, List.map_map, List.mem_flatMap, List.mem_append, List.mem_map,
    List.map_singleton, List.mem_singleton, Function.comp_apply]
  constructor
  · rintro (⟨d, hd, ⟨stem, hstem, rfl⟩ | rfl⟩ | ⟨stem, hstem, rfl⟩ | rfl)
    · exact .inl ⟨d, hd, stem, hstem, rfl⟩
    · exact .inr (.inl ⟨d, hd, rfl⟩)
    · exact .inr (.inr (.inl ⟨stem, hstem, rfl⟩))
    · exact .inr (.inr (.inr rfl))
  · rintro (⟨d, hd, stem, hstem, rfl⟩ | ⟨d, hd, rfl⟩ | ⟨stem, hstem, rfl⟩ | rfl)
    · exact .inl ⟨d, hd, .inl ⟨stem, hstem, rfl⟩⟩
    · exact .inl ⟨d, hd, .inr rfl⟩
    · exact .inr (.inl ⟨stem, hstem, rfl⟩)
    · exact .inr (.inr rfl)

variable {o module}

theorem mem_declarations_iff {directory : List String} {name : String} {stems : List String}
    (hplace : (directory, stems) ∈ o.places module) :
    (directory, name) ∈ o.declarations module ↔ ∃ stem ∈ stems, declaredName stem = name := by
  rw [declarations, List.mem_flatMap]
  constructor
  · rintro ⟨place, hmem, hname⟩
    obtain ⟨stem, hstem, heq⟩ := List.mem_map.mp hname
    obtain ⟨rfl, rfl⟩ := Prod.mk.inj heq
    have hsame := List.inj_on_of_nodup_map (o.places_nodup module) hmem hplace rfl
    rw [hsame] at hstem
    exact ⟨stem, hstem, rfl⟩
  · rintro ⟨stem, hstem, rfl⟩
    exact ⟨_, hplace, List.mem_map_of_mem (f := fun stem => (directory, declaredName stem)) hstem⟩

theorem nodup_declarations
    (h : ∀ place ∈ o.places module, place.2.Nodup ∧ ∀ stem ∈ place.2, IsKept stem) :
    (o.declarations module).Nodup := by
  rw [declarations, List.nodup_flatMap]
  constructor
  · intro place hplace
    obtain ⟨hnodup, hkept⟩ := h place hplace
    refine hnodup.map_on fun a ha b hb heq => ?_
    have hname := (Prod.mk.inj heq).2
    rwa [(hkept a ha).declaredName_eq, (hkept b hb).declaredName_eq] at hname
  · refine (List.pairwise_map.mp (o.places_nodup module)).imp fun {a b} hne d ha hb => ?_
    obtain ⟨_, -, rfl⟩ := List.mem_map.mp ha
    obtain ⟨_, -, heq⟩ := List.mem_map.mp hb
    exact hne (Prod.mk.inj heq).1.symm

section Place

variable {directory stems : List String} (hplace : (directory, stems) ∈ o.places module)
  (hidents : ∀ stem ∈ stems, IsKept (declaredName stem))

include hplace hidents

/-- No other name than a kept one is declared. -/
theorem isKept_of_mem_declarations {name : String}
    (h : (directory, name) ∈ o.declarations module) : IsKept name := by
  obtain ⟨stem, hstem, rfl⟩ := (mem_declarations_iff hplace).mp h
  exact hidents stem hstem

/-- The names that are declared once each are kept and distinct. -/
theorem of_count_eq_one (h : ∀ stem ∈ stems, (o.declarations module).count (directory, stem) = 1) :
    stems.Nodup ∧ ∀ stem ∈ stems, IsKept stem := by
  have hkept : ∀ stem ∈ stems, IsKept stem := fun stem hstem =>
    isKept_of_mem_declarations hplace hidents
      (List.count_pos_iff.mp (by rw [h stem hstem]; exact Nat.one_pos))
  refine ⟨List.nodup_iff_count_le_one.mpr fun stem => ?_, hkept⟩
  by_cases hstem : stem ∈ stems
  · have hsublist : (stems.map fun stem => (directory, stem)).Sublist (o.declarations module) := by
      have hdeclared : stems.map (fun stem => (directory, stem)) =
          stems.map fun stem => (directory, declaredName stem) :=
        List.map_congr_left fun stem hstem => by rw [(hkept stem hstem).declaredName_eq]
      rw [hdeclared, declarations, List.flatMap_def]
      exact List.sublist_flatten_of_mem (List.mem_map_of_mem hplace)
    rw [← h stem hstem, ← List.count_map_of_injective stems _ (Prod.mk_right_injective directory)]
    exact hsublist.count_le _
  · rw [List.count_eq_zero_of_not_mem hstem]
    exact Nat.zero_le 1

end Place

theorem place_of_mem {d : String × List String} (hd : d ∈ o.directories) :
    ([module, d.1], d.2) ∈ o.places module :=
  List.mem_append_left _ (List.mem_map_of_mem (f := fun d => ([module, d.1], d.2)) hd)

theorem place_module : ([module], o.directories.map Prod.fst ++ o.stems) ∈ o.places module :=
  List.mem_append_right _ (List.mem_singleton_self _)

/-- The file of a module is declared as often as the module is. -/
theorem countP_source (directory : List String) {stem : String} (hstem : stem ≠ "mod") :
    (o.declarations module).countP (·.IsIn (directory ++ [stem ++ ".rs"])) =
      (o.declarations module).count (directory, stem) :=
  List.countP_congr fun d _ => by
    rw [decide_eq_true_eq, beq_iff_eq, DeclaredModule.isIn_source_iff hstem]

theorem mem_places_iff {place : List String × List String} :
    place ∈ o.places module ↔ (∃ d ∈ o.directories, place = ([module, d.1], d.2)) ∨
      place = ([module], o.directories.map Prod.fst ++ o.stems) := by
  rw [places, List.mem_append, List.mem_map, List.mem_singleton]
  simp only [eq_comm]

/-- Whether every declaration keeps the name of its module, and is the only one with this name. -/
def Keeps (o : ModuleOutline) (module : String) : Prop :=
  ∀ place ∈ o.places module, place.2.Nodup ∧ ∀ stem ∈ place.2, IsKept stem

theorem keeps_iff : o.Keeps module ↔ (∀ stem ∈ o.stems, IsKept stem) ∧
    ∀ d ∈ o.directories, d.2.Nodup ∧ ∀ stem ∈ d.2, IsKept stem := by
  constructor
  · intro h
    exact ⟨fun stem hstem => (h _ place_module).2 stem (List.mem_append_right _ hstem),
      fun d hd => h _ (place_of_mem hd)⟩
  · rintro ⟨hstems, hdirectories⟩ place hplace
    rcases mem_places_iff.mp hplace with ⟨d, hd, rfl⟩ | rfl
    · exact hdirectories d hd
    · refine ⟨o.directories_nodup.append o.stems_nodup ?_, ?_⟩
      · intro name hname hstem
        obtain ⟨d, hd, rfl⟩ := List.mem_map.mp hname
        exact (o.directory_named d hd).2.1 hstem
      · rw [List.forall_mem_append, List.forall_mem_map]
        exact ⟨fun d hd => (o.directory_named d hd).2.2, hstems⟩

theorem keeps_of_isModuleTree (hmod : ∀ d ∈ o.directories, "mod" ∉ d.2)
    (hidents : ∀ place ∈ o.places module, ∀ stem ∈ place.2, IsKept (declaredName stem))
    (h : IsModuleTree [module, "mod.rs"] (o.fileNames module) (o.declarations module)) :
    o.Keeps module := by
  refine keeps_iff.mpr ⟨fun stem hstem => ?_, fun d hd => ?_⟩
  · have hne : stem ≠ "mod" := fun heq => o.mod_notMem (heq ▸ hstem)
    have hcount := h.declared_once ([module] ++ [stem ++ ".rs"])
      (o.mem_fileNames_iff module |>.mpr (.inr (.inr (.inl ⟨stem, hstem, rfl⟩))))
      (fun heq => hne (DeclaredModule.eq_mod_of_source (List.cons.inj (List.cons.inj heq).2).1))
    rw [countP_source _ hne] at hcount
    exact isKept_of_mem_declarations place_module (hidents _ place_module)
      (List.count_pos_iff.mp (by rw [hcount]; exact Nat.one_pos))
  · have hplace : ([module, d.1], d.2) ∈ o.places module := place_of_mem hd
    refine of_count_eq_one hplace (hidents _ hplace) fun stem hstem => ?_
    have hne : stem ≠ "mod" := fun heq => hmod d hd (heq ▸ hstem)
    rw [← countP_source _ hne]
    exact h.declared_once _ (o.mem_fileNames_iff module |>.mpr (.inl ⟨d, hd, stem, hstem, rfl⟩))
      (fun heq => nomatch (List.cons.inj (List.cons.inj heq).2).2)

theorem Keeps.mem_declarations_iff (h : o.Keeps module) {directory stems : List String}
    (hplace : (directory, stems) ∈ o.places module) {name : String} :
    (directory, name) ∈ o.declarations module ↔ name ∈ stems := by
  rw [ModuleOutline.mem_declarations_iff hplace]
  constructor
  · rintro ⟨stem, hstem, rfl⟩
    rwa [((h _ hplace).2 stem hstem).declaredName_eq]
  · exact fun hname => ⟨name, hname, ((h _ hplace).2 name hname).declaredName_eq⟩

theorem isModuleTree_of_keeps (hmod : ∀ d ∈ o.directories, "mod" ∉ d.2) (h : o.Keeps module) :
    IsModuleTree [module, "mod.rs"] (o.fileNames module) (o.declarations module) := by
  have hnodup := nodup_declarations h
  constructor
  · intro e he
    obtain ⟨place, hplace, hname⟩ := List.mem_flatMap.mp he
    obtain ⟨stem, hstem, rfl⟩ := List.mem_map.mp hname
    rw [((h place hplace).2 stem hstem).declaredName_eq]
    rcases mem_places_iff.mp hplace with ⟨d, hd, rfl⟩ | rfl
    · exact ⟨_, (o.mem_fileNames_iff module).mpr (.inl ⟨d, hd, stem, hstem, rfl⟩), .inl rfl⟩
    · rcases List.mem_append.mp hstem with hdirectory | hstem
      · obtain ⟨d, hd, rfl⟩ := List.mem_map.mp hdirectory
        exact ⟨_, (o.mem_fileNames_iff module).mpr (.inr (.inl ⟨d, hd, rfl⟩)), .inr rfl⟩
      · exact ⟨_, (o.mem_fileNames_iff module).mpr (.inr (.inr (.inl ⟨stem, hstem, rfl⟩))),
          .inl rfl⟩
  · intro file hfile hroot
    rcases (o.mem_fileNames_iff module).mp hfile with
      ⟨d, hd, stem, hstem, rfl⟩ | ⟨d, hd, rfl⟩ | ⟨stem, hstem, rfl⟩ | rfl
    · rw [countP_source _ fun heq => hmod d hd (heq ▸ hstem)]
      exact List.count_eq_one_of_mem hnodup ((h.mem_declarations_iff (place_of_mem hd)).mpr hstem)
    · have hname : d.1 ∈ o.directories.map Prod.fst ++ o.stems :=
        List.mem_append_left _ (List.mem_map_of_mem hd)
      rw [← List.count_eq_one_of_mem hnodup ((h.mem_declarations_iff place_module).mpr hname)]
      refine List.countP_congr fun e he => ?_
      rw [decide_eq_true_eq, beq_iff_eq, DeclaredModule.isIn_root_iff]
      refine ⟨fun hin => hin.resolve_right ?_, .inl⟩
      rintro rfl
      exact hmod d hd ((h.mem_declarations_iff (place_of_mem hd)).mp he)
    · rw [countP_source _ fun heq => o.mod_notMem (heq ▸ hstem)]
      exact List.count_eq_one_of_mem hnodup
        ((h.mem_declarations_iff place_module).mpr (List.mem_append_right _ hstem))
    · exact absurd rfl hroot

end ModuleOutline

/-! ## The tree of a module -/

/-- Whether modules have files of their own in which their declarations find them. -/
def CanBeDeclared (stems : List String) : Prop :=
  HaveOwnFiles stems ∧ ∀ stem ∈ stems, IsKept stem

instance (stems : List String) : Decidable (CanBeDeclared stems) :=
  inferInstanceAs (Decidable (HaveOwnFiles stems ∧ ∀ stem ∈ stems, IsKept stem))

namespace FileOutline.Fits

variable {module : String} {o : FileOutline} {f : GeneratedFile} (hmodule : IsFileName module)
  (h : o.Fits module f)

include hmodule h

theorem names_eq : f.names = module :: o.names := by
  rw [GeneratedFile.names, h.path_eq, splitAt_below hmodule h.leadsDown]

theorem declarations_of_root {stems : List String} (hlast : o.names.getLast? = some "mod.rs")
    (hstems : o.declares? = some stems) :
    f.declarations = o.declarations module ∧ ∀ stem ∈ stems, IsKept (declaredName stem) := by
  have hidents := h.declares stems hstems
  constructor
  · have hnames : f.code.modules.map unescaped = stems.map declaredName :=
      map_eq_of_map_eq (mapM_eq_ok_iff.mp hidents) fun stem _ identifier hident =>
        (declaredName_of_ident hident).symm
    have hdeclared := congrArg (List.map fun name => (module :: o.names.dropLast, name)) hnames
    rw [List.map_map, List.map_map] at hdeclared
    rw [GeneratedFile.declarations, h.names_eq hmodule,
      List.getLast?_cons_of_ne_nil h.leadsDown.ne_nil, if_pos hlast,
      List.dropLast_cons_of_ne_nil h.leadsDown.ne_nil, FileOutline.declarations, hstems]
    exact hdeclared
  · intro stem hstem
    obtain ⟨_, -, hident⟩ := exists_of_mapM_eq_ok hidents hstem
    exact isKept_declaredName hident

theorem declarations_of_source (hlast : o.names.getLast? ≠ some "mod.rs")
    (hnone : o.declares? = none) : f.declarations = o.declarations module := by
  rw [GeneratedFile.declarations, h.names_eq hmodule,
    List.getLast?_cons_of_ne_nil h.leadsDown.ne_nil, if_neg hlast, FileOutline.declarations, hnone]
  rfl

end FileOutline.Fits

namespace ModuleOutline

variable {o : ModuleOutline} {module : String} {files : List GeneratedFile}

/-- Every directory has a root file that declares its modules. -/
theorem exists_root {place : List String × List String} (h : place ∈ o.places module) :
    ∃ directory, root directory place.2 ∈ o.files ∧ place.1 = module :: directory := by
  rcases mem_places_iff.mp h with ⟨d, hd, rfl⟩ | rfl
  · have hroot : root [d.1] d.2 ∈ directory d :=
      List.mem_append_right _ (List.mem_singleton_self _)
    exact ⟨_, List.mem_append_left _ (List.mem_append_left _ (List.mem_flatMap.mpr ⟨d, hd, hroot⟩)),
      rfl⟩
  · exact ⟨[], List.mem_append_right _ (List.mem_singleton_self _), rfl⟩

/-- A file whose name is that of a root file declares modules, if no module is named like it. -/
theorem declares_or_source (hmod : ∀ d ∈ o.directories, "mod" ∉ d.2) {f : FileOutline}
    (hf : f ∈ o.files) :
    (∃ directory stems, f = root directory stems) ∨
      f.declares? = none ∧ f.names.getLast? ≠ some "mod.rs" := by
  have hsource {directory stems : List String} (hmod : "mod" ∉ stems)
      (hf : f ∈ sources directory stems) :
      f.declares? = none ∧ f.names.getLast? ≠ some "mod.rs" := by
    obtain ⟨stem, hstem, rfl⟩ := List.mem_map.mp hf
    refine ⟨rfl, fun hlast => hmod ?_⟩
    rw [List.getLast?_concat] at hlast
    exact DeclaredModule.eq_mod_of_source (Option.some.inj hlast) ▸ hstem
  rcases List.mem_append.mp hf with hf | hf
  · rcases List.mem_append.mp hf with hf | hf
    · obtain ⟨d, hd, hf⟩ := List.mem_flatMap.mp hf
      rcases List.mem_append.mp hf with hf | hf
      · exact .inr (hsource (hmod d hd) hf)
      · exact .inl ⟨_, _, List.mem_singleton.mp hf⟩
    · exact .inr (hsource o.mod_notMem hf)
  · exact .inl ⟨_, _, List.mem_singleton.mp hf⟩

section Generated

variable (hmodule : IsFileName module)
  (hfits : List.Forall₂ (FileOutline.Fits module) o.files files)

include hmodule hfits

theorem map_names_eq : files.map GeneratedFile.names = o.fileNames module :=
  (map_eq_of_forall₂ hfits fun _ _ _ hfit => (hfit.names_eq hmodule).symm).symm

/-- What a directory of the outline has is declared. -/
theorem mem_declarations_of_place {directory stems : List String}
    (hplace : (directory, stems) ∈ o.places module) {stem : String} (hstem : stem ∈ stems) :
    IsKept (declaredName stem) ∧
      (directory, declaredName stem) ∈ files.flatMap GeneratedFile.declarations := by
  obtain ⟨above, hroot, rfl⟩ := exists_root hplace
  obtain ⟨f, hf, hfit⟩ := exists_of_forall₂ hfits hroot
  obtain ⟨hdeclarations, hkept⟩ := hfit.declarations_of_root hmodule List.getLast?_concat rfl
  refine ⟨hkept stem hstem, List.mem_flatMap.mpr ⟨f, hf, ?_⟩⟩
  rw [hdeclarations, declarations_root]
  exact List.mem_map_of_mem (f := fun stem => (module :: above, declaredName stem)) hstem

theorem flatMap_declarations_eq (hmod : ∀ d ∈ o.directories, "mod" ∉ d.2) :
    files.flatMap GeneratedFile.declarations = o.declarations module := by
  have hfile : ∀ f ∈ o.files, ∀ g, f.Fits module g → f.declarations module = g.declarations := by
    intro f hf g hfit
    rcases declares_or_source hmod hf with ⟨directory, stems, rfl⟩ | ⟨hnone, hlast⟩
    · exact (hfit.declarations_of_root hmodule List.getLast?_concat rfl).1.symm
    · exact (hfit.declarations_of_source hmodule hlast hnone).symm
  rw [← flatMap_declarations, List.flatMap_def, List.flatMap_def, map_eq_of_forall₂ hfits hfile]

/-- If a module is named like the root file beside it, that file is declared twice. -/
theorem mod_notMem_of_isModuleTree
    (h : IsModuleTree [module, "mod.rs"] (files.map GeneratedFile.names)
      (files.flatMap GeneratedFile.declarations)) : ∀ d ∈ o.directories, "mod" ∉ d.2 := by
  intro d hd hmod
  have hkept : IsKept "mod" := by decide
  have hdirectory := (mem_declarations_of_place hmodule hfits place_module
    (List.mem_append_left o.stems (List.mem_map_of_mem hd))).2
  have hinside := (mem_declarations_of_place hmodule hfits (place_of_mem hd) hmod).2
  rw [(o.directory_named d hd).2.2.declaredName_eq] at hdirectory
  rw [hkept.declaredName_eq] at hinside
  have honce := h.declared_once ([module] ++ [d.1] ++ ["mod.rs"])
    (map_names_eq hmodule hfits ▸ (o.mem_fileNames_iff module).mpr (.inr (.inl ⟨d, hd, rfl⟩)))
    (fun heq => nomatch (List.cons.inj (List.cons.inj heq).2).2)
  have hsame := eq_of_countP_eq_one honce hdirectory hinside
    (decide_eq_true (DeclaredModule.isIn_root_iff.mpr (.inl rfl)))
    (decide_eq_true (DeclaredModule.isIn_root_iff.mpr (.inr rfl)))
  exact nomatch (List.cons.inj (Prod.mk.inj hsame).1).2

/-- The files along an outline are a tree just if no module is named like the root file beside it,
and every declaration keeps the name of its module. -/
theorem isModuleTree_iff :
    IsModuleTree [module, "mod.rs"] (files.map GeneratedFile.names)
        (files.flatMap GeneratedFile.declarations) ↔
      (∀ stem ∈ o.stems, IsKept stem) ∧ ∀ d ∈ o.directories, CanBeDeclared d.2 := by
  have hidents : ∀ place ∈ o.places module, ∀ stem ∈ place.2, IsKept (declaredName stem) :=
    fun place hplace stem hstem => (mem_declarations_of_place hmodule hfits hplace hstem).1
  constructor
  · intro h
    have hmod := mod_notMem_of_isModuleTree hmodule hfits h
    rw [map_names_eq hmodule hfits, flatMap_declarations_eq hmodule hfits hmod] at h
    obtain ⟨hstems, hdirectories⟩ := keeps_iff.mp (keeps_of_isModuleTree hmod hidents h)
    exact ⟨hstems, fun d hd =>
      ⟨⟨(hdirectories d hd).1, hmod d hd⟩, (hdirectories d hd).2⟩⟩
  · rintro ⟨hstems, hdirectories⟩
    have hmod : ∀ d ∈ o.directories, "mod" ∉ d.2 := fun d hd => (hdirectories d hd).1.2
    rw [map_names_eq hmodule hfits, flatMap_declarations_eq hmodule hfits hmod]
    exact isModuleTree_of_keeps hmod (keeps_iff.mpr
      ⟨hstems, fun d hd => ⟨(hdirectories d hd).1.1, (hdirectories d hd).2⟩⟩)

end Generated

end ModuleOutline

namespace AssembledModule

/-- The names of the modules of letters start like that of the module they are in. -/
theorem isKept_letterStem_iff {module : String} {letter : Char} :
    IsKept (letterStem module letter) ↔ startsWithDigit module = false := by
  have hstarts : startsWithDigit (letterStem module letter) = startsWithDigit module := by
    rw [startsWithDigit, startsWithDigit, toList_letterStem]
    cases module.toList with
    | nil => rfl
    | cons c rest => rfl
  have hpaths : ∀ w ∈ Text.pathKeywords, w.toList.reverse[1]? ≠ some '_' := by decide
  refine ⟨fun h => hstarts.symm.trans h.noDigit, fun h => ?_⟩
  exact ⟨letterStem_ne (by decide), letterStem_ne (by decide),
    fun hmem => letterStem_ne (hpaths _ hmem) rfl, hstarts.trans h⟩

theorem isKept_stems_iff {p : ModulePlan} {a : AssembledModule} :
    (∀ stem ∈ (a.outline p).stems, IsKept stem) ↔
      (p.layout = .buckets → startsWithDigit p.module = false) := by
  have hengine : ∀ stem ∈ a.engineStems, IsKept stem := by
    have hall : ∀ stem ∈ ["core_defs", "utility"], IsKept stem := by decide
    exact fun stem hstem => hall stem ((engineStems_sublist a).mem hstem)
  unfold outline
  cases p.layout with
  | perType => exact ⟨fun _ => nofun, fun _ => hengine⟩
  | buckets =>
    dsimp only
    rw [List.forall_mem_append, letterStems, List.forall_mem_map]
    constructor
    · exact fun h _ => isKept_letterStem_iff.mp (h.1 'A' (by decide))
    · exact fun h => ⟨fun letter _ => isKept_letterStem_iff.mpr (h rfl), hengine⟩

end AssembledModule

namespace ModulePlan

/-- The files of a module are a tree of modules just if the types in each directory have modules
that can be declared, or the name of the module does not start with a digit, which declarations of
the modules of letters would mark. -/
theorem files_isModuleTree_iff {s : Schema} {p : ModulePlan} {levels : LevelAssignment}
    {foundational : String} {files : List GeneratedFile} (hmodule : IsFileName p.module)
    (h : p.assemble s levels foundational = .ok files) :
    IsModuleTree [p.module, "mod.rs"] (files.map GeneratedFile.names)
        (files.flatMap GeneratedFile.declarations) ↔
      (p.layout = .perType → CanBeDeclared p.classStems ∧ CanBeDeclared (p.builtinStems s)) ∧
        (p.layout = .buckets → startsWithDigit p.module = false) := by
  obtain ⟨a, ha, hfits⟩ := outline_of_assemble h
  have hnil : CanBeDeclared [] := by decide
  rw [ModuleOutline.isModuleTree_iff hmodule hfits, forall_directories_iff ha hnil,
    AssembledModule.isKept_stems_iff, and_comm]

theorem files_isModuleTree_iff_node :
    IsFileName "scene" ∧ ∃ files, SmallModule.files "scene" .perType ["Node"] = .ok files ∧
      CanBeDeclared ["object", "node"] ∧ CanBeDeclared ["vector2"] ∧
      IsModuleTree ["scene", "mod.rs"] (files.map GeneratedFile.names)
        (files.flatMap GeneratedFile.declarations) := by
  obtain ⟨files, hfiles⟩ : ∃ files, SmallModule.files "scene" .perType ["Node"] = .ok files :=
    ⟨_, eq_ok_of_isOk (by decide +kernel) []⟩
  have hmodule : IsFileName "scene" := by decide
  have hclasses : CanBeDeclared ["object", "node"] := by decide
  have hbuiltins : CanBeDeclared ["vector2"] := by decide
  have htree := (files_isModuleTree_iff hmodule hfiles).mpr
    ⟨fun _ => ⟨hclasses, hbuiltins⟩, nofun⟩
  exact ⟨hmodule, files, hfiles, hclasses, hbuiltins, htree⟩

/-- The declaration of a class looks for another file where its name is a keyword that cannot be
escaped, and so do those of letters where the name of the module starts with a digit. -/
theorem not_files_isModuleTree :
    (SmallModule.schema ["Self"]).IsValid ∧ (SmallModule.schema ["Node"]).IsValid ∧
    (∃ files, SmallModule.files "scene" .perType ["Self"] = .ok files ∧
      ¬IsModuleTree ["scene", "mod.rs"] (files.map GeneratedFile.names)
        (files.flatMap GeneratedFile.declarations)) ∧
    ∃ files, SmallModule.files "2d" .buckets ["Node"] = .ok files ∧
      ¬IsModuleTree ["2d", "mod.rs"] (files.map GeneratedFile.names)
        (files.flatMap GeneratedFile.declarations) := by
  have hnot {module : String} {layout : FileLayout} {names : List String}
      (h : (SmallModule.files module layout names).toOption.map (fun files =>
        decide (IsModuleTree [module, "mod.rs"] (files.map GeneratedFile.names)
          (files.flatMap GeneratedFile.declarations))) = some false) :
      ∃ files, SmallModule.files module layout names = .ok files ∧
        ¬IsModuleTree [module, "mod.rs"] (files.map GeneratedFile.names)
          (files.flatMap GeneratedFile.declarations) := by
    obtain ⟨files, hfiles, htree⟩ := Option.map_eq_some_iff.mp h
    exact ⟨files, toOption_eq_some_iff.mp hfiles, of_decide_eq_false htree⟩
  exact ⟨rfl, rfl, hnot (by decide +kernel), hnot (by decide +kernel)⟩

end ModulePlan

end EngineBindings
