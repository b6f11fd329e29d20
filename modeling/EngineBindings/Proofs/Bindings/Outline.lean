import EngineBindings.Proofs.Bindings.Files
import EngineBindings.Proofs.Bindings.TypeCode
import Mathlib.Data.List.Forall2

/-!
# What the files of a module declare

The files of a module are known by the names that lead to them from its directory, and the root
files of directories by the modules that they declare.  `ModulePlan.outline_of_assemble` says that a
module is generated along its outline: which files there are, and what their code declares.
-/

namespace EngineBindings

open FilePath Naming Code

/-! ## Documentation -/

namespace Documentation

variable {t : Token} {c : Code}

theorem settleToken_eq_word_iff {spelling : String} :
    settleToken t = .word spelling ↔ t = .word spelling := by
  unfold settleToken
  split <;> simp

theorem settleToken_eq_mark_iff {mark : Char} : settleToken t = .mark mark ↔ t = .mark mark := by
  unfold settleToken
  split <;> simp

theorem settle_eq_cons_iff {rest : Code} :
    settle c = t :: rest ↔
      ∃ t' rest', c = t' :: rest' ∧ settleToken t' = t ∧ settle rest' = rest := by
  cases c with
  | nil => simp [settle]
  | cons first others => simp [settle]

theorem settle_eq_map (c : Code) : settle c = c.map settleToken := by
  induction c with
  | nil => rfl
  | cons t rest ih => rw [settle, ih, List.map_cons]

@[simp] theorem settle_append (a b : Code) : settle (a ++ b) = settle a ++ settle b := by
  rw [settle_eq_map, List.map_append, ← settle_eq_map, ← settle_eq_map]

theorem settle_flatMap {α : Type} (f : α → Code) (xs : List α) :
    settle (xs.flatMap f) = xs.flatMap fun x => settle (f x) := by
  rw [settle_eq_map, List.map_flatMap]
  simp only [← settle_eq_map]

@[simp] theorem settle_word (spelling : String) : settle (word spelling) = word spelling :=
  rfl

@[simp] theorem settle_brace (inner : Code) : settle (brace inner) = brace (settle inner) :=
  rfl

theorem words_settle (c : Code) : words (settle c) = words c := by
  rw [settle_eq_map, words, words, List.filterMap_map]
  refine List.filterMap_congr fun t _ => ?_
  unfold Function.comp settleToken
  split <;> rfl

/-- Declarations of modules are the same in a file whose documentation is settled. -/
theorem modules_settle (c : Code) : (settle c).modules = c.modules := by
  have hread : ∀ c, module? (settle c) = module? c := by
    intro c
    refine Option.ext fun name => ?_
    simp only [module?_eq_some_iff, settle_eq_cons_iff, settleToken_eq_word_iff,
      settleToken_eq_mark_iff]
    constructor
    · rintro ⟨rest, _, _, rfl, rfl, _, _, rfl, rfl, _, last, rfl, rfl, -⟩
      exact ⟨last, rfl⟩
    · rintro ⟨rest, rfl⟩
      exact ⟨settle rest, _, _, rfl, rfl, _, _, rfl, rfl, _, _, rfl, rfl, rfl⟩
  induction c with
  | nil => rfl
  | cons t rest ih =>
    have hfirst := hread (t :: rest)
    rw [settle] at hfirst ⊢
    rw [modules, readAll, readAll, hfirst]
    exact congrArg _ ih

end Documentation

/-! ## Declarations of modules -/

/-- Whether code declares modules in files of their own by the identifiers of names, wherever it
stands. -/
def Code.DeclaresModules (c : Code) (names : List String) : Prop :=
  ∃ idents, names.mapM ident = .ok idents ∧ ∀ rest, modules (c ++ rest) = idents ++ modules rest

namespace Code.DeclaresModules

variable {a b c : Code} {names names' : List String}

theorem append (ha : a.DeclaresModules names) (hb : b.DeclaresModules names') :
    DeclaresModules (a ++ b) (names ++ names') := by
  obtain ⟨idents, hidents, hmodules⟩ := ha
  obtain ⟨idents', hidents', hmodules'⟩ := hb
  refine ⟨idents ++ idents', ?_, fun rest => ?_⟩
  · rw [mapM_eq_ok_iff, List.map_append, mapM_eq_ok_iff.mp hidents, mapM_eq_ok_iff.mp hidents',
      List.map_append]
  · rw [List.append_assoc, hmodules, hmodules', List.append_assoc]

theorem of_notMem (h : "mod" ∉ words c) : c.DeclaresModules [] :=
  ⟨[], rfl, fun _ => modules_append h⟩

theorem mapM_ident (h : c.DeclaresModules names) : names.mapM ident = .ok c.modules := by
  obtain ⟨idents, hidents, hmodules⟩ := h
  have hall := hmodules []
  rw [List.append_nil] at hall
  rw [hidents, hall]
  exact congrArg _ (List.append_nil idents).symm

theorem concat {α : Type} {name : α → String} {xs : List α} {cs : List Code}
    (h : List.Forall₂ (fun x c => c.DeclaresModules [name x]) xs cs) :
    DeclaresModules (Code.concat cs) (xs.map name) := by
  induction h with
  | nil => exact of_notMem List.not_mem_nil
  | cons hfirst _ ih => exact hfirst.append ih

/-- A declaration with what stands before and after it. -/
theorem of_ident (lead after : Code) {name identifier : String}
    (hident : ident name = .ok identifier) (hlead : "mod" ∉ words lead)
    (hafter : "mod" ∉ words after) :
    DeclaresModules (lead ++ (word "mod" ++ (word identifier ++ .mark ';' :: after))) [name] := by
  have hne : identifier ≠ "mod" := by
    rintro rfl
    exact notMem_keywords_of_ident hident (by decide)
  refine ⟨[identifier], by rw [mapM_eq_ok_iff, List.map_singleton, hident]; rfl, fun rest => ?_⟩
  simp only [List.append_assoc, List.cons_append]
  rw [modules_append hlead, modules_declaration hne, modules_append hafter]
  rfl

end Code.DeclaresModules

namespace AssembledModule

/-! ## Declarations in generated code -/

/-- The texts around the names of modules. -/
def moduleTexts : TextTable where
  entries :=
    [("pub mod", [.inl "pub", .inl "mod"]), ("mod", [.inl "mod"]), (";", [.inr ';']),
      ("; pub use", [.inr ';', .inl "pub", .inl "use"]), ("pub use", [.inl "pub", .inl "use"]),
      ("::", [.inr ':', .inr ':']), ("::*;", [.inr ':', .inr ':', .inr '*', .inr ';']),
      ("use super::*;", [.inl "use", .inl "super", .inr ':', .inr ':', .inr '*', .inr ';']),
      ("pub use core_defs::*;",
        [.inl "pub", .inl "use", .inl "core_defs", .inr ':', .inr ':', .inr '*', .inr ';']),
      ("pub mod core_defs; pub use core_defs::*;",
        [.inl "pub", .inl "mod", .inl "core_defs", .inr ';', .inl "pub", .inl "use",
          .inl "core_defs", .inr ':', .inr ':', .inr '*', .inr ';']),
      ("pub mod utility;", [.inl "pub", .inl "mod", .inl "utility", .inr ';']),
      ("pub fn", [.inl "pub", .inl "fn"])]
  reads := by decide +kernel

theorem fixed_pubMod : fixed "pub mod" = word "pub" ++ word "mod" :=
  moduleTexts.fixed_eq [.inl "pub", .inl "mod"] rfl

theorem fixed_pubUse : fixed "; pub use" = .mark ';' :: (word "pub" ++ word "use") :=
  moduleTexts.fixed_eq [.inr ';', .inl "pub", .inl "use"] rfl

theorem notMem_fixed {content : String}
    (h : (moduleTexts.entries.lookup content).any fun leaves =>
      !(leaves.filterMap Sum.getLeft?).contains "mod") : "mod" ∉ words (fixed content) := by
  cases hleaves : moduleTexts.entries.lookup content with
  | none =>
    rw [hleaves] at h
    cases h
  | some leaves =>
    rw [hleaves, Option.any_some, Bool.not_eq_true', List.contains_eq_mem, decide_eq_false_iff_not]
      at h
    rwa [moduleTexts.words_fixed leaves hleaves]

theorem notMem_of_identCode {name : String} {c : Code} (h : identCode name = .ok c) :
    "mod" ∉ words c :=
  (TypeMap.noKeywords_of_identCode h).notMem (by decide)

theorem notMem_of_exportCode {t : TypeModule} {c : Code} (h : exportCode t = .ok c) :
    "mod" ∉ words c := by
  obtain ⟨module, hmodule, h⟩ := bind_eq_ok_iff.mp h
  obtain ⟨exported, hexported, h⟩ := bind_eq_ok_iff.mp h
  obtain rfl := Except.ok.inj h
  simp only [words_append, List.mem_append, not_or]
  exact ⟨⟨⟨⟨notMem_fixed rfl, notMem_of_identCode hmodule⟩,
    notMem_fixed rfl⟩, notMem_of_identCode hexported⟩, notMem_fixed rfl⟩

/-- The declaration of the module of a type declares just this module. -/
theorem declaresModules_of_declaration {t : TypeModule} {c : Code} (h : declaration t = .ok c) :
    c.DeclaresModules [t.module] := by
  obtain ⟨_, hmodule, h⟩ := bind_eq_ok_iff.mp h
  obtain ⟨exported, hexported, h⟩ := bind_eq_ok_iff.mp h
  obtain rfl := Except.ok.inj h
  obtain ⟨identifier, hident, rfl⟩ := map_eq_ok_iff.mp hmodule
  have hend : fixed ";" = [.mark ';'] := moduleTexts.fixed_eq [.inr ';'] rfl
  rw [fixed_pubMod, hend]
  simp only [List.append_assoc, List.singleton_append]
  exact DeclaresModules.of_ident _ _ hident (by decide) (notMem_of_exportCode hexported)

theorem declaresModules_directory {name : String} (hident : ident name = .ok name) :
    DeclaresModules (fixed "pub mod" ++ word name ++ fixed "; pub use" ++ word name ++
      fixed "::*;") [name] := by
  have hname : "mod" ∉ words (word name) := fun hmem => by
    obtain rfl := List.mem_singleton.mp hmem
    exact notMem_keywords_of_ident hident (by decide)
  rw [fixed_pubMod, fixed_pubUse]
  simp only [List.append_assoc, List.cons_append]
  refine DeclaresModules.of_ident _ _ hident (by decide) ?_
  simp only [words_append, List.mem_append, not_or]
  exact ⟨by decide, by decide, hname, notMem_fixed rfl⟩

theorem declaresModules_letter {name : String} {c : Code} (h : identCode name = .ok c) :
    DeclaresModules (fixed "mod" ++ c ++ fixed "; pub use" ++ c ++ fixed "::*;") [name] := by
  have hname := notMem_of_identCode h
  obtain ⟨identifier, hident, rfl⟩ := map_eq_ok_iff.mp h
  have hmod : fixed "mod" = word "mod" := moduleTexts.fixed_eq [.inl "mod"] rfl
  rw [hmod, fixed_pubUse]
  simp only [List.append_assoc, List.cons_append]
  refine DeclaresModules.of_ident [] _ hident List.not_mem_nil ?_
  simp only [words_append, List.mem_append, not_or]
  exact ⟨by decide, by decide, hname, notMem_fixed rfl⟩

theorem declaresModules_coreDefs :
    DeclaresModules (fixed "pub mod core_defs; pub use core_defs::*;") ["core_defs"] := by
  have huse : fixed "pub use core_defs::*;" = _ := moduleTexts.fixed_eq
    [.inl "pub", .inl "use", .inl "core_defs", .inr ':', .inr ':', .inr '*', .inr ';'] rfl
  have hwhole : fixed "pub mod core_defs; pub use core_defs::*;" = word "pub" ++ (word "mod" ++
      (word "core_defs" ++ .mark ';' :: fixed "pub use core_defs::*;")) := by
    rw [huse]
    exact moduleTexts.fixed_eq [.inl "pub", .inl "mod", .inl "core_defs", .inr ';', .inl "pub",
      .inl "use", .inl "core_defs", .inr ':', .inr ':', .inr '*', .inr ';'] rfl
  rw [hwhole]
  exact DeclaresModules.of_ident _ _ (ident_eq_ok (by decide)) (by decide)
    (notMem_fixed rfl)

theorem declaresModules_utility : DeclaresModules (fixed "pub mod utility;") ["utility"] := by
  have hwhole : fixed "pub mod utility;" = _ :=
    moduleTexts.fixed_eq [.inl "pub", .inl "mod", .inl "utility", .inr ';'] rfl
  rw [hwhole]
  exact DeclaresModules.of_ident (word "pub") [] (ident_eq_ok (by decide)) (by decide)
    List.not_mem_nil

theorem notMem_entry (u : EntryUnit) : "mod" ∉ words u.code := by
  have hfn : "mod" ∉ words (fixed "pub fn") := notMem_fixed rfl
  have hlevel : words (fixed "(level: ::gdbind_runtime::InitializationLevel)") = [] := by
    decide +kernel
  simp [EntryUnit.code, EntryUnit.levelFunction, hfn, hlevel]

end AssembledModule

/-! ## Outlines -/

/-- A generated file by the names that lead to it from the directory of its module.  The root file
of a directory also has the names of the modules that it declares. -/
structure FileOutline where
  names : List String
  declares? : Option (List String)

/-- Whether a generated file is where its outline says and declares what its outline says. -/
structure FileOutline.Fits (module : String) (o : FileOutline) (f : GeneratedFile) : Prop where
  leadsDown : LeadsDown o.names
  path_eq : f.path = below module o.names
  declares : ∀ stems, o.declares? = some stems → stems.mapM ident = .ok f.code.modules

/-- The modules of a module by their names: those with files in directories of their own, and those
with a file beside the root file. -/
structure ModuleOutline where
  directories : List (String × List String)
  stems : List String
  directories_nodup : (directories.map Prod.fst).Nodup
  stems_nodup : stems.Nodup
  mod_notMem : "mod" ∉ stems
  directory_named : ∀ d ∈ directories, d.1 ≠ "mod" ∧ d.1 ∉ stems ∧ IsKept d.1

namespace ModuleOutline

/-- The files of modules in a directory. -/
def sources (directory : List String) (stems : List String) : List FileOutline :=
  stems.map fun stem => ⟨directory ++ [stem ++ ".rs"], none⟩

/-- The root file of a directory. -/
def root (directory : List String) (stems : List String) : FileOutline :=
  ⟨directory ++ ["mod.rs"], some stems⟩

/-- The files of a directory with its modules. -/
def directory (d : String × List String) : List FileOutline :=
  sources [d.1] d.2 ++ [root [d.1] d.2]

/-- The files of a module in order. -/
def files (o : ModuleOutline) : List FileOutline :=
  o.directories.flatMap directory ++ sources [] o.stems ++
    [root [] (o.directories.map Prod.fst ++ o.stems)]

end ModuleOutline

namespace AssembledModule

/-! ## The outline of a module -/

/-- The types with files in directories of their own, by the names of the directories. -/
def typeGroups (a : AssembledModule) : List (String × List TypeModule) :=
  [("classes", a.classModules), ("builtins", a.builtinModules)].filter fun group => !group.2.isEmpty

/-- The names of the modules of enumerations and global functions, for a module that has some. -/
def engineStems (a : AssembledModule) : List String :=
  (a.enums?.map fun _ => "core_defs").toList ++ (a.utility?.map fun _ => "utility").toList

/-- The names of the modules of letters. -/
def letterStems (module : String) : List String :=
  FileLayout.letters.map (letterStem module)

theorem typeGroups_sublist (a : AssembledModule) :
    (a.typeGroups.map Prod.fst).Sublist ["classes", "builtins"] :=
  List.filter_sublist.map Prod.fst

theorem engineStems_sublist (a : AssembledModule) :
    a.engineStems.Sublist ["core_defs", "utility"] := by
  unfold engineStems
  cases a.enums? <;> cases a.utility? <;> simp

theorem toList_letterStem (module : String) (letter : Char) :
    (letterStem module letter).toList = module.toList ++ ['_', letter.toLower] := by
  rw [letterStem, String.toList_append, String.toList_append, Char.toString,
    String.toList_singleton, List.append_assoc]
  rfl

/-- Before the last character of the name is an underscore. -/
theorem letterStem_ne {name : String} (hname : name.toList.reverse[1]? ≠ some '_')
    {module : String} {letter : Char} : letterStem module letter ≠ name := by
  rintro rfl
  refine hname ?_
  rw [toList_letterStem, List.reverse_append]
  rfl

theorem notMem_letterStems {name : String} (hname : name.toList.reverse[1]? ≠ some '_')
    (module : String) : name ∉ letterStems module := by
  intro hmem
  obtain ⟨_, -, hletter⟩ := List.mem_map.mp hmem
  exact letterStem_ne hname hletter

theorem letterStems_nodup (module : String) : (letterStems module).Nodup := by
  have hlower : (FileLayout.letters.map Char.toLower).Nodup := by decide
  refine List.Nodup.of_map (fun stem => stem.toList.getLast?) ?_
  have hlast : (letterStems module).map (fun stem => stem.toList.getLast?) =
      (FileLayout.letters.map Char.toLower).map some := by
    rw [letterStems, List.map_map, List.map_map]
    refine List.map_congr_left fun letter _ => ?_
    rw [Function.comp, toList_letterStem, List.getLast?_append]
    rfl
  rw [hlast]
  exact hlower.map (Option.some_injective Char)

variable (a : AssembledModule) (p : ModulePlan)

/-- What the files of a module declare. -/
def outline : ModuleOutline :=
  match p.layout with
  | .perType => {
      directories := a.typeGroups.map fun group => (group.1, group.2.map TypeModule.module)
      stems := a.engineStems
      directories_nodup := by
        rw [List.map_map]
        exact (typeGroups_sublist a).nodup (by decide)
      stems_nodup := (engineStems_sublist a).nodup (by decide)
      mod_notMem := fun h => absurd ((engineStems_sublist a).mem h) (by decide)
      directory_named := by
        intro d hd
        obtain ⟨group, hgroup, rfl⟩ := List.mem_map.mp hd
        have hall : ∀ name ∈ ["classes", "builtins"],
            name ≠ "mod" ∧ name ∉ ["core_defs", "utility"] ∧ IsKept name := by decide
        obtain ⟨hmod, hstems, hkept⟩ :=
          hall _ ((typeGroups_sublist a).mem (List.mem_map_of_mem hgroup))
        exact ⟨hmod, fun h => hstems ((engineStems_sublist a).mem h), hkept⟩ }
  | .buckets => {
      directories := []
      stems := letterStems p.module ++ a.engineStems
      directories_nodup := List.nodup_nil
      stems_nodup := by
        refine (letterStems_nodup _).append ((engineStems_sublist a).nodup (by decide)) ?_
        intro name hletter hengine
        have hall : ∀ name ∈ ["core_defs", "utility"], name.toList.reverse[1]? ≠ some '_' := by
          decide
        exact notMem_letterStems (hall name ((engineStems_sublist a).mem hengine)) _ hletter
      mod_notMem := by
        rw [List.mem_append, not_or]
        exact ⟨notMem_letterStems (by decide) _,
          fun h => absurd ((engineStems_sublist a).mem h) (by decide)⟩
      directory_named := nofun }

variable {p a} {s : Schema} {module : String}

/-! ## Generating along an outline -/

theorem fits_source (directory : List String) {stem identifier head : String} {code : Code}
    (hident : ident stem = .ok identifier) (hdirectory : ∀ name ∈ directory, IsFileName name) :
    FileOutline.Fits module ⟨directory ++ [stem ++ ".rs"], none⟩
      ⟨below module (directory ++ [stem ++ ".rs"]), head, code⟩ where
  leadsDown := ⟨by simp, fun name hname => (List.mem_append.mp hname).elim (hdirectory name)
    fun h => List.mem_singleton.mp h ▸ isFileName_source hident⟩
  path_eq := rfl
  declares := nofun

theorem fits_root (directory : List String) {stems : List String} {head : String} {code : Code}
    (hdirectory : ∀ name ∈ directory, IsFileName name) (hcode : code.DeclaresModules stems) :
    FileOutline.Fits module (ModuleOutline.root directory stems)
      ⟨below module (directory ++ ["mod.rs"]), head, code⟩ where
  leadsDown := ⟨by simp [ModuleOutline.root], fun name hname =>
    (List.mem_append.mp hname).elim (hdirectory name)
      fun h => List.mem_singleton.mp h ▸ isFileName_root⟩
  path_eq := rfl
  declares names hnames := by
    obtain rfl := Option.some.inj hnames
    exact hcode.mapM_ident

theorem fits_directoryFiles {name : String} (hname : IsFileName name) {types : List TypeModule}
    {files : List GeneratedFile} (h : directoryFiles (join module name) types = .ok files) :
    List.Forall₂ (FileOutline.Fits module)
      (ModuleOutline.directory (name, types.map TypeModule.module)) files := by
  obtain ⟨declarations, hdeclarations, h⟩ := bind_eq_ok_iff.mp h
  obtain rfl := Except.ok.inj h
  have hdirectory : ∀ n ∈ [name], IsFileName n := fun n hn => List.mem_singleton.mp hn ▸ hname
  refine List.rel_append ?_ (.cons ?_ .nil)
  · rw [ModuleOutline.sources, List.map_map, List.forall₂_map_left_iff, List.forall₂_map_right_iff,
      List.forall₂_same]
    intro t ht
    obtain ⟨_, -, hdeclaration⟩ := exists_of_mapM_eq_ok hdeclarations ht
    obtain ⟨_, hcode, -⟩ := bind_eq_ok_iff.mp hdeclaration
    obtain ⟨identifier, hident⟩ := exists_ident hcode
    rw [join_join hname (isFileName_source hident)]
    exact fits_source [name] hident hdirectory
  · rw [join_join hname isFileName_root]
    have hparent : "mod" ∉ words useParent := notMem_fixed rfl
    exact fits_root [name] hdirectory ((DeclaresModules.of_notMem hparent).append
      (DeclaresModules.concat
        (forall₂_of_mapM_eq_ok hdeclarations fun t _ c => declaresModules_of_declaration)))

theorem fits_perTypeFiles {files : List GeneratedFile} {items : Code}
    (h : perTypeFiles module a = .ok (files, items)) :
    List.Forall₂ (FileOutline.Fits module)
        ((a.typeGroups.map fun group => (group.1, group.2.map TypeModule.module)).flatMap
          ModuleOutline.directory) files ∧
      items.DeclaresModules (a.typeGroups.map Prod.fst) := by
  obtain ⟨found, hfound, h⟩ := bind_eq_ok_iff.mp h
  obtain ⟨rfl, rfl⟩ := Prod.mk.inj (Except.ok.inj h)
  have hnamed : ∀ name ∈ ["classes", "builtins"], IsFileName name ∧ ident name = .ok name := by
    intro name hname
    rcases List.mem_cons.mp hname with rfl | hname
    · exact ⟨by decide, ident_eq_ok (by decide)⟩
    · obtain rfl := List.mem_singleton.mp hname
      exact ⟨by decide, ident_eq_ok (by decide)⟩
  have hgroup : ∀ group ∈ a.typeGroups, IsFileName group.1 ∧ ident group.1 = .ok group.1 :=
    fun group h => hnamed _ ((typeGroups_sublist a).mem (List.mem_map_of_mem h))
  constructor
  · rw [List.flatMap_def, List.map_map]
    refine List.rel_flatten (List.forall₂_map_left_iff.mpr ?_)
    exact forall₂_of_mapM_eq_ok hfound fun group hmem _ =>
      fits_directoryFiles (hgroup group hmem).1
  · rw [List.flatMap_def]
    refine DeclaresModules.concat (List.forall₂_map_right_iff.mpr (List.forall₂_same.mpr ?_))
    exact fun group hmem => declaresModules_directory (hgroup group hmem).2

theorem fits_letterFiles {files : List GeneratedFile} {items : Code}
    (h : letterFiles module a = .ok (files, items)) :
    List.Forall₂ (FileOutline.Fits module) (ModuleOutline.sources [] (letterStems module)) files ∧
      items.DeclaresModules (letterStems module) := by
  obtain ⟨found, hfound, h⟩ := bind_eq_ok_iff.mp h
  obtain ⟨declarations, hdeclarations, h⟩ := bind_eq_ok_iff.mp h
  obtain ⟨rfl, rfl⟩ := Prod.mk.inj (Except.ok.inj h)
  constructor
  · rw [ModuleOutline.sources, letterStems, List.map_map, List.forall₂_map_left_iff]
    refine forall₂_of_mapM_eq_ok hfound fun letter hletter file hfile => ?_
    obtain ⟨_, -, hdeclaration⟩ := exists_of_mapM_eq_ok hdeclarations hletter
    obtain ⟨_, hcode, -⟩ := bind_eq_ok_iff.mp hdeclaration
    obtain ⟨identifier, hident⟩ := exists_ident hcode
    obtain ⟨inlined, -, hfile⟩ := bind_eq_ok_iff.mp hfile
    obtain rfl := Except.ok.inj hfile
    rw [← below_singleton]
    exact fits_source [] hident nofun
  · refine DeclaresModules.concat (forall₂_of_mapM_eq_ok hdeclarations fun letter _ c hc => ?_)
    obtain ⟨_, hcode, hc⟩ := bind_eq_ok_iff.mp hc
    obtain rfl := Except.ok.inj hc
    exact declaresModules_letter hcode

/-- The files of enumerations and global functions. -/
theorem fits_engineFiles : List.Forall₂ (FileOutline.Fits p.module)
    (ModuleOutline.sources [] a.engineStems) (enumFiles p a ++ utilityFiles p a) := by
  have hfits : ∀ stem ∈ ["core_defs", "utility"], ∀ head code, FileOutline.Fits p.module
      ⟨[stem ++ ".rs"], none⟩ ⟨join p.module (stem ++ ".rs"), head, code⟩ := by
    intro stem hstem head code
    have hspelled : ∀ stem ∈ ["core_defs", "utility"], IsSpelled stem := by decide
    rw [← below_singleton]
    exact fits_source [] (ident_eq_ok (hspelled stem hstem)) nofun
  rw [ModuleOutline.sources, engineStems, List.map_append, enumFiles, utilityFiles]
  refine List.rel_append ?_ ?_
  · cases a.enums? with
    | none => exact .nil
    | some enums => exact .cons (hfits "core_defs" (by decide) _ _) .nil
  · cases a.utility? with
    | none => exact .nil
    | some units => exact .cons (hfits "utility" (by decide) _ _) .nil

theorem declaresModules_moduleItems : a.moduleItems.DeclaresModules a.engineStems := by
  refine DeclaresModules.append ?_ ?_
  · cases a.enums? with
    | none => exact DeclaresModules.of_notMem List.not_mem_nil
    | some enums => exact declaresModules_coreDefs
  · cases a.utility? with
    | none => exact DeclaresModules.of_notMem List.not_mem_nil
    | some units => exact declaresModules_utility

theorem fits_rootFile {stems : List String} {items : Code} (h : items.DeclaresModules stems) :
    FileOutline.Fits p.module (ModuleOutline.root [] (stems ++ a.engineStems))
      (rootFile s p a items) := by
  rw [rootFile, ← below_singleton]
  have hall := (h.append (declaresModules_moduleItems (a := a))).append
    (DeclaresModules.of_notMem (notMem_entry a.entry))
  rw [List.append_nil] at hall
  exact fits_root [] nofun hall

/-- A module is generated along its outline. -/
theorem fits_of_files {files : List GeneratedFile} (h : AssembledModule.files s p a = .ok files) :
    List.Forall₂ (FileOutline.Fits p.module) (a.outline p).files files := by
  rw [files_eq] at h
  obtain ⟨⟨types, items⟩, htypes, rfl⟩ := map_eq_ok_iff.mp h
  rw [List.append_assoc types, ModuleOutline.files]
  unfold typeFiles at htypes
  unfold outline
  cases hlayout : p.layout with
  | perType =>
    rw [hlayout] at htypes
    obtain ⟨hfits, hitems⟩ := fits_perTypeFiles htypes
    refine List.rel_append (List.rel_append hfits fits_engineFiles) (.cons ?_ .nil)
    rw [List.map_map]
    exact fits_rootFile hitems
  | buckets =>
    rw [hlayout] at htypes
    obtain ⟨hfits, hitems⟩ := fits_letterFiles htypes
    refine List.rel_append ?_ (.cons (fits_rootFile hitems) .nil)
    simp only [List.flatMap_nil, List.nil_append, ModuleOutline.sources, List.map_append]
    exact List.rel_append hfits fits_engineFiles

end AssembledModule

/-- The files of a module are those of its outline, and the root files declare what it says. -/
theorem ModulePlan.outline_of_assemble {s : Schema} {p : ModulePlan} {levels : LevelAssignment}
    {foundational : String} {files : List GeneratedFile}
    (h : p.assemble s levels foundational = .ok files) :
    ∃ a, AssembledModule.ofPlan s p levels foundational = .ok a ∧
      List.Forall₂ (FileOutline.Fits p.module) (a.outline p).files files := by
  obtain ⟨a, ha, h⟩ := bind_eq_ok_iff.mp h
  obtain ⟨found, hfound, h⟩ := bind_eq_ok_iff.mp h
  obtain rfl := Except.ok.inj h
  refine ⟨a, ha, List.forall₂_map_right_iff.mpr ?_⟩
  refine (AssembledModule.fits_of_files hfound).imp fun o f hfits => ?_
  refine ⟨hfits.leadsDown, hfits.path_eq, fun stems hstems => ?_⟩
  rw [GeneratedFile.settled, Documentation.modules_settle]
  exact hfits.declares stems hstems

/-! ## The outline of a plan -/

namespace ModulePlan

/-- The names of the modules of the classes of a plan. -/
def classStems (p : ModulePlan) : List String :=
  p.generatedClasses.map moduleName

/-- The names of the modules of the builtin types of a plan. -/
def builtinStems (p : ModulePlan) (s : Schema) : List String :=
  (p.traitBuiltins s).map moduleName

/-- What holds of the modules of each directory holds of those of classes and of builtin types, in
the layout with a file for every type. -/
theorem forall_directories_iff {s : Schema} {p : ModulePlan} {levels : LevelAssignment}
    {foundational : String} {a : AssembledModule}
    (ha : AssembledModule.ofPlan s p levels foundational = .ok a) {P : List String → Prop}
    (hnil : P []) :
    (∀ d ∈ (a.outline p).directories, P d.2) ↔
      (p.layout = .perType → P p.classStems ∧ P (p.builtinStems s)) := by
  have hclasses : a.classModules.map AssembledModule.TypeModule.module = p.classStems := by
    rw [classStems, ← AssembledModule.classes_names ha, AssembledModule.classModules, List.map_map,
      List.map_map]
    rfl
  have hbuiltins : a.builtinModules.map AssembledModule.TypeModule.module = p.builtinStems s := by
    rw [builtinStems, ← AssembledModule.builtins_names ha, AssembledModule.builtinModules,
      List.map_map, List.map_map]
    rfl
  unfold AssembledModule.outline
  cases p.layout with
  | buckets => exact ⟨nofun, fun _ => nofun⟩
  | perType =>
    rw [← hclasses, ← hbuiltins, List.forall_mem_map]
    constructor
    · intro hall _
      have hgroup : ∀ group ∈ [("classes", a.classModules), ("builtins", a.builtinModules)],
          P (group.2.map AssembledModule.TypeModule.module) := by
        intro group hgroup
        cases hempty : group.2.isEmpty with
        | true => rwa [List.isEmpty_iff.mp hempty]
        | false => exact hall group (List.mem_filter.mpr ⟨hgroup, by rw [hempty, Bool.not_false]⟩)
      exact ⟨hgroup _ List.mem_cons_self, hgroup _ (List.mem_cons_of_mem _ List.mem_cons_self)⟩
    · intro h group hgroup
      obtain ⟨hclasses, hbuiltins⟩ := h rfl
      rcases List.mem_cons.mp (List.mem_of_mem_filter hgroup) with rfl | hgroup
      · exact hclasses
      · obtain rfl := List.mem_singleton.mp hgroup
        exact hbuiltins

end ModulePlan

end EngineBindings
