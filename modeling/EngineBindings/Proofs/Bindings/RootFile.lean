import EngineBindings.Proofs.Bindings.TypeEntries

/-!
# The root file of a module

The root file declares the other files, and it holds the startup functions and no types.  With the
files of types, and those of enumerations and global functions, these are all files of a module
(`ModulePlan.sections_of_assemble`).
-/

namespace EngineBindings

open FilePath Naming Code Documentation

/-! ## Startup functions -/

namespace EntryUnit

/-- What stands in the function of a level. -/
def levelBody (blocks : List EntryBlock) (statements : EntryBlock → Code) : Code :=
  fixed "match level" ++
    brace
      ((blocks.flatMap fun block => armBlock (Marshal.level block.level) (statements block)) ++
        armBlock (fixed "#[allow(unreachable_patterns)] _") [])

/-- What a function of a level takes. -/
def levelParameter : Code :=
  settle (fixed "(level: ::gdbind_runtime::InitializationLevel)")

theorem words_levelParameter : words levelParameter = [] := by
  rw [levelParameter, words_settle]
  decide +kernel

theorem block?_levelParameter : block? levelParameter = none := by
  rw [← Option.isNone_iff_eq_none]
  decide +kernel

theorem settle_levelFunction (name : String) (blocks : List EntryBlock)
    (statements : EntryBlock → Code) :
    settle (levelFunction name blocks statements) = .word "pub" :: .word "fn" ::
      (word name ++ (levelParameter ++ brace (settle (levelBody blocks statements)))) := by
  have hfn : fixed "pub fn" = [.word "pub", .word "fn"] :=
    AssembledModule.moduleTexts.fixed_eq [.inl "pub", .inl "fn"] rfl
  have hsplit : levelFunction name blocks statements =
      fixed "pub fn" ++ word name ++ fixed "(level: ::gdbind_runtime::InitializationLevel)" ++
        brace (levelBody blocks statements) := rfl
  rw [hsplit, hfn, levelParameter]
  simp only [settle_append, settle_word, settle_brace, List.append_assoc]
  rfl

theorem yields_levelFunction {name : String} (hname : name ≠ "fn") (blocks : List EntryBlock)
    (statements : EntryBlock → Code) :
    Yields function? (settle (levelFunction name blocks statements))
      [(name, settle (levelBody blocks statements))] := by
  have htail : Yields function?
      (word name ++ (levelParameter ++ brace (settle (levelBody blocks statements)))) [] := by
    refine Yields.of_notMem_words function?_readsAt ?_
    simp [words_levelParameter, hname.symm]
  have hhere : ∀ rest, function? (.word "fn" ::
      (word name ++ (levelParameter ++ brace (settle (levelBody blocks statements))) ++ rest)) =
        some (name, settle (levelBody blocks statements)) := by
    intro rest
    rw [List.append_assoc, List.append_assoc, word, List.singleton_append, function?,
      block?_append block?_levelParameter, block?_brace_append, Option.map_some]
  rw [settle_levelFunction]
  exact (htail.cons hhere).skip fun _ => rfl

theorem yields_doc {α : Type} {read? : Code → Option α} {keywords : List String}
    (hread : ReadsAt read? keywords) (content : String) :
    Yields read? (settle (Marshal.doc content)) [] := by
  refine Yields.of_notMem hread fun w hw => ?_
  rw [words_settle, words_doc] at hw
  cases hw

/-- The startup functions are the only ones beside the modules of a root file. -/
theorem functions_code (u : EntryUnit) :
    functions (settle u.code) =
      [("initialize_level", settle (levelBody u.blocks fun b => b.idents.flatMap register)),
        ("deinitialize_level",
          settle (levelBody u.blocks fun b => b.idents.reverse.flatMap unregister))] := by
  have hdoc := yields_doc function?_readsAt
  have hinitialize : "initialize_level" ≠ "fn" := by decide
  have hdeinitialize : "deinitialize_level" ≠ "fn" := by decide
  have hregister := yields_levelFunction hinitialize u.blocks fun b => b.idents.flatMap register
  have hunregister := yields_levelFunction hdeinitialize u.blocks
    fun b => b.idents.reverse.flatMap unregister
  rw [functions]
  refine Yields.readAll_eq ?_
  rw [code]
  simp only [settle_append]
  exact ((((hdoc _).append hregister).append (hdoc _)).append (hdoc _)).append hunregister

end EntryUnit

namespace AssembledModule

variable {a : AssembledModule} {s : Schema} {p : ModulePlan}

/-! ## Root files -/

/-- Whether code holds neither types nor functions. -/
structure IsBare (c : Code) : Prop where
  types : Yields TypeItem.read? (settle c) []
  functions : Yields function? (settle c) []

theorem IsBare.append {c d : Code} (hc : IsBare c) (hd : IsBare d) : IsBare (c ++ d) where
  types := by
    rw [settle_append]
    exact hc.types.append hd.types
  functions := by
    rw [settle_append]
    exact hc.functions.append hd.functions

theorem isBare_nil : IsBare [] :=
  ⟨fun _ => rfl, fun _ => rfl⟩

theorem isBare_concat {cs : List Code} (h : ∀ c ∈ cs, IsBare c) : IsBare (Code.concat cs) := by
  induction cs with
  | nil => exact isBare_nil
  | cons c cs ih =>
    obtain ⟨hfirst, hrest⟩ := List.forall_mem_cons.mp h
    exact hfirst.append (ih hrest)

theorem isBare_glob {name : String} (hname : name ∉ Text.keywords) :
    IsBare (word "mod" ++ word name ++ fixed "; pub use" ++ word name ++ fixed "::*;") := by
  have hend : fixed "::*;" = [.mark ':', .mark ':', .mark '*', .mark ';'] :=
    moduleTexts.fixed_eq [.inr ':', .inr ':', .inr '*', .inr ';'] rfl
  have hglob : word "mod" ++ word name ++ fixed "; pub use" ++ word name ++ fixed "::*;" =
      TypeItem.glob name := by
    rw [fixed_pubUse, hend]
    rfl
  have hsettle : settle (TypeItem.glob name) = TypeItem.glob name := rfl
  rw [hglob]
  constructor
  · rw [hsettle]
    exact TypeItem.yields_glob fun heq => hname (heq ▸ by decide)
  · have hne : "fn" ≠ name := fun heq => hname (heq ▸ by decide)
    have hnotMem : "fn" ∉ ["mod", name, "pub", "use", name] := by
      simp [hne]
    rw [hsettle]
    exact .of_notMem_words function?_readsAt hnotMem

theorem isBare_pub {c : Code} (h : IsBare c) : IsBare (word "pub" ++ c) where
  types := h.types.skip fun _ => rfl
  functions := h.functions.skip fun _ => rfl

/-- What the root file says of the files of types. -/
theorem isBare_of_typeFiles {files : List GeneratedFile} {items : Code}
    (h : typeFiles p a = .ok (files, items)) : IsBare items := by
  unfold typeFiles at h
  cases hlayout : p.layout with
  | perType =>
    rw [hlayout] at h
    obtain ⟨_, -, h⟩ := bind_eq_ok_iff.mp h
    obtain ⟨-, rfl⟩ := Prod.mk.inj (Except.ok.inj h)
    rw [List.flatMap_def]
    refine isBare_concat (List.forall_mem_map.mpr fun group hgroup => ?_)
    have hname : group.1 ∈ ["classes", "builtins"] :=
      a.typeGroups_sublist.mem (List.mem_map_of_mem hgroup)
    have hkeywords : ∀ name ∈ ["classes", "builtins"], name ∉ Text.keywords := by decide
    have hglob := isBare_pub (isBare_glob (hkeywords _ hname))
    rw [fixed_pubMod]
    exact hglob
  | buckets =>
    rw [hlayout] at h
    obtain ⟨_, -, h⟩ := bind_eq_ok_iff.mp h
    obtain ⟨declarations, hdeclarations, h⟩ := bind_eq_ok_iff.mp h
    obtain ⟨-, rfl⟩ := Prod.mk.inj (Except.ok.inj h)
    refine isBare_concat fun c hc => ?_
    obtain ⟨letter, -, hletter⟩ := exists_of_mem_mapM hdeclarations hc
    obtain ⟨_, hstem, hletter⟩ := bind_eq_ok_iff.mp hletter
    obtain ⟨stem, hident, rfl⟩ := map_eq_ok_iff.mp hstem
    have hmod : fixed "mod" = word "mod" := moduleTexts.fixed_eq [.inl "mod"] rfl
    rw [← Except.ok.inj hletter, hmod]
    exact isBare_glob (notMem_keywords_of_ident hident)

theorem isBare_coreDefs : IsBare (fixed "pub mod core_defs; pub use core_defs::*;") := by
  have hkeyword : "core_defs" ∉ Text.keywords := by decide
  have hglob := isBare_pub (isBare_glob hkeyword)
  have hend : fixed "::*;" = [.mark ':', .mark ':', .mark '*', .mark ';'] :=
    moduleTexts.fixed_eq [.inr ':', .inr ':', .inr '*', .inr ';'] rfl
  have hwhole : fixed "pub mod core_defs; pub use core_defs::*;" = _ := moduleTexts.fixed_eq
    [.inl "pub", .inl "mod", .inl "core_defs", .inr ';', .inl "pub", .inl "use", .inl "core_defs",
      .inr ':', .inr ':', .inr '*', .inr ';'] rfl
  rw [fixed_pubUse, hend] at hglob
  rw [hwhole]
  exact hglob

/-- The startup functions start with their documentation. -/
theorem exists_settle_entry (u : EntryUnit) : ∃ tail, settle u.code = .mark '#' :: tail := by
  have hmark : fixed "#" = [.mark '#'] := eq_map_ofLeaf [.inr '#'] (by decide +kernel)
  rw [EntryUnit.code, Marshal.doc, hmark]
  simp only [List.append_assoc, List.singleton_append]
  exact ⟨_, rfl⟩

theorem yields_entry (u : EntryUnit) : Yields TypeItem.read? (settle u.code) [] := by
  refine Yields.of_notMem_words TypeItem.read?_readsAt ?_
  rw [words_settle]
  exact notMem_entry u

/-- The declaration of the global functions shows none of them. -/
theorem yields_utility (u : EntryUnit) :
    Yields TypeItem.read? (settle (fixed "pub mod utility;" ++ u.code)) [] := by
  have hwhole : fixed "pub mod utility;" = [.word "pub", .word "mod", .word "utility", .mark ';'] :=
    moduleTexts.fixed_eq [.inl "pub", .inl "mod", .inl "utility", .inr ';'] rfl
  obtain ⟨tail, htail⟩ := exists_settle_entry u
  have hentry := yields_entry u
  have hnone (rest : Code) : TypeItem.read? (.word "mod" :: .word "utility" :: .mark ';' ::
      (settle u.code ++ rest)) = none := by
    rw [htail]
    rfl
  rw [hwhole, settle_append]
  have hafter : Yields TypeItem.read? (.word "utility" :: .mark ';' :: settle u.code) [] :=
    (hentry.skip fun _ => rfl).skip fun _ => rfl
  exact (hafter.skip hnone).skip fun _ => rfl

theorem yields_moduleItems :
    Yields TypeItem.read? (settle (a.moduleItems ++ a.entry.code)) [] := by
  have hentry := yields_entry a.entry
  have hutility := yields_utility a.entry
  have hcoreDefs := isBare_coreDefs.types
  rw [moduleItems]
  cases a.enums? with
  | none =>
    cases a.utility? with
    | none => exact hentry
    | some units => exact hutility
  | some enums =>
    rw [List.append_assoc, settle_append]
    cases a.utility? with
    | none => exact hcoreDefs.append hentry
    | some units => exact hcoreDefs.append hutility

theorem functions_moduleItems : Yields function? (settle a.moduleItems) [] := by
  have hutility : Yields function? (settle (fixed "pub mod utility;")) [] := by
    refine .of_notMem_words function?_readsAt ?_
    rw [words_settle, moduleTexts.words_fixed
      [.inl "pub", .inl "mod", .inl "utility", .inr ';'] rfl]
    decide
  have hcoreDefs := isBare_coreDefs.functions
  rw [moduleItems, settle_append]
  cases a.enums? with
  | none =>
    cases a.utility? with
    | none => exact isBare_nil.functions
    | some units => exact hutility
  | some enums =>
    cases a.utility? with
    | none => exact hcoreDefs.append isBare_nil.functions
    | some units => exact hcoreDefs.append hutility

/-- The root file of a module has no types, and no functions besides those that start it. -/
structure IsRootFile (s : Schema) (p : ModulePlan) (a : AssembledModule) (f : GeneratedFile) :
    Prop where
  path_eq : f.path = join p.module "mod.rs"
  head_eq : f.head = rootHead s p
  types_eq : f.types = []
  functions_eq : functions f.code = functions (settle a.entry.code)
  code_eq : ∃ items, IsBare items ∧ f.code = settle items ++ settle (a.moduleItems ++ a.entry.code)

theorem isRootFile_rootFile {items : Code} (hitems : IsBare items) :
    IsRootFile s p a (rootFile s p a items).settled where
  path_eq := by rw [GeneratedFile.settled, rootFile]
  head_eq := by rw [GeneratedFile.settled, rootFile]
  types_eq := by
    have hall := hitems.types.append (yields_moduleItems (a := a))
    rw [← settle_append, ← List.append_assoc] at hall
    rw [GeneratedFile.types, GeneratedFile.settled, rootFile]
    exact hall.readAll_eq
  functions_eq := by
    have hall := hitems.functions.append (functions_moduleItems (a := a))
    rw [← settle_append] at hall
    rw [GeneratedFile.settled, rootFile, settle_append, functions, hall, List.append_nil,
      List.nil_append]
  code_eq := by
    refine ⟨items, hitems, ?_⟩
    rw [GeneratedFile.settled, rootFile, List.append_assoc, settle_append]

/-- The files of the enumerations and the global functions. -/
def engineFiles (p : ModulePlan) (a : AssembledModule) : List GeneratedFile :=
  (enumFiles p a ++ utilityFiles p a).map GeneratedFile.settled

theorem engineFiles_paths (p : ModulePlan) (a : AssembledModule) :
    ((engineFiles p a).map GeneratedFile.path).Sublist
      [join p.module "core_defs.rs", join p.module "utility.rs"] := by
  unfold engineFiles enumFiles utilityFiles
  cases a.enums? <;> cases a.utility? <;> simp [GeneratedFile.settled]

end AssembledModule

open AssembledModule in
/-- The files of a module: those of its types, those of enumerations and global functions, and the
root file. -/
theorem ModulePlan.sections_of_assemble {s : Schema} {p : ModulePlan} {levels : LevelAssignment}
    {foundational : String} {files : List GeneratedFile}
    (h : p.assemble s levels foundational = .ok files) :
    ∃ a, ofPlan s p levels foundational = .ok a ∧
      (∀ t ∈ a.classModules ++ a.builtinModules, t.HasIdents) ∧
      ∃ typeFiles root, files = typeFiles ++ engineFiles p a ++ [root] ∧
        p.layout.Holds p.module a.classEntries a.builtinEntries typeFiles ∧
        IsRootFile s p a root := by
  obtain ⟨a, ha, h⟩ := bind_eq_ok_iff.mp h
  obtain ⟨found, hfound, h⟩ := bind_eq_ok_iff.mp h
  obtain rfl := Except.ok.inj h
  rw [files_eq] at hfound
  obtain ⟨⟨types, items⟩, htypes, rfl⟩ := map_eq_ok_iff.mp hfound
  obtain ⟨hidents, hholds⟩ := holds_of_typeFiles htypes
  have hroot := isRootFile_rootFile (s := s) (p := p) (a := a) (isBare_of_typeFiles htypes)
  refine ⟨a, ha, hidents, types.map GeneratedFile.settled, _, ?_, hholds, hroot⟩
  rw [engineFiles, List.append_assoc types, List.map_append, List.map_append, List.map_singleton]

end EngineBindings
