import EngineBindings.Proofs.Bindings.Outline

/-!
# Types in generated files

A type is in a module of its own, which shows one name outside of it.  Such a module stands in the
code, or in a file of its own, and `TypeItem.read?` reads both.
`AssembledModule.holds_of_typeFiles` says for each layout which types are in which file.
-/

namespace EngineBindings

open FilePath Naming Code Documentation

/-! ## Modules that show a name -/

/-- A module that shows one name outside of it.  It has code, or a file of its own. -/
structure TypeItem where
  module : String
  inner? : Option Code
  exported : String

namespace TypeItem

/-- A module is declared, and what it shows is used. -/
def tokens (i : TypeItem) : Code :=
  [.word "mod", .word i.module, i.inner?.elim (.mark ';') (.group .brace), .word "pub",
    .word "use", .word i.module, .mark ':', .mark ':', .word i.exported, .mark ';']

/-- What stands in a module, if a token ends its declaration. -/
def innerOf? : Token → Option (Option Code)
  | .mark ';' => some none
  | .group .brace inner => some (some inner)
  | _ => none

/-- A name that is used from a module. -/
def export? : Code → Option (String × String)
  | .word "pub" :: .word "use" :: .word module :: .mark ':' :: .mark ':' :: .word exported ::
      .mark ';' :: _ => some (module, exported)
  | _ => none

/-- The declaration of a module all of which is used. -/
def glob (module : String) : Code :=
  [.word "mod", .word module, .mark ';', .word "pub", .word "use", .word module, .mark ':',
    .mark ':', .mark '*', .mark ';']

/-- The module that code starts with, if it shows one name. -/
def read? : Code → Option TypeItem
  | .word "mod" :: .word module :: token :: rest => do
    let inner? ← innerOf? token
    let (shown, exported) ← export? rest
    if shown = module then some ⟨module, inner?, exported⟩ else none
  | _ => none

theorem read?_tokens (i : TypeItem) (rest : Code) : read? (i.tokens ++ rest) = some i := by
  have hinner : innerOf? (i.inner?.elim (.mark ';') (.group .brace)) = some i.inner? := by
    cases i.inner? <;> rfl
  simp [tokens, read?, hinner, export?]

theorem read?_readsAt : ReadsAt read? ["mod"] := by
  intro c found h
  unfold read? at h
  split at h
  · exact ⟨_, List.mem_cons_self, rfl⟩
  · cases h

/-- A module is found where it stands, and nothing is found in its tokens besides. -/
theorem yields_tokens {i : TypeItem} (hmodule : i.module ≠ "mod") (hexported : i.exported ≠ "mod") :
    Yields read? i.tokens [i] := by
  have hwords : words i.tokens.tail = [i.module, "pub", "use", i.module, i.exported] := by
    unfold tokens
    cases i.inner? <;> rfl
  have htail : Yields read? i.tokens.tail [] := by
    refine Yields.of_notMem_words read?_readsAt ?_
    simp [hwords, hmodule.symm, hexported.symm]
  exact htail.cons fun rest => read?_tokens i rest

/-- Where all of a module is used, it shows no name of its own. -/
theorem yields_glob {module : String} (hmodule : module ≠ "mod") :
    Yields read? (glob module) [] := by
  have hwords : words (glob module).tail = [module, "pub", "use", module] := rfl
  have htail : Yields read? (glob module).tail [] := by
    refine Yields.of_notMem_words read?_readsAt ?_
    simp [hwords, hmodule.symm]
  refine htail.skip fun rest => ?_
  simp [glob, read?, innerOf?, export?]

end TypeItem

/-- The modules with types that a file has or declares. -/
def GeneratedFile.types (f : GeneratedFile) : List TypeItem :=
  readAll TypeItem.read? f.code

/-! ## Types in files -/

/-- A type with the module that it has in the files of a layout. -/
structure TypeEntry where
  /-- The name by which the type finds its file. -/
  name : String
  /-- The identifier of the module. -/
  module : String
  /-- The identifier that is shown outside of the module. -/
  exported : String
  /-- What stands in the module. -/
  code : Code

namespace TypeEntry

/-- The type in a file of its own. -/
def file (directory : String) (t : TypeEntry) : GeneratedFile :=
  ⟨join directory (moduleName t.name ++ ".rs"), "", t.code⟩

/-- The declaration of a type in a file of its own. -/
def declared (t : TypeEntry) : TypeItem :=
  ⟨t.module, none, t.exported⟩

/-- The type in a file with other ones. -/
def inlined (t : TypeEntry) : TypeItem :=
  ⟨t.module, some t.code, t.exported⟩

/-- Whether a type can be told from what stands around it. -/
structure IsReadable (t : TypeEntry) : Prop where
  module_ne : t.module ≠ "mod"
  exported_ne : t.exported ≠ "mod"

variable {t : TypeEntry}

theorem IsReadable.yields_declared (h : t.IsReadable) :
    Yields TypeItem.read? (.word "pub" :: t.declared.tokens) [t.declared] :=
  (TypeItem.yields_tokens h.module_ne h.exported_ne).skip fun _ => rfl

theorem IsReadable.yields_inlined (h : t.IsReadable) :
    Yields TypeItem.read? (.word "pub" :: t.inlined.tokens) [t.inlined] :=
  (TypeItem.yields_tokens h.module_ne h.exported_ne).skip fun _ => rfl

end TypeEntry

/-- The files of a directory: one for each type, and the root file, which declares them in order.
Without types there is no directory. -/
inductive TypeDirectory (directory : String) : List TypeEntry → List GeneratedFile → Prop where
  | none : TypeDirectory directory [] []
  | some {types : List TypeEntry} (root : GeneratedFile) (hne : types ≠ [])
      (hpath : root.path = join directory "mod.rs")
      (htypes : root.types = types.map TypeEntry.declared) :
      TypeDirectory directory types (types.map (TypeEntry.file directory) ++ [root])

/-- Whether files hold one type each, classes and builtin types in directories of their own. -/
def InDirectories (module : String) (classes builtins : List TypeEntry)
    (files : List GeneratedFile) : Prop :=
  ∃ classFiles builtinFiles, files = classFiles ++ builtinFiles ∧
    TypeDirectory (join module "classes") classes classFiles ∧
    TypeDirectory (join module "builtins") builtins builtinFiles

/-- Whether a file is the one of a letter, with the types that have this letter in order. -/
structure IsLetterFile (module : String) (types : List TypeEntry) (letter : Char)
    (f : GeneratedFile) : Prop where
  path_eq : f.path = join module (AssembledModule.letterStem module letter ++ ".rs")
  types_eq : f.types =
    (types.filter fun t => FileLayout.letterOf t.name == letter).map TypeEntry.inlined

/-- Whether files hold all types by their letters. -/
def InLetters (module : String) (types : List TypeEntry) (files : List GeneratedFile) : Prop :=
  List.Forall₂ (IsLetterFile module types) FileLayout.letters files

/-- Whether files hold types as a layout says. -/
def FileLayout.Holds (layout : FileLayout) (module : String) (classes builtins : List TypeEntry)
    (files : List GeneratedFile) : Prop :=
  match layout with
  | .perType => InDirectories module classes builtins files
  | .buckets => InLetters module (classes ++ builtins) files

/-! ## Letters -/

namespace FileLayout

theorem letters_nodup : letters.Nodup := by
  decide

/-- Whatever a name starts with, it has one of the letters. -/
theorem letterOf_mem_letters (name : String) : letterOf name ∈ letters := by
  have hupper : ∀ n < 123, (Char.ofNat n).isAlpha = true → (Char.ofNat n).toUpper ∈ letters := by
    decide +kernel
  unfold letterOf
  split
  · next c _ _ =>
    split
    · next halpha =>
      have hpoint : c.toNat < 123 := by
        have hcase : (c.isUpper || c.isLower) = true := halpha
        rcases Bool.or_eq_true_iff.mp hcase with hupper | hlower
        · have hhigh : c.toNat ≤ 90 := (of_decide_eq_true hupper).2
          omega
        · have hbounds : (decide (97 ≤ c.val) && decide (c.val ≤ 122)) = true := hlower
          have hhigh : c.toNat ≤ 122 := of_decide_eq_true (Bool.and_eq_true_iff.mp hbounds).2
          omega
      have hmem := hupper c.toNat hpoint
      rw [Char.ofNat_toNat] at hmem
      exact hmem halpha
    · decide
  · decide

end FileLayout

/-! ## Types of a module -/

/-- The identifier of a name. -/
def Naming.identOf (name : String) : String :=
  (ident name).toOption.getD name

theorem Naming.identOf_eq {name identifier : String} (h : ident name = .ok identifier) :
    identOf name = identifier := by
  rw [identOf, h]
  rfl

theorem Naming.identCode_eq {name : String} {c : Code} (h : identCode name = .ok c) :
    ident name = .ok (identOf name) ∧ c = word (identOf name) := by
  obtain ⟨identifier, hidentifier, rfl⟩ := map_eq_ok_iff.mp h
  rw [identOf_eq hidentifier]
  exact ⟨hidentifier, rfl⟩

namespace AssembledModule

/-- A type as the files of its module have it. -/
def TypeModule.entry (t : TypeModule) : TypeEntry :=
  ⟨t.name, identOf t.module, identOf t.exported, settle (useParent ++ t.body)⟩

theorem TypeModule.entry_module (t : TypeModule) : t.entry.module = identOf t.module := by
  rw [entry]

theorem TypeModule.entry_exported (t : TypeModule) : t.entry.exported = identOf t.exported := by
  rw [entry]

theorem TypeModule.entry_code (t : TypeModule) : t.entry.code = settle (useParent ++ t.body) := by
  rw [entry]

/-- Whether the names of a type have identifiers. -/
structure TypeModule.HasIdents (t : TypeModule) : Prop where
  module_eq : ident t.module = .ok t.entry.module
  exported_eq : ident t.exported = .ok t.entry.exported

theorem TypeModule.HasIdents.isReadable {t : TypeModule} (h : t.HasIdents) :
    t.entry.IsReadable where
  module_ne heq := notMem_keywords_of_ident h.module_eq (heq ▸ by decide)
  exported_ne heq := notMem_keywords_of_ident h.exported_eq (heq ▸ by decide)

variable {t : TypeModule} {c : Code}

theorem exportCode_eq (h : exportCode t = .ok c) :
    t.HasIdents ∧ c = [.word "pub", .word "use", .word t.entry.module, .mark ':', .mark ':',
      .word t.entry.exported, .mark ';'] := by
  obtain ⟨_, hmoduleCode, h⟩ := bind_eq_ok_iff.mp h
  obtain ⟨_, hexportedCode, h⟩ := bind_eq_ok_iff.mp h
  obtain ⟨hmodule, rfl⟩ := identCode_eq hmoduleCode
  obtain ⟨hexported, rfl⟩ := identCode_eq hexportedCode
  rw [← t.entry_module] at hmodule
  rw [← t.entry_exported] at hexported
  have huse : fixed "pub use" = [.word "pub", .word "use"] :=
    moduleTexts.fixed_eq [.inl "pub", .inl "use"] rfl
  have hpath : fixed "::" = [.mark ':', .mark ':'] := moduleTexts.fixed_eq [.inr ':', .inr ':'] rfl
  have hend : fixed ";" = [.mark ';'] := moduleTexts.fixed_eq [.inr ';'] rfl
  refine ⟨⟨hmodule, hexported⟩, ?_⟩
  rw [← Except.ok.inj h, huse, hpath, hend, t.entry_module, t.entry_exported]
  rfl

/-- The declaration of a type is read from its code. -/
theorem yields_declaration (h : declaration t = .ok c) :
    t.HasIdents ∧ Yields TypeItem.read? (settle c) [t.entry.declared] := by
  obtain ⟨_, hmoduleCode, h⟩ := bind_eq_ok_iff.mp h
  obtain ⟨_, hexport, h⟩ := bind_eq_ok_iff.mp h
  obtain ⟨hidents, rfl⟩ := exportCode_eq hexport
  obtain ⟨-, rfl⟩ := identCode_eq hmoduleCode
  have hend : fixed ";" = [.mark ';'] := moduleTexts.fixed_eq [.inr ';'] rfl
  have hreadable := hidents.isReadable
  refine ⟨hidents, ?_⟩
  rw [← Except.ok.inj h, fixed_pubMod, hend, ← t.entry_module]
  generalize t.entry = e at hreadable ⊢
  exact hreadable.yields_declared

/-- A type in a file with other ones is read from its code. -/
theorem yields_inline (h : inline t = .ok c) :
    t.HasIdents ∧ Yields TypeItem.read? (settle c) [t.entry.inlined] := by
  obtain ⟨_, hmoduleCode, h⟩ := bind_eq_ok_iff.mp h
  obtain ⟨_, hexport, h⟩ := bind_eq_ok_iff.mp h
  obtain ⟨hidents, rfl⟩ := exportCode_eq hexport
  obtain ⟨-, rfl⟩ := identCode_eq hmoduleCode
  have hreadable := hidents.isReadable
  refine ⟨hidents, ?_⟩
  rw [← Except.ok.inj h, fixed_pubMod, settle_append, settle_append, settle_brace, ← t.entry_module,
    ← t.entry_code]
  generalize t.entry = e at hreadable ⊢
  exact hreadable.yields_inlined

/-! ## Layouts -/

variable {types : List TypeModule}

theorem yields_concat {items : List Code} {found : TypeModule → TypeItem}
    (h : List.Forall₂ (fun t c => t.HasIdents ∧ Yields TypeItem.read? (settle c) [found t])
      types items) :
    (∀ t ∈ types, t.HasIdents) ∧
      Yields TypeItem.read? (settle (Code.concat items)) (types.map found) := by
  induction h with
  | nil => exact ⟨nofun, fun _ => rfl⟩
  | cons hfirst _ ih =>
    refine ⟨List.forall_mem_cons.mpr ⟨hfirst.1, ih.1⟩, ?_⟩
    rw [Code.concat, List.flatten_cons, settle_append]
    exact hfirst.2.append ih.2

theorem yields_useParent : Yields TypeItem.read? (settle useParent) [] := by
  refine Yields.of_notMem_words TypeItem.read?_readsAt ?_
  rw [words_settle]
  exact notMem_fixed rfl

theorem typeDirectory_of_directoryFiles {directory : String} {files : List GeneratedFile}
    (hne : types ≠ []) (h : directoryFiles directory types = .ok files) :
    (∀ t ∈ types, t.HasIdents) ∧
      TypeDirectory directory (types.map TypeModule.entry) (files.map GeneratedFile.settled) := by
  obtain ⟨declarations, hdeclarations, h⟩ := bind_eq_ok_iff.mp h
  obtain rfl := Except.ok.inj h
  obtain ⟨hidents, hyields⟩ := yields_concat
    (forall₂_of_mapM_eq_ok hdeclarations fun _ _ _ hc => yields_declaration hc)
  refine ⟨hidents, ?_⟩
  have hfiles : (types.map fun t => (⟨join directory (t.module ++ ".rs"), "",
      useParent ++ t.body⟩ : GeneratedFile)).map GeneratedFile.settled =
        (types.map TypeModule.entry).map (TypeEntry.file directory) := by
    rw [List.map_map, List.map_map]
    refine List.map_congr_left fun t _ => ?_
    rw [Function.comp, Function.comp, GeneratedFile.settled, TypeEntry.file, t.entry_code]
    rfl
  rw [List.map_append, hfiles, List.map_singleton]
  refine .some _ (mt List.map_eq_nil_iff.mp hne) rfl ?_
  rw [GeneratedFile.types, GeneratedFile.settled, settle_append, List.map_map]
  exact (yields_useParent.append hyields).readAll_eq

theorem isLetterFile_of_letterFile {module : String} {letter : Char} {f : GeneratedFile}
    (h : letterFile module types letter = .ok f) :
    (∀ t ∈ types, FileLayout.letterOf t.name = letter → t.HasIdents) ∧
      IsLetterFile module (types.map TypeModule.entry) letter f.settled := by
  obtain ⟨inlined, hinlined, h⟩ := bind_eq_ok_iff.mp h
  obtain rfl := Except.ok.inj h
  obtain ⟨hidents, hyields⟩ := yields_concat
    (forall₂_of_mapM_eq_ok hinlined fun _ _ _ hc => yields_inline hc)
  refine ⟨fun t ht hletter => ?_, rfl, ?_⟩
  · exact hidents t (List.mem_filter.mpr ⟨ht, beq_iff_eq.mpr hletter⟩)
  · rw [GeneratedFile.types, GeneratedFile.settled, settle_append, List.filter_map, List.map_map]
    exact (yields_useParent.append hyields).readAll_eq

/-- Groups without types have no directories. -/
theorem typeDirectories_of_mapM {root : String} {groups : List (String × List TypeModule)}
    {found : List (List GeneratedFile)}
    (h : ((groups.filter fun group => !group.2.isEmpty).mapM fun (name, types) =>
      directoryFiles (join root name) types) = .ok found) :
    ∃ directories : List (List GeneratedFile),
      found.flatten.map GeneratedFile.settled = directories.flatten ∧
      List.Forall₂ (fun group files => (∀ t ∈ group.2, t.HasIdents) ∧
        TypeDirectory (join root group.1) (group.2.map TypeModule.entry) files)
          groups directories := by
  induction groups generalizing found with
  | nil =>
    obtain rfl := Except.ok.inj h
    exact ⟨[], rfl, .nil⟩
  | cons group groups ih =>
    obtain ⟨name, types⟩ := group
    rw [List.filter_cons] at h
    cases types with
    | nil =>
      obtain ⟨directories, hflatten, hall⟩ := ih h
      exact ⟨[] :: directories, hflatten, .cons ⟨nofun, .none⟩ hall⟩
    | cons t types =>
      have htypes : (!(t :: types).isEmpty) = true := rfl
      rw [if_pos htypes, List.mapM_cons] at h
      obtain ⟨files, hfiles, h⟩ := bind_eq_ok_iff.mp h
      obtain ⟨others, hothers, h⟩ := bind_eq_ok_iff.mp h
      obtain rfl := Except.ok.inj h
      obtain ⟨directories, hflatten, hall⟩ := ih hothers
      refine ⟨files.map GeneratedFile.settled :: directories, ?_, .cons ?_ hall⟩
      · rw [List.flatten_cons, List.map_append, hflatten, List.flatten_cons]
      · exact typeDirectory_of_directoryFiles (List.cons_ne_nil t types) hfiles

variable (a : AssembledModule) {s : Schema} {p : ModulePlan}

/-- The classes as the files of the module have them. -/
def classEntries : List TypeEntry :=
  a.classModules.map TypeModule.entry

/-- The builtin types as the files of the module have them. -/
def builtinEntries : List TypeEntry :=
  a.builtinModules.map TypeModule.entry

variable {a}

theorem inDirectories_of_perTypeFiles {module : String} {files : List GeneratedFile} {items : Code}
    (h : perTypeFiles module a = .ok (files, items)) :
    (∀ t ∈ a.classModules ++ a.builtinModules, t.HasIdents) ∧
      InDirectories module a.classEntries a.builtinEntries (files.map GeneratedFile.settled) := by
  obtain ⟨found, hfound, h⟩ := bind_eq_ok_iff.mp h
  obtain ⟨rfl, -⟩ := Prod.mk.inj (Except.ok.inj h)
  obtain ⟨directories, hflatten, hall⟩ := typeDirectories_of_mapM hfound
  cases hall with
  | cons hclasses hall =>
    cases hall with
    | cons hbuiltins hall =>
      cases hall
      refine ⟨List.forall_mem_append.mpr ⟨hclasses.1, hbuiltins.1⟩, _, _, ?_, hclasses.2,
        hbuiltins.2⟩
      rw [hflatten, List.flatten_cons, List.flatten_cons, List.flatten_nil, List.append_nil]

theorem inLetters_of_letterFiles {module : String} {files : List GeneratedFile} {items : Code}
    (h : letterFiles module a = .ok (files, items)) :
    (∀ t ∈ a.classModules ++ a.builtinModules, t.HasIdents) ∧
      InLetters module (a.classEntries ++ a.builtinEntries) (files.map GeneratedFile.settled) := by
  obtain ⟨found, hfound, h⟩ := bind_eq_ok_iff.mp h
  obtain ⟨_, -, h⟩ := bind_eq_ok_iff.mp h
  obtain ⟨rfl, -⟩ := Prod.mk.inj (Except.ok.inj h)
  constructor
  · intro t ht
    obtain ⟨f, -, hf⟩ := exists_of_mapM_eq_ok hfound (FileLayout.letterOf_mem_letters t.name)
    exact (isLetterFile_of_letterFile hf).1 t ht rfl
  · rw [InLetters, List.forall₂_map_right_iff, classEntries, builtinEntries, ← List.map_append]
    exact forall₂_of_mapM_eq_ok hfound fun _ _ _ hf => (isLetterFile_of_letterFile hf).2

theorem holds_of_typeFiles {files : List GeneratedFile} {items : Code}
    (h : typeFiles p a = .ok (files, items)) :
    (∀ t ∈ a.classModules ++ a.builtinModules, t.HasIdents) ∧
      p.layout.Holds p.module a.classEntries a.builtinEntries
        (files.map GeneratedFile.settled) := by
  unfold typeFiles at h
  unfold FileLayout.Holds
  cases hlayout : p.layout with
  | perType =>
    rw [hlayout] at h
    exact inDirectories_of_perTypeFiles h
  | buckets =>
    rw [hlayout] at h
    exact inLetters_of_letterFiles h

end AssembledModule

end EngineBindings
