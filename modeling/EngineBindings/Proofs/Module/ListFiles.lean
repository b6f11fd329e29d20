import EngineBindings.Proofs.File.Writes
import EngineBindings.Proofs.Module.NameList

/-!
# The files of name lists

The lists of a module are files that are called by the name of the module and an ending.  That name
may be any text, even one with slashes and dots in it; its files lie side by side in one directory,
where they are called by what follows its last slash (`exists_calledBy`).

Once lists were written, the last one that went to a file is there (`Writes.contents?_below`), and
all the files of a module have places, also those that were not written (`exists_located_lists`).
-/

namespace EngineBindings

open FilePath FileTree Naming

/-- Whether the lists of a plan consist of identifiers. -/
structure ModulePlan.ListsIdentifiers (p : ModulePlan) : Prop where
  classes : ∀ name ∈ p.generatedClasses, IsIdentifier name
  available : ∀ name ∈ p.availableClasses, IsIdentifier name
  builtins : ∀ name ∈ p.builtins, IsIdentifier name

instance (p : ModulePlan) : Decidable p.ListsIdentifiers :=
  decidable_of_iff
    ((∀ name ∈ p.generatedClasses, IsIdentifier name) ∧
      (∀ name ∈ p.availableClasses, IsIdentifier name) ∧ ∀ name ∈ p.builtins, IsIdentifier name)
    ⟨fun h => ⟨h.1, h.2.1, h.2.2⟩, fun h => ⟨h.classes, h.available, h.builtins⟩⟩

/-- Whether the lists of a plan repeat no name. -/
structure ModulePlan.RepeatsNothing (p : ModulePlan) : Prop where
  classes : p.generatedClasses.Nodup
  available : p.availableClasses.Nodup
  builtins : p.builtins.Nodup

instance (p : ModulePlan) : Decidable p.RepeatsNothing :=
  decidable_of_iff (p.generatedClasses.Nodup ∧ p.availableClasses.Nodup ∧ p.builtins.Nodup)
    ⟨fun h => ⟨h.1, h.2.1, h.2.2⟩, fun h => ⟨h.classes, h.available, h.builtins⟩⟩

namespace ModuleLists

variable {t t' : FileTree} {p : ModulePlan}

/-! ## Names of files -/

/-- Whether the files of a module are those that a stem names in a directory. -/
def CalledBy (directory module base stem : String) : Prop :=
  ∀ ending ∈ endings, join directory (module ++ ending) = join base (stem ++ ending)

theorem CalledBy.refl (directory module : String) : CalledBy directory module directory module :=
  fun _ _ => rfl

theorem isAbsolute_ending {stem ending : String} (hwhole : '/' ∉ stem.toList)
    (hending : ending ∈ endings) : isAbsolute (stem ++ ending) = false := by
  refine beq_false_of_ne fun hhead => ?_
  have hmem := List.mem_of_head? hhead
  rw [String.toList_append, List.mem_append] at hmem
  exact hmem.elim hwhole (ending_spec ending hending).2.2.1

/-- The stem is what follows the last slash. -/
theorem exists_calledBy (directory module : String) :
    ∃ base stem, '/' ∉ stem.toList ∧ CalledBy directory module base stem := by
  by_cases hslash : '/' ∈ module.toList
  · obtain ⟨back, front, hsplit, hback⟩ :=
      List.eq_append_cons_of_mem (List.mem_reverse.mpr hslash)
    have hmodule : module = String.ofList front.reverse ++ "/" ++ String.ofList back.reverse := by
      rw [← String.toList_inj, ← List.reverse_inj, hsplit]
      simp
    have hwhole : '/' ∉ (String.ofList back.reverse).toList := by
      rw [String.toList_ofList, List.mem_reverse]
      exact hback
    refine ⟨join directory (String.ofList front.reverse ++ "/"), String.ofList back.reverse, hwhole,
      fun ending hending => ?_⟩
    rw [hmodule, String.append_assoc]
    exact join_slash_append directory _ (isAbsolute_ending hwhole hending)
  · exact ⟨directory, module, hslash, CalledBy.refl directory module⟩

theorem lookup_classes (p : ModulePlan) :
    (contents p).lookup "-classes.txt" = some (NameList.render p.generatedClasses) :=
  rfl

theorem lookup_available (p : ModulePlan) :
    (contents p).lookup "-available-classes.txt" = some (NameList.render p.availableClasses) :=
  rfl

theorem lookup_builtins (p : ModulePlan) :
    (contents p).lookup "-builtins.txt" = some (NameList.render p.builtins) :=
  rfl

theorem lookup_preamble (p : ModulePlan) : (contents p).lookup "-preamble.txt" =
    if p.preamble.isEmpty then none else some p.preamble := by
  unfold contents
  split <;> rfl

/-- The files of a plan in a directory where a stem names them. -/
def listedAs (stem : String) (p : ModulePlan) : List Placement :=
  (contents p).map fun (ending, text) => ([stem ++ ending], text)

theorem filesOf_eq_listedAs {directory base stem : String}
    (h : CalledBy directory p.module base stem) :
    filesOf directory p = (listedAs stem p).map fun file => (below base file.1, file.2) := by
  rw [filesOf_eq, placements, listedAs, List.map_map, List.map_map]
  refine List.map_congr_left fun content hcontent => ?_
  have hending := (contents_sublist p).subset (List.mem_map_of_mem hcontent)
  simp only [Function.comp_apply, below_singleton, h content.1 hending]

theorem placed_listedAs {stem : String} (hstem : IsStem stem) : Placed (listedAs stem p) := by
  rintro file hfile
  obtain ⟨content, hcontent, rfl⟩ := List.mem_map.mp hfile
  have hending := (contents_sublist p).subset (List.mem_map_of_mem hcontent)
  exact leadsDown_singleton (isFileName_ending hstem hending)

theorem lookup_listedAs (stem ending : String) :
    (listedAs stem p).reverse.lookup [stem ++ ending] = (contents p).lookup ending := by
  have hinj : Function.Injective fun ending => [stem ++ ending] := fun _ _ heq =>
    (String.append_right_inj stem).mp (List.cons.inj heq).1
  have hkeys : ((listedAs stem p).map Prod.fst).Nodup := by
    have hmap : (listedAs stem p).map Prod.fst =
        ((contents p).map Prod.fst).map fun ending => [stem ++ ending] := by
      rw [listedAs, List.map_map, List.map_map]
      rfl
    rw [hmap]
    exact (contents_nodup p).map hinj
  have hreversed : ((listedAs stem p).reverse.map Prod.fst).Nodup := by
    rwa [List.map_reverse, List.nodup_reverse]
  refine Option.ext fun text => ?_
  rw [lookup_eq_some_iff_mem hreversed, List.mem_reverse, lookup_eq_some_iff_mem (contents_nodup p)]
  constructor
  · intro hfile
    obtain ⟨content, hcontent, heq⟩ := List.mem_map.mp hfile
    obtain ⟨hname, rfl⟩ := Prod.mk.inj heq
    rwa [← hinj hname]
  · exact fun hcontent => List.mem_map.mpr ⟨_, hcontent, rfl⟩

/-! ## Places -/

/-- Where the longest name of a file leads somewhere, so do the others. -/
theorem exists_located_lists {base stem text : String} {files : List Placement}
    (h : Writes base t files t') (hplaced : Placed files) (hstem : IsStem stem)
    (hfile : ([stem ++ "-available-classes.txt"], text) ∈ files) :
    ∃ l, t'.Located base l ∧
      (∀ file ∈ files, t'.locate (below base file.1) = .ok (l ++ file.1)) ∧
      ∀ ending ∈ endings,
        t'.locate (below base [stem ++ ending]) = .ok (l ++ [stem ++ ending]) := by
  obtain ⟨l, hbase, hlocate⟩ := h.exists_located_end hplaced (List.ne_nil_of_mem hfile)
  refine ⟨l, hbase, hlocate, fun ending hending => ?_⟩
  have hlongest := hlocate _ hfile
  have hdown : LeadsDown [stem ++ "-available-classes.txt"] := hplaced _ hfile
  have hfits : (below base [stem ++ "-available-classes.txt"]).utf8ByteSize ≤ pathLimit :=
    fits_of_locate hlongest
  have hlast : LeadsDown ([] ++ [stem ++ "-available-classes.txt"]) := hdown
  obtain ⟨-, -, hshort⟩ := locate_below_eq_ok hbase hlast hfits hlongest
  have hshort := hshort _ List.mem_cons_self
  have hle : ending.utf8ByteSize ≤ "-available-classes.txt".utf8ByteSize :=
    (by decide : ∀ ending ∈ endings, ending.utf8ByteSize ≤ "-available-classes.txt".utf8ByteSize)
      ending hending
  have hname := isFileName_ending hstem hending
  have hnames := leadsDown_singleton hname
  rw [below_eq_lead hdown, String.utf8ByteSize_append] at hfits
  simp only [Text.join, String.utf8ByteSize_append] at hfits hshort
  have hfits' : (below base [stem ++ ending]).utf8ByteSize ≤ pathLimit := by
    rw [below_eq_lead hnames, String.utf8ByteSize_append, Text.join, String.utf8ByteSize_append]
    omega
  have hshort' : ¬nameLimit < (stem ++ ending).utf8ByteSize := by
    rw [String.utf8ByteSize_append]
    omega
  rw [hbase.locate_below hnames hfits', List.foldlM_cons, step_of_directory hbase.directory hname,
    if_neg hshort']
  rfl

/-! ## Reading -/

theorem readList_of_read {path : String} {names : List String}
    (hread : t.read path = .ok (NameList.render names)) (hnames : ∀ name ∈ names, IsIdentifier name)
    (hnodup : names.Nodup) : readList t path = .ok names := by
  rw [readList, hread, Except.map, NameList.parse_render hnames, firstOccurrences_of_nodup hnodup]

/-- What is read as a preamble where there is some text, or none, perhaps for a directory. -/
def preambleFrom (text? : Option String) (isDirectory : Bool) : Except FileError String :=
  match text? with
  | some text => .ok text
  | none => if isDirectory then .error .isADirectory else .ok ""

theorem preambleFrom_eq_ok_iff {text? : Option String} {isDirectory : Bool} {preamble : String} :
    preambleFrom text? isDirectory = .ok preamble ↔
      text? = some preamble ∨ text? = none ∧ preamble = "" ∧ isDirectory = false := by
  cases text? with
  | some text => simp [preambleFrom]
  | none => cases isDirectory <;> simp [preambleFrom, eq_comm]

theorem readPreamble_of_locate {path : String} {place : Location} (h : t.locate path = .ok place) :
    readPreamble t path = preambleFrom (t.contents? place) (t.isDirectory path) := by
  unfold readPreamble preambleFrom contents? View.fileAt FileTree.isDirectory FileTree.read
  cases hentry : t.entry? place with
  | none =>
    rw [find_of_locate_none h hentry]
    rfl
  | some entry =>
    rw [find_of_locate h hentry]
    cases entry <;> rfl

theorem isDirectory_of_locate_ne {path : String} {place : Location} (h : t.locate path = .ok place)
    (hentry : t.entry? place ≠ some .directory) : t.isDirectory path = false := by
  unfold FileTree.isDirectory
  split
  · next hfind =>
    obtain ⟨l, hl, hfound⟩ := bind_eq_ok_iff.mp hfind
    obtain rfl := Except.ok.inj (h.symm.trans hl)
    split at hfound
    · next entry hsome => exact absurd (hsome.trans (congrArg some (Except.ok.inj hfound))) hentry
    · cases hfound
  · rfl

/-- The lists of a module are read once each of its files is. -/
theorem read_of_readList {directory module : String} {classes available builtins : List String}
    (hclasses : readList t (join directory (module ++ "-classes.txt")) = .ok classes)
    (havailable : readList t (join directory (module ++ "-available-classes.txt")) = .ok available)
    (hbuiltins : readList t (join directory (module ++ "-builtins.txt")) = .ok builtins) :
    read t directory module =
      (readPreamble t (join directory (module ++ "-preamble.txt"))).map fun preamble =>
        ⟨classes, available, builtins, preamble⟩ := by
  unfold read ModuleListPaths.inDirectory
  dsimp only
  rw [hclasses, havailable, hbuiltins]
  cases readPreamble t (join directory (module ++ "-preamble.txt")) <;> rfl

end ModuleLists

end EngineBindings
