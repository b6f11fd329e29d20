import EngineBindings.Proofs.Bindings.Assembly
import EngineBindings.Proofs.File.Writes
import EngineBindings.Proofs.Module.NameList

/-!
# Where the files of a module are

Every file that is generated for a module is in the directory of that module
(`ModulePlan.inModule_of_assemble`), and what is generated depends on what the plan generates and
may refer to, and not on the modules behind it (`ModulePlan.assemble_with`).
-/

namespace EngineBindings

open FilePath Naming

/-- Whether a path leads to something in the directory of a module. -/
def InModule (module path : String) : Prop :=
  ∃ rest, LeadsDown rest ∧ path = Text.join "/" (module :: rest)

/-- A generated file by the names that lead to it. -/
def GeneratedFile.placement (f : GeneratedFile) : Placement :=
  (Text.splitAt '/' f.path, f.contents)

theorem GeneratedFile.below_placement (base : String) (f : GeneratedFile) :
    below base f.placement.1 = join base f.path := by
  rw [below, placement, Text.join_splitAt rfl]

/-- Generated files are written one after another. -/
theorem exists_writeGenerated_iff {directory : String} {t t' : FileTree}
    {files : List GeneratedFile} (report : WriteReport) :
    (∃ r, writeGenerated directory t report files = (t', .ok r)) ↔
      Writes directory t (files.map GeneratedFile.placement) t' := by
  induction files generalizing t report with
  | nil =>
    constructor
    · rintro ⟨n, h⟩
      obtain ⟨rfl, -⟩ := Prod.mk.inj h
      exact .nil t
    · rintro ⟨⟩
      exact ⟨report, rfl⟩
  | cons file rest ih =>
    rw [List.map_cons]
    unfold writeGenerated
    dsimp only
    rw [← file.below_placement directory]
    constructor
    · rintro ⟨n, h⟩
      split at h
      · cases h
      · next hwrite => exact .cons hwrite ((ih _).mp ⟨n, h⟩)
      · next hwrite => exact .cons hwrite ((ih _).mp ⟨n, h⟩)
    · rintro ⟨⟩
      next t₁ changed hwrite hrest =>
      have hwrite : t.writeIfChanged (below directory file.placement.1) file.contents =
        (t₁, .ok changed) := hwrite
      rw [hwrite]
      cases changed <;> exact (ih _).mpr hrest

section InModule

variable {module : String} (hmodule : IsFileName module)

include hmodule

theorem below_eq_join {rest : List String} (hrest : LeadsDown rest) :
    below module rest = Text.join "/" (module :: rest) := by
  have h := join_below "" (leadsDown_singleton hmodule) hrest
  rwa [below_empty, below_empty, Text.join, List.singleton_append] at h

theorem splitAt_below {rest : List String} (hrest : LeadsDown rest) :
    Text.splitAt '/' (below module rest) = module :: rest := by
  rw [below_eq_join hmodule hrest]
  have hdown := (leadsDown_singleton hmodule).append hrest
  exact Text.splitAt_join rfl (List.cons_ne_nil _ _) fun name hname => (hdown.named name hname).whole

theorem inModule_below {rest : List String} (hrest : LeadsDown rest) :
    InModule module (below module rest) :=
  ⟨rest, hrest, below_eq_join hmodule hrest⟩

theorem inModule_join {name : String} (hname : IsFileName name) :
    InModule module (join module name) := by
  rw [← below_singleton]
  exact inModule_below hmodule (leadsDown_singleton hname)

theorem inModule_join_join {directory name : String} (hdirectory : IsFileName directory)
    (hname : IsFileName name) : InModule module (join (join module directory) name) := by
  rw [join_join hdirectory hname]
  exact inModule_below hmodule
    ((leadsDown_singleton hdirectory).append (leadsDown_singleton hname))

/-- A file in the directory of a module is found there by its names. -/
theorem InModule.placement {f : GeneratedFile} (h : InModule module f.path) :
    LeadsDown f.placement.1 ∧ f.placement.1.head? = some module := by
  obtain ⟨rest, hrest, hpath⟩ := h
  have hnames : f.placement.1 = module :: rest := by
    rw [GeneratedFile.placement, hpath, ← below_eq_join hmodule hrest, splitAt_below hmodule hrest]
  rw [hnames]
  exact ⟨(leadsDown_singleton hmodule).append hrest, rfl⟩

end InModule

namespace AssembledModule

/-! ## The files of a layout -/

theorem isFileName_source {stem identifier : String} (h : ident stem = .ok identifier) :
    IsFileName (stem ++ ".rs") :=
  isFileName_append (isStem_of_plain (plain_of_ident h)) (by decide) (by decide) (by decide)

theorem isFileName_root : IsFileName "mod.rs" := by
  decide

theorem exists_ident {name : String} {code : Code} (h : identCode name = .ok code) :
    ∃ identifier, ident name = .ok identifier := by
  cases hident : ident name with
  | ok identifier => exact ⟨identifier, rfl⟩
  | error e => rw [identCode, hident] at h; cases h

variable {s : Schema} {p : ModulePlan} {a : AssembledModule} {module : String}

theorem inModule_of_directoryFiles (hmodule : IsFileName module) {name : String}
    (hname : IsFileName name) {types : List TypeModule} {files : List GeneratedFile}
    (h : directoryFiles (join module name) types = .ok files) :
    ∀ f ∈ files, InModule module f.path := by
  obtain ⟨declarations, hdeclarations, h⟩ := bind_eq_ok_iff.mp h
  obtain rfl := Except.ok.inj h
  intro f hf
  rcases List.mem_append.mp hf with hf | hf
  · obtain ⟨t, ht, rfl⟩ := List.mem_map.mp hf
    obtain ⟨_, -, hdeclaration⟩ := exists_of_mapM_eq_ok hdeclarations ht
    obtain ⟨_, hcode, -⟩ := bind_eq_ok_iff.mp hdeclaration
    obtain ⟨_, hident⟩ := exists_ident hcode
    exact inModule_join_join hmodule hname (isFileName_source hident)
  · obtain rfl := List.mem_singleton.mp hf
    exact inModule_join_join hmodule hname isFileName_root

theorem inModule_of_perTypeFiles (hmodule : IsFileName module) {files : List GeneratedFile}
    {items : Code} (h : perTypeFiles module a = .ok (files, items)) :
    ∀ f ∈ files, InModule module f.path := by
  obtain ⟨groups, hgroups, h⟩ := bind_eq_ok_iff.mp h
  obtain ⟨rfl, -⟩ := Prod.mk.inj (Except.ok.inj h)
  intro f hf
  obtain ⟨group, hgroup, hf⟩ := List.mem_flatten.mp hf
  obtain ⟨⟨name, types⟩, hname, hfiles⟩ := exists_of_mem_mapM hgroups hgroup
  have hname : IsFileName name := by
    rcases List.mem_cons.mp (List.mem_of_mem_filter hname) with heq | hmem
    · rw [(Prod.mk.inj heq).1]
      decide
    · rw [(Prod.mk.inj (List.mem_singleton.mp hmem)).1]
      decide
  exact inModule_of_directoryFiles hmodule hname hfiles f hf

theorem inModule_of_letterFiles (hmodule : IsFileName module) {files : List GeneratedFile}
    {items : Code} (h : letterFiles module a = .ok (files, items)) :
    ∀ f ∈ files, InModule module f.path := by
  obtain ⟨found, hfound, h⟩ := bind_eq_ok_iff.mp h
  obtain ⟨_, hitems, h⟩ := bind_eq_ok_iff.mp h
  obtain ⟨rfl, -⟩ := Prod.mk.inj (Except.ok.inj h)
  intro f hf
  obtain ⟨letter, hletter, hfile⟩ := exists_of_mem_mapM hfound hf
  obtain ⟨_, -, hitem⟩ := exists_of_mapM_eq_ok hitems hletter
  obtain ⟨_, hcode, -⟩ := bind_eq_ok_iff.mp hitem
  obtain ⟨_, hident⟩ := exists_ident hcode
  obtain ⟨_, -, hfile⟩ := bind_eq_ok_iff.mp hfile
  obtain rfl := Except.ok.inj hfile
  exact inModule_join hmodule (isFileName_source hident)

/-- The files of the classes and builtin types, and what the root file says of them. -/
def typeFiles (p : ModulePlan) (a : AssembledModule) : Emission (List GeneratedFile × Code) :=
  match p.layout with
  | .perType => perTypeFiles p.module a
  | .buckets => letterFiles p.module a

/-- The file of the enumerations, for a module that has some. -/
def enumFiles (p : ModulePlan) (a : AssembledModule) : List GeneratedFile :=
  match a.enums? with
  | none => []
  | some enums => [⟨join p.module "core_defs.rs", "", useParent ++ enums.flatMap EnumUnit.code⟩]

/-- The file of the global functions, for a module that has some. -/
def utilityFiles (p : ModulePlan) (a : AssembledModule) : List GeneratedFile :=
  match a.utility? with
  | none => []
  | some units => [⟨join p.module "utility.rs", "", UtilityUnit.moduleCode units⟩]

/-- What the root file says of the other files besides those of types. -/
def moduleItems (a : AssembledModule) : Code :=
  (match a.enums? with
    | none => []
    | some _ => Code.fixed "pub mod core_defs; pub use core_defs::*;") ++
  (match a.utility? with
    | none => []
    | some _ => Code.fixed "pub mod utility;")

/-- The root file of a module. -/
def rootFile (s : Schema) (p : ModulePlan) (a : AssembledModule) (typeItems : Code) :
    GeneratedFile :=
  ⟨join p.module "mod.rs", rootHead s p, typeItems ++ a.moduleItems ++ a.entry.code⟩

/-- What the files of a module are, the root file last. -/
theorem files_eq : AssembledModule.files s p a = (typeFiles p a).map fun found =>
    found.1 ++ enumFiles p a ++ utilityFiles p a ++ [rootFile s p a found.2] := by
  unfold AssembledModule.files typeFiles enumFiles utilityFiles rootFile moduleItems
  cases p.layout with
  | perType =>
    cases perTypeFiles p.module a <;> cases a.enums? <;> cases a.utility? <;>
      simp [pure, Except.pure, Except.map, bind, Except.bind]
  | buckets =>
    cases letterFiles p.module a <;> cases a.enums? <;> cases a.utility? <;>
      simp [pure, Except.pure, Except.map, bind, Except.bind]

theorem inModule_of_files (hmodule : IsFileName p.module) {files : List GeneratedFile}
    (h : AssembledModule.files s p a = .ok files) : ∀ f ∈ files, InModule p.module f.path := by
  rw [files_eq] at h
  obtain ⟨⟨types, items⟩, htypes, rfl⟩ := map_eq_ok_iff.mp h
  have hinTypes : ∀ f ∈ types, InModule p.module f.path := by
    unfold typeFiles at htypes
    split at htypes
    · exact inModule_of_perTypeFiles hmodule htypes
    · exact inModule_of_letterFiles hmodule htypes
  intro f hf
  simp only [List.mem_append, List.mem_singleton] at hf
  rcases hf with ((hf | hf) | hf) | rfl
  · exact hinTypes f hf
  · unfold enumFiles at hf
    split at hf
    · cases hf
    · rw [List.mem_singleton.mp hf]
      exact inModule_join hmodule (by decide)
  · unfold utilityFiles at hf
    split at hf
    · cases hf
    · rw [List.mem_singleton.mp hf]
      exact inModule_join hmodule (by decide)
  · exact inModule_join hmodule isFileName_root

end AssembledModule

namespace ModulePlan

variable {s : Schema} {levels : LevelAssignment} {foundational : String}

/-- The files of a module are in its directory. -/
theorem inModule_of_assemble {p : ModulePlan} (hmodule : IsFileName p.module)
    {files : List GeneratedFile} (h : p.assemble s levels foundational = .ok files) :
    ∀ f ∈ files, InModule p.module f.path := by
  obtain ⟨a, -, h⟩ := bind_eq_ok_iff.mp h
  obtain ⟨found, hfound, h⟩ := bind_eq_ok_iff.mp h
  obtain rfl := Except.ok.inj h
  intro f hf
  obtain ⟨g, hg, rfl⟩ := List.mem_map.mp hf
  exact AssembledModule.inModule_of_files hmodule hfound g hg

/-- Neither the modules that a module depends on nor whether it is the umbrella are seen in its
files. -/
theorem assemble_with (p : ModulePlan) (dependencies : List String) (isUmbrella : Bool) :
    { p with dependencies, isUmbrella }.assemble s levels foundational =
      p.assemble s levels foundational :=
  rfl

end ModulePlan

end EngineBindings
