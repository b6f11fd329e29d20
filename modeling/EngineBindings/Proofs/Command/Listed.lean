import EngineBindings.Proofs.Command.Run
import EngineBindings.Proofs.Module.Contents

/-!
# Plans that are read from name lists

Where all names are identifiers, the plans of a partition are written to name lists and read back as
they were: `planOfLists_eq` says so of the plan of any module in a directory that had no lists
before.  What a plan forgets on the way, its files do not show.
-/

namespace EngineBindings

open FilePath FileTree Naming

/-- Whether all names in modules are identifiers. -/
structure NamedByIdentifiers (modules : List ModuleDefinition) : Prop where
  module : ∀ m ∈ modules, IsIdentifier m.name
  classes : ∀ m ∈ modules, ∀ c ∈ m.nativeClasses, IsIdentifier c
  builtins : ∀ m ∈ modules, ∀ b ∈ m.builtins, IsIdentifier b

instance (modules : List ModuleDefinition) : Decidable (NamedByIdentifiers modules) :=
  decidable_of_iff
    ((∀ m ∈ modules, IsIdentifier m.name) ∧ (∀ m ∈ modules, ∀ c ∈ m.nativeClasses, IsIdentifier c) ∧
      ∀ m ∈ modules, ∀ b ∈ m.builtins, IsIdentifier b)
    ⟨fun h => ⟨h.1, h.2.1, h.2.2⟩, fun h => ⟨h.module, h.classes, h.builtins⟩⟩

/-! ## Plans of modules that are named by identifiers -/

/-- Whether all names in a plan are identifiers, and its lists are as a partition makes them. -/
structure IsListable (p : ModulePlan) : Prop where
  module : IsIdentifier p.module
  classes : ∀ c ∈ p.generatedClasses, IsIdentifier c
  available : ∀ c ∈ p.availableClasses, IsIdentifier c
  builtins : ∀ b ∈ p.builtins, IsIdentifier b
  classes_nodup : p.generatedClasses.Nodup
  builtins_nodup : p.builtins.Nodup
  available_eq : firstOccurrences (p.generatedClasses ++ p.availableClasses) = p.availableClasses

namespace Partition

variable {modules : List ModuleDefinition} {options : PartitionOptions}

theorem mem_of_mem_sources {isUmbrella : Bool} {m n : ModuleDefinition} {dependencies : List String}
    (hm : m ∈ modules) (hn : n ∈ sources modules isUmbrella m dependencies) : n ∈ modules := by
  unfold sources at hn
  split at hn
  · rcases List.mem_cons.mp hn with rfl | hn
    · exact hm
    · exact List.mem_of_mem_filter hn
  · exact List.mem_singleton.mp hn ▸ hm

theorem isListable_of_planOf (hnames : NamedByIdentifiers modules) {m : ModuleDefinition}
    (hm : m ∈ modules) {p : ModulePlan} (hp : planOf modules options m = .ok p) : IsListable p := by
  have hclasses : ∀ c ∈ p.generatedClasses, IsIdentifier c := by
    intro c hc
    rw [generatedClasses_eq hp, mem_firstOccurrences] at hc
    obtain ⟨n, hn, hc⟩ := List.mem_flatMap.mp hc
    exact hnames.classes n (mem_of_mem_sources hm hn) c hc
  constructor
  · rw [planOf_module hp]
    exact hnames.module m hm
  · exact hclasses
  · intro c hc
    rcases (mem_available_iff hp).mp hc with hc | ⟨d, -, n, hn, hc⟩
    · exact hclasses c hc
    · exact hnames.classes n (module?_name hn).1 c hc
  · intro b hb
    rw [builtins_eq hp, mem_firstOccurrences] at hb
    obtain ⟨n, hn, hb⟩ := List.mem_flatMap.mp hb
    exact hnames.builtins n (mem_of_mem_sources hm hn) b hb
  · exact generated_nodup hp
  · exact planned_builtins_nodup hp
  · rw [availableClasses_eq_append hp, firstOccurrences_append_append,
      ← availableClasses_eq_append hp]
    exact firstOccurrences_of_nodup (available_nodup hp)

theorem isListable (hnames : NamedByIdentifiers modules) {plans : List ModulePlan}
    (h : partition modules options = .ok plans) : ∀ p ∈ plans, IsListable p := by
  intro p hp
  obtain ⟨m, hm, hplan⟩ := exists_planOf h hp
  exact isListable_of_planOf hnames hm hplan

theorem modules_nodup {plans : List ModulePlan} (h : partition modules options = .ok plans) :
    (plans.map ModulePlan.module).Nodup := by
  obtain ⟨hnodup, -, hplans, -⟩ := partition_eq_ok_iff.mp h
  rwa [map_eq_of_map_eq (mapM_eq_ok_iff.mp hplans) fun m _ p hp => planOf_module hp]

end Partition

namespace Command

variable {t t' : FileTree} {plans : List ModulePlan} {p : ModulePlan}

/-- A plan that is generated is that of a module, though perhaps with another layout. -/
theorem exists_of_mem_selectedPlans {combined : Bool} (hp : p ∈ selectedPlans plans combined) :
    ∃ q ∈ plans, p = { q with layout := p.layout } := by
  unfold selectedPlans at hp
  split at hp
  · exact ⟨p, hp, rfl⟩
  · next umbrella humbrella =>
    split at hp
    · obtain rfl := List.mem_singleton.mp hp
      exact ⟨umbrella, List.mem_of_find?_eq_some humbrella, rfl⟩
    · exact ⟨p, hp, rfl⟩

theorem isIdentifier_of_selected (combined : Bool) (hmodules : ∀ q ∈ plans, IsIdentifier q.module) :
    ∀ p ∈ selectedPlans plans combined, IsIdentifier p.module := by
  intro p hp
  obtain ⟨q, hq, heq⟩ := exists_of_mem_selectedPlans hp
  rw [heq]
  exact hmodules q hq

theorem selectedPlans_nodup (combined : Bool) (h : (plans.map ModulePlan.module).Nodup) :
    ((selectedPlans plans combined).map ModulePlan.module).Nodup := by
  unfold selectedPlans
  split
  · exact h
  · split
    · exact List.nodup_singleton _
    · exact h

/-- How a module is generated from the name lists in a work directory.  A preamble is given if there
is one, and the files are by first letters if the layout of the plan is. -/
def generateArguments (t : FileTree) (configuration api workDirectory outDirectory : String)
    (p : ModulePlan) : GenerateArguments :=
  let paths := ModuleListPaths.inDirectory (WorkDirectory.listsPath workDirectory) p.module
  { api, outDirectory, module := p.module, classList := paths.classes,
    availableClassList := paths.availableClasses, builtinList := paths.builtins,
    preamble? := if t.isFile paths.preamble then some paths.preamble else none,
    combined := decide (p.layout = .buckets), configuration? := some configuration }

/-! ## Reading what was planned -/

section Lists

variable {workDirectory : String} {l : Location} (hbase : t.Located workDirectory l)
  (hnone : ∀ rest, t.view l (listsName :: rest) = none)
  (hnodup : (plans.map ModulePlan.module).Nodup) (hlistable : ∀ p ∈ plans, IsListable p)
  (hwrites : Writes workDirectory t (listPlacements plans) t')

theorem join_listsPath {module ending : String} (hmodule : IsIdentifier module)
    (hending : ending ∈ ModuleLists.endings) :
    join (WorkDirectory.listsPath workDirectory) (module ++ ending) =
      below workDirectory [listsName, module ++ ending] := by
  rw [← below_singleton, below_listsPath _ (ModuleLists.leadsDown_ending hmodule hending)]

include hbase hnone hnodup hlistable hwrites

theorem fileAt_list {q : ModulePlan} (hq : q ∈ plans) {ending : String}
    (hending : ending ∈ ModuleLists.endings) :
    (t'.view l).fileAt [listsName, q.module ++ ending] =
      (ModuleLists.contents q).lookup ending := by
  have hmodules : ∀ p ∈ plans, IsIdentifier p.module := fun p hp => (hlistable p hp).module
  obtain ⟨-, haccepts, hwrote, -⟩ := hwrites.wrote hbase (placed_listPlacements hmodules)
  rw [hwrote.view_eq, View.fileAt_writes haccepts, listPlacements, lookup_reverse_inside,
    ModuleLists.lookup_allPlacements hnodup hmodules hq hending, View.fileAt, hnone, Option.or_none]

theorem read_list {q : ModulePlan} (hq : q ∈ plans) {ending text : String}
    (hending : ending ∈ ModuleLists.endings)
    (hlookup : (ModuleLists.contents q).lookup ending = some text) :
    t'.read (join (WorkDirectory.listsPath workDirectory) (q.module ++ ending)) = .ok text := by
  have hmodules : ∀ p ∈ plans, IsIdentifier p.module := fun p hp => (hlistable p hp).module
  rw [join_listsPath (hmodules q hq) hending]
  refine hwrites.read hbase (placed_listPlacements hmodules) ?_ ?_
  · rw [lookup_eq_some_iff_mem (ModuleLists.contents_nodup q)] at hlookup
    have hfile := (ModuleLists.mem_allPlacements_iff hnodup hmodules hq hending).mpr hlookup
    exact List.mem_map.mpr ⟨_, List.mem_map.mpr ⟨_, hfile, rfl⟩, rfl⟩
  · rw [fileAt_list hbase hnone hnodup hlistable hwrites hq hending, hlookup]

theorem isFile_list_iff {q : ModulePlan} (hq : q ∈ plans) {ending : String}
    (hending : ending ∈ ModuleLists.endings) :
    t'.isFile (join (WorkDirectory.listsPath workDirectory) (q.module ++ ending)) =
      ((ModuleLists.contents q).lookup ending).isSome := by
  have hmodules : ∀ p ∈ plans, IsIdentifier p.module := fun p hp => (hlistable p hp).module
  rw [Bool.eq_iff_iff, isFile_iff_read, Option.isSome_iff_exists]
  constructor
  · rintro ⟨text, hread⟩
    obtain ⟨-, -, -, hbase'⟩ := hwrites.wrote hbase (placed_listPlacements hmodules)
    rw [join_listsPath (hmodules q hq) hending] at hread
    have hdown := (leadsDown_singleton isFileName_listsName).append
      (ModuleLists.leadsDown_ending (hmodules q hq) hending)
    rw [← fileAt_list hbase hnone hnodup hlistable hwrites hq hending]
    exact ⟨text, fileAt_of_read_below hbase' hdown hread⟩
  · rintro ⟨text, hlookup⟩
    exact ⟨text, read_list hbase hnone hnodup hlistable hwrites hq hending hlookup⟩

theorem loadNames_list {q : ModulePlan} (hq : q ∈ plans) (ending : String) {names : List String}
    (hending : ending ∈ ModuleLists.endings)
    (hlookup : (ModuleLists.contents q).lookup ending = some (NameList.render names))
    (hnames : ∀ name ∈ names, IsIdentifier name) :
    loadNames t' (join (WorkDirectory.listsPath workDirectory) (q.module ++ ending)) =
      .ok (firstOccurrences names) := by
  rw [loadNames, ModuleLists.readList,
    read_list hbase hnone hnodup hlistable hwrites hq hending hlookup,
    ← NameList.parse_render hnames]
  rfl

/-- The preamble is read from its file, and is empty where there is none. -/
theorem loadPreamble_list {q : ModulePlan} (hq : q ∈ plans) :
    let path := join (WorkDirectory.listsPath workDirectory) (q.module ++ "-preamble.txt")
    loadPreamble t' (if t'.isFile path then some path else none) = .ok q.preamble := by
  dsimp only
  have hending : "-preamble.txt" ∈ ModuleLists.endings := by decide
  rw [isFile_list_iff hbase hnone hnodup hlistable hwrites hq hending]
  cases hempty : q.preamble.isEmpty with
  | true =>
    have hlookup : (ModuleLists.contents q).lookup "-preamble.txt" = none := by
      rw [ModuleLists.contents, hempty]
      rfl
    rw [hlookup, String.isEmpty_iff.mp hempty]
    rfl
  | false =>
    have hlookup : (ModuleLists.contents q).lookup "-preamble.txt" = some q.preamble := by
      rw [ModuleLists.contents, hempty]
      rfl
    rw [hlookup, Option.isSome_some, if_pos rfl, loadPreamble,
      read_list hbase hnone hnodup hlistable hwrites hq hending hlookup]
    rfl

/-- From the lists of a plan comes the plan again, but for what its files do not depend on. -/
theorem planOfLists_eq (configuration api outDirectory : String) {q : ModulePlan} (hq : q ∈ plans)
    (hp : p = { q with layout := p.layout }) :
    planOfLists t' (generateArguments t' configuration api workDirectory outDirectory p) =
      .ok { p with dependencies := [], isUmbrella := decide (p.layout = .buckets) } := by
  have hlist := hlistable q hq
  have hclasses := loadNames_list hbase hnone hnodup hlistable hwrites hq "-classes.txt"
    (by decide) rfl hlist.classes
  have havailable := loadNames_list hbase hnone hnodup hlistable hwrites hq
    "-available-classes.txt" (by decide) rfl hlist.available
  have hbuiltins := loadNames_list hbase hnone hnodup hlistable hwrites hq "-builtins.txt"
    (by decide) rfl hlist.builtins
  have hpreamble := loadPreamble_list hbase hnone hnodup hlistable hwrites hq
  rw [firstOccurrences_of_nodup hlist.classes_nodup] at hclasses
  rw [firstOccurrences_of_nodup hlist.builtins_nodup] at hbuiltins
  rw [firstOccurrences_of_nodup (hlist.available_eq ▸ firstOccurrences_nodup _)] at havailable
  generalize p.layout = layout at hp
  subst hp
  unfold planOfLists generateArguments ModuleListPaths.inDirectory
  dsimp only
  rw [hclasses, havailable, hbuiltins, hpreamble]
  change Except.ok { q with
    availableClasses := firstOccurrences (q.generatedClasses ++ q.availableClasses)
    dependencies := []
    isUmbrella := decide (layout = FileLayout.buckets)
    layout := if decide (layout = FileLayout.buckets) = true then .buckets else .perType } = _
  -- the generated classes are the first ones among those that are available
  rw [hlist.available_eq]
  cases layout <;> rfl

end Lists

end Command

end EngineBindings
