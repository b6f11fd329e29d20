import EngineBindings.Proofs.Command.Listed

/-!
# Building at once and in two steps

A build keeps the plans of its modules in memory.  The same modules can be planned first, which
leaves their name lists in a directory, and then generated one by one from these lists.  Where names
are identifiers, a module gets the same files both ways (`Command.build_agrees`): its lists are read
back as they were, and what was written for the other modules is elsewhere (`Built`).
-/

namespace EngineBindings

open FilePath FileTree Naming

namespace Command

variable {t t' : FileTree} {plans : List ModulePlan} {p : ModulePlan}

/-! ## What a build did -/

/-- The files of other modules are beside those of a module. -/
theorem beside_modulePlacements {c : GenerationContext} (hcan : ∀ q ∈ plans, CanGenerate c q)
    (hmodules : ∀ q ∈ plans, IsIdentifier q.module) {module : String}
    (hother : ∀ q ∈ plans, q.module ≠ module) :
    View.Beside module (plans.flatMap (modulePlacements c)) := by
  intro file hfile
  obtain ⟨q, hq, hfile⟩ := List.mem_flatMap.mp hfile
  exact (modulePlacements_spec (hcan q hq) (hmodules q hq)).2.beside (hother q hq) file hfile

theorem placed_modulePlacements {c : GenerationContext} (hcan : ∀ q ∈ plans, CanGenerate c q)
    (hmodules : ∀ q ∈ plans, IsIdentifier q.module) :
    Placed (plans.flatMap (modulePlacements c)) := by
  intro file hfile
  obtain ⟨q, hq, hfile⟩ := List.mem_flatMap.mp hfile
  exact (modulePlacements_spec (hcan q hq) (hmodules q hq)).1 file hfile

/-- What a build writes below its directory: name lists, and the files of modules. -/
def buildPlacements (c : GenerationContext) (plans : List ModulePlan) (combined : Bool) :
    List Placement :=
  listPlacements plans ++ (selectedPlans plans combined).flatMap (modulePlacements c)

theorem placed_buildPlacements {c : GenerationContext} {combined : Bool}
    (hmodules : ∀ q ∈ plans, IsIdentifier q.module)
    (hcan : ∀ q ∈ selectedPlans plans combined, CanGenerate c q) :
    Placed (buildPlacements c plans combined) := by
  intro file hfile
  rcases List.mem_append.mp hfile with hlist | hgenerated
  · exact placed_listPlacements hmodules file hlist
  · exact placed_modulePlacements hcan (isIdentifier_of_selected combined hmodules) file hgenerated

theorem writes_of_build {configurationPath api workDirectory : String} {combined : Bool}
    {configuration : Configuration}
    (hplans : loadPlans t configurationPath = .ok (configuration, plans))
    (hnames : NamedByIdentifiers configuration.modules)
    (hbuild : (Command.build configurationPath api workDirectory combined).run t = (t', .ok ())) :
    ∃ schema, loadSchema t api = .ok schema ∧
      (∀ p ∈ selectedPlans plans combined,
        CanGenerate (context configuration schema workDirectory) p) ∧
      Placed (buildPlacements (context configuration schema workDirectory) plans combined) ∧
      Writes workDirectory t
        (buildPlacements (context configuration schema workDirectory) plans combined) t' := by
  have hlistable := Partition.isListable hnames (loadPlans_eq_ok_iff.mp hplans).2
  have hmodules : ∀ q ∈ plans, IsIdentifier q.module := fun q hq => (hlistable q hq).module
  obtain ⟨schema, t₁, hschema, hlists, hgenerated⟩ := run_build_eq_ok hplans hbuild
  obtain ⟨hcan, hfiles⟩ := exists_generateModules_iff.mp hgenerated
  exact ⟨schema, hschema, hcan, placed_buildPlacements hmodules hcan,
    ((writeLists_eq_ok_iff hmodules).mp hlists).append hfiles⟩

/-- What a build did for one module: before its files and after them others were written, the name
lists first. -/
structure Built (c : GenerationContext) (plans : List ModulePlan) (p : ModulePlan) (l : Location)
    (t t' : FileTree) (before after : List Placement) : Prop where
  canGenerate : CanGenerate c p
  before_beside : View.Beside p.module before
  after_beside : View.Beside p.module after
  accepts : (t.view l).AcceptsAll
    (listPlacements plans ++ (before ++ (modulePlacements c p ++ after)))
  view_eq : t'.view l = (t.view l).writes
    (listPlacements plans ++ (before ++ (modulePlacements c p ++ after)))
  located : t'.Located c.directory l

theorem exists_built {c : GenerationContext} {l : Location} {combined : Bool}
    (hbase : t.Located c.directory l) (hnodup : (plans.map ModulePlan.module).Nodup)
    (hmodules : ∀ q ∈ selectedPlans plans combined, IsIdentifier q.module)
    (hcan : ∀ q ∈ selectedPlans plans combined, CanGenerate c q)
    (hplaced : Placed (buildPlacements c plans combined))
    (hwrites : Writes c.directory t (buildPlacements c plans combined) t')
    (hp : p ∈ selectedPlans plans combined) :
    ∃ before after, Built c plans p l t t' before after := by
  obtain ⟨-, haccepts, hwrote, hlocated⟩ := hwrites.wrote hbase hplaced
  have hview := hwrote.view_eq
  have hdistinct := selectedPlans_nodup combined hnodup
  -- the files of the module are between those of the modules before and after it
  obtain ⟨front, back, hsplit⟩ := List.append_of_mem hp
  rw [buildPlacements, hsplit, List.flatMap_append, List.flatMap_cons] at haccepts hview
  rw [hsplit] at hcan hmodules hdistinct
  rw [List.map_append, List.map_cons] at hdistinct
  obtain ⟨-, hafter, -⟩ := List.nodup_append.mp hdistinct
  refine ⟨front.flatMap (modulePlacements c), back.flatMap (modulePlacements c),
    hcan p (List.mem_append_right _ List.mem_cons_self), ?_, ?_, haccepts, hview, hlocated⟩
  · refine beside_modulePlacements (fun q hq => hcan q (List.mem_append_left _ hq))
      (fun q hq => hmodules q (List.mem_append_left _ hq)) fun q hq heq => ?_
    exact (notMem_of_split hdistinct).1 (heq ▸ List.mem_map_of_mem hq)
  · refine beside_modulePlacements
      (fun q hq => hcan q (List.mem_append_right _ (List.mem_cons_of_mem _ hq)))
      (fun q hq => hmodules q (List.mem_append_right _ (List.mem_cons_of_mem _ hq)))
      fun q hq heq => ?_
    exact (List.nodup_cons.mp hafter).1 (heq ▸ List.mem_map_of_mem hq)

namespace Built

variable {c : GenerationContext} {l : Location} {before after : List Placement}
  (h : Built c plans p l t t' before after)

include h

theorem accepts_lists : (t.view l).AcceptsAll (listPlacements plans) :=
  (View.acceptsAll_append.mp h.accepts).1

/-- The files of the module were written where, under its name, only name lists were. -/
theorem accepts_module : (((t.view l).writes (listPlacements plans)).writes before).AcceptsAll
    (modulePlacements c p) :=
  (View.acceptsAll_append.mp
    (View.acceptsAll_append.mp (View.acceptsAll_append.mp h.accepts).2).2).1

theorem view_before (rest : List String) :
    ((t.view l).writes (listPlacements plans)).writes before (p.module :: rest) =
      (t.view l).writes (listPlacements plans) (p.module :: rest) :=
  View.writes_beside h.before_beside rest

/-- A file of the module is the one that was written last for it, or else a name list. -/
theorem fileAt_eq (rest : List String) : (t'.view l).fileAt (p.module :: rest) =
    ((modulePlacements c p).reverse.lookup (p.module :: rest)).or
      (((t.view l).writes (listPlacements plans)).fileAt (p.module :: rest)) := by
  rw [h.view_eq, View.writes_append, View.writes_append, View.writes_append,
    View.fileAt_congr (View.writes_beside h.after_beside rest),
    View.fileAt_writes h.accepts_module, View.fileAt_congr (h.view_before rest)]

theorem isSome_of_list {names : List String}
    (hnames : names ∈ (listPlacements plans).map Prod.fst) :
    ((t'.view l).fileAt names).isSome := by
  rw [h.view_eq]
  refine View.fileAt_writes_isSome h.accepts ?_
  rw [List.map_append]
  exact List.mem_append_left _ hnames

theorem isSome_of_module {names : List String}
    (hnames : names ∈ (modulePlacements c p).map Prod.fst) :
    ((t'.view l).fileAt names).isSome := by
  rw [h.view_eq]
  refine View.fileAt_writes_isSome h.accepts ?_
  rw [List.map_append, List.map_append, List.map_append]
  exact List.mem_append_right _ (List.mem_append_right _ (List.mem_append_left _ hnames))

end Built

/-- Whether the files under a name in a directory would have paths that are short enough in another
directory; longer ones are refused there. -/
def LeavesRoom (t : FileTree) (path name path' : String) : Prop :=
  ∀ names, (t.fileBelow? path (name :: names)).isSome →
    (below path' (name :: names)).utf8ByteSize ≤ pathLimit

/-- Files that a directory has under a name fit into another one that leaves room for them. -/
theorem LeavesRoom.fits {path path' name : String} {l : Location} {files : List Placement}
    (h : LeavesRoom t path name path') (hbase : t.Located path l) (hunder : View.Under name files)
    (hsome : ∀ names ∈ files.map Prod.fst, ((t.view l).fileAt names).isSome) :
    Fits path' files := by
  intro file hfile
  obtain ⟨rest, hrest⟩ := List.head?_eq_some_iff.mp (hunder file hfile)
  have hplace := hsome file.1 (List.mem_map_of_mem hfile)
  rw [hrest] at hplace ⊢
  exact h rest (by rw [hbase.fileBelow?]; exact hplace)

/-- What was built into an empty directory fits into any other one with a path that is no longer. -/
theorem leavesRoom_of_build {configurationPath api workDirectory path name : String}
    {combined : Bool} {configuration : Configuration}
    (hplans : loadPlans t configurationPath = .ok (configuration, plans))
    (hnames : NamedByIdentifiers configuration.modules) (hempty : t.IsEmptyDirectory workDirectory)
    (hbuild : (Command.build configurationPath api workDirectory combined).run t = (t', .ok ()))
    (hname : IsFileName name)
    (hlead : (lead path).utf8ByteSize ≤ (lead workDirectory).utf8ByteSize) :
    LeavesRoom t' workDirectory name path := by
  obtain ⟨schema, -, -, hplaced, hwrites⟩ := writes_of_build hplans hnames hbuild
  obtain ⟨l, hbase, hnone⟩ := hempty
  obtain ⟨hfits, haccepts, hwrote, hbase'⟩ := hwrites.wrote hbase hplaced
  intro names hsome
  have hnothing : (t.view l).fileAt (name :: names) = none := by
    rw [View.fileAt, hnone name names hname]
  rw [hbase'.fileBelow?, hwrote.view_eq, View.fileAt_writes haccepts, hnothing,
    Option.or_none] at hsome
  obtain ⟨contents, hlookup⟩ := Option.isSome_iff_exists.mp hsome
  obtain ⟨front, back, hfiles, -⟩ := List.lookup_eq_some_iff.mp hlookup
  have hfile : (name :: names, contents) ∈
      buildPlacements (context configuration schema workDirectory) plans combined := by
    rw [← List.mem_reverse, hfiles]
    exact List.mem_append_right _ List.mem_cons_self
  exact (utf8ByteSize_below_le_of_lead (hplaced _ hfile) hlead).trans (hfits _ hfile)

section Plan

variable {workDirectory : String} {l : Location} (hbase : t.Located workDirectory l)
  (hnone : ∀ rest, t.view l (listsName :: rest) = none)
  (hlistable : ∀ p ∈ plans, IsListable p)
  (hwrites : Writes workDirectory t (listPlacements plans) t')

include hbase hnone hlistable hwrites

/-- Planning changes nothing that can be read. -/
theorem read_eq_of_writes {path contents : String} (hread : t.read path = .ok contents) :
    t'.read path = .ok contents := by
  have hplaced := placed_listPlacements fun p hp => (hlistable p hp).module
  obtain ⟨-, -, hwrote, -⟩ := hwrites.wrote hbase hplaced
  obtain ⟨place, hlocate, hentry⟩ := read_eq_ok_iff.mp hread
  refine read_eq_ok_iff.mpr ⟨place, hwrites.keepsDirectories.locate hlocate, ?_⟩
  rw [hwrote.entry?_eq (under_inside _ _), hentry]
  rintro rest rfl
  cases hentry.symm.trans (hnone rest)

end Plan

/-- Whether a module that was generated from name lists in a work directory has the files that a
build gave it. -/
structure GeneratedAlike (module : String) (built : FileTree) (workDirectory : String)
    (planned : FileTree) (listsDirectory : String) (generated : FileTree) (outDirectory : String) :
    Prop where
  same_files : module ≠ listsName → ∀ names,
    built.fileBelow? workDirectory (module :: names) =
      generated.fileBelow? outDirectory (module :: names)
  /-- A module with the name of the directory of all lists has them beside its files. -/
  files_or_lists : ∀ names, built.fileBelow? workDirectory (module :: names) =
    (generated.fileBelow? outDirectory (module :: names)).or
      (planned.fileBelow? listsDirectory (module :: names))
  /-- Nothing else was touched. -/
  elsewhere : ∀ l, planned.locate outDirectory = .ok l →
    ∀ place, (∀ names, place ≠ l ++ module :: names) →
      generated.entry? place = planned.entry? place

namespace Built

variable {c : GenerationContext} {l k : Location} {before after : List Placement}
  {t₁ t₂ t₃ : FileTree} {outDirectory listsDirectory : String}
  (h : Built c plans p l t t₁ before after) (hmodule : IsIdentifier p.module)
  (hout : t₂.Located outDirectory k)
  (hpart : View.PartOf p.module (t₂.view k) ((t.view l).writes (listPlacements plans)))

include h hmodule hout hpart

omit hmodule hout hpart in
/-- The name lists of a build can be written into a directory that has none. -/
theorem exists_writes_lists {l' : Location} {workDirectory : String}
    (hmodules : ∀ q ∈ plans, IsIdentifier q.module) (hbase : t'.Located workDirectory l')
    (hnone : ∀ rest, t'.view l' (listsName :: rest) = none)
    (hroom : LeavesRoom t₁ c.directory listsName workDirectory) :
    ∃ t₂, Writes workDirectory t' (listPlacements plans) t₂ := by
  have hunder : View.Under listsName (listPlacements plans) := under_inside listsName _
  refine Writes.exists_of_acceptsAll hbase (placed_listPlacements hmodules)
    (hroom.fits h.located hunder fun names => h.isSome_of_list) ?_
  exact View.PartOf.acceptsAll (fun rest => .inl (hnone rest)) hunder h.accepts_lists

/-- What was written for a module in a build can be written where there is nothing under its name
but name lists. -/
theorem exists_writes (hroom : LeavesRoom t₁ c.directory p.module outDirectory) :
    ∃ t₃, Writes outDirectory t₂ (modulePlacements c p) t₃ := by
  obtain ⟨hplaced, hunder⟩ := modulePlacements_spec h.canGenerate hmodule
  refine Writes.exists_of_acceptsAll hout hplaced
    (hroom.fits h.located hunder fun names => h.isSome_of_module) ?_
  refine View.PartOf.acceptsAll (fun rest => (hpart rest).imp_right fun heq => ?_) hunder
    h.accepts_module
  rw [heq, h.view_before]

theorem generatedAlike {k' : Location} (hlists : t₂.Located listsDirectory k')
    (hview : ∀ rest, t₂.view k' (p.module :: rest) =
      (t.view l).writes (listPlacements plans) (p.module :: rest))
    (hnone : ∀ rest, t.view l (p.module :: rest) = none)
    (hwrites : Writes outDirectory t₂ (modulePlacements c p) t₃) :
    GeneratedAlike p.module t₁ c.directory t₂ listsDirectory t₃ outDirectory := by
  obtain ⟨hplaced, hunder⟩ := modulePlacements_spec h.canGenerate hmodule
  obtain ⟨-, haccepts, hwrote, hout'⟩ := hwrites.wrote hout hplaced
  have hgenerated : ∀ rest, t₃.fileBelow? outDirectory (p.module :: rest) =
      ((modulePlacements c p).reverse.lookup (p.module :: rest)).or
        ((t₂.view k).fileAt (p.module :: rest)) := fun rest => by
    rw [hout'.fileBelow?, hwrote.view_eq, View.fileAt_writes haccepts]
  have hbuilt : ∀ rest, t₁.fileBelow? c.directory (p.module :: rest) =
      ((modulePlacements c p).reverse.lookup (p.module :: rest)).or
        (t₂.fileBelow? listsDirectory (p.module :: rest)) := fun rest => by
    rw [h.located.fileBelow?, h.fileAt_eq, hlists.fileBelow?, View.fileAt_congr (hview rest)]
  -- what was there before is a name list that the build has too
  have hold : ∀ rest, (t₂.view k).fileAt (p.module :: rest) = none ∨
      (t₂.view k).fileAt (p.module :: rest) = t₂.fileBelow? listsDirectory (p.module :: rest) := by
    intro rest
    rw [hlists.fileBelow?, View.fileAt_congr (hview rest)]
    exact (hpart rest).imp (fun hnone => by rw [View.fileAt, hnone]) View.fileAt_congr
  refine ⟨fun hne rest => ?_, fun rest => ?_, fun k₁ hk₁ place hplace => ?_⟩
  · have hbeside : View.Beside p.module (listPlacements plans) :=
      (under_inside listsName _).beside (Ne.symm hne)
    have hlist : t₂.fileBelow? listsDirectory (p.module :: rest) = none := by
      rw [hlists.fileBelow?, View.fileAt, hview, View.writes_beside hbeside, hnone]
    rw [hbuilt, hgenerated, hlist]
    rcases hold rest with hnothing | hsame
    · rw [hnothing]
    · rw [hsame, hlist]
  · rw [hbuilt, hgenerated]
    rcases hold rest with hnothing | hsame
    · rw [hnothing, Option.or_none]
    · rw [hsame, Option.or_assoc, Option.or_self]
  · obtain rfl := Except.ok.inj (hout.locate.symm.trans hk₁)
    exact hwrote.entry?_eq hunder hplace

end Built

/-- The directory of the name lists has no more under the name of a module than they put there, and
an empty one has nothing. -/
theorem exists_located_partOf {l : Location} {listsDirectory outDirectory module : String} {v : View}
    (hlists : t.Located listsDirectory l) (hname : IsFileName module)
    (hview : ∀ rest, t.view l (module :: rest) = v (module :: rest))
    (hout : t.locate outDirectory = t.locate listsDirectory ∨ t.IsEmptyDirectory outDirectory) :
    ∃ k, t.Located outDirectory k ∧ View.PartOf module (t.view k) v := by
  rcases hout with hsame | ⟨k, hk, hnone⟩
  · exact ⟨l, ⟨hsame.trans hlists.locate, hlists.directory⟩, fun rest => .inr (hview rest)⟩
  · exact ⟨k, hk, fun rest => .inl (hnone module rest hname)⟩

/-- Where names are identifiers, a module has the same files whether it is built with all others
into an empty directory or generated from the name lists that were planned into another one.  The
output goes to the directory of the plan or to one that is empty; as long as no path is too long
there, planning and generation succeed. -/
theorem build_agrees {t t₁ t' : FileTree} {plans : List ModulePlan} {p : ModulePlan}
    {configurationPath api workDirectory configurationPath' api' workDirectory' : String}
    {combined : Bool} {configuration : Configuration}
    (hplans : loadPlans t configurationPath = .ok (configuration, plans))
    (hnames : NamedByIdentifiers configuration.modules)
    (hempty : t.IsEmptyDirectory workDirectory)
    (hbuild : (Command.build configurationPath api workDirectory combined).run t = (t₁, .ok ()))
    (hp : p ∈ selectedPlans plans combined)
    (hconfiguration : t'.read configurationPath' = t.read configurationPath)
    (hapi : t'.read api' = t.read api) (hempty' : t'.IsEmptyDirectory workDirectory')
    (hroom : LeavesRoom t₁ workDirectory listsName workDirectory') :
    ∃ t₂, (Command.plan configurationPath' workDirectory').run t' = (t₂, .ok ()) ∧
      ∀ outDirectory, t₂.locate outDirectory = t₂.locate workDirectory' ∨
          t₂.IsEmptyDirectory outDirectory →
        LeavesRoom t₁ workDirectory p.module outDirectory →
        ∃ t₃, (Command.generate (generateArguments t₂ configurationPath' api' workDirectory'
            outDirectory p)).run t₂ = (t₃, .ok ()) ∧
          GeneratedAlike p.module t₁ workDirectory t₂ workDirectory' t₃ outDirectory := by
  obtain ⟨hloaded, hpartition⟩ := loadPlans_eq_ok_iff.mp hplans
  have hnodup := Partition.modules_nodup hpartition
  have hlistable := Partition.isListable hnames hpartition
  have hidentifiers : ∀ q ∈ plans, IsIdentifier q.module := fun q hq => (hlistable q hq).module
  have hselected := isIdentifier_of_selected combined hidentifiers
  have hmodule := hselected p hp
  have hname := isFileName_of_isIdentifier hmodule
  obtain ⟨q, hq, hpq⟩ := exists_of_mem_selectedPlans hp
  obtain ⟨schema, hschema, hcan, hall, hbuilds⟩ := writes_of_build hplans hnames hbuild
  obtain ⟨l, hbase, hnone⟩ := hempty
  obtain ⟨before, after, hbuilt⟩ := exists_built hbase hnodup hselected hcan hall hbuilds hp
  -- the name lists go into the other directory as they went into the one of the build
  obtain ⟨l', hbase', hnone'⟩ := hempty'
  have hnoLists : ∀ rest, t'.view l' (listsName :: rest) = none :=
    fun rest => hnone' listsName rest isFileName_listsName
  obtain ⟨t₂, hwrites⟩ := hbuilt.exists_writes_lists hidentifiers hbase' hnoLists hroom
  have hloaded' := loadConfiguration_eq_ok (fun _ htext => hconfiguration.trans htext) hloaded
  refine ⟨t₂, run_plan_eq_ok (loadPlans_eq_ok_iff.mpr ⟨hloaded', hpartition⟩)
    ((writeLists_eq_ok_iff hidentifiers).mpr hwrites), fun outDirectory hout hroomOut => ?_⟩
  -- under the name of the module there is now what was there in the build before its files
  obtain ⟨-, -, hwrote, hlocated'⟩ := hwrites.wrote hbase' (placed_listPlacements hidentifiers)
  have hview : ∀ rest, t₂.view l' (p.module :: rest) =
      (t.view l).writes (listPlacements plans) (p.module :: rest) := fun rest => by
    rw [hwrote.view_eq]
    exact View.writes_congr ((hnone' _ rest hname).trans (hnone _ rest hname).symm) _
  obtain ⟨k, hout, hpart⟩ := exists_located_partOf hlocated' hname hview hout
  obtain ⟨t₃, hgenerated⟩ := hbuilt.exists_writes hmodule hout hpart hroomOut
  -- the texts are those of the build, and the lists say what its plan was
  have hread : ∀ path text, t'.read path = .ok text → t₂.read path = .ok text :=
    fun _ _ htext => read_eq_of_writes hbase' hnoLists hlistable hwrites htext
  have hschema₂ := loadSchema_eq_ok (fun _ htext => hread _ _ (hapi.trans htext)) hschema
  have hloaded₂ := loadConfiguration_eq_ok (hread configurationPath') hloaded'
  have hplan := planOfLists_eq hbase' hnoLists hnodup hlistable hwrites configurationPath' api'
    outDirectory hq hpq
  obtain ⟨report, hreport⟩ :
      ∃ report, generateModule (context configuration schema outDirectory) t₂ p = (t₃, .ok report) :=
    exists_generateModule_iff.mpr ⟨hbuilt.canGenerate, hgenerated⟩
  rw [← generateModule_with [] (decide (p.layout = .buckets))] at hreport
  exact ⟨t₃, run_generate_eq_ok hschema₂ rfl hloaded₂ hplan hreport,
    hbuilt.generatedAlike hmodule hout hpart hlocated' hview (fun rest => hnone _ rest hname)
      hgenerated⟩

/-! ## Two modules of a small engine -/

namespace SmallEngine

def configurationText : String :=
  "[[modules]]
name=\"kernel\"
native_classes=[\"Object\"]
[[modules]]
name=\"scene\"
native_classes=[\"Node\"]
preamble=\"use std;\"
dependencies=[\"kernel\"]"

def apiText : String :=
  "\x7b\"classes\":
[\x7b\"name\":\"Object\"\x7d,
\x7b\"name\":\"Node\",\"inherits\":\"Object\"\x7d]\x7d"

/-- The texts, a directory for a build, and one for name lists. -/
def tree : FileTree :=
  ⟨[(["gdbind.toml"], .file configurationText), (["api.json"], .file apiText),
    (["built"], .directory), (["lists"], .directory)]⟩

def scene : ModulePlan :=
  ⟨"scene", ["Node"], ["Node", "Object"], [], "use std;", ["kernel"], false, .perType⟩

def planned : List ModulePlan :=
  [⟨"kernel", ["Object"], ["Object"], [], "", [], false, .perType⟩, scene]

def command : Command :=
  .build "gdbind.toml" "api.json" "built" false

theorem exists_plans : ∃ configuration,
    loadPlans tree "gdbind.toml" = .ok (configuration, planned) ∧
      NamedByIdentifiers configuration.modules := by
  have hplans : (match loadPlans tree "gdbind.toml" with
      | .ok (configuration, found) =>
        decide (found = planned ∧ NamedByIdentifiers configuration.modules)
      | .error _ => false) = true := by
    decide +kernel
  split at hplans
  · next configuration found hloaded =>
    obtain ⟨rfl, hnames⟩ := of_decide_eq_true hplans
    exact ⟨configuration, hloaded, hnames⟩
  · cases hplans

theorem build_succeeds : command.run tree = ((command.run tree).1, .ok ()) := by
  have hok : (command.run tree).2.isOk = true := by decide +kernel
  generalize command.run tree = run at hok ⊢
  obtain ⟨t, _ | _⟩ := run
  · cases hok
  · rfl

theorem isEmptyDirectory_built : tree.IsEmptyDirectory "built" :=
  isEmptyDirectory_of_entries (l := ["built"]) ⟨by decide, by decide⟩ (by decide)

theorem isEmptyDirectory_lists : tree.IsEmptyDirectory "lists" :=
  isEmptyDirectory_of_entries (l := ["lists"]) ⟨by decide, by decide⟩ (by decide)

end SmallEngine

open SmallEngine in
theorem build_agrees_scene :
    ∃ t₂, (Command.plan "gdbind.toml" "lists").run tree = (t₂, .ok ()) ∧
      ∃ t₃, (Command.generate (generateArguments t₂ "gdbind.toml" "api.json" "lists" "lists"
          scene)).run t₂ = (t₃, .ok ()) ∧
        GeneratedAlike "scene" (command.run tree).1 "built" t₂ "lists" t₃ "lists" := by
  obtain ⟨configuration, hplans, hnames⟩ := exists_plans
  have hroom : ∀ name, IsFileName name → LeavesRoom (command.run tree).1 "built" name "lists" :=
    fun name hname => leavesRoom_of_build hplans hnames isEmptyDirectory_built build_succeeds hname
      (by decide +kernel)
  obtain ⟨t₂, hplan, hgenerate⟩ := build_agrees hplans hnames isEmptyDirectory_built build_succeeds
    (p := scene) (by decide) rfl rfl isEmptyDirectory_lists (hroom listsName isFileName_listsName)
  exact ⟨t₂, hplan, hgenerate "lists" (.inl rfl)
    (hroom "scene" (isFileName_of_isIdentifier (by decide +kernel)))⟩

end Command

end EngineBindings
