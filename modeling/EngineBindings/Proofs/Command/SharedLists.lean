import EngineBindings.Proofs.Command.Listed
import EngineBindings.Proofs.Command.WrittenLists

/-!
# Lists of several modules in one directory

The plans of a partition are written into one directory, one after another.  The name of a file
does not tell where the name of the module ends: `m-available-classes.txt` are the classes that are
available to `m` and the classes of a module `m-available`.  No other two lists share a file
(`ModuleLists.append_ending_eq_iff`), so each module's lists are read back as they were planned, but
for a list that such a module has overwritten (`Command.read_of_partition`).
-/

namespace EngineBindings

open FilePath FileTree Naming

namespace ModuleLists

variable {p q : ModulePlan}

/-! ## Names that files share -/

/-- What a module's name ends in if its classes are where another module's available classes are. -/
def sharedEnding : String :=
  "-available"

theorem ending_of_append {front : List Char} {ending ending' : String} (h : ending ∈ endings)
    (h' : ending' ∈ endings) (heq : ending.toList = front ++ ending'.toList) :
    front = [] ∧ ending = ending' ∨
      front = sharedEnding.toList ∧ ending = "-available-classes.txt" ∧
        ending' = "-classes.txt" := by
  have hsuffixes : ∀ ending ∈ endings, ∀ ending' ∈ endings, ending'.toList <:+ ending.toList →
      ending = ending' ∨ ending = "-available-classes.txt" ∧ ending' = "-classes.txt" := by
    decide
  rcases hsuffixes ending h ending' h' ⟨front, heq.symm⟩ with rfl | ⟨rfl, rfl⟩
  · exact .inl ⟨List.append_left_eq_self.mp heq.symm, rfl⟩
  · have hshared : "-available-classes.txt".toList =
        sharedEnding.toList ++ "-classes.txt".toList := by
      decide
    exact .inr ⟨(List.append_cancel_right (hshared.symm.trans heq)).symm, rfl, rfl⟩

theorem append_sharedEnding (stem : String) :
    stem ++ sharedEnding ++ "-classes.txt" = stem ++ "-available-classes.txt" := by
  rw [String.append_assoc]
  rfl

/-- Two files have one name if they are one list of one module, or the available classes of one
module and the classes of another one. -/
theorem append_ending_eq_iff {stem stem' ending ending' : String} (h : ending ∈ endings)
    (h' : ending' ∈ endings) : stem ++ ending = stem' ++ ending' ↔
      stem = stem' ∧ ending = ending' ∨
      stem' = stem ++ sharedEnding ∧ ending = "-available-classes.txt" ∧
        ending' = "-classes.txt" ∨
      stem = stem' ++ sharedEnding ∧ ending = "-classes.txt" ∧
        ending' = "-available-classes.txt" := by
  constructor
  · intro heq
    rw [← String.toList_inj, String.toList_append, String.toList_append,
      List.append_eq_append_iff] at heq
    rcases heq with ⟨front, hstem, hending⟩ | ⟨front, hstem, hending⟩
    · rcases ending_of_append h h' hending with ⟨rfl, rfl⟩ | ⟨rfl, rfl, rfl⟩
      · rw [List.append_nil, String.toList_inj] at hstem
        exact .inl ⟨hstem.symm, rfl⟩
      · rw [← String.toList_append, String.toList_inj] at hstem
        exact .inr (.inl ⟨hstem, rfl, rfl⟩)
    · rcases ending_of_append h' h hending with ⟨rfl, rfl⟩ | ⟨rfl, rfl, rfl⟩
      · rw [List.append_nil, String.toList_inj] at hstem
        exact .inl ⟨hstem, rfl⟩
      · rw [← String.toList_append, String.toList_inj] at hstem
        exact .inr (.inr ⟨hstem, rfl, rfl⟩)
  · rintro (⟨rfl, rfl⟩ | ⟨rfl, rfl, rfl⟩ | ⟨rfl, rfl, rfl⟩)
    · rfl
    · exact (append_sharedEnding stem).symm
    · exact append_sharedEnding stem'

/-- What a plan writes to the file of another module: most often nothing. -/
theorem lookup_listedAs_other (hne : q.module ≠ p.module) {ending : String} (h : ending ∈ endings) :
    (listedAs q.module q).reverse.lookup [p.module ++ ending] =
      if ending = "-available-classes.txt" ∧ q.module = p.module ++ sharedEnding then
        some (NameList.render q.generatedClasses)
      else if ending = "-classes.txt" ∧ p.module = q.module ++ sharedEnding then
        some (NameList.render q.availableClasses)
      else none := by
  split
  · next hshared =>
    rw [hshared.1, ← append_sharedEnding, ← hshared.2, lookup_listedAs]
    rfl
  · next hclasses =>
    split
    · next hshared =>
      rw [hshared.1, hshared.2, append_sharedEnding, lookup_listedAs]
      rfl
    · next havailable =>
      rw [List.lookup_eq_none_iff]
      intro file hfile
      obtain ⟨content, hcontent, rfl⟩ := List.mem_map.mp (List.mem_reverse.mp hfile)
      have hending := (contents_sublist q).subset (List.mem_map_of_mem hcontent)
      refine bne_iff_ne.mpr fun heq => ?_
      rcases (append_ending_eq_iff h hending).mp (List.cons.inj heq).1 with
        ⟨hmodule, -⟩ | ⟨hmodule, hending, -⟩ | ⟨hmodule, hending, -⟩
      · exact hne hmodule.symm
      · exact hclasses ⟨hending, hmodule⟩
      · exact havailable ⟨hending, hmodule⟩

section Other

variable (hne : q.module ≠ p.module)

include hne

theorem lookup_classes_other : (listedAs q.module q).reverse.lookup [p.module ++ "-classes.txt"] =
    if p.module = q.module ++ sharedEnding then some (NameList.render q.availableClasses)
    else none := by
  rw [lookup_listedAs_other hne (by decide), if_neg (by simp)]
  simp only [true_and]

theorem lookup_available_other :
    (listedAs q.module q).reverse.lookup [p.module ++ "-available-classes.txt"] =
      if q.module = p.module ++ sharedEnding then some (NameList.render q.generatedClasses)
      else none := by
  rw [lookup_listedAs_other hne (by decide)]
  simp

theorem lookup_builtins_other :
    (listedAs q.module q).reverse.lookup [p.module ++ "-builtins.txt"] = none := by
  rw [lookup_listedAs_other hne (by decide)]
  simp

theorem lookup_preamble_other :
    (listedAs q.module q).reverse.lookup [p.module ++ "-preamble.txt"] = none := by
  rw [lookup_listedAs_other hne (by decide)]
  simp

end Other

/-! ## What is left of the lists of a plan -/

section LastOr

variable (after : List ModulePlan) (shares : ModulePlan → Prop) [DecidablePred shares]
  (list : ModulePlan → List String) (own : List String)

/-- A list after other plans were written: that of the last one that has a list in its place. -/
def lastOr : List String :=
  ((after.reverse.find? fun q => shares q).map list).getD own

theorem lastOr_cases : lastOr after shares list own = own ∧ (∀ q ∈ after, ¬shares q) ∨
    ∃ q ∈ after, shares q ∧ lastOr after shares list own = list q := by
  unfold lastOr
  cases hfound : after.reverse.find? fun q => shares q with
  | none =>
    refine .inl ⟨rfl, fun q hq hshares => ?_⟩
    exact List.find?_eq_none.mp hfound q (List.mem_reverse.mpr hq) (decide_eq_true hshares)
  | some q =>
    have hq := List.mem_reverse.mp (List.mem_of_find?_eq_some hfound)
    have hshares := List.find?_some hfound
    exact .inr ⟨q, hq, of_decide_eq_true hshares, rfl⟩

variable {after shares list own}

theorem lastOr_eq_own (h : ∀ q ∈ after, shares q → list q = own) :
    lastOr after shares list own = own := by
  rcases lastOr_cases after shares list own with ⟨hown, -⟩ | ⟨q, hq, hshares, hlist⟩
  · exact hown
  · exact hlist.trans (h q hq hshares)

theorem lastOr_of_mem {q : ModulePlan} (hunique : ∀ r ∈ after, shares r → r = q) (hq : q ∈ after)
    (hshares : shares q) : lastOr after shares list own = list q := by
  rcases lastOr_cases after shares list own with ⟨-, hnone⟩ | ⟨r, hr, hr', hlist⟩
  · exact absurd hshares (hnone q hq)
  · rw [hlist, hunique r hr hr']

/-- What holds of each list that may be there holds of the one that is. -/
theorem lastOr_of_forall {P : List String → Prop} (hown : P own) (h : ∀ q ∈ after, P (list q)) :
    P (lastOr after shares list own) := by
  rcases lastOr_cases after shares list own with ⟨hlist, -⟩ | ⟨q, hq, -, hlist⟩
  · rwa [hlist]
  · rw [hlist]
    exact h q hq

theorem findSome?_lastOr : (after.reverse.findSome? fun q =>
      if shares q then some (NameList.render (list q)) else none).or
        (some (NameList.render own)) =
      some (NameList.render (lastOr after shares list own)) := by
  have hfound := findSome?_ite (fun q => decide (shares q)) (fun q => NameList.render (list q))
    after.reverse
  simp only [decide_eq_true_eq] at hfound
  rw [hfound, lastOr]
  cases after.reverse.find? fun q => shares q <;> rfl

end LastOr

/-- The lists of a plan after others were written: another module's available classes may be where
its classes were, and another one's classes where its available classes were. -/
def leftBy (p : ModulePlan) (after : List ModulePlan) : ModuleLists where
  classes := lastOr after (fun q => p.module = q.module ++ sharedEnding)
    ModulePlan.availableClasses p.generatedClasses
  availableClasses := lastOr after (fun q => q.module = p.module ++ sharedEnding)
    ModulePlan.generatedClasses p.availableClasses
  builtins := p.builtins
  preamble := p.preamble

variable {after : List ModulePlan}

theorem leftBy_eq_ofPlan
    (hclasses : ∀ q ∈ after, p.module = q.module ++ sharedEnding →
      q.availableClasses = p.generatedClasses)
    (havailable : ∀ q ∈ after, q.module = p.module ++ sharedEnding →
      q.generatedClasses = p.availableClasses) : leftBy p after = ofPlan p := by
  rw [leftBy, ofPlan, lastOr_eq_own hclasses, lastOr_eq_own havailable]

section Replaced

variable (hunique : ∀ r ∈ after, r.module = q.module → r = q) (hq : q ∈ after)

include hunique hq

theorem classes_leftBy (hshared : p.module = q.module ++ sharedEnding) :
    (leftBy p after).classes = q.availableClasses :=
  lastOr_of_mem (fun r hr hr' =>
    hunique r hr ((String.append_left_inj sharedEnding).mp (hr'.symm.trans hshared))) hq hshared

theorem availableClasses_leftBy (hshared : q.module = p.module ++ sharedEnding) :
    (leftBy p after).availableClasses = q.generatedClasses :=
  lastOr_of_mem (fun r hr hr' => hunique r hr (hr'.trans hshared.symm)) hq hshared

end Replaced

end ModuleLists

namespace Partition

variable {modules : List ModuleDefinition} {options : PartitionOptions} {plans : List ModulePlan}

theorem repeatsNothing (h : partition modules options = .ok plans) :
    ∀ p ∈ plans, p.RepeatsNothing := by
  intro p hp
  obtain ⟨m, -, hplan⟩ := exists_planOf h hp
  exact ⟨generated_nodup hplan, available_nodup hplan, planned_builtins_nodup hplan⟩

end Partition

namespace Command

variable {t t' : FileTree} {plans before after : List ModulePlan} {p : ModulePlan}
  {directory : String}

/-! ## Reading the lists of each module -/

theorem module_ne_of_split (hnodup : (plans.map ModulePlan.module).Nodup)
    (hsplit : plans = before ++ p :: after) :
    (∀ q ∈ before, q.module ≠ p.module) ∧ ∀ q ∈ after, q.module ≠ p.module := by
  rw [hsplit, List.map_append, List.map_cons] at hnodup
  obtain ⟨-, hafter, -⟩ := List.nodup_append.mp hnodup
  constructor
  · exact fun q hq heq => (notMem_of_split hnodup).1 (heq ▸ List.mem_map_of_mem hq)
  · exact fun q hq heq => (List.nodup_cons.mp hafter).1 (heq ▸ List.mem_map_of_mem hq)

section Read

variable (hnodup : (plans.map ModulePlan.module).Nodup)
  (hwhole : ∀ q ∈ plans, '/' ∉ q.module.toList) (hvacant : t.IsVacant directory)
  (h : writeLists directory t plans = (t', .ok ()))

include hnodup hwhole hvacant h

/-- What is in the files of a module in the end: what plans that came later wrote there, or else its
own lists. -/
theorem exists_left (hsplit : plans = before ++ p :: after) {ending : String}
    (hending : ending ∈ ModuleLists.endings) : ∃ place,
      t'.locate (join directory (p.module ++ ending)) = .ok place ∧
      t'.entry? place ≠ some .directory ∧
      t'.contents? place = (after.reverse.findSome? fun r =>
        (ModuleLists.listedAs r.module r).reverse.lookup [p.module ++ ending]).or
          ((ModuleLists.contents p).lookup ending) := by
  have hcalled : ∀ q ∈ plans, ModuleLists.CalledBy directory q.module directory q.module :=
    fun q _ => ModuleLists.CalledBy.refl directory q.module
  have hp : p ∈ plans := hsplit ▸ List.mem_append_right _ List.mem_cons_self
  obtain ⟨hwrites, hstems⟩ := writes_listedAs hcalled hwhole h
  obtain ⟨l, hbase, hwritten⟩ := exists_written hcalled hwhole h (List.ne_nil_of_mem hp)
  obtain ⟨hplace, hcontents⟩ := hwritten p hp ending hending
  have hfiles := mem_allListedAs ModulePlan.module hp (ModuleLists.lookup_classes p)
  obtain ⟨hold, hfree⟩ := hwrites.of_isVacant (placed_allListedAs hstems)
    (List.ne_nil_of_mem hfiles) hvacant (fun file hfile => exists_name_of_mem hfile) hbase
    (ModuleLists.isFileName_ending (hstems p hp) hending)
  refine ⟨_, hplace, hfree, hcontents.trans ?_⟩
  rw [hold, Option.or_none, hsplit, List.reverse_append, List.reverse_cons, List.findSome?_append,
    List.findSome?_append, List.findSome?_singleton, ModuleLists.lookup_listedAs, Option.or_assoc]
  refine congrArg (Option.or _) ?_
  cases hown : (ModuleLists.contents p).lookup ending with
  | some text => rfl
  | none =>
    -- a file that the module does not have is none that another module has
    refine List.findSome?_eq_none_iff.mpr fun q hq => ?_
    have hne := (module_ne_of_split hnodup hsplit).1 q (List.mem_reverse.mp hq)
    rw [ModuleLists.lookup_listedAs_other hne hending, if_neg, if_neg]
    · rintro ⟨rfl, -⟩
      cases hown.symm.trans (ModuleLists.lookup_classes p)
    · rintro ⟨rfl, -⟩
      cases hown.symm.trans (ModuleLists.lookup_available p)

section Split

variable (hsplit : plans = before ++ p :: after)

include hsplit

/-- A list that is made of identifiers is read as what was last written in its place. -/
theorem readList_left {ending : String} {shares : ModulePlan → Prop} [DecidablePred shares]
    {list : ModulePlan → List String} {own : List String} (hending : ending ∈ ModuleLists.endings)
    (hown : (ModuleLists.contents p).lookup ending = some (NameList.render own))
    (hother : ∀ q ∈ after,
      (ModuleLists.listedAs q.module q).reverse.lookup [p.module ++ ending] =
        if shares q then some (NameList.render (list q)) else none)
    (hnames : ∀ name ∈ own, IsIdentifier name) (hdistinct : own.Nodup)
    (hlists : ∀ q ∈ after, (∀ name ∈ list q, IsIdentifier name) ∧ (list q).Nodup) :
    ModuleLists.readList t' (join directory (p.module ++ ending)) =
      .ok (ModuleLists.lastOr after shares list own) := by
  obtain ⟨place, hplace, -, hcontents⟩ := exists_left hnodup hwhole hvacant h hsplit hending
  have hwritten : after.reverse.findSome? (fun r =>
      (ModuleLists.listedAs r.module r).reverse.lookup [p.module ++ ending]) =
      after.reverse.findSome? fun r =>
        if shares r then some (NameList.render (list r)) else none :=
    findSome?_congr_of_mem fun q hq => hother q (List.mem_reverse.mp hq)
  rw [hwritten, hown, ModuleLists.findSome?_lastOr] at hcontents
  have hlast : (∀ name ∈ ModuleLists.lastOr after shares list own, IsIdentifier name) ∧
      (ModuleLists.lastOr after shares list own).Nodup :=
    ModuleLists.lastOr_of_forall
      (P := fun names => (∀ name ∈ names, IsIdentifier name) ∧ names.Nodup)
      ⟨hnames, hdistinct⟩ hlists
  exact ModuleLists.readList_of_read (read_eq_ok_iff_contents?.mpr ⟨place, hplace, hcontents⟩)
    hlast.1 hlast.2

/-- No other module has a preamble in the same place. -/
theorem readPreamble_left :
    ModuleLists.readPreamble t' (join directory (p.module ++ "-preamble.txt")) =
      .ok p.preamble := by
  have hending : "-preamble.txt" ∈ ModuleLists.endings := by decide
  obtain ⟨place, hplace, hfree, hcontents⟩ :=
    exists_left hnodup hwhole hvacant h hsplit hending
  have hother : after.reverse.findSome? (fun r =>
      (ModuleLists.listedAs r.module r).reverse.lookup [p.module ++ "-preamble.txt"]) = none :=
    List.findSome?_eq_none_iff.mpr fun q hq => ModuleLists.lookup_preamble_other
      ((module_ne_of_split hnodup hsplit).2 q (List.mem_reverse.mp hq))
  rw [hother, Option.none_or, ModuleLists.lookup_preamble] at hcontents
  rw [ModuleLists.readPreamble_of_locate hplace,
    ModuleLists.isDirectory_of_locate_ne hplace hfree, hcontents]
  split
  · next hempty => rw [String.isEmpty_iff.mp hempty]; rfl
  · rfl

theorem read_left (hnames : ∀ q ∈ plans, q.ListsIdentifiers)
    (hdistinct : ∀ q ∈ plans, q.RepeatsNothing) :
    ModuleLists.read t' directory p.module = .ok (ModuleLists.leftBy p after) := by
  have hp : p ∈ plans := hsplit ▸ List.mem_append_right _ List.mem_cons_self
  have hlater : ∀ q ∈ after, q ∈ plans := fun q hq =>
    hsplit ▸ List.mem_append_right _ (List.mem_cons_of_mem _ hq)
  have hne := (module_ne_of_split hnodup hsplit).2
  have hclasses : ModuleLists.readList t' (join directory (p.module ++ "-classes.txt")) =
      .ok (ModuleLists.leftBy p after).classes :=
    readList_left hnodup hwhole hvacant h hsplit (by decide) (ModuleLists.lookup_classes p)
      (fun q hq => ModuleLists.lookup_classes_other (hne q hq)) (hnames p hp).classes
      (hdistinct p hp).classes
      fun q hq => ⟨(hnames q (hlater q hq)).available, (hdistinct q (hlater q hq)).available⟩
  have havailable :
      ModuleLists.readList t' (join directory (p.module ++ "-available-classes.txt")) =
        .ok (ModuleLists.leftBy p after).availableClasses :=
    readList_left hnodup hwhole hvacant h hsplit (by decide) (ModuleLists.lookup_available p)
      (fun q hq => ModuleLists.lookup_available_other (hne q hq)) (hnames p hp).available
      (hdistinct p hp).available
      fun q hq => ⟨(hnames q (hlater q hq)).classes, (hdistinct q (hlater q hq)).classes⟩
  have hbuiltins : ModuleLists.readList t' (join directory (p.module ++ "-builtins.txt")) =
      .ok (ModuleLists.lastOr after (fun _ => False) ModulePlan.builtins p.builtins) :=
    readList_left hnodup hwhole hvacant h hsplit (by decide) (ModuleLists.lookup_builtins p)
      (fun q hq => ModuleLists.lookup_builtins_other (hne q hq)) (hnames p hp).builtins
      (hdistinct p hp).builtins
      fun q hq => ⟨(hnames q (hlater q hq)).builtins, (hdistinct q (hlater q hq)).builtins⟩
  rw [ModuleLists.lastOr_eq_own fun _ _ hshares => hshares.elim] at hbuiltins
  rw [ModuleLists.read_of_readList hclasses havailable hbuiltins,
    readPreamble_left hnodup hwhole hvacant h hsplit]
  rfl

end Split

/-- Each module has its own lists unless another module's list has replaced one of them by other
names. -/
theorem read_ofPlan_iff (hnames : ∀ q ∈ plans, q.ListsIdentifiers)
    (hdistinct : ∀ q ∈ plans, q.RepeatsNothing) :
    (∀ p ∈ plans, ModuleLists.read t' directory p.module = .ok (ModuleLists.ofPlan p)) ↔
      ∀ p ∈ plans, ∀ q ∈ plans, q.module = p.module ++ ModuleLists.sharedEnding →
        q.generatedClasses = p.availableClasses := by
  have hread {p : ModulePlan} {before after : List ModulePlan}
      (hsplit : plans = before ++ p :: after) :
      ModuleLists.read t' directory p.module = .ok (ModuleLists.leftBy p after) :=
    read_left hnodup hwhole hvacant h hsplit hnames hdistinct
  have hlater {p : ModulePlan} {before after : List ModulePlan}
      (hsplit : plans = before ++ p :: after) : ∀ q ∈ after, q ∈ plans := fun q hq =>
    hsplit ▸ List.mem_append_right _ (List.mem_cons_of_mem _ hq)
  constructor
  · intro hown p hp q hq hshared
    have hleft {p : ModulePlan} {before after : List ModulePlan}
        (hsplit : plans = before ++ p :: after) (hp : p ∈ plans) :
        ModuleLists.leftBy p after = ModuleLists.ofPlan p :=
      Except.ok.inj ((hread hsplit).symm.trans (hown p hp))
    have hne : q ≠ p := by
      rintro rfl
      exact absurd (congrArg String.length hshared) (by simp [ModuleLists.sharedEnding])
    obtain ⟨before, after, hsplit⟩ := List.append_of_mem hp
    rcases (by simpa [hsplit, hne] using hq : q ∈ before ∨ q ∈ after) with hbefore | hafter
    · -- the other module was planned first, and has lost its classes
      obtain ⟨front, back, rfl⟩ := List.append_of_mem hbefore
      rw [List.append_assoc, List.cons_append] at hsplit
      have hclasses := ModuleLists.classes_leftBy
        (fun r hr => List.inj_on_of_nodup_map hnodup (hlater hsplit r hr) hp)
        (List.mem_append_right back List.mem_cons_self) hshared
      rwa [hleft hsplit hq] at hclasses
    · have havailable := ModuleLists.availableClasses_leftBy
        (fun r hr => List.inj_on_of_nodup_map hnodup (hlater hsplit r hr) hq) hafter hshared
      rw [hleft hsplit hp] at havailable
      exact havailable.symm
  · intro hshared p hp
    obtain ⟨before, after, hsplit⟩ := List.append_of_mem hp
    rw [hread hsplit, ModuleLists.leftBy_eq_ofPlan]
    · exact fun q hq hmodule => (hshared q (hlater hsplit q hq) p hp hmodule).symm
    · exact fun q hq hmodule => hshared p hp q (hlater hsplit q hq) hmodule

end Read

/-- When the plans of a partition are written into a vacant directory, as planning does, each module
is read back with its own lists, but for those that the modules planned after it have replaced.  So
all lists are as planned just when a module that is named like another one with `-available` behind
generates the classes that are available to that one. -/
theorem read_of_partition {modules : List ModuleDefinition} {options : PartitionOptions}
    {workDirectory : String} (hplans : partition modules options = .ok plans)
    (hwhole : ∀ p ∈ plans, '/' ∉ p.module.toList) (hnames : ∀ p ∈ plans, p.ListsIdentifiers)
    (hvacant : t.IsVacant (WorkDirectory.listsPath workDirectory))
    (h : writeLists (WorkDirectory.listsPath workDirectory) t plans = (t', .ok ())) :
    let directory := WorkDirectory.listsPath workDirectory
    (∀ configurationPath configuration,
      loadPlans t configurationPath = .ok (configuration, plans) →
        runPlan configurationPath workDirectory t = (t', .ok plans)) ∧
    (∀ before p after, plans = before ++ p :: after →
      ModuleLists.read t' directory p.module = .ok (ModuleLists.leftBy p after)) ∧
    ((∀ p ∈ plans, ModuleLists.read t' directory p.module = .ok (ModuleLists.ofPlan p)) ↔
      ∀ p ∈ plans, ∀ q ∈ plans, q.module = p.module ++ ModuleLists.sharedEnding →
        q.generatedClasses = p.availableClasses) := by
  intro directory
  have hnodup := Partition.modules_nodup hplans
  have hdistinct := Partition.repeatsNothing hplans
  refine ⟨fun configurationPath configuration hloaded => ?_, fun before p after hsplit => ?_, ?_⟩
  · rw [runPlan, hloaded]
    dsimp only
    rw [h]
    rfl
  · exact read_left hnodup hwhole hvacant h hsplit hnames hdistinct
  · exact read_ofPlan_iff hnodup hwhole hvacant h hnames hdistinct

namespace SharedNames

def settings : PartitionOptions :=
  ⟨none, "Object", .perType⟩

def definitions : List ModuleDefinition :=
  [⟨"kernel", ["Object"], ["Vector2"], "use std;", []⟩,
    ⟨"kernel-available", ["Node"], [], "", ["kernel"]⟩, ⟨"kernel-builtins", ["Mesh"], [], "", []⟩]

def kernelPlan : ModulePlan :=
  ⟨"kernel", ["Object"], ["Object"], ["Vector2"], "use std;", [], false, .perType⟩

/-- Its classes are where the available classes of the first module are. -/
def availablePlan : ModulePlan :=
  ⟨"kernel-available", ["Node"], ["Node", "Object"], [], "", ["kernel"], false, .perType⟩

/-- Its name ends like a list, but no list is where one of its own is. -/
def builtinsPlan : ModulePlan :=
  ⟨"kernel-builtins", ["Mesh"], ["Mesh"], [], "", [], false, .perType⟩

def planned : List ModulePlan :=
  [kernelPlan, availablePlan, builtinsPlan]

theorem partition_eq : partition definitions settings = .ok planned := by
  decide +kernel

theorem whole : ∀ p ∈ planned, '/' ∉ p.module.toList := by
  decide

theorem listsIdentifiers : ∀ p ∈ planned, p.ListsIdentifiers := by
  decide +kernel

theorem below_lists : below "" ["work", listsName] = WorkDirectory.listsPath "work" :=
  rfl

theorem leadsDown_lists : LeadsDown ["work", listsName] :=
  ⟨List.cons_ne_nil _ _, by decide⟩

theorem isVacant : FileTree.empty.IsVacant (WorkDirectory.listsPath "work") :=
  below_lists ▸ isEmptyDirectory_empty.isVacant_below leadsDown_lists

theorem planned_isWritten :
    ∃ t', writeLists (WorkDirectory.listsPath "work") .empty planned = (t', .ok ()) := by
  have hstems : ∀ p ∈ planned, IsStem p.module := fun p hp =>
    ⟨whole p hp, (by decide : ∀ p ∈ planned, '\x00' ∉ p.module.toList) p hp⟩
  rw [← below_lists]
  exact exists_writeLists isEmptyDirectory_empty leadsDown_lists (by decide) hstems
    (by decide +kernel)

end SharedNames

open SharedNames in
theorem read_of_partition_shared : partition definitions settings = .ok planned ∧
    (∀ p ∈ planned, '/' ∉ p.module.toList) ∧ (∀ p ∈ planned, p.ListsIdentifiers) ∧
    FileTree.empty.IsVacant (WorkDirectory.listsPath "work") ∧
    ∃ t', writeLists (WorkDirectory.listsPath "work") .empty planned = (t', .ok ()) ∧
      ModuleLists.read t' (WorkDirectory.listsPath "work") "kernel" =
        .ok ⟨["Object"], ["Node"], ["Vector2"], "use std;"⟩ ∧
      ModuleLists.read t' (WorkDirectory.listsPath "work") "kernel-available" =
        .ok (ModuleLists.ofPlan availablePlan) ∧
      ModuleLists.read t' (WorkDirectory.listsPath "work") "kernel-builtins" =
        .ok (ModuleLists.ofPlan builtinsPlan) := by
  obtain ⟨t', hwrite⟩ := planned_isWritten
  obtain ⟨-, hread, -⟩ := read_of_partition partition_eq whole listsIdentifiers isVacant hwrite
  exact ⟨partition_eq, whole, listsIdentifiers, isVacant, t', hwrite,
    hread [] kernelPlan [availablePlan, builtinsPlan] rfl,
    hread [kernelPlan] availablePlan [builtinsPlan] rfl,
    hread [kernelPlan, availablePlan] builtinsPlan [] rfl⟩

open SharedNames in
/-- The classes of a module may be read as those that are available to another one. -/
theorem not_read_own : ¬∀ (modules : List ModuleDefinition) (options : PartitionOptions)
    (plans : List ModulePlan) (workDirectory : String) (t t' : FileTree),
      partition modules options = .ok plans → (∀ p ∈ plans, '/' ∉ p.module.toList) →
      (∀ p ∈ plans, p.ListsIdentifiers) → t.IsVacant (WorkDirectory.listsPath workDirectory) →
      writeLists (WorkDirectory.listsPath workDirectory) t plans = (t', .ok ()) →
      ∀ p ∈ plans, ModuleLists.read t' (WorkDirectory.listsPath workDirectory) p.module =
        .ok (ModuleLists.ofPlan p) := by
  intro hall
  obtain ⟨t', hwrite⟩ := planned_isWritten
  have hown := hall definitions settings planned "work" .empty t' partition_eq whole
    listsIdentifiers isVacant hwrite
  have hshared := (read_ofPlan_iff (Partition.modules_nodup partition_eq) whole isVacant hwrite
    listsIdentifiers (Partition.repeatsNothing partition_eq)).mp hown
  have hclasses : ["Node"] = ["Object"] := hshared kernelPlan List.mem_cons_self availablePlan
    (List.mem_cons_of_mem _ List.mem_cons_self) rfl
  exact absurd hclasses (by decide)

end Command

end EngineBindings
