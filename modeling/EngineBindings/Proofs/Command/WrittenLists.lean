import EngineBindings.Proofs.Command.Run
import EngineBindings.Proofs.Module.ListFiles

/-!
# Reading lists after the latest plan

Plans of one module are written over each other.  Its lists are then those of the last plan, and to
write that plan once more changes nothing.  The preamble is another matter: an empty one is not
written, and what an earlier plan left in its place is read instead (`Command.read_writeLists`).

Where nothing is in the way, lists can be written (`Command.exists_writeLists`).
-/

namespace EngineBindings

open FilePath FileTree Naming

namespace Command

variable {t t' : FileTree} {plans : List ModulePlan} {p : ModulePlan} {directory base : String}

/-! ## What was written -/

theorem placed_allListedAs {stem : ModulePlan → String} (hstems : ∀ q ∈ plans, IsStem (stem q)) :
    Placed (plans.flatMap fun q => ModuleLists.listedAs (stem q) q) := by
  intro file hfile
  obtain ⟨q, hq, hfile⟩ := List.mem_flatMap.mp hfile
  exact ModuleLists.placed_listedAs (hstems q hq) file hfile

theorem mem_allListedAs (stem : ModulePlan → String) (hp : p ∈ plans) {ending text : String}
    (h : (ModuleLists.contents p).lookup ending = some text) :
    ([stem p ++ ending], text) ∈ plans.flatMap fun q => ModuleLists.listedAs (stem q) q := by
  rw [lookup_eq_some_iff_mem (ModuleLists.contents_nodup p)] at h
  exact List.mem_flatMap.mpr ⟨p, hp, List.mem_map.mpr ⟨_, h, rfl⟩⟩

theorem exists_name_of_mem {stem : ModulePlan → String} {file : Placement}
    (h : file ∈ plans.flatMap fun q => ModuleLists.listedAs (stem q) q) :
    ∃ name, file.1 = [name] := by
  obtain ⟨q, -, hfile⟩ := List.mem_flatMap.mp h
  obtain ⟨content, -, rfl⟩ := List.mem_map.mp hfile
  exact ⟨_, rfl⟩

/-- The lists of modules that stems name in one directory are files in that directory. -/
theorem writeLists_eq_ok_iff_listedAs {stem : ModulePlan → String}
    (hcalled : ∀ q ∈ plans, ModuleLists.CalledBy directory q.module base (stem q)) :
    writeLists directory t plans = (t', .ok ()) ↔
      Writes base t (plans.flatMap fun q => ModuleLists.listedAs (stem q) q) t' := by
  have hfiles : plans.flatMap (ModuleLists.filesOf directory) =
      (plans.flatMap fun q => ModuleLists.listedAs (stem q) q).map
        fun file => (below base file.1, file.2) := by
    rw [List.map_flatMap]
    exact List.flatMap_congr fun q hq => ModuleLists.filesOf_eq_listedAs (hcalled q hq)
  rw [writeLists_eq_ok_iff_atPaths, hfiles, Writes.atPaths_iff]

/-- Lists can be written below an empty directory as long as no name and no path is too long. -/
theorem exists_writeLists {front : List String} (hempty : t.IsEmptyDirectory base)
    (hfront : LeadsDown front) (hfrontShort : ∀ name ∈ front, name.utf8ByteSize ≤ nameLimit)
    (hstems : ∀ q ∈ plans, IsStem q.module)
    (hshort : ∀ q ∈ plans, ∀ ending ∈ ModuleLists.endings,
      (q.module ++ ending).utf8ByteSize ≤ nameLimit ∧
        (join (below base front) (q.module ++ ending)).utf8ByteSize ≤ pathLimit) :
    ∃ t', writeLists (below base front) t plans = (t', .ok ()) := by
  let lists := plans.flatMap fun q => ModuleLists.listedAs q.module q
  let files : List Placement := lists.map fun file => (front ++ file.1, file.2)
  have hlists : ∀ file ∈ lists, ∃ q ∈ plans, ∃ ending ∈ ModuleLists.endings,
      file.1 = [q.module ++ ending] := by
    intro file hfile
    obtain ⟨q, hq, hfile⟩ := List.mem_flatMap.mp hfile
    obtain ⟨content, hcontent, rfl⟩ := List.mem_map.mp hfile
    exact ⟨q, hq, content.1,
      (ModuleLists.contents_sublist q).subset (List.mem_map_of_mem hcontent), rfl⟩
  have hplaced : Placed lists := placed_allListedAs hstems
  have hbelow : ∀ file ∈ lists, below (below base front) file.1 = below base (front ++ file.1) :=
    fun file hfile => join_below base hfront (hplaced file hfile)
  obtain ⟨t', hwrites⟩ : ∃ t', Writes base t files t' := by
    refine Writes.exists_of_isEmptyDirectory hempty ?_ hfront.named ?_ ?_ ?_ <;>
      refine List.forall_mem_map.mpr fun file hfile => ?_
    · exact hfront.append (hplaced file hfile)
    · obtain ⟨q, -, ending, -, hname⟩ := hlists file hfile
      exact ⟨_, congrArg (front ++ ·) hname⟩
    · obtain ⟨q, hq, ending, hending, hname⟩ := hlists file hfile
      rw [hname, List.forall_mem_append, List.forall_mem_singleton]
      exact ⟨hfrontShort, (hshort q hq ending hending).1⟩
    · obtain ⟨q, hq, ending, hending, hname⟩ := hlists file hfile
      rw [← hbelow file hfile, hname, below_singleton]
      exact (hshort q hq ending hending).2
  have hcalled : ∀ q ∈ plans,
      ModuleLists.CalledBy (below base front) q.module (below base front) q.module :=
    fun q _ => ModuleLists.CalledBy.refl _ _
  exact ⟨t', (writeLists_eq_ok_iff_listedAs hcalled).mpr ((Writes.front_iff hbelow).mp hwrites)⟩

section Written

variable {stem : ModulePlan → String}
  (hcalled : ∀ q ∈ plans, ModuleLists.CalledBy directory q.module base (stem q))
  (hwhole : ∀ q ∈ plans, '/' ∉ (stem q).toList)
  (h : writeLists directory t plans = (t', .ok ()))

include hcalled hwhole h

/-- Where lists were written, the stems are such that files can be named by them. -/
theorem writes_listedAs :
    Writes base t (plans.flatMap fun q => ModuleLists.listedAs (stem q) q) t' ∧
      ∀ q ∈ plans, IsStem (stem q) := by
  have hwrites := (writeLists_eq_ok_iff_listedAs hcalled).mp h
  refine ⟨hwrites, fun q hq => ⟨hwhole q hq, fun hnul => ?_⟩⟩
  -- no path with such a character leads anywhere
  have hending : "-classes.txt" ∈ ModuleLists.endings := by decide
  obtain ⟨place, hplace⟩ :=
    hwrites.exists_place (mem_allListedAs stem hq (ModuleLists.lookup_classes q))
  obtain ⟨root, hroot, -⟩ := bind_eq_ok_iff.mp hplace
  refine (start_eq_ok_iff.mp hroot).1 ?_
  rw [below_singleton, join_eq_lead (ModuleLists.isAbsolute_ending (hwhole q hq) hending)]
  simp only [String.toList_append, List.mem_append]
  exact .inr (.inl hnul)

/-- Each file of a module has a place, where the last list is that went there, or what was there
before. -/
theorem exists_written (hne : plans ≠ []) : ∃ l, t'.Located base l ∧
    ∀ q ∈ plans, ∀ ending ∈ ModuleLists.endings,
      t'.locate (join directory (q.module ++ ending)) = .ok (l ++ [stem q ++ ending]) ∧
      t'.contents? (l ++ [stem q ++ ending]) =
        (plans.reverse.findSome? fun r =>
          (ModuleLists.listedAs (stem r) r).reverse.lookup [stem q ++ ending]).or
        (t.contents? (l ++ [stem q ++ ending])) := by
  obtain ⟨hwrites, hstems⟩ := writes_listedAs hcalled hwhole h
  have hplaced := placed_allListedAs hstems
  have hlists : ∀ q ∈ plans, ∃ l, t'.Located base l ∧
      (∀ file ∈ plans.flatMap fun q => ModuleLists.listedAs (stem q) q,
        t'.locate (below base file.1) = .ok (l ++ file.1)) ∧
      ∀ ending ∈ ModuleLists.endings,
        t'.locate (below base [stem q ++ ending]) = .ok (l ++ [stem q ++ ending]) := by
    intro q hq
    exact ModuleLists.exists_located_lists hwrites hplaced (hstems q hq)
      (mem_allListedAs stem hq (ModuleLists.lookup_available q))
  obtain ⟨first, hfirst⟩ := List.exists_mem_of_ne_nil _ hne
  obtain ⟨l, hbase, hlocate, -⟩ := hlists first hfirst
  refine ⟨l, hbase, fun q hq ending hending => ⟨?_, ?_⟩⟩
  · obtain ⟨l', hbase', -, hendings⟩ := hlists q hq
    rw [hcalled q hq ending hending, ← below_singleton, hbase.unique hbase']
    exact hendings ending hending
  · rw [hwrites.contents?_below hlocate, lookup_reverse_flatMap]

end Written

/-! ## The latest plan of a module -/

/-- The last preamble of some plans that is not empty. -/
def lastPreamble? (plans : List ModulePlan) : Option String :=
  plans.reverse.findSome? fun q => if q.preamble.isEmpty then none else some q.preamble

theorem lastPreamble?_concat (plans : List ModulePlan) (p : ModulePlan) :
    lastPreamble? (plans ++ [p]) =
      if p.preamble.isEmpty then lastPreamble? plans else some p.preamble := by
  rw [lastPreamble?, List.reverse_append, List.reverse_singleton, List.singleton_append,
    List.findSome?_cons]
  cases p.preamble.isEmpty <;> rfl

theorem lastPreamble?_eq_none_iff :
    lastPreamble? plans = none ↔ ∀ q ∈ plans, q.preamble = "" := by
  unfold lastPreamble?
  simp only [List.findSome?_eq_none_iff, List.mem_reverse, ite_eq_left_iff, reduceCtorEq, imp_false,
    not_not, String.isEmpty_iff]

theorem ne_empty_of_lastPreamble? {text : String} (h : lastPreamble? plans = some text) :
    text ≠ "" := by
  obtain ⟨q, -, hq⟩ := List.exists_of_findSome?_eq_some h
  split at hq
  · cases hq
  · next hne =>
    rintro rfl
    rw [Option.some.inj hq] at hne
    exact hne rfl

theorem map_eq_ok_ofPlan_iff {preamble : Except FileError String} :
    preamble.map (fun preamble => { ModuleLists.ofPlan p with preamble }) =
      .ok (ModuleLists.ofPlan p) ↔ preamble = .ok p.preamble := by
  cases preamble with
  | error e => simp [Except.map]
  | ok text => simp [Except.map, ModuleLists.ofPlan]

/-- What is read as the preamble of the last plan, over an old text or a directory, is its own
preamble if it has one, or else if there was no other. -/
theorem preambleFrom_last_iff {old? : Option String} {isDirectory : Bool}
    (hold : ∀ text, old? = some text → lastPreamble? (plans ++ [p]) = none → isDirectory = false) :
    ModuleLists.preambleFrom ((lastPreamble? (plans ++ [p])).or old?) isDirectory =
        .ok p.preamble ↔
      p.preamble ≠ "" ∨ (∀ q ∈ plans, q.preamble = "") ∧ old?.getD "" = "" ∧
        isDirectory = false := by
  rw [ModuleLists.preambleFrom_eq_ok_iff]
  rw [lastPreamble?_concat] at hold ⊢
  cases hempty : p.preamble.isEmpty with
  | false =>
    have hne : p.preamble ≠ "" := fun hnil => by
      cases hempty.symm.trans (String.isEmpty_iff.mpr hnil)
    simp [hne]
  | true =>
    rw [hempty, if_pos rfl] at hold
    rw [if_pos rfl, String.isEmpty_iff.mp hempty]
    cases hlast : lastPreamble? plans with
    | none =>
      have hplans := lastPreamble?_eq_none_iff.mp hlast
      cases old? with
      | none => simpa using fun _ => hplans
      | some text =>
        have hfree := hold text rfl hlast
        simpa [hfree] using fun _ => hplans
    | some text =>
      have hplans : ¬∀ q ∈ plans, q.preamble = "" := fun hall => by
        cases hlast.symm.trans (lastPreamble?_eq_none_iff.mpr hall)
      have htext := ne_empty_of_lastPreamble? hlast
      simp only [Option.some_or, Option.some.injEq, htext, reduceCtorEq, ne_eq, not_true_eq_false,
        false_and, or_self, hplans]

section Latest

variable (hmodule : ∀ q ∈ plans, q.module = p.module)
  (h : writeLists directory t (plans ++ [p]) = (t', .ok ()))

include hmodule h

/-- The files of the last plan are there, and the preamble's place has the last one written. -/
theorem exists_latest : ∃ place,
    t'.locate (join directory (p.module ++ "-preamble.txt")) = .ok place ∧
    t'.contents? place = (lastPreamble? (plans ++ [p])).or (t.contents? place) ∧
    ∀ ending ∈ ModuleLists.endings, ∀ text, (ModuleLists.contents p).lookup ending = some text →
      t'.read (join directory (p.module ++ ending)) = .ok text := by
  obtain ⟨base, stem, hwhole, hcalled⟩ := ModuleLists.exists_calledBy directory p.module
  have hcalled : ∀ q ∈ plans ++ [p], ModuleLists.CalledBy directory q.module base stem := by
    intro q hq
    rcases List.mem_append.mp hq with hq | hq
    · rwa [hmodule q hq]
    · rwa [List.mem_singleton.mp hq]
  obtain ⟨l, -, hwritten⟩ := exists_written hcalled (fun _ _ => hwhole) h
    (List.append_ne_nil_of_right_ne_nil _ (List.cons_ne_nil _ _))
  have hwritten := hwritten p (List.mem_append_right _ List.mem_cons_self)
  simp only [ModuleLists.lookup_listedAs] at hwritten
  obtain ⟨hplace, hcontents⟩ := hwritten "-preamble.txt" (by decide)
  refine ⟨_, hplace, ?_, fun ending hending text htext => ?_⟩
  · simpa only [ModuleLists.lookup_preamble, lastPreamble?] using hcontents
  · obtain ⟨hlocate, hlist⟩ := hwritten ending hending
    refine read_eq_ok_iff_contents?.mpr ⟨_, hlocate, hlist.trans ?_⟩
    rw [List.reverse_append, List.reverse_singleton, List.singleton_append, List.findSome?_cons,
      htext, Option.some_or]

/-- The lists of the last plan are read with the last preamble that was not empty, or with what was
in its place. -/
theorem read_latest (hnames : p.ListsIdentifiers) (hnodup : p.RepeatsNothing) :
    let path := (ModuleListPaths.inDirectory directory p.module).preamble
    ∃ place, t'.locate path = .ok place ∧
      ModuleLists.read t' directory p.module =
        (ModuleLists.preambleFrom ((lastPreamble? (plans ++ [p])).or (t.contents? place))
          (t'.isDirectory path)).map (fun preamble => { ModuleLists.ofPlan p with preamble }) ∧
      (ModuleLists.read t' directory p.module = .ok (ModuleLists.ofPlan p) ↔
        p.preamble ≠ "" ∨ (∀ q ∈ plans, q.preamble = "") ∧ (t.contents? place).getD "" = "" ∧
          t'.isDirectory path = false) := by
  intro path
  obtain ⟨place, hplace, hcontents, hfile⟩ := exists_latest hmodule h
  have hlists := ModuleLists.read_of_readList
    (ModuleLists.readList_of_read (hfile _ (by decide) _ (ModuleLists.lookup_classes p))
      hnames.classes hnodup.classes)
    (ModuleLists.readList_of_read (hfile _ (by decide) _ (ModuleLists.lookup_available p))
      hnames.available hnodup.available)
    (ModuleLists.readList_of_read (hfile _ (by decide) _ (ModuleLists.lookup_builtins p))
      hnames.builtins hnodup.builtins)
  have hread : ModuleLists.read t' directory p.module =
      (ModuleLists.preambleFrom ((lastPreamble? (plans ++ [p])).or (t.contents? place))
        (t'.isDirectory path)).map (fun preamble => { ModuleLists.ofPlan p with preamble }) := by
    rw [hlists, ModuleLists.readPreamble_of_locate hplace, hcontents]
    rfl
  refine ⟨place, hplace, hread, ?_⟩
  rw [hread, map_eq_ok_ofPlan_iff]
  refine preambleFrom_last_iff fun text htext hlast => ?_
  rw [hlast, Option.none_or, htext] at hcontents
  refine ModuleLists.isDirectory_of_locate_ne hplace ?_
  rw [View.fileAt_eq_some_iff.mp hcontents]
  exact fun heq => (nomatch heq)

/-- All that the last plan writes is there, so to write it again changes nothing. -/
theorem write_latest : ModuleLists.write t' directory p = (t', .ok 0) := by
  obtain ⟨-, -, -, hfile⟩ := exists_latest hmodule h
  refine ModuleLists.writeFiles_of_read 0 fun file hwritten => ?_
  rw [ModuleLists.filesOf_eq, ModuleLists.placements, List.map_map] at hwritten
  obtain ⟨⟨ending, text⟩, hcontent, rfl⟩ := List.mem_map.mp hwritten
  have hending := (ModuleLists.contents_sublist p).subset (List.mem_map_of_mem hcontent)
  rw [Function.comp_apply, below_singleton]
  exact hfile ending hending text
    ((lookup_eq_some_iff_mem (ModuleLists.contents_nodup p)).mpr hcontent)

/-- After the last of some plans of a module was written, its own lists are read, with the last
preamble that was not empty; if there was none, with what was in the place of the preamble before.
So an empty preamble is read back just when nothing else is there.  To write the last plan again
changes nothing. -/
theorem read_writeLists (hnames : p.ListsIdentifiers) (hnodup : p.RepeatsNothing) :
    let path := (ModuleListPaths.inDirectory directory p.module).preamble
    ∃ place, t'.locate path = .ok place ∧
      ModuleLists.read t' directory p.module =
        (ModuleLists.preambleFrom ((lastPreamble? (plans ++ [p])).or (t.contents? place))
          (t'.isDirectory path)).map (fun preamble => { ModuleLists.ofPlan p with preamble }) ∧
      (ModuleLists.read t' directory p.module = .ok (ModuleLists.ofPlan p) ↔
        p.preamble ≠ "" ∨ (∀ q ∈ plans, q.preamble = "") ∧ (t.contents? place).getD "" = "" ∧
          t'.isDirectory path = false) ∧
      ModuleLists.write t' directory p = (t', .ok 0) := by
  intro path
  obtain ⟨place, hplace, hread, hlatest⟩ := read_latest hmodule h hnames hnodup
  exact ⟨place, hplace, hread, hlatest, write_latest hmodule h⟩

end Latest

namespace PlannedTwice

def kernel (preamble : String) : ModulePlan :=
  ⟨"kernel", ["Object", "Node"], ["Object", "Node", "Mesh"], ["Vector2"], preamble, [], false,
    .perType⟩

theorem listsIdentifiers (preamble : String) : (kernel preamble).ListsIdentifiers := by
  have hlists : (kernel "").ListsIdentifiers := by decide +kernel
  exact ⟨hlists.classes, hlists.available, hlists.builtins⟩

theorem repeatsNothing (preamble : String) : (kernel preamble).RepeatsNothing := by
  have hlists : (kernel "").RepeatsNothing := by decide
  exact ⟨hlists.classes, hlists.available, hlists.builtins⟩

theorem kernel_isWritten (first last : String) :
    ∃ t', writeLists "lists" .empty ([kernel first] ++ [kernel last]) = (t', .ok ()) := by
  have hmodule : ∀ q ∈ [kernel first] ++ [kernel last], q.module = "kernel" := by simp [kernel]
  have hstem : IsStem "kernel" := ⟨by decide, by decide⟩
  have hfront : LeadsDown ["lists"] := ⟨by decide, by decide⟩
  refine exists_writeLists isEmptyDirectory_empty hfront (by decide)
    (fun q hq => hmodule q hq ▸ hstem) fun q hq => ?_
  rw [hmodule q hq]
  decide +kernel

end PlannedTwice

open PlannedTwice in
theorem read_writeLists_kernel : (∀ q ∈ [kernel "use a;"], q.module = "kernel") ∧
    (kernel "use b;").ListsIdentifiers ∧ (kernel "use b;").RepeatsNothing ∧
    ∃ t', writeLists "lists" .empty [kernel "use a;", kernel "use b;"] = (t', .ok ()) ∧
      ModuleLists.read t' "lists" "kernel" = .ok (ModuleLists.ofPlan (kernel "use b;")) ∧
      ModuleLists.write t' "lists" (kernel "use b;") = (t', .ok 0) := by
  have hmodule : ∀ q ∈ [kernel "use a;"], q.module = (kernel "use b;").module := by decide
  obtain ⟨t', hwrite⟩ := kernel_isWritten "use a;" "use b;"
  obtain ⟨_, -, -, hread, hagain⟩ :=
    read_writeLists hmodule hwrite (listsIdentifiers "use b;") (repeatsNothing "use b;")
  exact ⟨hmodule, listsIdentifiers _, repeatsNothing _, t', hwrite, hread.mpr (.inl (by decide)),
    hagain⟩

open PlannedTwice in
/-- A preamble that was taken out of a configuration is still read. -/
theorem not_read_latest : ¬∀ (directory : String) (plans : List ModulePlan) (p : ModulePlan)
    (t' : FileTree), (∀ q ∈ plans, q.module = p.module) →
      (∀ q ∈ plans ++ [p], q.ListsIdentifiers ∧ q.RepeatsNothing) →
      writeLists directory .empty (plans ++ [p]) = (t', .ok ()) →
      ModuleLists.read t' directory p.module = .ok (ModuleLists.ofPlan p) := by
  intro hlatest
  have hmodule : ∀ q ∈ [kernel "use a;"], q.module = (kernel "").module := by decide
  obtain ⟨t', hwrite⟩ := kernel_isWritten "use a;" ""
  have hread := hlatest "lists" [kernel "use a;"] (kernel "") t' hmodule
    (by simp [listsIdentifiers, repeatsNothing]) hwrite
  obtain ⟨_, -, -, hown⟩ :=
    read_latest hmodule hwrite (listsIdentifiers "") (repeatsNothing "")
  rcases hown.mp hread with hpreamble | ⟨hearlier, -⟩
  · exact hpreamble rfl
  · exact absurd (hearlier (kernel "use a;") List.mem_cons_self) (by decide)

end Command

end EngineBindings
