import EngineBindings.Proofs.File.Path
import EngineBindings.Proofs.File.View
import EngineBindings.Proofs.Traverse
import Mathlib.Data.List.TakeWhile

/-!
# Walking down from a directory

What a file tree has below a place is its `view`; the entries that change below it change the view
alone (`view_put`, `sameBut_put`).

* `FileTree.reach_of_noFile`: a walk down through names ends in a directory or finds nothing, unless
  a file is in its way.
* `FileTree.Located`: however the path of a directory is spelled, what is found below it is found by
  a walk down from its place (`Located.locate_below`), as long as the path is short enough.
-/

namespace EngineBindings

open FilePath

namespace Location

/-- What is found down through names is not above the tree. -/
theorem isGiven_append_cons {l : Location} {name : String} (hname : IsFileName name)
    (rest : List String) : isGiven (l ++ name :: rest) = false := by
  have habove : (name == "..") = false := hname.not_above
  have hroot : l ++ name :: rest ≠ ["/"] := by
    intro heq
    have hmem : name ∈ l ++ name :: rest := List.mem_append_right _ List.mem_cons_self
    rw [heq, List.mem_singleton] at hmem
    rw [hmem] at hname
    exact hname.whole List.mem_cons_self
  rw [isGiven, beq_false_of_ne hroot, Bool.or_false, List.all_append, List.all_cons, habove,
    Bool.false_and, Bool.and_false]

theorem isGiven_append {l : Location} {names : List String} (h : LeadsDown names) :
    isGiven (l ++ names) = false := by
  obtain ⟨name, rest, rfl⟩ := List.exists_cons_of_ne_nil h.ne_nil
  exact isGiven_append_cons (h.named name List.mem_cons_self) rest

end Location

namespace FileTree

variable {t t' : FileTree} {l : Location}

/-! ## Entries -/

section Entries

variable {entries : List (Location × FileEntry)} {entry : FileEntry} {place : Location}

/-- The entries with another one at a place that they have. -/
def replace (entries : List (Location × FileEntry)) (l : Location) (entry : FileEntry) :
    List (Location × FileEntry) :=
  entries.map fun old => if old.1 == l then (l, entry) else old

theorem lookup_replace_self (h : (entries.lookup l).isSome) :
    (replace entries l entry).lookup l = some entry := by
  induction entries with
  | nil => cases h
  | cons old rest ih =>
    obtain ⟨k, e⟩ := old
    by_cases hk : l = k
    · subst hk
      rw [replace, List.map_cons, if_pos (beq_self_eq_true l), List.lookup_cons_self]
    · rw [List.lookup_cons, beq_false_of_ne hk] at h
      rw [replace, List.map_cons, beq_false_of_ne (Ne.symm hk), if_neg Bool.false_ne_true,
        List.lookup_cons, beq_false_of_ne hk]
      exact ih h

theorem lookup_replace_of_ne (h : place ≠ l) :
    (replace entries l entry).lookup place = entries.lookup place := by
  induction entries with
  | nil => rfl
  | cons old rest ih =>
    obtain ⟨k, e⟩ := old
    rw [replace, List.map_cons]
    by_cases hk : k = l
    · subst hk
      rw [if_pos (beq_self_eq_true k), List.lookup_cons, List.lookup_cons, beq_false_of_ne h]
      exact ih
    · rw [beq_false_of_ne hk, if_neg Bool.false_ne_true, List.lookup_cons, List.lookup_cons]
      split
      · rfl
      · exact ih

theorem entry?_put (hgiven : l.isGiven = false) (entry : FileEntry) (place : Location) :
    FileTree.entry? (t.put l entry) place = if place = l then some entry else t.entry? place := by
  unfold entry? put
  by_cases hplace : place = l
  · rw [if_pos hplace, hplace, hgiven, if_neg Bool.false_ne_true]
    split
    · next hsome => exact lookup_replace_self hsome
    · next hnone =>
      rw [List.lookup_append, Option.not_isSome_iff_eq_none.mp hnone, Option.none_or,
        List.lookup_cons_self]
  · rw [if_neg hplace]
    congr 1
    split
    · exact lookup_replace_of_ne hplace
    · rw [List.lookup_append, List.lookup_cons, beq_false_of_ne hplace, List.lookup_nil,
        Option.or_none]

end Entries

/-- What is below a place. -/
def view (t : FileTree) (l : Location) : View := fun names =>
  t.entry? (l ++ names)

theorem view_append (front place : List String) :
    t.view (l ++ front) place = t.view l (front ++ place) := by
  rw [view, view, List.append_assoc]

/-- Whether trees are the same but below a place. -/
def SameBut (l : Location) (t t' : FileTree) : Prop :=
  ∀ place, (∀ names, names ≠ [] → place ≠ l ++ names) → t'.entry? place = t.entry? place

theorem view_put {names : List String} (h : LeadsDown names) (entry : FileEntry) :
    (t.put (l ++ names) entry).view l = (t.view l).put names entry := by
  funext place
  rw [view, entry?_put (Location.isGiven_append h), View.put]
  simp only [List.append_cancel_left_eq]
  rfl

theorem sameBut_put {names : List String} (h : LeadsDown names) (entry : FileEntry) :
    SameBut l t (t.put (l ++ names) entry) := by
  intro place hplace
  rw [entry?_put (Location.isGiven_append h), if_neg (hplace _ h.ne_nil)]

theorem SameBut.trans {t'' : FileTree} (h : SameBut l t t') (h' : SameBut l t' t'') :
    SameBut l t t'' :=
  fun place hplace => (h' place hplace).trans (h place hplace)

theorem SameBut.refl (l : Location) (t : FileTree) : SameBut l t t :=
  fun _ _ => rfl

/-! ## Walking -/

/-- Whether every directory of a tree is one of another tree. -/
def KeepsDirectories (t t' : FileTree) : Prop :=
  ∀ l, t.entry? l = some .directory → t'.entry? l = some .directory

theorem directory_eq_ok_iff {l' : Location} :
    t.directory l = .ok l' ↔ t.entry? l = some .directory ∧ l' = l := by
  unfold directory
  split
  · next h => simp [h, eq_comm]
  · next h => simp [h]
  · next h => simp [h]

theorem step_of_directory (h : t.entry? l = some .directory) {name : String}
    (hname : IsFileName name) :
    t.step l name = if nameLimit < name.utf8ByteSize then .error .invalidFilename
      else .ok (l ++ [name]) := by
  unfold step
  rw [directory_eq_ok_iff.mpr ⟨h, rfl⟩]
  change (if isHere name = true then _ else if isAbove name = true then _ else _) = _
  rw [hname.not_here, hname.not_above]
  rfl

theorem step_congr (h : t.entry? l = some .directory) (h' : t'.entry? l = some .directory)
    (piece : String) : t'.step l piece = t.step l piece := by
  unfold step
  rw [directory_eq_ok_iff.mpr ⟨h, rfl⟩, directory_eq_ok_iff.mpr ⟨h', rfl⟩]

theorem directory_of_step {piece : String} {l' : Location} (h : t.step l piece = .ok l') :
    t.entry? l = some .directory := by
  obtain ⟨_, hl, -⟩ := bind_eq_ok_iff.mp h
  exact (directory_eq_ok_iff.mp hl).1

/-- A path leads to the same place as long as no directory goes away. -/
theorem KeepsDirectories.locate (h : KeepsDirectories t t') {path : String}
    (hpath : t.locate path = .ok l) : t'.locate path = .ok l := by
  obtain ⟨root, hroot, hfold⟩ := bind_eq_ok_iff.mp hpath
  refine bind_eq_ok_iff.mpr ⟨root, hroot, ?_⟩
  clear hroot hpath
  generalize pieces path = names at hfold
  induction names generalizing root with
  | nil => exact hfold
  | cons piece rest ih =>
    rw [List.foldlM_cons] at hfold ⊢
    obtain ⟨next, hstep, hrest⟩ := bind_eq_ok_iff.mp hfold
    have hroot := directory_of_step hstep
    rw [step_congr hroot (h root hroot)]
    exact bind_eq_ok_iff.mpr ⟨next, hstep, ih next hrest⟩

theorem keepsDirectories_put {entry : FileEntry} (hgiven : l.isGiven = false)
    (hentry : t.entry? l ≠ some .directory) : KeepsDirectories t (t.put l entry) := by
  intro place hplace
  rw [entry?_put hgiven, if_neg]
  · exact hplace
  · rintro rfl
    exact hentry hplace

/-- Where a walk down through names ends, if that is a directory. -/
def reach (t : FileTree) (l : Location) (names : List String) : Except FileError Location := do
  t.directory (← names.foldlM t.step l)

/-- Whether the way down through names has directories only. -/
def Open (t : FileTree) (l : Location) (names : List String) : Prop :=
  ∀ place, place <+: names → t.entry? (l ++ place) = some .directory

theorem reach_cons (name : String) (rest : List String) :
    t.reach l (name :: rest) = t.step l name >>= fun l => t.reach l rest := by
  unfold reach
  rw [List.foldlM_cons, bind_assoc]

theorem foldlM_concat (names : List String) (last : String) :
    (names ++ [last]).foldlM t.step l = t.reach l names >>= fun l => t.step l last := by
  unfold reach
  rw [List.foldlM_append, bind_assoc]
  congr 1
  funext l'
  cases hl : t.directory l' with
  | error e => rw [List.foldlM_cons, step, hl]; rfl
  | ok l'' =>
    obtain ⟨-, rfl⟩ := directory_eq_ok_iff.mp hl
    rw [List.foldlM_cons]
    exact bind_pure _

section Names

variable {names : List String}

theorem reach_eq_ok (hnamed : ∀ name ∈ names, IsFileName name) {l' : Location}
    (h : t.reach l names = .ok l') :
    l' = l ++ names ∧ t.Open l names ∧ ∀ name ∈ names, name.utf8ByteSize ≤ nameLimit := by
  induction names generalizing l with
  | nil =>
    obtain ⟨hl, rfl⟩ := directory_eq_ok_iff.mp h
    refine ⟨(List.append_nil _).symm, fun place hplace => ?_, fun name hname => (nomatch hname)⟩
    rw [List.prefix_nil.mp hplace, List.append_nil]
    exact hl
  | cons name rest ih =>
    obtain ⟨hname, hrest⟩ := List.forall_mem_cons.mp hnamed
    rw [reach_cons] at h
    obtain ⟨next, hstep, hreach⟩ := bind_eq_ok_iff.mp h
    have hl := directory_of_step hstep
    rw [step_of_directory hl hname] at hstep
    split at hstep
    · cases hstep
    · next hshort =>
      obtain rfl := Except.ok.inj hstep
      obtain ⟨rfl, hopen, hshorts⟩ := ih hrest hreach
      refine ⟨List.append_assoc _ _ _, fun place hplace => ?_,
        List.forall_mem_cons.mpr ⟨Nat.not_lt.mp hshort, hshorts⟩⟩
      rcases List.prefix_cons_iff.mp hplace with rfl | ⟨others, rfl, hothers⟩
      · rw [List.append_nil]
        exact hl
      · have hother := hopen others hothers
        rwa [List.append_assoc, List.singleton_append] at hother

theorem reach_of_open (hnamed : ∀ name ∈ names, IsFileName name)
    (hshort : ∀ name ∈ names, name.utf8ByteSize ≤ nameLimit) (h : t.Open l names) :
    t.reach l names = .ok (l ++ names) := by
  induction names generalizing l with
  | nil =>
    refine directory_eq_ok_iff.mpr ⟨?_, List.append_nil l⟩
    have hl := h [] List.prefix_rfl
    rwa [List.append_nil] at hl
  | cons name rest ih =>
    obtain ⟨hname, hrest⟩ := List.forall_mem_cons.mp hnamed
    obtain ⟨hlength, hlengths⟩ := List.forall_mem_cons.mp hshort
    have hl := h [] (List.nil_prefix)
    rw [List.append_nil] at hl
    rw [reach_cons, step_of_directory hl hname, if_neg (Nat.not_lt.mpr hlength)]
    change t.reach (l ++ [name]) rest = _
    have hopen : t.Open (l ++ [name]) rest := fun place hplace => by
      rw [List.append_assoc]
      exact h (name :: place) ((List.prefix_cons_inj name).mpr hplace)
    rw [ih hrest hlengths hopen, List.append_assoc, List.singleton_append]

theorem reach_of_none (hl : t.entry? l = none) : t.reach l names = .error .notFound := by
  have hdirectory : t.directory l = .error .notFound := by rw [directory, hl]
  cases names with
  | nil => exact hdirectory
  | cons name rest => rw [reach_cons, step, hdirectory]; rfl

/-- A walk down finds directories only, or nothing, where no file is in its way. -/
theorem reach_of_noFile (hnamed : ∀ name ∈ names, IsFileName name)
    (hshort : ∀ name ∈ names, name.utf8ByteSize ≤ nameLimit) (hl : t.entry? l = some .directory)
    (hfile : ∀ place, place ≠ [] → place <+: names → (t.view l).fileAt place = none) :
    t.reach l names = .ok (l ++ names) ∨ t.reach l names = .error .notFound := by
  induction names generalizing l with
  | nil => exact .inl (directory_eq_ok_iff.mpr ⟨hl, List.append_nil l⟩)
  | cons name rest ih =>
    obtain ⟨hname, hrest⟩ := List.forall_mem_cons.mp hnamed
    obtain ⟨hlength, hlengths⟩ := List.forall_mem_cons.mp hshort
    rw [reach_cons, step_of_directory hl hname, if_neg (Nat.not_lt.mpr hlength)]
    change t.reach (l ++ [name]) rest = _ ∨ t.reach (l ++ [name]) rest = _
    cases hnext : t.entry? (l ++ [name]) with
    | none => exact .inr (reach_of_none hnext)
    | some entry =>
      cases entry with
      | file contents =>
        have hnone := hfile [name] (List.cons_ne_nil _ _) (List.prefix_append [name] rest)
        have hsome : (t.view l).fileAt [name] = some contents := View.fileAt_eq_some_iff.mpr hnext
        cases hsome.symm.trans hnone
      | directory =>
        have hwalk := ih hrest hlengths hnext fun place _ hplace => by
          rw [← hfile (name :: place) (List.cons_ne_nil _ _)
            ((List.prefix_cons_inj name).mpr hplace)]
          exact View.fileAt_congr (view_append [name] place)
        rwa [List.append_assoc, List.singleton_append] at hwalk

end Names

/-! ## Finding -/

section Finding

variable {path : String} (hpath : t.locate path = .ok l)

include hpath

theorem find_of_locate {entry : FileEntry} (hentry : t.entry? l = some entry) :
    t.find path = .ok entry := by
  refine bind_eq_ok_iff.mpr ⟨l, hpath, ?_⟩
  rw [hentry]
  rfl

theorem find_of_locate_none (hentry : t.entry? l = none) : t.find path = .error .notFound := by
  unfold find
  rw [hpath]
  dsimp only [bind, Except.bind]
  rw [hentry]
  rfl

theorem isDirectory_of_locate (hl : t.entry? l = some .directory) : t.isDirectory path = true := by
  rw [isDirectory, find_of_locate hpath hl]

end Finding

theorem read_of_find_file {path contents : String} (h : t.find path = .ok (.file contents)) :
    t.read path = .ok contents :=
  bind_eq_ok_iff.mpr ⟨_, h, rfl⟩

theorem read_of_find_error {path : String} {e : FileError} (h : t.find path = .error e) :
    t.read path = .error e := by
  rw [read, h]
  rfl

theorem read_eq_ok_iff {path contents : String} :
    t.read path = .ok contents ↔
      ∃ l, t.locate path = .ok l ∧ t.entry? l = some (.file contents) := by
  constructor
  · intro h
    obtain ⟨entry, hfind, hread⟩ := bind_eq_ok_iff.mp h
    obtain ⟨l, hl, hentry⟩ := bind_eq_ok_iff.mp hfind
    refine ⟨l, hl, ?_⟩
    split at hentry
    · next found hfound =>
      obtain rfl := Except.ok.inj hentry
      cases found with
      | file old => rw [hfound, Except.ok.inj hread]
      | directory => cases hread
    · cases hentry
  · rintro ⟨l, hl, hentry⟩
    exact read_of_find_file (find_of_locate hl hentry)

/-- The contents of the file at a place. -/
def contents? (t : FileTree) (place : Location) : Option String :=
  View.fileAt t.entry? place

theorem read_eq_ok_iff_contents? {path contents : String} :
    t.read path = .ok contents ↔ ∃ l, t.locate path = .ok l ∧ t.contents? l = some contents := by
  simp only [read_eq_ok_iff, contents?, View.fileAt_eq_some_iff]

theorem isFile_iff_read {path : String} :
    t.isFile path = true ↔ ∃ contents, t.read path = .ok contents := by
  unfold isFile read
  cases t.find path with
  | error e => simp [bind, Except.bind]
  | ok entry => cases entry <;> simp [bind, Except.bind, pure, Except.pure]

theorem start_eq_ok_iff {path : String} {root : Location} :
    start path = .ok root ↔ '\x00' ∉ path.toList ∧ path.utf8ByteSize ≤ pathLimit ∧
      root = if isAbsolute path then ["/"] else [] := by
  unfold start
  split
  · next hmem =>
    exact ⟨fun h => (nomatch h), fun h => absurd (List.contains_iff_mem.mp hmem) h.1⟩
  · next hmem =>
    rw [List.contains_iff_mem] at hmem
    split
    · next hlong => exact ⟨fun h => (nomatch h), fun h => absurd h.2.1 (Nat.not_le.mpr hlong)⟩
    · next hlong =>
      rw [Except.ok.injEq, eq_comm]
      exact ⟨fun h => ⟨hmem, Nat.not_lt.mp hlong, h⟩, fun h => h.2.2⟩

/-- Whether a path leads to a directory at a place. -/
structure Located (t : FileTree) (base : String) (l : Location) : Prop where
  locate : t.locate base = .ok l
  directory : t.entry? l = some .directory

theorem KeepsDirectories.located (h : KeepsDirectories t t') {base : String}
    (hbase : t.Located base l) : t'.Located base l :=
  ⟨h.locate hbase.locate, h l hbase.directory⟩

theorem directory_of_start {path : String} {root : Location} (h : start path = .ok root) :
    t.entry? root = some .directory := by
  obtain ⟨-, -, rfl⟩ := start_eq_ok_iff.mp h
  split <;> rfl

theorem eq_of_foldlM_here {pieces : List String} (hhere : ∀ piece ∈ pieces, isHere piece = true)
    {l' : Location} (h : pieces.foldlM t.step l = .ok l') : l' = l := by
  induction pieces generalizing l with
  | nil => exact (Except.ok.inj h).symm
  | cons piece rest ih =>
    obtain ⟨hpiece, hrest⟩ := List.forall_mem_cons.mp hhere
    rw [List.foldlM_cons] at h
    obtain ⟨next, hstep, hfold⟩ := bind_eq_ok_iff.mp h
    obtain rfl : next = l := by
      obtain ⟨_, hdirectory, hnext⟩ := bind_eq_ok_iff.mp hstep
      rw [if_pos hpiece] at hnext
      rw [← Except.ok.inj hnext, (directory_eq_ok_iff.mp hdirectory).2]
    exact ih hrest hfold

/-- A directory that is there cannot be made. -/
theorem makeDirectory_of_located {path : String} (h : t.Located path l) :
    t.makeDirectory path = .error .alreadyExists := by
  obtain ⟨root, hroot, hfold⟩ := bind_eq_ok_iff.mp h.locate
  unfold makeDirectory approach splitLast
  dsimp only
  cases hlast : (pieces path).reverse.dropWhile String.isEmpty with
  | nil =>
    rw [hroot]
    change (t.directory root >>= _) >>= _ = _
    rw [directory_eq_ok_iff.mpr ⟨directory_of_start hroot, rfl⟩]
    rfl
  | cons last before =>
    -- what follows the last piece leads nowhere else
    have hpieces : pieces path = before.reverse ++ last ::
        ((pieces path).reverse.takeWhile String.isEmpty).reverse := by
      rw [← List.reverse_inj, List.reverse_append, List.reverse_cons, List.reverse_reverse,
        List.reverse_reverse, List.append_assoc, List.singleton_append, ← hlast,
        List.takeWhile_append_dropWhile]
    rw [hpieces, List.foldlM_append] at hfold
    obtain ⟨k, hk, hfold⟩ := bind_eq_ok_iff.mp hfold
    rw [List.foldlM_cons] at hfold
    obtain ⟨k', hstep, hfold⟩ := bind_eq_ok_iff.mp hfold
    obtain rfl := eq_of_foldlM_here (fun piece hpiece => by
      rw [isHere, List.mem_takeWhile_imp (List.mem_reverse.mp hpiece), Bool.true_or]) hfold
    rw [hroot]
    change (List.foldlM t.step root before.reverse >>= fun l => t.directory l >>= _) >>= _ = _
    rw [hk]
    change (t.directory k >>= _) >>= _ = _
    rw [directory_eq_ok_iff.mpr ⟨directory_of_step hstep, rfl⟩]
    change (if (isHere last || isAbove last) = true then _ else _) = _
    split
    · rfl
    · rw [hstep]
      change (if (t.entry? l).isSome = true then _ else _) = _
      rw [h.directory]
      rfl

/-! ## Paths below a directory -/

/-- What is found below a directory is found from the place of the directory. -/
theorem exists_located_of_locate {base : String} {names : List String} (hnames : LeadsDown names)
    {place : Location} (h : t.locate (below base names) = .ok place) :
    ∃ l, t.Located base l := by
  obtain ⟨trunk, hpieces, hbelow⟩ := exists_trunk base
  obtain ⟨habsolute, hbelow⟩ := hbelow names hnames
  obtain ⟨root, hroot, hfold⟩ := bind_eq_ok_iff.mp h
  rw [hbelow, List.foldlM_append] at hfold
  obtain ⟨l, hl, hfold⟩ := bind_eq_ok_iff.mp hfold
  obtain ⟨name, rest, rfl⟩ := List.exists_cons_of_ne_nil hnames.ne_nil
  rw [List.foldlM_cons] at hfold
  obtain ⟨next, hstep, -⟩ := bind_eq_ok_iff.mp hfold
  have hdirectory := directory_of_step hstep
  obtain ⟨hnul, hfits, rfl⟩ := start_eq_ok_iff.mp hroot
  obtain ⟨back, hback⟩ := exists_below_eq_append base hnames
  rw [hback] at hnul hfits
  rw [String.utf8ByteSize_append] at hfits
  have hbase : start base = .ok (if isAbsolute base then ["/"] else []) := by
    refine start_eq_ok_iff.mpr ⟨fun hmem => hnul ?_, by omega, rfl⟩
    rw [String.toList_append]
    exact List.mem_append_left _ hmem
  rw [habsolute] at hl
  refine ⟨l, bind_eq_ok_iff.mpr ⟨_, hbase, ?_⟩, hdirectory⟩
  rcases hpieces with hpieces | hpieces
  · rw [hpieces]
    exact hl
  · rw [hpieces, List.foldlM_append]
    refine bind_eq_ok_iff.mpr ⟨l, hl, ?_⟩
    rw [List.foldlM_cons]
    refine bind_eq_ok_iff.mpr ⟨l, ?_, rfl⟩
    exact bind_eq_ok_iff.mpr ⟨l, directory_eq_ok_iff.mpr ⟨hdirectory, rfl⟩, rfl⟩

section Below

variable {base : String} (hbase : t.Located base l)

include hbase

theorem Located.exists_trunk : ∃ root trunk back, start base = .ok root ∧
    trunk.foldlM t.step root = .ok l ∧ pieces base = trunk ++ back ∧ ∀ names, LeadsDown names →
      isAbsolute (below base names) = isAbsolute base ∧
        pieces (below base names) = trunk ++ names := by
  obtain ⟨root, hroot, hfold⟩ := bind_eq_ok_iff.mp hbase.locate
  obtain ⟨trunk, hpieces, hbelow⟩ := FilePath.exists_trunk base
  obtain ⟨back, hback⟩ : ∃ back, pieces base = trunk ++ back :=
    hpieces.elim (fun h => ⟨[], by rw [h, List.append_nil]⟩) fun h => ⟨[""], h⟩
  refine ⟨root, trunk, back, hroot, ?_, hback, hbelow⟩
  rcases hpieces with hpieces | hpieces
  · rwa [hpieces] at hfold
  · -- a slash at the end leads from the place to itself
    rw [hpieces, List.foldlM_append] at hfold
    obtain ⟨l', hl', hlast⟩ := bind_eq_ok_iff.mp hfold
    rw [List.foldlM_cons] at hlast
    obtain ⟨l'', hstep, hdone⟩ := bind_eq_ok_iff.mp hlast
    obtain rfl := Except.ok.inj hdone
    obtain ⟨_, hdirectory, hhere⟩ := bind_eq_ok_iff.mp hstep
    obtain ⟨-, rfl⟩ := directory_eq_ok_iff.mp hdirectory
    obtain rfl := Except.ok.inj hhere
    exact hl'

/-- Without the pieces at its end that say nothing, the path of the directory leads there too. -/
theorem Located.located_ofPieces {core heres back : List String} {root : Location}
    (hroot : start base = .ok root) (hfold : core.foldlM t.step root = .ok l)
    (hpieces : pieces base = core ++ (heres ++ back)) (hcore : core ≠ [] → core ≠ [""]) :
    (ofPieces (isAbsolute base) core).isEmpty = true ∨
      t.Located (ofPieces (isAbsolute base) core) l := by
  obtain ⟨hnul, hfits, hstart⟩ := start_eq_ok_iff.mp hroot
  by_cases hnil : core = []
  · subst hnil
    obtain rfl := Except.ok.inj hfold
    rw [hstart]
    cases isAbsolute base with
    | true => exact .inr ⟨rfl, rfl⟩
    | false => exact .inl rfl
  · have hbase' : base ≠ "" := by
      rintro rfl
      obtain ⟨piece, rest, rfl⟩ := List.exists_cons_of_ne_nil hnil
      obtain ⟨rfl, hrest⟩ := List.cons.inj (hpieces.symm.trans (rfl : pieces "" = [""]))
      exact hcore hnil (by rw [(List.append_eq_nil_iff.mp hrest).1])
    obtain ⟨habsolute, hnear⟩ := pieces_ofPieces hpieces hnil hbase'
    obtain ⟨rest, hrest⟩ := exists_ofPieces_append hpieces hnil
    have hstart' : start (ofPieces (isAbsolute base) core) = .ok root := by
      refine start_eq_ok_iff.mpr ⟨fun hmem => hnul ?_, le_trans ?_ hfits, by rw [habsolute, hstart]⟩
      · rw [hrest, String.toList_append]
        exact List.mem_append_left _ hmem
      · conv_rhs => rw [hrest, String.utf8ByteSize_append]
        exact Nat.le_add_right _ _
    refine .inr ⟨bind_eq_ok_iff.mpr ⟨root, hstart', ?_⟩, hbase.directory⟩
    rw [hnear]
    exact hfold

/-- Right above a name is the directory itself, or nothing is left of its path. -/
theorem Located.exists_nearest {last : String} (hlast : IsFileName last) :
    ∃ near rest, (ancestors (below base [last])).tail = near :: rest ∧
      (near.isEmpty = true ∨ t.Located near l) := by
  obtain ⟨root, trunk, back, hroot, htrunk, hback, hbelow⟩ := hbase.exists_trunk
  obtain ⟨habsolute, hpieces⟩ := hbelow [last] (leadsDown_singleton hlast)
  have htail : (ancestors (below base [last])).tail =
      ofPieces (isAbsolute base) (trunk.reverse.dropWhile isHere).reverse ::
        (piecesAbove trunk.reverse).map fun above => ofPieces (isAbsolute base) above.reverse := by
    rw [ancestors, List.tail_cons, hpieces, habsolute, List.reverse_append, List.reverse_singleton,
      List.singleton_append, piecesAbove, hlast.not_here, if_neg Bool.false_ne_true, List.map_cons]
  refine ⟨_, _, htail, ?_⟩
  have hsplit : trunk = (trunk.reverse.dropWhile isHere).reverse ++
      (trunk.reverse.takeWhile isHere).reverse := by
    rw [← List.reverse_append, List.takeWhile_append_dropWhile, List.reverse_reverse]
  rw [hsplit, List.foldlM_append] at htrunk
  obtain ⟨k, hk, hrest⟩ := bind_eq_ok_iff.mp htrunk
  obtain rfl := eq_of_foldlM_here
    (fun piece hpiece => List.mem_takeWhile_imp (List.mem_reverse.mp hpiece)) hrest
  rw [hsplit, List.append_assoc] at hback
  refine hbase.located_ofPieces hroot hk hback fun _ hempty => ?_
  have hhead := List.head?_dropWhile_not isHere trunk.reverse
  rw [List.reverse_eq_iff.mp hempty] at hhead
  cases hhead

variable {names : List String} (hnames : LeadsDown names)
  (hfits : (below base names).utf8ByteSize ≤ pathLimit)

include hnames hfits

theorem Located.start_below {root : Location} (hroot : start base = .ok root) :
    start (below base names) = .ok root := by
  obtain ⟨hnul, -, rfl⟩ := start_eq_ok_iff.mp hroot
  obtain ⟨_, _, _, -, -, -, hbelow⟩ := hbase.exists_trunk
  exact start_eq_ok_iff.mpr ⟨below_notMem hnames hnul, hfits, by rw [(hbelow names hnames).1]⟩

theorem Located.locate_below : t.locate (below base names) = names.foldlM t.step l := by
  obtain ⟨root, trunk, -, hroot, htrunk, -, hbelow⟩ := hbase.exists_trunk
  unfold FileTree.locate
  rw [hbase.start_below hnames hfits hroot, (hbelow names hnames).2]
  change List.foldlM t.step root (trunk ++ names) = _
  rw [List.foldlM_append, htrunk]
  rfl

omit hnames hfits in
theorem Located.approach_below {above : List String} {last : String}
    (hnames : LeadsDown (above ++ [last]))
    (hfits : (below base (above ++ [last])).utf8ByteSize ≤ pathLimit) :
    t.approach (below base (above ++ [last])) = (t.reach l above).map fun l => (l, last) := by
  obtain ⟨root, trunk, -, hroot, htrunk, -, hbelow⟩ := hbase.exists_trunk
  have hpieces := (hbelow _ hnames).2
  rw [← List.append_assoc] at hpieces
  have hlast : IsFileName last := hnames.named last (List.mem_append_right _ List.mem_cons_self)
  unfold approach
  rw [splitLast_of_pieces hlast hpieces, hbase.start_below hnames hfits hroot]
  change (List.foldlM t.step root (trunk ++ above) >>= fun l =>
    t.directory l >>= fun l => pure (l, last)) = _
  rw [List.foldlM_append, htrunk, ← bind_assoc]
  change (t.reach l above >>= fun l => pure (l, last)) = _
  cases t.reach l above <;> rfl

end Below

end FileTree

end EngineBindings
