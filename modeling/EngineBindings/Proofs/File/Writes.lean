import EngineBindings.Proofs.File.Write
import EngineBindings.Proofs.Sequence
import Mathlib.Data.List.Forall2

/-!
# Writing files one after another

`Writes base` relates trees before and after some files are written below a directory, each unless
it is there already.  What can be written is decided by the view of the directory alone, apart from
the length of the paths (`Writes.wrote`, `Writes.exists_of_acceptsAll`), and so is what is
there afterwards.
-/

namespace EngineBindings

open FilePath FileTree

namespace FileTree

/-- Whether nothing is in a directory, which is there. -/
def IsEmptyDirectory (t : FileTree) (path : String) : Prop :=
  ∃ l, t.Located path l ∧ ∀ name rest, IsFileName name → t.view l (name :: rest) = none

/-- Whether nothing is where a path leads, or a directory with nothing in it. -/
inductive IsVacant (t : FileTree) : String → Prop
  | empty {path : String} (h : t.IsEmptyDirectory path) : IsVacant t path
  | missing {base : String} {l : Location} {names : List String} (hbase : t.Located base l)
    (hnames : LeadsDown names) (hnone : ∀ rest, t.view l (names ++ rest) = none) :
    IsVacant t (below base names)

/-- From a directory that is there, some names lead to where nothing is. -/
theorem IsVacant.exists_names {t : FileTree} {path : String} (h : t.IsVacant path) :
    ∃ base l names, t.Located base l ∧
      (∀ down, LeadsDown down →
        LeadsDown (names ++ down) ∧ below path down = below base (names ++ down)) ∧
      ∀ name, IsFileName name → t.view l (names ++ [name]) = none := by
  cases h with
  | empty h =>
    obtain ⟨l, hbase, hnone⟩ := h
    exact ⟨path, l, [], hbase, fun _ hdown => ⟨hdown, rfl⟩, fun name hname => hnone name [] hname⟩
  | @missing base l names hbase hnames hnone =>
    exact ⟨base, l, names, hbase,
      fun down hdown => ⟨hnames.append hdown, join_below base hnames hdown⟩,
      fun name _ => hnone [name]⟩

/-- The contents of the file that names lead to from a directory. -/
def fileBelow? (t : FileTree) (path : String) (names : List String) : Option String :=
  match t.locate path with
  | .ok l => (t.view l).fileAt names
  | .error _ => none

theorem Located.fileBelow? {t : FileTree} {path : String} {l : Location} (h : t.Located path l)
    (names : List String) : t.fileBelow? path names = (t.view l).fileAt names := by
  rw [FileTree.fileBelow?, h.locate]

theorem Located.unique {t : FileTree} {path : String} {l l' : Location} (h : t.Located path l)
    (h' : t.Located path l') : l = l' :=
  Except.ok.inj (h.locate.symm.trans h'.locate)

theorem isEmptyDirectory_of_entries {t : FileTree} {path : String} {l : Location}
    (hbase : t.Located path l) (h : ∀ e ∈ t.entries, l <+: e.1 → e.1 = l) :
    t.IsEmptyDirectory path := by
  refine ⟨l, hbase, fun name rest hname => ?_⟩
  rw [view, entry?, Location.isGiven_append_cons hname, if_neg Bool.false_ne_true,
    List.lookup_eq_none_iff]
  intro e he
  refine bne_iff_ne.mpr fun heq => ?_
  have hself := h e he (heq ▸ List.prefix_append l (name :: rest))
  exact List.cons_ne_nil name rest (List.append_right_eq_self.mp (heq.trans hself))

theorem isEmptyDirectory_empty : FileTree.empty.IsEmptyDirectory "" :=
  isEmptyDirectory_of_entries ⟨rfl, rfl⟩ fun _ he => (nomatch he)

theorem IsEmptyDirectory.isVacant_below {t : FileTree} {path : String} {names : List String}
    (h : t.IsEmptyDirectory path) (hnames : LeadsDown names) : t.IsVacant (below path names) := by
  obtain ⟨l, hbase, hnone⟩ := h
  refine .missing hbase hnames fun down => ?_
  obtain ⟨name, rest, rfl⟩ := List.exists_cons_of_ne_nil hnames.ne_nil
  exact hnone name (rest ++ down) (hnames.named name List.mem_cons_self)

end FileTree

/-- Whether files can be written below a directory one after another, and lead from one tree to
another. -/
inductive Writes (base : String) : FileTree → List Placement → FileTree → Prop
  | nil (t : FileTree) : Writes base t [] t
  | cons {t t₁ t₂ : FileTree} {names : List String} {contents : String} {changed : Bool}
      {rest : List Placement} :
      t.writeIfChanged (below base names) contents = (t₁, .ok changed) →
      Writes base t₁ rest t₂ → Writes base t ((names, contents) :: rest) t₂

/-- Whether each file has a place below a directory. -/
def Placed (files : List Placement) : Prop :=
  ∀ file ∈ files, LeadsDown file.1

/-- Whether the paths of files below a directory are short enough. -/
def Fits (base : String) (files : List Placement) : Prop :=
  ∀ file ∈ files, (below base file.1).utf8ByteSize ≤ pathLimit

/-- The files with one more name in front: those of a directory, from the directory above. -/
def inside (name : String) (files : List Placement) : List Placement :=
  files.map fun file => (name :: file.1, file.2)

theorem placed_inside {name : String} (hname : IsFileName name) {files : List Placement}
    (h : Placed files) : Placed (inside name files) := by
  intro file hfile
  obtain ⟨inner, hinner, rfl⟩ := List.mem_map.mp hfile
  exact (leadsDown_singleton hname).append (h inner hinner)

theorem under_inside (name : String) (files : List Placement) :
    View.Under name (inside name files) := by
  intro file hfile
  obtain ⟨inner, -, rfl⟩ := List.mem_map.mp hfile
  rfl

/-- Files by their paths, which lead from where the tree is seen. -/
def atPaths (files : List (String × String)) : List Placement :=
  files.map fun file => ([file.1], file.2)

theorem below_empty_singleton (path : String) : below "" [path] = path :=
  rfl

/-- Whether a tree differs from another one by files that were written below a place. -/
structure WroteAll (l : Location) (files : List Placement) (t t' : FileTree) : Prop where
  view_eq : t'.view l = (t.view l).writes files
  same : SameBut l t t'

namespace Writes

variable {base : String} {t t₁ t₂ : FileTree} {l : Location} {files rest : List Placement}

theorem append (h : Writes base t files t₁) (h' : Writes base t₁ rest t₂) :
    Writes base t (files ++ rest) t₂ := by
  induction h with
  | nil => exact h'
  | cons hwrite _ ih => exact .cons hwrite (ih h')

theorem of_append (h : Writes base t (files ++ rest) t₂) :
    ∃ t₁, Writes base t files t₁ ∧ Writes base t₁ rest t₂ := by
  induction files generalizing t with
  | nil => exact ⟨t, .nil t, h⟩
  | cons file files ih =>
    cases h with
    | cons hwrite hrest =>
      obtain ⟨t₁, hfiles, hrest⟩ := ih hrest
      exact ⟨t₁, .cons hwrite hfiles, hrest⟩

variable {t' : FileTree}

/-- It does not matter from which directory the paths are seen. -/
theorem congr {base' : String} {files' : List Placement} (h : Writes base t files t')
    (hsame : List.Forall₂ (fun file file' =>
      FilePath.below base file.1 = FilePath.below base' file'.1 ∧ file.2 = file'.2) files files') :
    Writes base' t files' t' := by
  induction hsame generalizing t with
  | nil =>
    cases h
    exact .nil _
  | @cons file file' _ _ hfile _ ih =>
    obtain ⟨names, contents⟩ := file
    obtain ⟨names', contents'⟩ := file'
    obtain ⟨hpath, rfl⟩ := hfile
    cases h with
    | cons hwrite hrest => exact .cons (hpath ▸ hwrite) (ih hrest)

theorem keepsDirectories (h : Writes base t files t') : KeepsDirectories t t' := by
  induction h with
  | nil t => exact fun _ hplace => hplace
  | cons hwrite _ ih =>
    obtain ⟨_, -, hsaves⟩ := saves_of_writeIfChanged hwrite
    exact fun place hplace => ih place (hsaves.keepsDirectories place hplace)

/-- The path of each file leads somewhere in the end. -/
theorem exists_place (h : Writes base t files t') {file : Placement} (hfile : file ∈ files) :
    ∃ l, t'.locate (FilePath.below base file.1) = .ok l := by
  induction h with
  | nil t => cases hfile
  | cons hwrite hrest ih =>
    rcases List.mem_cons.mp hfile with rfl | hfile
    · obtain ⟨l, hlocate, -⟩ := saves_of_writeIfChanged hwrite
      exact ⟨l, hrest.keepsDirectories.locate hlocate⟩
    · exact ih hfile

/-- Where none of the files is, the contents are as before. -/
theorem contents?_eq (h : Writes base t files t') {place : Location}
    (hplace : ∀ file ∈ files, t'.locate (FilePath.below base file.1) ≠ .ok place) :
    t'.contents? place = t.contents? place := by
  induction h with
  | nil t => rfl
  | cons hwrite hrest ih =>
    obtain ⟨hself, hothers⟩ := List.forall_mem_cons.mp hplace
    obtain ⟨l, hlocate, hsaves⟩ := saves_of_writeIfChanged hwrite
    rw [ih hothers]
    refine hsaves.contents?_of_ne place ?_
    rintro rfl
    exact hself (hrest.keepsDirectories.locate hlocate)

/-- A file is there in the end unless a later one went to the same place. -/
theorem read_of_last {before : List Placement} {file : Placement}
    (h : Writes base t (before ++ file :: rest) t')
    (hlast : ∀ later ∈ rest, t'.locate (FilePath.below base later.1) ≠
      t'.locate (FilePath.below base file.1)) :
    t'.read (FilePath.below base file.1) = .ok file.2 := by
  obtain ⟨t₁, -, h⟩ := h.of_append
  cases h with
  | cons hwrite hrest =>
    obtain ⟨l, hlocate, hsaves⟩ := saves_of_writeIfChanged hwrite
    have hlocate := hrest.keepsDirectories.locate hlocate
    refine read_eq_ok_iff_contents?.mpr ⟨l, hlocate, ?_⟩
    rw [hrest.contents?_eq fun later hlater => hlocate ▸ hlast later hlater]
    exact hsaves.contents?_self

/-- Files that lead to different places are all there in the end. -/
theorem read_of_nodup (h : Writes base t files t')
    (hnodup : (files.map fun file => t'.locate (FilePath.below base file.1)).Nodup)
    {file : Placement} (hfile : file ∈ files) :
    t'.read (FilePath.below base file.1) = .ok file.2 := by
  obtain ⟨before, after, rfl⟩ := List.append_of_mem hfile
  rw [List.map_append, List.map_cons] at hnodup
  obtain ⟨-, hnodup, -⟩ := List.nodup_append.mp hnodup
  refine h.read_of_last fun later hlater heq => (List.nodup_cons.mp hnodup).1 ?_
  exact List.mem_map.mpr ⟨later, hlater, heq⟩

theorem atPaths_iff : Writes "" t
    (atPaths (files.map fun file => (FilePath.below base file.1, file.2))) t' ↔
      Writes base t files t' := by
  rw [atPaths, List.map_map]
  constructor <;> intro h <;> refine h.congr ?_
  · exact List.forall₂_map_left_iff.mpr (List.forall₂_same.mpr fun _ _ => ⟨rfl, rfl⟩)
  · exact List.forall₂_map_right_iff.mpr (List.forall₂_same.mpr fun _ _ => ⟨rfl, rfl⟩)

/-- Files below some names may be seen from the directory where the names start. -/
theorem front_iff {base' : String} {front : List String}
    (hbelow : ∀ file ∈ files,
      FilePath.below base file.1 = FilePath.below base' (front ++ file.1)) :
    Writes base' t (files.map fun file => (front ++ file.1, file.2)) t' ↔
      Writes base t files t' := by
  constructor <;> intro h <;> refine h.congr ?_
  · exact List.forall₂_map_left_iff.mpr (List.forall₂_same.mpr fun file hfile =>
      ⟨(hbelow file hfile).symm, rfl⟩)
  · exact List.forall₂_map_right_iff.mpr (List.forall₂_same.mpr fun file hfile =>
      ⟨hbelow file hfile, rfl⟩)

/-- The directory may be missing at first; it is there once a file is, which could then be written
once more. -/
theorem exists_located {file : Placement} (h : Writes base t (file :: rest) t')
    (hfile : LeadsDown file.1) :
    ∃ t₁ l, t₁.Located base l ∧ Writes base t₁ (file :: rest) t' := by
  cases h with
  | @cons _ t₁ _ names contents _ _ hwrite hrest =>
    obtain ⟨place, hlocate, hsaves⟩ := saves_of_writeIfChanged hwrite
    obtain ⟨l, hbase⟩ := exists_located_of_locate hfile hlocate
    exact ⟨t₁, l, hbase, .cons (writeIfChanged_of_read (hsaves.read hlocate)) hrest⟩

section Located

variable (hbase : t.Located base l) (hplaced : Placed files)

include hbase hplaced

/-- What can be written fits, is accepted by the view, and is there afterwards. -/
theorem wrote (h : Writes base t files t') :
    Fits base files ∧ (t.view l).AcceptsAll files ∧ WroteAll l files t t' ∧ t'.Located base l := by
  induction h with
  | nil t => exact ⟨fun _ hfile => (nomatch hfile), trivial, ⟨rfl, SameBut.refl l t⟩, hbase⟩
  | cons hwrite _ ih =>
    obtain ⟨hfile, hrest⟩ := List.forall_mem_cons.mp hplaced
    obtain ⟨hfits, haccepts, hwrote, hbase₁⟩ := wrote_of_writeIfChanged hbase hfile hwrite
    obtain ⟨hmorefits, hmore, hall, hbase₂⟩ := ih hbase₁ hrest
    rw [hwrote.view_eq] at hmore
    refine ⟨List.forall_mem_cons.mpr ⟨hfits, hmorefits⟩, ⟨haccepts, hmore⟩, ⟨?_, ?_⟩, hbase₂⟩
    · rw [hall.view_eq, hwrote.view_eq]
      rfl
    · exact hwrote.same.trans hall.same

/-- What fits and is accepted by the view can be written. -/
theorem exists_of_acceptsAll (hfits : Fits base files) (haccepts : (t.view l).AcceptsAll files) :
    ∃ t', Writes base t files t' := by
  induction files generalizing t with
  | nil => exact ⟨t, .nil t⟩
  | cons file rest ih =>
    obtain ⟨names, contents⟩ := file
    obtain ⟨hfile, hrest⟩ := List.forall_mem_cons.mp hplaced
    obtain ⟨hfit, hmorefit⟩ := List.forall_mem_cons.mp hfits
    obtain ⟨t₁, changed, hwrite⟩ := exists_writeIfChanged contents hbase hfile hfit haccepts.1
    obtain ⟨-, -, hwrote, hbase₁⟩ := wrote_of_writeIfChanged hbase hfile hwrite
    obtain ⟨t', hwrites⟩ := ih hbase₁ hrest hmorefit (by rw [hwrote.view_eq]; exact haccepts.2)
    exact ⟨t', .cons hwrite hwrites⟩

/-- The way to each file is there afterwards. -/
theorem open_above (h : Writes base t files t') {names : List String}
    (hnames : names ∈ files.map Prod.fst) : t'.Open l names.dropLast := by
  induction h with
  | nil t => cases hnames
  | cons hwrite hlater ih =>
    obtain ⟨hfile, hrest⟩ := List.forall_mem_cons.mp hplaced
    obtain ⟨-, haccepts, hwrote, hbase₁⟩ := wrote_of_writeIfChanged hbase hfile hwrite
    rcases List.mem_cons.mp hnames with rfl | hnames
    · exact fun place hplace => hlater.keepsDirectories _
        (hwrote.open_above hfile.ne_nil hbase₁.directory place hplace)
    · exact ih hbase₁ hrest hnames

/-- What was written can be read. -/
theorem read (h : Writes base t files t') {names : List String}
    (hnames : names ∈ files.map Prod.fst) {contents : String}
    (hfile : (t'.view l).fileAt names = some contents) :
    t'.read (FilePath.below base names) = .ok contents := by
  obtain ⟨hfits, haccepts, -, hbase'⟩ := h.wrote hbase hplaced
  have hopen := h.open_above hbase hplaced hnames
  obtain ⟨file, hmem, rfl⟩ := List.mem_map.mp hnames
  have hshort := haccepts.short file hmem
  have hfit := hfits file hmem
  obtain ⟨above, last, heq, -⟩ := (hplaced file hmem).exists_last
  have hdown := hplaced file hmem
  rw [heq] at hfile hfit hshort hopen hdown ⊢
  rw [List.dropLast_concat] at hopen
  exact read_of_fileAt hbase' hdown hfit hshort hopen hfile

end Located

/-- Files can be written side by side below an empty directory as long as no name and no path is too
long. -/
theorem exists_of_isEmptyDirectory {front : List String} (hempty : t.IsEmptyDirectory base)
    (hplaced : Placed files) (hfront : ∀ name ∈ front, IsFileName name)
    (hbeside : ∀ file ∈ files, ∃ name, file.1 = front ++ [name])
    (hshort : ∀ file ∈ files, ∀ name ∈ file.1, name.utf8ByteSize ≤ nameLimit)
    (hfits : Fits base files) : ∃ t', Writes base t files t' := by
  obtain ⟨l, hbase, hnone⟩ := hempty
  have hnothing : ∀ place, place ≠ [] → (∀ name ∈ place, IsFileName name) →
      t.view l place = none := by
    intro place hne hnames
    obtain ⟨name, rest, rfl⟩ := List.exists_cons_of_ne_nil hne
    exact hnone name rest (hnames name List.mem_cons_self)
  refine exists_of_acceptsAll hbase hplaced hfits
    (View.acceptsAll_beside hbeside hshort (fun place hne hleads => ?_) fun file hfile => ?_)
  · rw [View.fileAt, hnothing place hne fun name hname => hfront name (hleads.subset hname)]
  · rw [hnothing file.1 (hplaced file hfile).ne_nil (hplaced file hfile).named]
    exact (Option.some_ne_none _).symm

/-- The directory is there in the end, and each file where its names lead from it. -/
theorem exists_located_end (h : Writes base t files t') (hplaced : Placed files)
    (hne : files ≠ []) :
    ∃ l, t'.Located base l ∧
      ∀ file ∈ files, t'.locate (FilePath.below base file.1) = .ok (l ++ file.1) := by
  obtain ⟨first, rest, rfl⟩ := List.exists_cons_of_ne_nil hne
  obtain ⟨t₁, l, hbase, h⟩ := h.exists_located (hplaced first List.mem_cons_self)
  obtain ⟨hfits, -, -, hbase'⟩ := h.wrote hbase hplaced
  refine ⟨l, hbase', fun file hfile => ?_⟩
  obtain ⟨place, hlocate⟩ := h.exists_place hfile
  obtain ⟨above, last, hnames, -⟩ := (hplaced file hfile).exists_last
  have hdown := hplaced file hfile
  have hfit := hfits file hfile
  rw [hnames] at hlocate hdown hfit ⊢
  obtain ⟨rfl, -⟩ := locate_below_eq_ok hbase' hdown hfit hlocate
  exact hlocate

/-- Where names lead to is what was last written there, or else what was there before. -/
theorem contents?_below (h : Writes base t files t')
    (hlocate : ∀ file ∈ files, t'.locate (FilePath.below base file.1) = .ok (l ++ file.1))
    (names : List String) :
    t'.contents? (l ++ names) = (files.reverse.lookup names).or (t.contents? (l ++ names)) := by
  have hsame : ∀ file ∈ files, t'.locate (FilePath.below base file.1) = .ok (l ++ names) →
      file.1 = names := fun file hfile heq =>
    List.append_cancel_left (Except.ok.inj ((hlocate file hfile).symm.trans heq))
  cases hlookup : files.reverse.lookup names with
  | none =>
    rw [Option.none_or]
    refine h.contents?_eq fun file hfile heq => ?_
    have hne := List.lookup_eq_none_iff.mp hlookup file (List.mem_reverse.mpr hfile)
    exact bne_iff_ne.mp hne (hsame file hfile heq).symm
  | some contents =>
    obtain ⟨later, before, hsplit, hlater⟩ := List.lookup_eq_some_iff.mp hlookup
    obtain rfl : files = before.reverse ++ (names, contents) :: later.reverse := by
      rw [← List.reverse_inj, hsplit, List.reverse_append, List.reverse_cons, List.reverse_reverse,
        List.reverse_reverse, List.append_assoc, List.singleton_append]
    have hself := hlocate (names, contents) (List.mem_append_right _ List.mem_cons_self)
    have hread : t'.read (FilePath.below base names) = .ok contents := by
      refine h.read_of_last fun file hfile heq => ?_
      have hne := hlater file (List.mem_reverse.mp hfile)
      refine bne_iff_ne.mp hne (hsame file ?_ (heq.trans hself)).symm
      exact List.mem_append_right _ (List.mem_cons_of_mem _ hfile)
    obtain ⟨place, hplace, hcontents⟩ := read_eq_ok_iff_contents?.mp hread
    rw [hself] at hplace
    rw [Except.ok.inj hplace, hcontents, Option.some_or]

/-- Files with different names below a directory are at different places. -/
theorem locate_nodup (h : Writes base t files t') (hplaced : Placed files)
    (hnodup : (files.map Prod.fst).Nodup) :
    (files.map fun file => t'.locate (FilePath.below base file.1)).Nodup := by
  by_cases hne : files = []
  · rw [hne]
    exact List.nodup_nil
  · obtain ⟨l, -, hlocate⟩ := h.exists_located_end hplaced hne
    have hplaces : files.map (fun file => t'.locate (FilePath.below base file.1)) =
        (files.map Prod.fst).map fun names => .ok (l ++ names) := by
      rw [List.map_map]
      exact List.map_congr_left hlocate
    rw [hplaces]
    exact hnodup.map fun _ _ heq => List.append_cancel_left (Except.ok.inj heq)

/-- Files at different places are all there once they are written, wherever the directory is. -/
theorem read_all (h : Writes base t files t') (hplaced : Placed files)
    (hnodup : (files.map Prod.fst).Nodup) :
    ∀ file ∈ files, t'.read (FilePath.below base file.1) = .ok file.2 :=
  fun _ hfile => h.read_of_nodup (h.locate_nodup hplaced hnodup) hfile

/-- Files that are written to a vacant directory are all that is in it: no other file was there
before, and no other directory is there now. -/
theorem of_isVacant (h : Writes base t files t') (hplaced : Placed files) (hne : files ≠ [])
    (hvacant : t.IsVacant base) (hflat : ∀ file ∈ files, ∃ name, file.1 = [name])
    (hbase : t'.Located base l) {name : String} (hname : IsFileName name) :
    t.contents? (l ++ [name]) = none ∧ t'.entry? (l ++ [name]) ≠ some .directory := by
  obtain ⟨base', l', names, hbase', hbelow, hnone⟩ := hvacant.exists_names
  have hplaced' : Placed (files.map fun file => (names ++ file.1, file.2)) := by
    intro file hfile
    obtain ⟨inner, hinner, rfl⟩ := List.mem_map.mp hfile
    exact (hbelow inner.1 (hplaced inner hinner)).1
  have h' : Writes base' t (files.map fun file => (names ++ file.1, file.2)) t' :=
    (front_iff fun file hfile => (hbelow file.1 (hplaced file hfile)).2).mpr h
  obtain ⟨-, haccepts, hwrote, hlocated⟩ := h'.wrote hbase' hplaced'
  -- both ways to a file lead to one place
  obtain rfl : l = l' ++ names := by
    obtain ⟨file, hfile⟩ := List.exists_mem_of_ne_nil files hne
    obtain ⟨k, hk, hlocate⟩ := h.exists_located_end hplaced hne
    obtain ⟨k', hk', hlocate'⟩ := h'.exists_located_end hplaced' (by simpa using hne)
    have hplace := hlocate file hfile
    rw [(hbelow file.1 (hplaced file hfile)).2,
      hlocate' (names ++ file.1, file.2) (List.mem_map.mpr ⟨file, hfile, rfl⟩),
      Except.ok.injEq, ← List.append_assoc] at hplace
    rw [hbase.unique hk, hlocated.unique hk']
    exact (List.append_cancel_right hplace).symm
  have hold : t.view l' (names ++ [name]) = none := hnone name hname
  have hcontents : t.contents? (l' ++ (names ++ [name])) = (t.view l').fileAt (names ++ [name]) :=
    View.fileAt_congr rfl
  rw [List.append_assoc]
  refine ⟨by rw [hcontents, View.fileAt, hold], ?_⟩
  change t'.view l' (names ++ [name]) ≠ some .directory
  rw [hwrote.view_eq]
  by_cases hmem : names ++ [name] ∈ (files.map fun file => (names ++ file.1, file.2)).map Prod.fst
  · obtain ⟨contents, hfile⟩ :=
      Option.isSome_iff_exists.mp (View.fileAt_writes_isSome haccepts hmem)
    rw [View.fileAt_eq_some_iff.mp hfile]
    intro heq
    cases heq
  · rw [View.writes_of_not_prefix, hold]
    · exact (Option.some_ne_none _).symm
    · intro file hfile hleads
      obtain ⟨inner, hinner, rfl⟩ := List.mem_map.mp hfile
      obtain ⟨other, hother⟩ := hflat inner hinner
      refine hmem (List.mem_map.mpr ⟨_, hfile, ?_⟩)
      have hlength : (names ++ [name]).length = (names ++ inner.1).length := by
        rw [hother, List.length_append, List.length_append]
        rfl
      exact (hleads.eq_of_length hlength).symm

end Writes

/-- What is read below a directory is the file in its view. -/
theorem fileAt_of_read_below {t : FileTree} {base contents : String} {l : Location}
    {names : List String} (hbase : t.Located base l) (hnames : LeadsDown names)
    (h : t.read (below base names) = .ok contents) : (t.view l).fileAt names = some contents := by
  obtain ⟨above, last, rfl, -⟩ := hnames.exists_last
  obtain ⟨_, hlocate, -⟩ := read_eq_ok_iff.mp h
  exact fileAt_of_read hbase hnames (fits_of_locate hlocate) h

/-- Files under a name change nothing that is elsewhere. -/
theorem WroteAll.entry?_eq {t t' : FileTree} {l : Location} {files : List Placement} {name : String}
    (h : WroteAll l files t t') (hunder : View.Under name files) {place : Location}
    (hplace : ∀ rest, place ≠ l ++ name :: rest) : t'.entry? place = t.entry? place := by
  by_cases hbelow : ∃ other rest, place = l ++ other :: rest
  · obtain ⟨other, rest, rfl⟩ := hbelow
    have hne : name ≠ other := by
      rintro rfl
      exact hplace rest rfl
    change t'.view l (other :: rest) = t.view l (other :: rest)
    rw [h.view_eq, View.writes_beside (hunder.beside hne)]
  · refine h.same place fun names hnames heq => hbelow ?_
    obtain ⟨other, rest, rfl⟩ := List.exists_cons_of_ne_nil hnames
    exact ⟨other, rest, heq⟩

theorem lookup_reverse_inside (name : String) (files : List Placement) (names : List String) :
    (inside name files).reverse.lookup (name :: names) = files.reverse.lookup names := by
  rw [inside, ← List.map_reverse]
  induction files.reverse with
  | nil => rfl
  | cons file rest ih =>
    obtain ⟨other, contents⟩ := file
    by_cases hother : names = other
    · rw [hother, List.map_cons, List.lookup_cons_self, List.lookup_cons_self]
    · have hcons : name :: names ≠ name :: other := fun heq => hother (List.cons.inj heq).2
      rw [List.map_cons, List.lookup_cons, List.lookup_cons, beq_false_of_ne hother,
        beq_false_of_ne hcons]
      exact ih

end EngineBindings
