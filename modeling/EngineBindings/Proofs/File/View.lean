import EngineBindings.File.Tree
import Mathlib.Data.List.Infix
import Mathlib.Data.List.Lemmas

/-!
# What a directory holds

A `View` is what is below one directory, by the names that lead there.  Writing a file into a view
is a function (`View.write`), and so is writing files one after another (`View.writes`); whether a
directory takes the files is a property of its view (`View.Accepts`, `View.AcceptsAll`).

The file at a place is the one that was last written there (`fileAt_writes`).  Of a view that has
part of another one under some name, and nothing else, the files under that name can be written to
both if they can be written to the larger one (`PartOf.acceptsAll`).
-/

namespace EngineBindings

/-- What is below a directory, by the names that lead there. -/
abbrev View := List String → Option FileEntry

/-- A file by the names that lead to it, with its contents. -/
abbrev Placement := List String × String

namespace View

/-- The view with an entry at a place. -/
def put (v : View) (names : List String) (entry : FileEntry) : View := fun place =>
  if place = names then some entry else v place

/-- The view with directories on the way through some names. -/
def makeDirectories (v : View) (names : List String) : View := fun place =>
  if place ≠ [] ∧ place <+: names then some .directory else v place

/-- The view with a file and the directories above it. -/
def write (v : View) (names : List String) (contents : String) : View :=
  (v.makeDirectories names.dropLast).put names (.file contents)

/-- The view with files that were written one after another. -/
def writes (v : View) : List Placement → View
  | [] => v
  | (names, contents) :: rest => (v.write names contents).writes rest

/-- The file at a place. -/
def fileAt (v : View) (place : List String) : Option String :=
  match v place with
  | some (.file contents) => some contents
  | _ => none

/-- Whether a file can be written at a place. -/
structure Accepts (v : View) (names : List String) : Prop where
  /-- No name is too long. -/
  short : ∀ name ∈ names, name.utf8ByteSize ≤ FileTree.nameLimit
  /-- No file is where a directory has to be. -/
  above : ∀ place, place ≠ [] → place <+: names.dropLast → v.fileAt place = none
  free : v names ≠ some .directory

/-- Whether files can be written one after another. -/
def AcceptsAll (v : View) : List Placement → Prop
  | [] => True
  | (names, contents) :: rest => v.Accepts names ∧ (v.write names contents).AcceptsAll rest

variable {v : View} {names place : List String} {contents : String}

theorem fileAt_eq_some_iff : v.fileAt place = some contents ↔ v place = some (.file contents) := by
  unfold fileAt
  split
  · next c hc => simp [hc]
  · next hnone =>
    refine ⟨fun h => (nomatch h), fun h => absurd h (hnone contents)⟩

theorem fileAt_congr {v' : View} {place' : List String} (h : v place = v' place') :
    v.fileAt place = v'.fileAt place' := by
  rw [fileAt, fileAt, h]

theorem put_self (v : View) (names : List String) (entry : FileEntry) :
    v.put names entry names = some entry :=
  if_pos rfl

theorem put_of_ne {entry : FileEntry} (h : place ≠ names) : v.put names entry place = v place :=
  if_neg h

theorem put_eq_self {entry : FileEntry} (h : v names = some entry) : v.put names entry = v := by
  funext place
  by_cases hplace : place = names
  · rw [hplace, put_self, h]
  · exact put_of_ne hplace

theorem makeDirectories_nil (v : View) : v.makeDirectories [] = v := by
  funext place
  refine if_neg fun h => ?_
  exact h.1 (List.prefix_nil.mp h.2)

/-- What is below the directories that are made is as it was. -/
theorem makeDirectories_below (v : View) (names : List String) (name : String) :
    v.makeDirectories names (names ++ [name]) = v (names ++ [name]) := by
  refine if_neg fun h => ?_
  have hlength := h.2.length_le
  rw [List.length_append, List.length_singleton] at hlength
  omega

theorem makeDirectories_concat (v : View) (names : List String) (name : String) :
    v.makeDirectories (names ++ [name]) =
      (v.makeDirectories names).put (names ++ [name]) .directory := by
  funext place
  unfold makeDirectories put
  by_cases hplace : place = names ++ [name]
  · rw [if_pos hplace, if_pos]
    rw [hplace]
    exact ⟨List.append_ne_nil_of_right_ne_nil _ (List.cons_ne_nil _ _), List.prefix_rfl⟩
  · simp only [List.prefix_concat_iff, hplace, false_or, if_false]

/-! ## Files -/

theorem fileAt_write (h : v.Accepts names) :
    (v.write names contents).fileAt place =
      if place = names then some contents else v.fileAt place := by
  split
  · next hplace =>
    rw [fileAt_eq_some_iff, hplace]
    exact put_self _ _ _
  · next hplace =>
    by_cases habove : place ≠ [] ∧ place <+: names.dropLast
    · rw [h.above place habove.1 habove.2, fileAt, write, put_of_ne hplace, makeDirectories,
        if_pos habove]
    · exact fileAt_congr ((put_of_ne hplace).trans (if_neg habove))

/-- The file at a place is the one that was last written there, or else the one that was there. -/
theorem fileAt_writes {files : List Placement} (h : v.AcceptsAll files) :
    (v.writes files).fileAt place = (files.reverse.lookup place).or (v.fileAt place) := by
  -- the first file is the oldest one, so the lookup comes to it last
  induction files generalizing v with
  | nil => rfl
  | cons file rest ih =>
    obtain ⟨names, contents⟩ := file
    rw [writes, ih h.2, fileAt_write h.1, List.reverse_cons, List.lookup_append, Option.or_assoc]
    congr 1
    by_cases hplace : place = names
    · rw [if_pos hplace, hplace, List.lookup_cons_self, Option.some_or]
    · rw [if_neg hplace, List.lookup_cons, beq_false_of_ne hplace, List.lookup_nil, Option.none_or]

theorem writes_append (v : View) (files rest : List Placement) :
    v.writes (files ++ rest) = (v.writes files).writes rest := by
  induction files generalizing v with
  | nil => rfl
  | cons file files ih => exact ih _

theorem acceptsAll_append {files rest : List Placement} :
    v.AcceptsAll (files ++ rest) ↔ v.AcceptsAll files ∧ (v.writes files).AcceptsAll rest := by
  induction files generalizing v with
  | nil => exact ⟨fun h => ⟨trivial, h⟩, fun h => h.2⟩
  | cons file files ih =>
    obtain ⟨names, contents⟩ := file
    rw [List.cons_append, AcceptsAll, ih, ← and_assoc]
    rfl

theorem AcceptsAll.short {files : List Placement} (h : v.AcceptsAll files) :
    ∀ file ∈ files, ∀ name ∈ file.1, name.utf8ByteSize ≤ FileTree.nameLimit := by
  induction files generalizing v with
  | nil => exact fun file hfile => (nomatch hfile)
  | cons file rest ih => exact List.forall_mem_cons.mpr ⟨h.1.short, ih h.2⟩

/-- A file that is written somewhere stays there, though perhaps with other contents. -/
theorem fileAt_writes_isSome {files : List Placement} (h : v.AcceptsAll files)
    (hplace : place ∈ files.map Prod.fst) : ((v.writes files).fileAt place).isSome := by
  obtain ⟨⟨_, contents⟩, hfile, rfl⟩ := List.mem_map.mp hplace
  rw [fileAt_writes h, Option.isSome_or, Bool.or_eq_true]
  left
  rw [Option.isSome_iff_ne_none, Ne, List.lookup_eq_none_iff]
  intro hnone
  exact absurd (hnone _ (List.mem_reverse.mpr hfile)) (by simp)

/-- Files that are neither at a place nor below it change nothing there. -/
theorem writes_of_not_prefix {files : List Placement} (h : ∀ file ∈ files, ¬place <+: file.1) :
    v.writes files place = v place := by
  induction files generalizing v with
  | nil => rfl
  | cons file rest ih =>
    obtain ⟨names, contents⟩ := file
    obtain ⟨hfile, hrest⟩ := List.forall_mem_cons.mp h
    have hne : place ≠ names := by
      rintro rfl
      exact hfile List.prefix_rfl
    have habove : ¬(place ≠ [] ∧ place <+: names.dropLast) := fun hplace =>
      hfile (hplace.2.trans (List.dropLast_prefix names))
    exact (ih hrest).trans ((put_of_ne hne).trans (if_neg habove))

/-- Files go side by side where no file is above them and no directory is in their place. -/
theorem acceptsAll_beside {front : List String} {files : List Placement}
    (hbeside : ∀ file ∈ files, ∃ name, file.1 = front ++ [name])
    (hshort : ∀ file ∈ files, ∀ name ∈ file.1, name.utf8ByteSize ≤ FileTree.nameLimit)
    (habove : ∀ place, place ≠ [] → place <+: front → v.fileAt place = none)
    (hfree : ∀ file ∈ files, v file.1 ≠ some .directory) : v.AcceptsAll files := by
  induction files generalizing v with
  | nil => trivial
  | cons file rest ih =>
    obtain ⟨names, contents⟩ := file
    obtain ⟨⟨name, rfl⟩, hrest⟩ := List.forall_mem_cons.mp hbeside
    obtain ⟨hself, hmoreshort⟩ := List.forall_mem_cons.mp hshort
    obtain ⟨hplace, hmorefree⟩ := List.forall_mem_cons.mp hfree
    have haccepts : v.Accepts (front ++ [name]) := by
      refine ⟨hself, ?_, hplace⟩
      rwa [List.dropLast_concat]
    refine ⟨haccepts, ih hrest hmoreshort (fun place hne hleads => ?_) fun file hfile => ?_⟩
    · have hother : place ≠ front ++ [name] := by
        rintro rfl
        have hlength := hleads.length_le
        rw [List.length_append, List.length_singleton] at hlength
        omega
      rw [fileAt_write haccepts, if_neg hother]
      exact habove place hne hleads
    · obtain ⟨other, hother⟩ := hrest file hfile
      have hold := hmorefree file hfile
      rw [hother] at hold ⊢
      rw [write, List.dropLast_concat, put]
      split
      · exact fun heq => (nomatch heq)
      · rwa [makeDirectories_below]

/-- What is at a place after files were written depends on what was there, and on nothing else of
the view. -/
theorem writes_congr {v v' : View} (h : v place = v' place) (files : List Placement) :
    v.writes files place = v'.writes files place := by
  induction files generalizing v v' with
  | nil => exact h
  | cons file rest ih =>
    refine ih ?_
    unfold write put makeDirectories
    split
    · rfl
    · split
      · rfl
      · exact h

/-! ## Views under a name -/

/-- Whether files are all under a name. -/
def Under (name : String) (files : List Placement) : Prop :=
  ∀ file ∈ files, file.1.head? = some name

/-- Whether files are all under other names. -/
def Beside (name : String) (files : List Placement) : Prop :=
  ∀ file ∈ files, file.1.head? ≠ some name

theorem Under.beside {name other : String} {files : List Placement} (h : Under name files)
    (hne : name ≠ other) : Beside other files := by
  intro file hfile
  rw [h file hfile]
  exact fun heq => hne (Option.some.inj heq)

theorem write_beside {name : String} (h : names.head? ≠ some name) (rest : List String) :
    v.write names contents (name :: rest) = v (name :: rest) := by
  have hplace : name :: rest ≠ names := by
    rintro rfl
    exact h rfl
  refine (put_of_ne hplace).trans (if_neg ?_)
  rintro ⟨-, hleads⟩
  obtain ⟨back, hback⟩ := hleads.trans (List.dropLast_prefix names)
  rw [← hback] at h
  exact h rfl

theorem writes_beside {name : String} {files : List Placement} (h : Beside name files)
    (rest : List String) : v.writes files (name :: rest) = v (name :: rest) := by
  induction files generalizing v with
  | nil => rfl
  | cons file files ih =>
    obtain ⟨hfile, hfiles⟩ := List.forall_mem_cons.mp h
    exact (ih hfiles).trans (write_beside hfile rest)

/-- Whether a view has under a name nothing that another one does not have there. -/
def PartOf (name : String) (v' v : View) : Prop :=
  ∀ rest, v' (name :: rest) = none ∨ v' (name :: rest) = v (name :: rest)

variable {v' : View} {name : String}

theorem PartOf.accepts (h : PartOf name v' v) (hnames : names.head? = some name)
    (ha : v.Accepts names) : v'.Accepts names := by
  obtain ⟨rest, rfl⟩ := List.head?_eq_some_iff.mp hnames
  refine ⟨ha.short, fun place hne hleads => ?_, ?_⟩
  · obtain ⟨back, hback⟩ := hleads.trans (List.dropLast_prefix _)
    obtain ⟨first, others, rfl⟩ := List.exists_cons_of_ne_nil hne
    obtain rfl : first = name := (List.cons.inj hback).1
    rcases h others with hnone | hsame
    · rw [fileAt, hnone]
    · rw [fileAt_congr hsame]
      exact ha.above _ hne hleads
  · rcases h rest with hnone | hsame
    · rw [hnone]
      exact Option.some_ne_none _ |>.symm
    · rw [hsame]
      exact ha.free

theorem PartOf.write (h : PartOf name v' v) :
    PartOf name (v'.write names contents) (v.write names contents) := by
  intro rest
  unfold View.write put makeDirectories
  split
  · exact .inr rfl
  · split
    · exact .inr rfl
    · exact h rest

/-- What a view takes under a name, a view with less under it takes too. -/
theorem PartOf.acceptsAll {files : List Placement} (h : PartOf name v' v)
    (hfiles : Under name files) (ha : v.AcceptsAll files) : v'.AcceptsAll files := by
  -- each file is written to both views, which leaves one part of the other
  induction files generalizing v v' with
  | nil => trivial
  | cons file rest ih =>
    obtain ⟨hfile, hrest⟩ := List.forall_mem_cons.mp hfiles
    exact ⟨h.accepts hfile ha.1, ih h.write hrest ha.2⟩

end View

end EngineBindings
