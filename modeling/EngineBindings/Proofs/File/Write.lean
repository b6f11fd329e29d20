import EngineBindings.Proofs.File.Tree

/-!
# Writing files

Writing a file below a directory that is there succeeds where the view of the directory accepts it
(`exists_writeIfChanged`) and nowhere else, and then does to the view what `View.write` says and
nothing besides (`wrote_of_writeIfChanged`).  It makes the directories above the file on its way
(`makeDirectoriesFrom_ancestors`).
-/

namespace EngineBindings.FileTree

open FilePath

variable {t t' : FileTree} {l : Location}

/-! ## Making directories -/

theorem keepsDirectories_of_view (hsame : SameBut l t t')
    (hview : ∀ place, t.view l place = some .directory → t'.view l place = some .directory) :
    KeepsDirectories t t' := by
  intro place hplace
  by_cases hbelow : ∃ names, place = l ++ names
  · obtain ⟨names, rfl⟩ := hbelow
    exact hview names hplace
  · rw [hsame place fun names _ heq => hbelow ⟨names, heq⟩]
    exact hplace

/-- What making directories tries last: the directory itself, which may be there already. -/
def makeOrFind (t : FileTree) (path : String) : FileTree × Except FileError Unit :=
  match t.makeDirectory path with
  | .ok t => (t, .ok ())
  | .error e => (t, if t.isDirectory path then .ok () else .error e)

theorem makeDirectoriesFrom_of_found {path : String} {above : List String}
    (hpath : path.isEmpty = false) (hfound : t.makeDirectory path ≠ .error .notFound) :
    t.makeDirectoriesFrom (path :: above) = t.makeOrFind path := by
  rw [makeDirectoriesFrom, hpath, if_neg Bool.false_ne_true]
  split
  · next h => exact absurd h hfound
  · rfl

theorem makeDirectoriesFrom_of_notFound {path : String} {above : List String}
    (hpath : path.isEmpty = false) (hmissing : t.makeDirectory path = .error .notFound)
    (habove : t.makeDirectoriesFrom above = (t', .ok ())) :
    t.makeDirectoriesFrom (path :: above) = t'.makeOrFind path := by
  rw [makeDirectoriesFrom, hpath, if_neg Bool.false_ne_true, hmissing, habove]
  rfl

theorem Open.directory {names : List String} (h : t.Open l names) :
    t.entry? (l ++ names) = some .directory :=
  h names List.prefix_rfl

section Below

variable {base : String} {above : List String} {last : String} (hbase : t.Located base l)
  (hnames : LeadsDown (above ++ [last]))
  (hfits : (below base (above ++ [last])).utf8ByteSize ≤ pathLimit)
  (hshort : last.utf8ByteSize ≤ nameLimit) (hreach : t.reach l above = .ok (l ++ above))

include hbase hnames hfits hshort hreach

omit hbase hfits in
theorem step_below : t.step (l ++ above) last = .ok (l ++ (above ++ [last])) := by
  have hlast : IsFileName last := hnames.named last (List.mem_append_right _ List.mem_cons_self)
  have hopen := (reach_eq_ok (fun name hname => hnames.named name (List.mem_append_left _ hname))
    hreach).2.1
  rw [step_of_directory hopen.directory hlast, if_neg (Nat.not_lt.mpr hshort), List.append_assoc]

theorem makeDirectory_below :
    t.makeDirectory (below base (above ++ [last])) =
      if (t.entry? (l ++ (above ++ [last]))).isSome then .error .alreadyExists
      else .ok (t.put (l ++ (above ++ [last])) .directory) := by
  have hlast : IsFileName last := hnames.named last (List.mem_append_right _ List.mem_cons_self)
  unfold makeDirectory
  rw [hbase.approach_below hnames hfits, hreach]
  change (if (isHere last || isAbove last) = true then _ else _) = _
  rw [hlast.not_here, hlast.not_above, Bool.or_false, if_neg Bool.false_ne_true,
    step_below hnames hshort hreach]
  rfl

/-- A directory is made where there is none, and found where there is one. -/
theorem makeOrFind_below (hfile : (t.view l).fileAt (above ++ [last]) = none) :
    ∃ t', t.makeOrFind (below base (above ++ [last])) = (t', .ok ()) ∧
      t'.view l = (t.view l).put (above ++ [last]) .directory ∧ SameBut l t t' := by
  have hmade := makeDirectory_below hbase hnames hfits hshort hreach
  cases hentry : t.entry? (l ++ (above ++ [last])) with
  | none =>
    rw [hentry, Option.isSome_none, if_neg Bool.false_ne_true] at hmade
    exact ⟨_, by rw [makeOrFind, hmade], view_put hnames _, sameBut_put hnames _⟩
  | some entry =>
    cases entry with
    | file contents =>
      have hsome : (t.view l).fileAt (above ++ [last]) = some contents :=
        View.fileAt_eq_some_iff.mpr hentry
      cases hsome.symm.trans hfile
    | directory =>
      rw [hentry, Option.isSome_some, if_pos rfl] at hmade
      have hlocate : t.locate (below base (above ++ [last])) = .ok (l ++ (above ++ [last])) := by
        rw [hbase.locate_below hnames hfits, foldlM_concat, hreach]
        exact step_below hnames hshort hreach
      have hfound := isDirectory_of_locate hlocate hentry
      refine ⟨t, by rw [makeOrFind, hmade, hfound]; rfl, ?_, SameBut.refl l t⟩
      exact (View.put_eq_self (v := t.view l) hentry).symm

end Below

theorem ancestors_eq (path : String) : ancestors path = path :: (ancestors path).tail :=
  rfl

/-- Nothing is made above a file in a directory that is there. -/
theorem makeDirectoriesFrom_located {base last : String} (hbase : t.Located base l)
    (hlast : IsFileName last) :
    t.makeDirectoriesFrom (ancestors (below base [last])).tail = (t, .ok ()) := by
  obtain ⟨near, rest, htail, hnear⟩ := hbase.exists_nearest hlast
  rw [htail]
  cases hempty : near.isEmpty with
  | true => rw [makeDirectoriesFrom, if_pos hempty]
  | false =>
    obtain hnear : t.Located near l := hnear.resolve_left (by rw [hempty]; exact Bool.false_ne_true)
    have hmade := makeDirectory_of_located hnear
    have hfound : t.makeDirectory near ≠ .error .notFound := fun hmissing => by
      cases hmade.symm.trans hmissing
    rw [makeDirectoriesFrom_of_found hempty hfound, makeOrFind, hmade,
      isDirectory_of_locate hnear.locate hnear.directory]
    rfl

theorem view_of_open {names : List String} (h : t.Open l names) :
    (t.view l).makeDirectories names = t.view l := by
  funext place
  unfold View.makeDirectories
  split
  · next hplace => exact (h place hplace.2).symm
  · rfl

theorem open_of_view {names : List String} (hl : t'.entry? l = some .directory)
    (hview : t'.view l = (t.view l).makeDirectories names) : t'.Open l names := by
  intro place hplace
  change t'.view l place = some .directory
  by_cases hne : place = []
  · rw [hne, view, List.append_nil, hl]
  · rw [hview, View.makeDirectories, if_pos ⟨hne, hplace⟩]

theorem keepsDirectories_makeDirectories {names : List String} (hsame : SameBut l t t')
    (hview : t'.view l = (t.view l).makeDirectories names) : KeepsDirectories t t' := by
  refine keepsDirectories_of_view hsame fun place hplace => ?_
  rw [hview, View.makeDirectories]
  split
  · rfl
  · exact hplace

/-- The directories above a path are made as far as they are missing. -/
theorem makeDirectoriesFrom_ancestors {base : String} (hbase : t.Located base l)
    {above : List String} {last : String} (hnames : LeadsDown (above ++ [last]))
    (hfits : (below base (above ++ [last])).utf8ByteSize ≤ pathLimit)
    (hshort : ∀ name ∈ above, name.utf8ByteSize ≤ nameLimit)
    (hfile : ∀ place, place ≠ [] → place <+: above → (t.view l).fileAt place = none) :
    ∃ t', t.makeDirectoriesFrom (ancestors (below base (above ++ [last]))).tail = (t', .ok ()) ∧
      t'.view l = (t.view l).makeDirectories above ∧ SameBut l t t' := by
  -- from the nearest directory upwards; what is above it is made first where it is missing
  induction above using List.reverseRecOn generalizing last with
  | nil =>
    have hlast := hnames.named last List.mem_cons_self
    exact ⟨t, makeDirectoriesFrom_located hbase hlast, (View.makeDirectories_nil _).symm,
      SameBut.refl l t⟩
  | append_singleton above name ih =>
    have hdown : LeadsDown (above ++ [name]) :=
      hnames.left (List.append_ne_nil_of_right_ne_nil _ (List.cons_ne_nil _ _))
    have hlast : LeadsDown [last] := hnames.right (List.cons_ne_nil _ _)
    have hfits' := (utf8ByteSize_below_le hdown hlast).trans hfits
    have hname : name.utf8ByteSize ≤ nameLimit :=
      hshort name (List.mem_append_right _ List.mem_cons_self)
    have hshorts : ∀ name ∈ above, name.utf8ByteSize ≤ nameLimit :=
      fun name hname => hshort name (List.mem_append_left _ hname)
    have hfiles : ∀ place, place ≠ [] → place <+: above → (t.view l).fileAt place = none :=
      fun place hne hplace => hfile place hne (hplace.trans (List.prefix_append _ _))
    have hself : (t.view l).fileAt (above ++ [name]) = none :=
      hfile _ hdown.ne_nil List.prefix_rfl
    have hnamed : ∀ name ∈ above, IsFileName name :=
      fun name hname => hdown.named name (List.mem_append_left _ hname)
    have hpath := below_ne_empty base hdown
    rw [ancestors_below hdown (hlast.named last List.mem_cons_self), List.tail_cons, ancestors_eq]
    rcases reach_of_noFile hnamed hshorts hbase.directory hfiles with hreach | hmissing
    · have hfound : t.makeDirectory (below base (above ++ [name])) ≠ .error .notFound := by
        rw [makeDirectory_below hbase hdown hfits' hname hreach]
        split <;> exact nofun
      obtain ⟨t', hmade, hview, hsame⟩ :=
        makeOrFind_below hbase hdown hfits' hname hreach hself
      refine ⟨t', (makeDirectoriesFrom_of_found hpath hfound).trans hmade, ?_, hsame⟩
      rw [hview, View.makeDirectories_concat, view_of_open (reach_eq_ok hnamed hreach).2.1]
    · obtain ⟨t₁, hmade, hview, hsame⟩ := ih hdown hfits' hshorts hfiles
      have hmakes : t.makeDirectory (below base (above ++ [name])) = .error .notFound := by
        rw [makeDirectory, hbase.approach_below hdown hfits', hmissing]
        rfl
      have hbase₁ := (keepsDirectories_makeDirectories hsame hview).located hbase
      have hself₁ : (t₁.view l).fileAt (above ++ [name]) = none := by
        rw [← hself, hview]
        exact View.fileAt_congr (View.makeDirectories_below _ above name)
      have hreach₁ := reach_of_open hnamed hshorts (open_of_view hbase₁.directory hview)
      obtain ⟨t', hlater, hview', hsame'⟩ :=
        makeOrFind_below hbase₁ hdown hfits' hname hreach₁ hself₁
      refine ⟨t', (makeDirectoriesFrom_of_notFound hpath hmakes hmade).trans hlater, ?_,
        hsame.trans hsame'⟩
      rw [hview', hview, View.makeDirectories_concat]

/-! ## Writing -/

/-- Whether a tree differs from another one by a file that was written below a place. -/
structure Wrote (l : Location) (names : List String) (contents : String) (t t' : FileTree) :
    Prop where
  view_eq : t'.view l = (t.view l).write names contents
  same : SameBut l t t'

theorem Wrote.keepsDirectories {names : List String} {contents : String}
    (h : Wrote l names contents t t') (haccepts : (t.view l).Accepts names) :
    KeepsDirectories t t' := by
  refine keepsDirectories_of_view h.same fun place hplace => ?_
  rw [h.view_eq, View.write]
  by_cases hself : place = names
  · exact absurd (hself ▸ hplace) haccepts.free
  · rw [View.put_of_ne hself, View.makeDirectories]
    split
    · rfl
    · exact hplace

/-- After a file was written the way to it is there. -/
theorem Wrote.open_above {names : List String} {contents : String}
    (h : Wrote l names contents t t') (hne : names ≠ []) (hl : t'.entry? l = some .directory) :
    t'.Open l names.dropLast := by
  intro place hplace
  change t'.view l place = some .directory
  by_cases hnil : place = []
  · rw [hnil, view, List.append_nil, hl]
  · have hother : place ≠ names := by
      rintro rfl
      have hlength := hplace.length_le
      have hpositive := List.length_pos_of_ne_nil hne
      rw [List.length_dropLast] at hlength
      omega
    rw [h.view_eq, View.write, View.put_of_ne hother, View.makeDirectories,
      if_pos ⟨hnil, hplace⟩]

section Write

variable {base : String} {above : List String} {last contents : String} (hbase : t.Located base l)
  (hnames : LeadsDown (above ++ [last]))
  (hfits : (below base (above ++ [last])).utf8ByteSize ≤ pathLimit)

include hbase hnames hfits

variable (contents) in
theorem write_below (hshort : last.utf8ByteSize ≤ nameLimit)
    (hreach : t.reach l above = .ok (l ++ above))
    (hfree : t.view l (above ++ [last]) ≠ some .directory) :
    t.write (below base (above ++ [last])) contents =
      .ok (t.put (l ++ (above ++ [last])) (.file contents)) := by
  have hlast : IsFileName last := hnames.named last (List.mem_append_right _ List.mem_cons_self)
  obtain ⟨_, trunk, _, -, -, -, hbelow⟩ := hbase.exists_trunk
  have hpieces := (hbelow _ hnames).2
  rw [← List.append_assoc] at hpieces
  unfold write
  rw [hbase.approach_below hnames hfits, hreach, splitLast_of_pieces hlast hpieces]
  change (if (isHere last || isAbove last || false) = true then _ else _) = _
  rw [hlast.not_here, hlast.not_above, Bool.or_false, Bool.or_false, if_neg Bool.false_ne_true,
    step_below hnames hshort hreach]
  change (if t.entry? (l ++ (above ++ [last])) = some .directory then _ else _) = _
  exact if_neg hfree

variable (contents) in
theorem writeBelow_of_accepts (haccepts : (t.view l).Accepts (above ++ [last])) :
    ∃ t', t.writeBelow (below base (above ++ [last])) contents = (t', .ok ()) ∧
      Wrote l (above ++ [last]) contents t t' := by
  have hshort : ∀ name ∈ above, name.utf8ByteSize ≤ nameLimit :=
    fun name hname => haccepts.short name (List.mem_append_left _ hname)
  have hfile := haccepts.above
  rw [List.dropLast_concat] at hfile
  obtain ⟨t₁, hmade, hview, hsame⟩ :=
    makeDirectoriesFrom_ancestors hbase hnames hfits hshort hfile
  have hbase₁ := (keepsDirectories_makeDirectories hsame hview).located hbase
  have hreach := reach_of_open
    (fun name hname => hnames.named name (List.mem_append_left _ hname)) hshort
    (open_of_view hbase₁.directory hview)
  have hfree : t₁.view l (above ++ [last]) ≠ some .directory := by
    rw [hview, View.makeDirectories_below]
    exact haccepts.free
  have hwrite := write_below contents hbase₁ hnames hfits
    (haccepts.short last (List.mem_append_right _ List.mem_cons_self)) hreach hfree
  refine ⟨t₁.put (l ++ (above ++ [last])) (.file contents), ?_, ?_,
    hsame.trans (sameBut_put hnames _)⟩
  · rw [writeBelow, hmade]
    dsimp only
    rw [hwrite]
  · rw [view_put hnames, hview, View.write, List.dropLast_concat]

/-- A path below a directory leads through directories to where its names say. -/
theorem locate_below_eq_ok {place : Location}
    (h : t.locate (below base (above ++ [last])) = .ok place) :
    place = l ++ (above ++ [last]) ∧ t.Open l above ∧
      ∀ name ∈ above ++ [last], name.utf8ByteSize ≤ nameLimit := by
  have hlast : IsFileName last := hnames.named last (List.mem_append_right _ List.mem_cons_self)
  rw [hbase.locate_below hnames hfits, foldlM_concat] at h
  obtain ⟨k, hreach, hstep⟩ := bind_eq_ok_iff.mp h
  obtain ⟨rfl, hopen, hshorts⟩ :=
    reach_eq_ok (fun name hname => hnames.named name (List.mem_append_left _ hname)) hreach
  rw [step_of_directory hopen.directory hlast] at hstep
  split at hstep
  · cases hstep
  · next hshort =>
    refine ⟨(Except.ok.inj hstep).symm.trans (List.append_assoc _ _ _), hopen, fun name hname => ?_⟩
    rcases List.mem_append.mp hname with hname | hname
    · exact hshorts name hname
    · rw [List.mem_singleton.mp hname]
      exact Nat.not_lt.mp hshort

/-- What is read below a directory is the file in its view. -/
theorem fileAt_of_read (h : t.read (below base (above ++ [last])) = .ok contents) :
    (t.view l).fileAt (above ++ [last]) = some contents := by
  obtain ⟨place, hlocate, hentry⟩ := read_eq_ok_iff.mp h
  obtain ⟨rfl, -⟩ := locate_below_eq_ok hbase hnames hfits hlocate
  exact View.fileAt_eq_some_iff.mpr hentry

theorem read_of_fileAt (hshort : ∀ name ∈ above ++ [last], name.utf8ByteSize ≤ nameLimit)
    (hopen : t.Open l above) (h : (t.view l).fileAt (above ++ [last]) = some contents) :
    t.read (below base (above ++ [last])) = .ok contents := by
  refine read_eq_ok_iff.mpr ⟨l ++ (above ++ [last]), ?_, View.fileAt_eq_some_iff.mp h⟩
  have hreach := reach_of_open
    (fun name hname => hnames.named name (List.mem_append_left _ hname))
    (fun name hname => hshort name (List.mem_append_left _ hname)) hopen
  rw [hbase.locate_below hnames hfits, foldlM_concat, hreach]
  exact step_below hnames (hshort last (List.mem_append_right _ List.mem_cons_self)) hreach

theorem locate_below_of_accepts (haccepts : (t.view l).Accepts (above ++ [last])) :
    t.locate (below base (above ++ [last])) = .ok (l ++ (above ++ [last])) ∨
      t.locate (below base (above ++ [last])) = .error .notFound := by
  have hfile := haccepts.above
  rw [List.dropLast_concat] at hfile
  rw [hbase.locate_below hnames hfits, foldlM_concat]
  rcases reach_of_noFile (fun name hname => hnames.named name (List.mem_append_left _ hname))
    (fun name hname => haccepts.short name (List.mem_append_left _ hname)) hbase.directory hfile
    with hreach | hmissing
  · left
    rw [hreach]
    exact step_below hnames
      (haccepts.short last (List.mem_append_right _ List.mem_cons_self)) hreach
  · right
    rw [hmissing]
    rfl

theorem read_of_accepts (haccepts : (t.view l).Accepts (above ++ [last])) :
    (∃ old, t.read (below base (above ++ [last])) = .ok old) ∨
      t.read (below base (above ++ [last])) = .error .notFound := by
  rcases locate_below_of_accepts hbase hnames hfits haccepts with hlocate | hmissing
  · cases hentry : t.entry? (l ++ (above ++ [last])) with
    | none => exact .inr (read_of_find_error (find_of_locate_none hlocate hentry))
    | some entry =>
      cases entry with
      | file old => exact .inl ⟨old, read_of_find_file (find_of_locate hlocate hentry)⟩
      | directory => exact absurd hentry haccepts.free
  · refine .inr (read_of_find_error ?_)
    rw [find, hmissing]
    rfl

/-- A file that is there already is as good as written. -/
theorem wrote_of_read (h : t.read (below base (above ++ [last])) = .ok contents) :
    (t.view l).Accepts (above ++ [last]) ∧ Wrote l (above ++ [last]) contents t t := by
  obtain ⟨place, hlocate, hentry⟩ := read_eq_ok_iff.mp h
  obtain ⟨rfl, hopen, hshort⟩ := locate_below_eq_ok hbase hnames hfits hlocate
  refine ⟨⟨hshort, fun place _ hplace => ?_, ?_⟩, ?_, SameBut.refl l t⟩
  · rw [List.dropLast_concat] at hplace
    rw [View.fileAt, show t.view l place = _ from hopen place hplace]
  · rw [view, hentry]
    intro heq
    cases heq
  · rw [View.write, List.dropLast_concat, view_of_open hopen]
    exact (View.put_eq_self (v := t.view l) hentry).symm

variable (contents) in
/-- A view takes a file where it accepts it; nothing is written where the file is there already. -/
theorem writeIfChanged_of_accepts (haccepts : (t.view l).Accepts (above ++ [last])) :
    ∃ t' changed, t.writeIfChanged (below base (above ++ [last])) contents = (t', .ok changed) ∧
      Wrote l (above ++ [last]) contents t t' ∧
      (changed = false ↔ t.read (below base (above ++ [last])) = .ok contents) := by
  obtain ⟨t', hwrite, hwrote⟩ := writeBelow_of_accepts contents hbase hnames hfits haccepts
  unfold writeIfChanged
  rcases read_of_accepts hbase hnames hfits haccepts with ⟨old, hread⟩ | hmissing
  · rw [hread]
    by_cases hold : old = contents
    · subst hold
      exact ⟨t, false, if_pos rfl, (wrote_of_read hbase hnames hfits hread).2, by simp⟩
    · refine ⟨t', true, (if_neg hold).trans ?_, hwrote, ?_⟩
      · rw [hwrite]
        rfl
      · simp [hold]
  · refine ⟨t', true, ?_, hwrote, ?_⟩
    · rw [hmissing, hwrite]
      rfl
    · simp [hmissing]

end Write

/-! ## What a success says -/

/-- Whether a tree has everything that another one has. -/
def Keeps (t t' : FileTree) : Prop :=
  ∀ l entry, t.entry? l = some entry → t'.entry? l = some entry

theorem Keeps.refl (t : FileTree) : Keeps t t :=
  fun _ _ h => h

theorem Keeps.trans {t'' : FileTree} (h : Keeps t t') (h' : Keeps t' t'') : Keeps t t'' :=
  fun l entry hentry => h' l entry (h l entry hentry)

theorem Keeps.keepsDirectories (h : Keeps t t') : KeepsDirectories t t' :=
  fun l hl => h l .directory hl

/-- Whether a tree is another one with more directories. -/
structure AddsDirectories (t t' : FileTree) : Prop where
  keeps : Keeps t t'
  contents?_eq : ∀ place, t'.contents? place = t.contents? place

theorem AddsDirectories.refl (t : FileTree) : AddsDirectories t t :=
  ⟨Keeps.refl t, fun _ => rfl⟩

theorem AddsDirectories.trans {t'' : FileTree} (h : AddsDirectories t t')
    (h' : AddsDirectories t' t'') : AddsDirectories t t'' :=
  ⟨h.keeps.trans h'.keeps, fun place => (h'.contents?_eq place).trans (h.contents?_eq place)⟩

theorem addsDirectories_makeDirectory {path : String} (h : t.makeDirectory path = .ok t') :
    AddsDirectories t t' := by
  obtain ⟨⟨above, last⟩, -, h⟩ := bind_eq_ok_iff.mp h
  dsimp only at h
  split at h
  · cases h
  · obtain ⟨l, -, h⟩ := bind_eq_ok_iff.mp h
    split at h
    · cases h
    · next hnone =>
      obtain rfl := Except.ok.inj h
      have hnone := Option.not_isSome_iff_eq_none.mp hnone
      have hgiven : l.isGiven = false := by
        rw [Bool.eq_false_iff]
        intro hgiven
        unfold entry? at hnone
        rw [if_pos hgiven] at hnone
        cases hnone
      constructor
      · intro place entry hentry
        rw [entry?_put hgiven, if_neg]
        · exact hentry
        · rintro rfl
          cases hentry.symm.trans hnone
      · intro place
        rw [contents?, contents?, View.fileAt, View.fileAt, entry?_put hgiven]
        by_cases hplace : place = l
        · rw [if_pos hplace, hplace, hnone]
        · rw [if_neg hplace]

theorem addsDirectories_makeOrFind (t : FileTree) (path : String) :
    AddsDirectories t (t.makeOrFind path).1 := by
  unfold makeOrFind
  split
  · next hmade => exact addsDirectories_makeDirectory hmade
  · exact AddsDirectories.refl t

/-- Making directories changes nothing else, even if it fails. -/
theorem addsDirectories_makeDirectoriesFrom (t : FileTree) (paths : List String) :
    AddsDirectories t (t.makeDirectoriesFrom paths).1 := by
  induction paths generalizing t with
  | nil => exact AddsDirectories.refl t
  | cons path above ih =>
    cases hempty : path.isEmpty with
    | true =>
      rw [makeDirectoriesFrom, if_pos hempty]
      exact AddsDirectories.refl t
    | false =>
      by_cases hmissing : t.makeDirectory path = .error .notFound
      · cases hmade : t.makeDirectoriesFrom above with
        | mk t₁ result =>
          have hadds : AddsDirectories t t₁ := by
            have hmore := ih t
            rwa [hmade] at hmore
          cases result with
          | ok _ =>
            rw [makeDirectoriesFrom_of_notFound hempty hmissing hmade]
            exact hadds.trans (addsDirectories_makeOrFind t₁ path)
          | error e =>
            rw [makeDirectoriesFrom, hempty, if_neg Bool.false_ne_true, hmissing, hmade]
            exact hadds
      · rw [makeDirectoriesFrom_of_found hempty hmissing]
        exact addsDirectories_makeOrFind t path

/-- What is accepted with more in a tree is accepted with less. -/
theorem Keeps.accepts (h : Keeps t t') {names : List String} (ha : (t'.view l).Accepts names) :
    (t.view l).Accepts names where
  short := ha.short
  above place hne hplace := by
    refine Option.eq_none_iff_forall_ne_some.mpr fun contents hfile => ?_
    have hkept := h _ _ (View.fileAt_eq_some_iff.mp hfile)
    cases (View.fileAt_eq_some_iff.mpr hkept).symm.trans (ha.above place hne hplace)
  free hdirectory := ha.free (h _ _ hdirectory)

theorem fits_of_locate {path : String} {place : Location} (h : t.locate path = .ok place) :
    path.utf8ByteSize ≤ pathLimit := by
  obtain ⟨_, hstart, -⟩ := bind_eq_ok_iff.mp h
  exact (start_eq_ok_iff.mp hstart).2.1

theorem fits_of_approach {path : String} {place : Location × String}
    (h : t.approach path = .ok place) : path.utf8ByteSize ≤ pathLimit := by
  unfold approach at h
  obtain ⟨_, hstart, -⟩ := bind_eq_ok_iff.mp h
  exact (start_eq_ok_iff.mp hstart).2.1

section Inversion

variable {base : String} {above : List String} {last contents : String} (hbase : t.Located base l)
  (hnames : LeadsDown (above ++ [last]))

include hbase hnames

theorem accepts_of_write (h : t.write (below base (above ++ [last])) contents = .ok t') :
    (below base (above ++ [last])).utf8ByteSize ≤ pathLimit ∧
      (t.view l).Accepts (above ++ [last]) := by
  have hlast : IsFileName last := hnames.named last (List.mem_append_right _ List.mem_cons_self)
  obtain ⟨⟨k, name⟩, happroach, h⟩ := bind_eq_ok_iff.mp h
  have hfits := fits_of_approach happroach
  rw [hbase.approach_below hnames hfits] at happroach
  cases hreach : t.reach l above with
  | error e => rw [hreach] at happroach; cases happroach
  | ok k' =>
    rw [hreach] at happroach
    obtain ⟨rfl, rfl⟩ := Prod.mk.inj (Except.ok.inj happroach)
    obtain ⟨rfl, hopen, hshorts⟩ :=
      reach_eq_ok (fun name hname => hnames.named name (List.mem_append_left _ hname)) hreach
    dsimp only at h
    split at h
    · cases h
    · obtain ⟨place, hstep, h⟩ := bind_eq_ok_iff.mp h
      rw [step_of_directory hopen.directory hlast] at hstep
      split at hstep
      · cases hstep
      · next hshort =>
        obtain rfl := Except.ok.inj hstep
        split at h
        · cases h
        · next hfree =>
          refine ⟨hfits, fun name hname => ?_, fun place _ hplace => ?_, fun hdirectory => hfree ?_⟩
          · rcases List.mem_append.mp hname with hname | hname
            · exact hshorts name hname
            · rw [List.mem_singleton.mp hname]
              exact Nat.not_lt.mp hshort
          · rw [List.dropLast_concat] at hplace
            rw [View.fileAt, show t.view l place = _ from hopen place hplace]
          · rwa [view, ← List.append_assoc] at hdirectory

theorem accepts_of_writeBelow
    (h : t.writeBelow (below base (above ++ [last])) contents = (t', .ok ())) :
    (below base (above ++ [last])).utf8ByteSize ≤ pathLimit ∧
      (t.view l).Accepts (above ++ [last]) := by
  have hkeeps :=
    (addsDirectories_makeDirectoriesFrom t (ancestors (below base (above ++ [last]))).tail).keeps
  unfold writeBelow at h
  split at h
  · cases h
  · next t₁ hmade =>
    rw [hmade] at hkeeps
    split at h
    · next hwrite =>
      obtain ⟨hfits, haccepts⟩ :=
        accepts_of_write (hkeeps.keepsDirectories.located hbase) hnames hwrite
      exact ⟨hfits, hkeeps.accepts haccepts⟩
    · cases h

/-- A view accepts what could be written. -/
theorem accepts_of_writeIfChanged {changed : Bool}
    (h : t.writeIfChanged (below base (above ++ [last])) contents = (t', .ok changed)) :
    (below base (above ++ [last])).utf8ByteSize ≤ pathLimit ∧
      (t.view l).Accepts (above ++ [last]) := by
  have hwritten : ∀ {result : FileTree × Except FileError Unit},
      t.writeBelow (below base (above ++ [last])) contents = result →
      (result.1, result.2.map fun () => true) = (t', .ok changed) →
      (below base (above ++ [last])).utf8ByteSize ≤ pathLimit ∧
        (t.view l).Accepts (above ++ [last]) := by
    rintro ⟨t₁, _ | _⟩ hwrite hresult
    · cases hresult
    · exact accepts_of_writeBelow hbase hnames hwrite
  unfold writeIfChanged at h
  dsimp only at h
  split at h
  · next old hread =>
    split at h
    · next hold =>
      obtain ⟨place, hlocate, -⟩ := read_eq_ok_iff.mp hread
      have hfits := fits_of_locate hlocate
      exact ⟨hfits, (wrote_of_read hbase hnames hfits hread).1⟩
    · exact hwritten rfl h
  · exact hwritten rfl h
  · cases h

end Inversion

/-- Whether a tree differs from another one by the contents of a file, and by directories that were
missing. -/
structure Saves (l : Location) (contents : String) (t t' : FileTree) : Prop where
  keepsDirectories : KeepsDirectories t t'
  contents?_self : t'.contents? l = some contents
  contents?_of_ne : ∀ place, place ≠ l → t'.contents? place = t.contents? place

theorem AddsDirectories.saves {t'' : FileTree} {contents : String} (h : AddsDirectories t t')
    (h' : Saves l contents t' t'') : Saves l contents t t'' where
  keepsDirectories place hplace := h'.keepsDirectories place (h.keeps.keepsDirectories place hplace)
  contents?_self := h'.contents?_self
  contents?_of_ne place hne := (h'.contents?_of_ne place hne).trans (h.contents?_eq place)

theorem saves_put {contents : String} (hgiven : l.isGiven = false)
    (hfree : t.entry? l ≠ some .directory) : Saves l contents t (t.put l (.file contents)) where
  keepsDirectories := keepsDirectories_put hgiven hfree
  contents?_self := by rw [contents?, View.fileAt, entry?_put hgiven, if_pos rfl]
  contents?_of_ne place hne := by
    rw [contents?, contents?, View.fileAt, View.fileAt, entry?_put hgiven, if_neg hne]

/-- What is written is at the place that its path leads to. -/
theorem saves_of_write {path contents : String} (h : t.write path contents = .ok t') :
    ∃ l, t'.locate path = .ok l ∧ Saves l contents t t' := by
  obtain ⟨⟨above, name⟩, happroach, h⟩ := bind_eq_ok_iff.mp h
  unfold approach at happroach
  obtain ⟨before, last, endsInSlash, hsplit⟩ :
      ∃ before last endsInSlash, splitLast path = (before, last, endsInSlash) :=
    ⟨_, _, _, rfl⟩
  rw [hsplit] at happroach h
  obtain ⟨root, hroot, happroach⟩ := bind_eq_ok_iff.mp happroach
  obtain ⟨k, hfold, happroach⟩ := bind_eq_ok_iff.mp happroach
  obtain ⟨k', hdirectory, happroach⟩ := bind_eq_ok_iff.mp happroach
  obtain ⟨rfl, rfl⟩ := Prod.mk.inj (Except.ok.inj happroach)
  obtain ⟨hopen, rfl⟩ := directory_eq_ok_iff.mp hdirectory
  dsimp only at h
  split at h
  · cases h
  · next hnamed =>
    rw [Bool.not_eq_true, Bool.or_eq_false_iff, Bool.or_eq_false_iff] at hnamed
    obtain ⟨⟨hhere, habove⟩, rfl⟩ := hnamed
    have hpieces := pieces_of_splitLast hsplit hhere
    have hlast : IsFileName last := by
      refine isFileName_of_mem_pieces (start_eq_ok_iff.mp hroot).1 ?_ hhere habove
      rw [hpieces]
      exact List.mem_append_right _ List.mem_cons_self
    obtain ⟨place, hstep, h⟩ := bind_eq_ok_iff.mp h
    split at h
    · cases h
    · next hfree =>
      obtain rfl := Except.ok.inj h
      have hlocate : t.locate path = .ok place := by
        refine bind_eq_ok_iff.mpr ⟨root, hroot, ?_⟩
        rw [hpieces, List.foldlM_append]
        refine bind_eq_ok_iff.mpr ⟨_, hfold, ?_⟩
        rw [List.foldlM_cons]
        exact bind_eq_ok_iff.mpr ⟨place, hstep, rfl⟩
      have hgiven : place.isGiven = false := by
        rw [step_of_directory hopen hlast] at hstep
        split at hstep
        · cases hstep
        · rw [← Except.ok.inj hstep]
          exact Location.isGiven_append_cons hlast []
      exact ⟨place, (keepsDirectories_put hgiven hfree).locate hlocate, saves_put hgiven hfree⟩

theorem saves_of_writeBelow {path contents : String}
    (h : t.writeBelow path contents = (t', .ok ())) :
    ∃ l, t'.locate path = .ok l ∧ Saves l contents t t' := by
  have hadds := addsDirectories_makeDirectoriesFrom t (ancestors path).tail
  unfold writeBelow at h
  split at h
  · cases h
  · next hmade =>
    rw [hmade] at hadds
    split at h
    · next hwrite =>
      obtain ⟨rfl, -⟩ := Prod.mk.inj h
      obtain ⟨l, hlocate, hsaves⟩ := saves_of_write hwrite
      exact ⟨l, hlocate, hadds.saves hsaves⟩
    · cases h

theorem saves_of_writeIfChanged {path contents : String} {changed : Bool}
    (h : t.writeIfChanged path contents = (t', .ok changed)) :
    ∃ l, t'.locate path = .ok l ∧ Saves l contents t t' := by
  have hwritten : ∀ {result : FileTree × Except FileError Unit},
      t.writeBelow path contents = result →
      (result.1, result.2.map fun () => true) = (t', .ok changed) →
      ∃ l, t'.locate path = .ok l ∧ Saves l contents t t' := by
    rintro ⟨t₁, _ | _⟩ hwrite hresult
    · cases hresult
    · obtain ⟨rfl, -⟩ := Prod.mk.inj hresult
      exact saves_of_writeBelow hwrite
  unfold writeIfChanged at h
  dsimp only at h
  split at h
  · next old hread =>
    split at h
    · next hold =>
      obtain ⟨rfl, -⟩ := Prod.mk.inj h
      obtain ⟨l, hlocate, hcontents⟩ := read_eq_ok_iff_contents?.mp hread
      exact ⟨l, hlocate, fun _ hplace => hplace, hold ▸ hcontents, fun _ _ => rfl⟩
    · exact hwritten rfl h
  · exact hwritten rfl h
  · cases h

theorem Saves.read {path contents : String} (h : Saves l contents t t')
    (hpath : t'.locate path = .ok l) : t'.read path = .ok contents :=
  read_eq_ok_iff_contents?.mpr ⟨l, hpath, h.contents?_self⟩

theorem writeIfChanged_of_read {path contents : String} (h : t.read path = .ok contents) :
    t.writeIfChanged path contents = (t, .ok false) := by
  unfold writeIfChanged
  rw [h]
  exact if_pos rfl

/-- A file can be written just where the view accepts it, on a path that is short enough. -/
theorem wrote_of_writeIfChanged {base contents : String} {names : List String} {changed : Bool}
    (hbase : t.Located base l) (hnames : LeadsDown names)
    (h : t.writeIfChanged (below base names) contents = (t', .ok changed)) :
    (below base names).utf8ByteSize ≤ pathLimit ∧ (t.view l).Accepts names ∧
      Wrote l names contents t t' ∧ t'.Located base l := by
  obtain ⟨above, last, rfl, -⟩ := hnames.exists_last
  obtain ⟨hfits, haccepts⟩ := accepts_of_writeIfChanged hbase hnames h
  obtain ⟨t₁, _, hwrite, hwrote, -⟩ :=
    writeIfChanged_of_accepts contents hbase hnames hfits haccepts
  obtain ⟨rfl, -⟩ := Prod.mk.inj (hwrite.symm.trans h)
  exact ⟨hfits, haccepts, hwrote, (hwrote.keepsDirectories haccepts).located hbase⟩

theorem exists_writeIfChanged {base : String} {names : List String} (contents : String)
    (hbase : t.Located base l) (hnames : LeadsDown names)
    (hfits : (below base names).utf8ByteSize ≤ pathLimit) (haccepts : (t.view l).Accepts names) :
    ∃ t' changed, t.writeIfChanged (below base names) contents = (t', .ok changed) := by
  obtain ⟨above, last, rfl, -⟩ := hnames.exists_last
  obtain ⟨t', changed, hwrite, -⟩ :=
    writeIfChanged_of_accepts contents hbase hnames hfits haccepts
  exact ⟨t', changed, hwrite⟩

end EngineBindings.FileTree
