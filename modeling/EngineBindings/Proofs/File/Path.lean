import EngineBindings.File.Path
import EngineBindings.Proofs.Text.Pieces

/-!
# Paths below a directory

`below base names` is the path that leads from a directory down through some names.  However the
directory is spelled, its pieces come first and then the names (`exists_trunk`), and the paths above
it are those of fewer names (`ancestors_below`).
-/

namespace EngineBindings.FilePath

/-- Whether a text names an entry of a directory. -/
structure IsFileName (name : String) : Prop where
  not_here : isHere name = false
  not_above : isAbove name = false
  whole : '/' ∉ name.toList
  noNul : '\x00' ∉ name.toList

instance (name : String) : Decidable (IsFileName name) :=
  decidable_of_iff
    (isHere name = false ∧ isAbove name = false ∧ '/' ∉ name.toList ∧ '\x00' ∉ name.toList)
    ⟨fun h => ⟨h.1, h.2.1, h.2.2.1, h.2.2.2⟩, fun h => ⟨h.1, h.2, h.3, h.4⟩⟩

/-- Whether names lead from a directory down to something in it. -/
structure LeadsDown (names : List String) : Prop where
  ne_nil : names ≠ []
  named : ∀ name ∈ names, IsFileName name

/-- The path from a directory down through names. -/
def below (base : String) (names : List String) : String :=
  join base (Text.join "/" names)

theorem IsFileName.ne_empty {name : String} (h : IsFileName name) : name.isEmpty = false :=
  (Bool.or_eq_false_iff.mp h.not_here).1

theorem IsFileName.toList_ne_nil {name : String} (h : IsFileName name) : name.toList ≠ [] := by
  intro hnil
  have hempty := h.ne_empty
  rw [String.toList_eq_nil_iff.mp hnil] at hempty
  cases hempty

theorem LeadsDown.append {xs ys : List String} (hxs : LeadsDown xs) (hys : LeadsDown ys) :
    LeadsDown (xs ++ ys) where
  ne_nil := List.append_ne_nil_of_left_ne_nil hxs.ne_nil ys
  named name hname := (List.mem_append.mp hname).elim (hxs.named name) (hys.named name)

theorem leadsDown_singleton {name : String} (h : IsFileName name) : LeadsDown [name] where
  ne_nil := List.cons_ne_nil name []
  named _ hname := List.mem_singleton.mp hname ▸ h

theorem LeadsDown.left {xs ys : List String} (h : LeadsDown (xs ++ ys)) (hne : xs ≠ []) :
    LeadsDown xs :=
  ⟨hne, fun name hname => h.named name (List.mem_append_left _ hname)⟩

theorem LeadsDown.right {xs ys : List String} (h : LeadsDown (xs ++ ys)) (hne : ys ≠ []) :
    LeadsDown ys :=
  ⟨hne, fun name hname => h.named name (List.mem_append_right _ hname)⟩

/-! ## Joining -/

/-- What stands before a name in a path. -/
def lead (base : String) : String :=
  if base.isEmpty then ""
  else if base.toList.getLast? = some '/' then base
  else base ++ "/"

theorem join_eq_lead {base name : String} (h : isAbsolute name = false) :
    join base name = lead base ++ name := by
  unfold join lead
  rw [h, Bool.or_false]
  split
  · rw [String.empty_append]
  · split <;> rfl

theorem isAbsolute_append {s : String} (hs : s ≠ "") (t : String) :
    isAbsolute (s ++ t) = isAbsolute s := by
  unfold isAbsolute
  rw [String.toList_append, List.head?_append_of_ne_nil]
  exact String.toList_eq_nil_iff.not.mpr hs

/-- Before a name stands nothing or a text that ends in a slash; the directory may be spelled
without it. -/
theorem lead_cases (base : String) :
    (base = "" ∧ lead base = "") ∨
      ∃ front, lead base = front ++ "/" ∧ isAbsolute (front ++ "/") = isAbsolute base ∧
        (base = front ∨ base = front ++ "/") := by
  unfold lead
  split
  · next hempty => exact .inl ⟨String.isEmpty_iff.mp hempty, rfl⟩
  · next hne =>
    right
    split
    · next hlast =>
      obtain ⟨front, hfront⟩ := List.getLast?_eq_some_iff.mp hlast
      have hbase : base = String.ofList front ++ "/" := by
        rw [← String.toList_inj, hfront, String.toList_append, String.toList_ofList]
        rfl
      exact ⟨String.ofList front, hbase, by rw [← hbase], .inr hbase⟩
    · have hne : base ≠ "" := fun h => hne (String.isEmpty_iff.mpr h)
      exact ⟨base, rfl, isAbsolute_append hne "/", .inl rfl⟩

theorem isAbsolute_join_cons {name : String} {rest : List String} (hne : name ≠ "")
    (hslash : '/' ∉ name.toList) : isAbsolute (Text.join "/" (name :: rest)) = false := by
  have hname : isAbsolute name = false := by
    refine beq_false_of_ne fun hhead => hslash ?_
    exact List.mem_of_head? hhead
  cases rest with
  | nil => exact hname
  | cons next rest => rw [Text.join_cons_cons, String.append_assoc, isAbsolute_append hne, hname]

theorem isAbsolute_join {names : List String} (h : ∀ name ∈ names, IsFileName name) :
    isAbsolute (Text.join "/" names) = false := by
  cases names with
  | nil => rfl
  | cons name rest =>
    have hname := h name List.mem_cons_self
    exact isAbsolute_join_cons (fun hnil => by cases hnil ▸ hname.ne_empty) hname.whole

theorem below_eq_lead {base : String} {names : List String} (h : LeadsDown names) :
    below base names = lead base ++ Text.join "/" names :=
  join_eq_lead (isAbsolute_join h.named)

theorem below_empty (names : List String) : below "" names = Text.join "/" names :=
  rfl

theorem below_append {base : String} {xs ys : List String} (hxs : LeadsDown xs)
    (hys : LeadsDown ys) : below base (xs ++ ys) = below base xs ++ "/" ++ Text.join "/" ys := by
  rw [below_eq_lead (hxs.append hys), below_eq_lead hxs, Text.join_append hxs.ne_nil hys.ne_nil]
  simp only [String.append_assoc]

/-- A path below a directory ends in the last name. -/
theorem exists_below_eq (base : String) {above : List String} {last : String}
    (h : LeadsDown (above ++ [last])) : ∃ front, below base (above ++ [last]) = front ++ last := by
  cases above with
  | nil => exact ⟨_, below_eq_lead h⟩
  | cons name rest =>
    exact ⟨_, below_append (h.left (List.cons_ne_nil _ _)) (h.right (List.cons_ne_nil _ _))⟩

theorem append_ne_empty {s t : String} (h : t.toList ≠ []) : (s ++ t).isEmpty = false := by
  rw [Bool.eq_false_iff, Ne, String.isEmpty_iff, ← String.toList_eq_nil_iff, String.toList_append]
  exact List.append_ne_nil_of_right_ne_nil _ h

theorem LeadsDown.exists_last {names : List String} (h : LeadsDown names) :
    ∃ above last, names = above ++ [last] ∧ IsFileName last := by
  refine ⟨_, _, (List.dropLast_append_getLast h.ne_nil).symm, h.named _ (List.getLast_mem h.ne_nil)⟩

theorem below_ne_empty (base : String) {names : List String} (h : LeadsDown names) :
    (below base names).isEmpty = false := by
  obtain ⟨above, last, rfl, hlast⟩ := h.exists_last
  obtain ⟨front, hfront⟩ := exists_below_eq base h
  rw [hfront]
  exact append_ne_empty hlast.toList_ne_nil

theorem lead_below {base : String} {names : List String} (h : LeadsDown names) :
    lead (below base names) = below base names ++ "/" := by
  obtain ⟨above, last, rfl, hlast⟩ := h.exists_last
  rw [lead, below_ne_empty base h, if_neg Bool.false_ne_true, if_neg]
  obtain ⟨front, hfront⟩ := exists_below_eq base h
  rw [hfront, String.toList_append, List.getLast?_append_of_ne_nil _ hlast.toList_ne_nil]
  exact fun hslash => hlast.whole (List.mem_of_getLast? hslash)

/-- What follows a name in a path is the same below a directory. -/
theorem join_append (base : String) {name : String} (hname : name ≠ "") (rest : String) :
    join base (name ++ rest) = join base name ++ rest := by
  unfold join
  rw [isAbsolute_append hname]
  split
  · rfl
  · split <;> simp only [String.append_assoc]

theorem exists_join_slash (base front : String) : ∃ s, join base (front ++ "/") = s ++ "/" := by
  unfold join
  split
  · exact ⟨front, rfl⟩
  · split
    · exact ⟨base ++ front, (String.append_assoc).symm⟩
    · exact ⟨base ++ "/" ++ front, (String.append_assoc).symm⟩

theorem lead_slash (s : String) : lead (s ++ "/") = s ++ "/" := by
  have hlast : (s ++ "/").toList.getLast? = some '/' := by
    rw [String.toList_append]
    exact List.getLast?_concat
  rw [lead, append_ne_empty (by decide), if_neg Bool.false_ne_true, if_pos hlast]

/-- What stands before a slash can be joined to a directory by itself. -/
theorem join_slash_append (base front : String) {name : String} (h : isAbsolute name = false) :
    join base (front ++ "/" ++ name) = join (join base (front ++ "/")) name := by
  have hne : front ++ "/" ≠ "" := fun hnil => by
    cases (append_ne_empty (by decide)).symm.trans (String.isEmpty_iff.mpr hnil)
  obtain ⟨s, hs⟩ := exists_join_slash base front
  rw [join_append base hne, hs, join_eq_lead h, lead_slash]

theorem join_below (base : String) {xs ys : List String} (hxs : LeadsDown xs)
    (hys : LeadsDown ys) : join (below base xs) (Text.join "/" ys) = below base (xs ++ ys) := by
  rw [join_eq_lead (isAbsolute_join hys.named), lead_below hxs, below_append hxs hys]

theorem below_singleton (base name : String) : below base [name] = join base name := by
  rw [below, Text.join]

theorem join_join {base name next : String} (hname : IsFileName name) (hnext : IsFileName next) :
    join (join base name) next = below base [name, next] := by
  have h := join_below base (leadsDown_singleton hname) (leadsDown_singleton hnext)
  rwa [below_singleton, Text.join] at h

/-- A path below a directory starts with the path of the directory. -/
theorem exists_below_eq_append (base : String) {names : List String} (h : LeadsDown names) :
    ∃ rest, below base names = base ++ rest := by
  rw [below_eq_lead h]
  rcases lead_cases base with ⟨rfl, hlead⟩ | ⟨front, hlead, -, rfl | rfl⟩
  · exact ⟨_, by rw [hlead]⟩
  · exact ⟨_, by rw [hlead, String.append_assoc]⟩
  · exact ⟨_, by rw [hlead]⟩

/-- Names are known from the path that they lead to. -/
theorem below_injective {base : String} {xs ys : List String} (hxs : LeadsDown xs)
    (hys : LeadsDown ys) (h : below base xs = below base ys) : xs = ys := by
  rw [below_eq_lead hxs, below_eq_lead hys, String.append_right_inj] at h
  have hwhole {names : List String} (hnames : LeadsDown names) :
      Text.splitAt '/' (Text.join "/" names) = names :=
    Text.splitAt_join rfl hnames.ne_nil fun name hname => (hnames.named name hname).whole
  rw [← hwhole hxs, h, hwhole hys]

theorem below_notMem {base : String} {names : List String} (h : LeadsDown names)
    (hbase : '\x00' ∉ base.toList) : '\x00' ∉ (below base names).toList := by
  rw [below_eq_lead h, String.toList_append, List.mem_append]
  rintro (hlead | hnames)
  · unfold lead at hlead
    split at hlead
    · cases hlead
    · split at hlead
      · exact hbase hlead
      · rw [String.toList_append, List.mem_append] at hlead
        exact hlead.elim hbase (by decide)
  · rcases Text.mem_join hnames with hslash | ⟨name, hname, hmem⟩
    · exact absurd hslash (by decide)
    · exact (h.named name hname).noNul hmem

theorem utf8ByteSize_below_le {base : String} {xs ys : List String} (hxs : LeadsDown xs)
    (hys : LeadsDown ys) :
    (below base xs).utf8ByteSize ≤ (below base (xs ++ ys)).utf8ByteSize := by
  rw [below_append hxs hys, String.utf8ByteSize_append, String.utf8ByteSize_append]
  omega

/-- Below a directory with a shorter path, paths are shorter. -/
theorem utf8ByteSize_below_le_of_lead {base base' : String} {names : List String}
    (hnames : LeadsDown names) (h : (lead base').utf8ByteSize ≤ (lead base).utf8ByteSize) :
    (below base' names).utf8ByteSize ≤ (below base names).utf8ByteSize := by
  rw [below_eq_lead hnames, below_eq_lead hnames, String.utf8ByteSize_append,
    String.utf8ByteSize_append]
  omega

/-! ## Pieces -/

theorem exists_eq_slash {path : String} (h : isAbsolute path = true) :
    ∃ rest, path = "/" ++ rest := by
  obtain ⟨cs, hcs⟩ := List.head?_eq_some_iff.mp (beq_iff_eq.mp h)
  refine ⟨String.ofList cs, ?_⟩
  rw [← String.toList_inj, hcs, String.toList_append, String.toList_ofList, String.toList_ofList]
  rfl

/-- A slash between two texts cuts them apart. -/
theorem splitAt_append_slash (s t : String) :
    Text.splitAt '/' (s ++ "/" ++ t) = Text.splitAt '/' s ++ Text.splitAt '/' t :=
  Text.splitAt_append rfl s t

theorem splitAt_slash (rest : String) :
    Text.splitAt '/' ("/" ++ rest) = "" :: Text.splitAt '/' rest := by
  have hsplit := splitAt_append_slash "" rest
  rwa [String.empty_append] at hsplit

theorem ofPieces_pieces (path : String) : ofPieces (isAbsolute path) (pieces path) = path := by
  unfold ofPieces pieces
  cases habsolute : isAbsolute path with
  | false =>
    rw [if_neg Bool.false_ne_true, if_neg Bool.false_ne_true, Text.join_splitAt rfl,
      String.empty_append]
  | true =>
    obtain ⟨rest, rfl⟩ := exists_eq_slash habsolute
    rw [if_pos rfl, if_pos rfl, splitAt_slash, List.tail_cons, Text.join_splitAt rfl]

theorem notMem_of_mem_pieces {path piece : String} (h : piece ∈ pieces path) :
    '/' ∉ piece.toList := by
  unfold pieces at h
  refine Text.notMem_of_mem_splitAt (s := path) ?_
  split at h
  · exact List.mem_of_mem_tail h
  · exact h

theorem mem_of_mem_pieces {path piece : String} (h : piece ∈ pieces path) {c : Char}
    (hc : c ∈ piece.toList) : c ∈ path.toList := by
  rw [← ofPieces_pieces path, ofPieces, String.toList_append]
  exact List.mem_append_right _ (Text.mem_join_of_mem h hc)

/-- The pieces of a path that lead somewhere below are names. -/
theorem isFileName_of_mem_pieces {path piece : String} (hnul : '\x00' ∉ path.toList)
    (h : piece ∈ pieces path) (hhere : isHere piece = false) (habove : isAbove piece = false) :
    IsFileName piece where
  not_here := hhere
  not_above := habove
  whole := notMem_of_mem_pieces h
  noNul hnulPiece := hnul (mem_of_mem_pieces h hnulPiece)

theorem pieces_of_splitLast {path last : String} {before : List String}
    (h : splitLast path = (before, last, false)) (hlast : isHere last = false) :
    pieces path = before ++ [last] := by
  unfold splitLast at h
  dsimp only at h
  rw [← List.reverse_inj, List.reverse_append, List.reverse_singleton, List.singleton_append]
  generalize (pieces path).reverse = reversed at h ⊢
  cases reversed with
  | nil =>
    obtain ⟨-, rfl, -⟩ := Prod.mk.inj h |>.imp_right Prod.mk.inj
    cases hlast
  | cons piece rest =>
    by_cases hempty : piece.isEmpty = true
    · -- a slash at the end would have been noticed
      obtain rfl := String.isEmpty_iff.mp hempty
      split at h
      · obtain ⟨-, rfl, -⟩ := Prod.mk.inj h |>.imp_right Prod.mk.inj
        cases hlast
      · cases (Prod.mk.inj (Prod.mk.inj h).2).2
    · rw [List.dropWhile_cons_of_neg hempty] at h
      obtain ⟨hbefore, rfl, -⟩ := Prod.mk.inj h |>.imp_right Prod.mk.inj
      rw [← hbefore, List.reverse_reverse]

theorem eq_empty_of_pieces {path : String} {rest : List String}
    (habsolute : isAbsolute path = false) (h : pieces path = "" :: rest) : path = "" := by
  have hjoin := ofPieces_pieces path
  rw [habsolute, h, ofPieces, if_neg Bool.false_ne_true, String.empty_append] at hjoin
  cases rest with
  | nil => exact hjoin.symm
  | cons piece rest =>
    rw [Text.join_cons_cons, String.empty_append] at hjoin
    rw [← hjoin, isAbsolute_append (by decide)] at habsolute
    cases habsolute

/-- The path of the first pieces of a path has these pieces. -/
theorem pieces_ofPieces {path : String} {front back : List String} (h : pieces path = front ++ back)
    (hfront : front ≠ []) (hpath : path ≠ "") :
    isAbsolute (ofPieces (isAbsolute path) front) = isAbsolute path ∧
      pieces (ofPieces (isAbsolute path) front) = front := by
  have hwhole : ∀ piece ∈ front, '/' ∉ piece.toList := fun piece hpiece =>
    notMem_of_mem_pieces (h ▸ List.mem_append_left _ hpiece)
  have hsplit : Text.splitAt '/' (Text.join "/" front) = front :=
    Text.splitAt_join rfl hfront hwhole
  cases habsolute : isAbsolute path with
  | true =>
    have hroot : isAbsolute (ofPieces true front) = true := by
      rw [ofPieces, if_pos rfl, isAbsolute_append (by decide)]
      rfl
    refine ⟨hroot, ?_⟩
    rw [pieces, hroot, if_pos rfl, ofPieces, if_pos rfl, splitAt_slash, List.tail_cons, hsplit]
  | false =>
    obtain ⟨piece, rest, rfl⟩ := List.exists_cons_of_ne_nil hfront
    have hne : piece ≠ "" := by
      rintro rfl
      exact hpath (eq_empty_of_pieces habsolute h)
    have hroot : isAbsolute (ofPieces false (piece :: rest)) = false := by
      rw [ofPieces, if_neg Bool.false_ne_true, String.empty_append]
      exact isAbsolute_join_cons hne (hwhole piece List.mem_cons_self)
    refine ⟨hroot, ?_⟩
    rw [pieces, hroot, if_neg Bool.false_ne_true, ofPieces, if_neg Bool.false_ne_true,
      String.empty_append, hsplit]

/-- A path starts with the path of its first pieces. -/
theorem exists_ofPieces_append {path : String} {front back : List String}
    (h : pieces path = front ++ back) (hfront : front ≠ []) :
    ∃ rest, path = ofPieces (isAbsolute path) front ++ rest := by
  have hjoin := ofPieces_pieces path
  rw [h] at hjoin
  by_cases hback : back = []
  · refine ⟨"", ?_⟩
    rw [hback, List.append_nil] at hjoin
    rw [hjoin, String.append_empty]
  · refine ⟨"/" ++ Text.join "/" back, ?_⟩
    rw [ofPieces, Text.join_append hfront hback] at hjoin
    simp only [ofPieces, String.append_assoc] at hjoin ⊢
    exact hjoin.symm

/-- However a directory is spelled, the pieces of a path below it are some that lead to it and then
the names. -/
theorem exists_trunk (base : String) :
    ∃ trunk, (pieces base = trunk ∨ pieces base = trunk ++ [""]) ∧
      ∀ names, LeadsDown names →
        isAbsolute (below base names) = isAbsolute base ∧
          pieces (below base names) = trunk ++ names := by
  have hnames : ∀ names, LeadsDown names → Text.splitAt '/' (Text.join "/" names) = names :=
    fun names h => Text.splitAt_join rfl h.ne_nil fun name hname => (h.named name hname).whole
  rcases lead_cases base with ⟨rfl, -⟩ | ⟨front, hlead, habsolute, hbase⟩
  · refine ⟨[], .inr rfl, fun names h => ?_⟩
    have habsolute := isAbsolute_join h.named
    refine ⟨habsolute, ?_⟩
    rw [below_empty, pieces, habsolute, hnames names h]
    rfl
  · have hne : front ++ "/" ≠ "" := by
      intro h
      have hsome : (front ++ "/").isEmpty = false := append_ne_empty (by decide)
      rw [h] at hsome
      cases hsome
    have hrest : ∀ rest, isAbsolute (front ++ "/" ++ rest) = isAbsolute base := fun rest => by
      rw [isAbsolute_append hne, habsolute]
    refine ⟨if isAbsolute base then (Text.splitAt '/' front).tail else Text.splitAt '/' front, ?_,
      fun names h => ?_⟩
    · rcases hbase with rfl | hbase
      · exact .inl rfl
      · refine .inr ?_
        have hsplit := splitAt_append_slash front ""
        rw [String.append_empty, ← hbase] at hsplit
        rw [pieces, hsplit]
        split
        · exact List.tail_append_of_ne_nil (Text.splitAt_ne_nil '/' front)
        · rfl
    · rw [below_eq_lead h, hlead]
      refine ⟨hrest _, ?_⟩
      rw [pieces, hrest, splitAt_append_slash, hnames names h]
      split
      · exact List.tail_append_of_ne_nil (Text.splitAt_ne_nil '/' front)
      · rfl

section Below

variable {base : String} {above : List String} {last : String}

theorem splitLast_of_pieces {path : String} {before : List String} (hlast : IsFileName last)
    (h : pieces path = before ++ [last]) : splitLast path = (before, last, false) := by
  have hne : (some last == some "") = false := by
    refine beq_false_of_ne fun heq => ?_
    rw [Option.some.inj heq] at hlast
    cases hlast.ne_empty
  have hlast : ¬last.isEmpty = true := Bool.eq_false_iff.mp hlast.ne_empty
  unfold splitLast
  rw [h, List.reverse_append, List.reverse_singleton, List.singleton_append]
  simp only [List.dropWhile_cons_of_neg hlast, List.reverse_reverse, List.head?_cons, hne]

/-- Above a path are those of fewer names. -/
theorem ancestors_below (h : LeadsDown above) (hlast : IsFileName last) :
    ancestors (below base (above ++ [last])) =
      below base (above ++ [last]) :: ancestors (below base above) := by
  obtain ⟨trunk, -, htrunk⟩ := exists_trunk base
  obtain ⟨habsolute, hpieces⟩ := htrunk above h
  obtain ⟨habsolute', hpieces'⟩ := htrunk _ (h.append (leadsDown_singleton hlast))
  obtain ⟨front, name, rfl, hname⟩ := h.exists_last
  -- the nearest path above ends in a name, so nothing is left out of it
  have hnearest : ((trunk ++ (front ++ [name])).reverse).dropWhile isHere =
      (trunk ++ (front ++ [name])).reverse := by
    rw [← List.append_assoc, List.reverse_append, List.reverse_singleton, List.singleton_append,
      List.dropWhile_cons_of_neg (by rw [hname.not_here]; exact Bool.false_ne_true)]
  have habove : ofPieces (isAbsolute base) (trunk ++ (front ++ [name])) =
      below base (front ++ [name]) := by
    rw [← habsolute, ← hpieces, ofPieces_pieces]
  unfold ancestors
  rw [hpieces', habsolute', hpieces, habsolute, ← List.append_assoc, List.reverse_append,
    List.reverse_singleton, List.singleton_append, piecesAbove, hlast.not_here,
    if_neg Bool.false_ne_true, hnearest, List.map_cons, List.reverse_reverse, habove]

end Below

/-! ## Directories of directories -/

theorem lead_of_slash (front : String) : lead (front ++ "/") = front ++ "/" := by
  have hlast : (front ++ "/").toList.getLast? = some '/' := by
    rw [String.toList_append]
    exact List.getLast?_concat
  rw [lead, append_ne_empty (by decide), if_neg Bool.false_ne_true, if_pos hlast]

theorem lead_lead (base : String) : lead (lead base) = lead base := by
  rcases lead_cases base with ⟨-, hlead⟩ | ⟨front, hlead, -⟩
  · rw [hlead]
    rfl
  · rw [hlead, lead_of_slash]

theorem lead_join {base directory : String} (h : isAbsolute directory = false) :
    lead (join base directory) = lead base ++ lead directory := by
  rw [join_eq_lead h]
  by_cases hempty : directory = ""
  · rw [hempty, String.append_empty, lead_lead]
    exact String.append_empty.symm
  · have hne : directory.toList ≠ [] := String.toList_eq_nil_iff.not.mpr hempty
    have hlast : (lead base ++ directory).toList.getLast? = directory.toList.getLast? := by
      rw [String.toList_append, List.getLast?_append_of_ne_nil _ hne]
    have hempty : directory.isEmpty = false :=
      Bool.eq_false_iff.mpr (String.isEmpty_iff.not.mpr hempty)
    rw [lead, append_ne_empty hne, if_neg Bool.false_ne_true, hlast, lead.eq_1 directory, hempty,
      if_neg Bool.false_ne_true]
    split
    · rfl
    · rw [String.append_assoc]

/-- Below a directory of a directory are the same names as below the path of both. -/
theorem join_below_eq (base directory : String) {names : List String} (h : LeadsDown names) :
    join base (below directory names) = below (join base directory) names := by
  obtain ⟨trunk, -, htrunk⟩ := exists_trunk directory
  have habsolute := (htrunk names h).1
  cases hdirectory : isAbsolute directory with
  | true =>
    rw [hdirectory] at habsolute
    rw [join, habsolute, Bool.or_true, if_pos rfl, join, hdirectory, Bool.or_true, if_pos rfl]
  | false =>
    rw [hdirectory] at habsolute
    rw [join_eq_lead habsolute, below_eq_lead h, below_eq_lead h, lead_join hdirectory,
      String.append_assoc]

end EngineBindings.FilePath
