import EngineBindings.Text.Blank
import EngineBindings.Text.Pieces
import Mathlib.Data.List.DropRight

/-!
# Cutting and joining texts

Cutting at a mark is `List.splitOn` (`splitChars_eq_splitOn`), so it undoes joining with the mark in
between, and joining undoes it (`splitAt_join`, `join_splitAt`).  The lines of a text are the texts
that were put one on a line, but for a carriage return at the end (`lines_join`).
-/

namespace EngineBindings.Text

/-! ## Cutting -/

theorem splitChars_eq_splitOn (mark : Char) (cs : List Char) :
    splitChars mark cs = cs.splitOn mark := by
  induction cs with
  | nil => rfl
  | cons c cs ih =>
    rw [splitChars, List.splitOn_cons_eq_if_modifyHead, ih]
    by_cases hc : c = mark
    · rw [if_pos hc, if_pos (beq_iff_eq.mpr hc)]
    · rw [if_neg hc, if_neg (beq_iff_eq.not.mpr hc)]
      cases hsplit : cs.splitOn mark with
      | nil => exact absurd hsplit (List.splitOn_ne_nil mark cs)
      | cons piece pieces => rfl

theorem splitAt_ne_nil (mark : Char) (s : String) : splitAt mark s ≠ [] := by
  rw [splitAt, splitChars_eq_splitOn]
  exact List.map_eq_nil_iff.not.mpr (List.splitOn_ne_nil mark s.toList)

theorem notMem_of_mem_splitChars {mark : Char} {cs piece : List Char}
    (h : piece ∈ splitChars mark cs) : mark ∉ piece := by
  induction cs generalizing piece with
  | nil =>
    rw [List.mem_singleton.mp h]
    exact List.not_mem_nil
  | cons c cs ih =>
    rw [splitChars] at h
    split at h
    · rcases List.mem_cons.mp h with rfl | hrest
      · exact List.not_mem_nil
      · exact ih hrest
    · next hc =>
      split at h
      · rw [List.mem_singleton.mp h, List.mem_singleton]
        exact fun heq => hc heq.symm
      · next first rest hsplit =>
        rw [hsplit] at ih
        rcases List.mem_cons.mp h with rfl | hrest
        · exact List.not_mem_cons_of_ne_of_not_mem (fun heq => hc heq.symm)
            (ih List.mem_cons_self)
        · exact ih (List.mem_cons_of_mem _ hrest)

theorem notMem_of_mem_splitAt {mark : Char} {s piece : String} (h : piece ∈ splitAt mark s) :
    mark ∉ piece.toList := by
  obtain ⟨cs, hcs, rfl⟩ := List.mem_map.mp h
  rw [String.toList_ofList]
  exact notMem_of_mem_splitChars hcs

variable {mark : Char} {separator : String} (hseparator : separator.toList = [mark])

include hseparator

/-- A mark between two texts cuts them apart. -/
theorem splitAt_append (s t : String) :
    splitAt mark (s ++ separator ++ t) = splitAt mark s ++ splitAt mark t := by
  simp only [splitAt, splitChars_eq_splitOn, String.toList_append, hseparator, List.append_assoc,
    List.singleton_append, List.splitOn_append_cons_self, List.map_append]

omit hseparator in
theorem join_cons_cons (separator s t : String) (rest : List String) :
    join separator (s :: t :: rest) = s ++ separator ++ join separator (t :: rest) :=
  join.eq_3 separator s (t :: rest) (List.cons_ne_nil t rest)

omit hseparator in
theorem join_eq_empty {s : String} {rest : List String} (hseparator : separator ≠ "")
    (h : join separator (s :: rest) = "") : s = "" ∧ rest = [] := by
  cases rest with
  | nil => exact ⟨h, rfl⟩
  | cons t rest =>
    rw [join_cons_cons, ← String.toList_eq_nil_iff, String.toList_append, String.toList_append,
      List.append_eq_nil_iff, List.append_eq_nil_iff] at h
    exact absurd (String.toList_eq_nil_iff.mp h.1.2) hseparator

omit hseparator in
theorem toList_join (separator : String) (texts : List String) :
    (join separator texts).toList = separator.toList.intercalate (texts.map String.toList) := by
  induction texts with
  | nil => rfl
  | cons s rest ih =>
    cases rest with
    | nil => rw [join, List.map_singleton, List.intercalate_singleton]
    | cons t rest =>
      rw [join_cons_cons, String.toList_append, String.toList_append, ih]
      simp only [List.map_cons, List.intercalate_cons_cons]

omit hseparator in
theorem mem_join {texts : List String} {c : Char} (h : c ∈ (join separator texts).toList) :
    c ∈ separator.toList ∨ ∃ s ∈ texts, c ∈ s.toList := by
  induction texts with
  | nil => cases h
  | cons s rest ih =>
    cases rest with
    | nil => exact .inr ⟨s, List.mem_cons_self, h⟩
    | cons t rest =>
      rw [join_cons_cons, String.toList_append, String.toList_append, List.mem_append,
        List.mem_append] at h
      rcases h with (hs | hseparator) | hrest
      · exact .inr ⟨s, List.mem_cons_self, hs⟩
      · exact .inl hseparator
      · refine (ih hrest).imp_right fun ⟨u, hu, hc⟩ => ⟨u, List.mem_cons_of_mem _ hu, hc⟩

omit hseparator in
theorem mem_join_of_mem {texts : List String} {s : String} {c : Char} (hs : s ∈ texts)
    (hc : c ∈ s.toList) : c ∈ (join separator texts).toList := by
  induction texts with
  | nil => cases hs
  | cons first rest ih =>
    cases rest with
    | nil => rwa [← List.mem_singleton.mp hs]
    | cons next rest =>
      rw [join_cons_cons, String.toList_append, List.mem_append]
      rcases List.mem_cons.mp hs with rfl | hrest
      · exact .inl (String.toList_append ▸ List.mem_append_left _ hc)
      · exact .inr (ih hrest)

theorem splitAt_join {texts : List String} (hne : texts ≠ [])
    (hmark : ∀ s ∈ texts, mark ∉ s.toList) : splitAt mark (join separator texts) = texts := by
  have hpieces : ∀ cs ∈ texts.map String.toList, mark ∉ cs := by
    rintro _ hcs
    obtain ⟨s, hs, rfl⟩ := List.mem_map.mp hcs
    exact hmark s hs
  rw [splitAt, splitChars_eq_splitOn, toList_join, hseparator,
    List.splitOn_intercalate mark hpieces (List.map_eq_nil_iff.not.mpr hne), List.map_map,
    show String.ofList ∘ String.toList = id from funext fun _ => String.ofList_toList, List.map_id]

theorem join_splitAt (s : String) : join separator (splitAt mark s) = s := by
  rw [← String.toList_inj, toList_join, splitAt, List.map_map,
    show String.toList ∘ String.ofList = id from funext fun _ => String.toList_ofList, List.map_id,
    hseparator, splitChars_eq_splitOn, List.intercalate_splitOn]

omit hseparator in
theorem join_append {xs ys : List String} (hxs : xs ≠ []) (hys : ys ≠ []) :
    join separator (xs ++ ys) = join separator xs ++ separator ++ join separator ys := by
  induction xs with
  | nil => exact absurd rfl hxs
  | cons x xs ih =>
    cases xs with
    | nil =>
      obtain ⟨y, ys, rfl⟩ := List.exists_cons_of_ne_nil hys
      rfl
    | cons z xs =>
      have hrest := ih (List.cons_ne_nil z xs)
      rw [List.cons_append] at hrest
      rw [List.cons_append, List.cons_append, join_cons_cons, join_cons_cons, hrest]
      simp only [String.append_assoc]

/-! ## Lines -/

omit hseparator

/-- A line without the carriage return that belongs to its ending. -/
def dropLineEnd (line : String) : String :=
  String.ofList (dropReturn line.toList)

theorem dropReturn_sublist (cs : List Char) : (dropReturn cs).Sublist cs := by
  unfold dropReturn
  split
  · next rest hrest =>
    have hsplit : cs = rest.reverse ++ ['\r'] := by
      rw [← List.reverse_reverse cs, hrest, List.reverse_cons]
    exact hsplit ▸ List.sublist_append_left _ _
  · exact .refl cs

/-- No line has a line feed in it. -/
theorem notMem_of_mem_lines {s line : String} (h : line ∈ lines s) : '\n' ∉ line.toList := by
  obtain ⟨cs, hcs, rfl⟩ := List.mem_map.mp h
  rw [String.toList_ofList]
  unfold linesChars at hcs
  split at hcs
  · cases hcs
  · next last ended hsplit =>
    have hpiece : ∀ piece ∈ last :: ended, '\n' ∉ piece := fun piece hmem =>
      notMem_of_mem_splitChars (List.mem_reverse.mp (hsplit ▸ hmem))
    rcases List.mem_append.mp hcs with hended | hlast
    · obtain ⟨piece, hmem, rfl⟩ := List.mem_map.mp (List.mem_reverse.mp hended)
      exact fun hbreak =>
        hpiece piece (List.mem_cons_of_mem _ hmem) ((dropReturn_sublist piece).subset hbreak)
    · split at hlast
      · cases hlast
      · rw [List.mem_singleton.mp hlast]
        exact hpiece last List.mem_cons_self

/-- Texts that were put one on a line are its lines, but for a carriage return at the end. -/
theorem lines_join {texts : List String} (hne : texts ≠ [])
    (hbreak : ∀ s ∈ texts, '\n' ∉ s.toList) :
    lines (join "\n" texts ++ "\n") = texts.map dropLineEnd := by
  have hsplit : splitChars '\n' (join "\n" texts ++ "\n").toList =
      texts.map String.toList ++ [[]] := by
    rw [splitChars_eq_splitOn, String.toList_append, toList_join]
    change List.splitOn '\n' (['\n'].intercalate _ ++ '\n' :: []) = _
    rw [List.splitOn_append_cons_self, List.splitOn_nil, List.splitOn_intercalate '\n' ?_
      (List.map_eq_nil_iff.not.mpr hne)]
    rintro _ hcs
    obtain ⟨s, hs, rfl⟩ := List.mem_map.mp hcs
    exact hbreak s hs
  unfold lines linesChars
  rw [hsplit, List.reverse_append, List.reverse_singleton, List.singleton_append]
  simp only [List.isEmpty_nil, if_true, List.append_nil, List.map_reverse, List.reverse_reverse,
    List.map_map]
  rfl

/-! ## Ends of texts -/

theorem eq_append_of_dropLead? {lead cs rest : List Char} (h : dropLead? lead cs = some rest) :
    cs = lead ++ rest := by
  induction lead generalizing cs with
  | nil =>
    cases cs <;> exact Option.some.inj h
  | cons l lead ih =>
    cases cs with
    | nil => cases h
    | cons c cs =>
      rw [dropLead?] at h
      split at h
      · next hl => rw [hl, List.cons_append, ih h]
      · cases h

theorem dropLead?_append (lead rest : List Char) : dropLead? lead (lead ++ rest) = some rest := by
  induction lead with
  | nil => cases rest <;> rfl
  | cons l lead ih =>
    rw [List.cons_append, dropLead?, if_pos rfl]
    exact ih

theorem stripLead?_eq_some_iff {lead s rest : String} :
    stripLead? lead s = some rest ↔ s = lead ++ rest := by
  rw [stripLead?, Option.map_eq_some_iff]
  constructor
  · rintro ⟨cs, hcs, rfl⟩
    rw [← String.toList_inj, String.toList_append, String.toList_ofList]
    exact eq_append_of_dropLead? hcs
  · rintro rfl
    rw [String.toList_append]
    exact ⟨rest.toList, dropLead?_append _ _, String.ofList_toList⟩

theorem stripLead?_eq_none {lead s : String} {c : Char} (hc : c ∈ lead.toList)
    (hs : c ∉ s.toList) : stripLead? lead s = none := by
  refine Option.eq_none_iff_forall_ne_some.mpr fun rest hrest => hs ?_
  rw [stripLead?_eq_some_iff.mp hrest, String.toList_append]
  exact List.mem_append_left _ hc

theorem stripLead?_eq_none_of_ne {lead s : String} {c d : Char} {cs ds : List Char}
    (hlead : lead.toList = c :: cs) (hs : s.toList = d :: ds) (hne : c ≠ d) :
    stripLead? lead s = none := by
  rw [stripLead?, hlead, hs, dropLead?, if_neg hne, Option.map_none]

theorem dropTail?_append (cs tail : List Char) : dropTail? tail (cs ++ tail) = some cs := by
  rw [dropTail?, List.reverse_append, dropLead?_append, Option.map_some, List.reverse_reverse]

theorem stripTail?_append (s tail : String) : stripTail? tail (s ++ tail) = some s := by
  rw [stripTail?, String.toList_append, dropTail?_append, Option.map_some, String.ofList_toList]

theorem stripTail?_eq_some_iff {tail s rest : String} :
    stripTail? tail s = some rest ↔ s = rest ++ tail := by
  constructor
  · intro h
    rw [stripTail?, dropTail?, Option.map_map, Option.map_eq_some_iff] at h
    obtain ⟨cs, hcs, rfl⟩ := h
    have heq := eq_append_of_dropLead? hcs
    rw [← String.toList_inj, String.toList_append, Function.comp_apply, String.toList_ofList,
      ← List.reverse_inj, heq, List.reverse_append, List.reverse_reverse]
  · rintro rfl
    exact stripTail?_append rest tail

/-! ## White space at the ends -/

theorem dropWhile_isBlank_cons {c : Char} (hc : isBlank c = false) (cs : List Char) :
    (c :: cs).dropWhile isBlank = c :: cs :=
  List.dropWhile_cons_of_neg (by rw [hc]; exact Bool.false_ne_true)

/-- What stands in front of a character that is not blank is kept at the end. -/
theorem trimEndChars_append {c : Char} (hc : isBlank c = false) (before cs : List Char) :
    trimEndChars (before ++ c :: cs) = before ++ c :: trimEndChars cs := by
  have hreverse : (before ++ c :: cs).reverse = cs.reverse ++ c :: before.reverse := by
    rw [List.reverse_append, List.reverse_cons, List.append_assoc, List.singleton_append]
  rw [trimEndChars, trimEndChars, hreverse, List.dropWhile_append]
  split
  · next hempty =>
    rw [dropWhile_isBlank_cons hc, List.isEmpty_iff.mp hempty, List.reverse_cons,
      List.reverse_reverse]
    rfl
  · rw [List.reverse_append, List.reverse_cons, List.reverse_reverse, List.append_assoc,
      List.singleton_append]

theorem trimStartChars_trimEndChars (cs : List Char) :
    trimStartChars (trimEndChars cs) = trimEndChars (trimStartChars cs) := by
  have hfront := List.head?_dropWhile_not isBlank cs
  have hsplit : cs.takeWhile isBlank ++ cs.dropWhile isBlank = cs := List.takeWhile_append_dropWhile
  have hblank : ∀ c ∈ cs.takeWhile isBlank, isBlank c = true := fun _ => List.mem_takeWhile_imp
  rw [trimStartChars, trimStartChars]
  cases hrest : cs.dropWhile isBlank with
  | nil =>
    have hall : trimEndChars cs = [] :=
      List.rdropWhile_eq_nil_iff.mpr (List.dropWhile_eq_nil_iff.mp hrest)
    rw [hall]
    rfl
  | cons c rest =>
    rw [hrest] at hfront hsplit
    have hend := trimEndChars_append hfront (cs.takeWhile isBlank) rest
    have hstart := trimEndChars_append hfront [] rest
    rw [hsplit] at hend
    rw [hend, List.dropWhile_append_of_pos hblank, dropWhile_isBlank_cons hfront]
    exact hstart.symm

theorem trim_trimEnd (s : String) : trim (trimEnd s) = trim s := by
  have hend (cs : List Char) : trimEndChars (trimEndChars cs) = trimEndChars cs :=
    List.rdropWhile_idempotent isBlank cs
  rw [trim, trim, trimEnd, String.toList_ofList, trimChars, trimChars, trimStartChars_trimEndChars,
    hend]

theorem trim_trim (s : String) : trim (trim s) = trim s := by
  have hstart (cs : List Char) : trimStartChars (trimStartChars cs) = trimStartChars cs :=
    List.dropWhile_idempotent isBlank cs
  have htrim : trim s = trimEnd (String.ofList (trimStartChars s.toList)) := by
    rw [trimEnd, String.toList_ofList]
    rfl
  conv_lhs => rw [htrim, trim_trimEnd, trim, trimChars, String.toList_ofList, hstart]
  rfl

/-- The carriage return at the end of a line is white space. -/
theorem trim_dropLineEnd (s : String) : trim (dropLineEnd s) = trim s := by
  have hend : trimEnd (dropLineEnd s) = trimEnd s := by
    rw [trimEnd, trimEnd, dropLineEnd, String.toList_ofList, dropReturn]
    split
    · next rest hrest =>
      rw [trimEndChars, trimEndChars, hrest, List.reverse_reverse, List.dropWhile_cons_of_pos rfl]
    · rfl
  rw [← trim_trimEnd, hend, trim_trimEnd]

theorem trim_sublist (s : String) : (trim s).toList.Sublist s.toList := by
  rw [trim, String.toList_ofList]
  exact (List.rdropWhile_prefix isBlank _).sublist.trans (List.dropWhile_sublist isBlank)

theorem mem_of_mem_trim {s : String} {c : Char} (h : c ∈ (trim s).toList) : c ∈ s.toList :=
  (trim_sublist s).subset h

theorem trim_of_not_isBlank {s : String} (h : ∀ c ∈ s.toList, isBlank c = false) : trim s = s := by
  have hdrop : ∀ cs : List Char, (∀ c ∈ cs, isBlank c = false) → cs.dropWhile isBlank = cs := by
    intro cs hcs
    cases cs with
    | nil => rfl
    | cons c cs => exact dropWhile_isBlank_cons (hcs c List.mem_cons_self) cs
  rw [trim, trimChars, trimStartChars, hdrop _ h, trimEndChars,
    hdrop _ fun c hc => h c (List.mem_reverse.mp hc), List.reverse_reverse, String.ofList_toList]

theorem mem_dropWhile_isBlank {cs : List Char} {c : Char} (h : c ∈ cs) (hc : isBlank c = false) :
    c ∈ cs.dropWhile isBlank := by
  rw [← List.takeWhile_append_dropWhile (p := isBlank) (l := cs), List.mem_append] at h
  refine h.resolve_left fun hblank => ?_
  exact Bool.false_ne_true (hc.symm.trans (List.mem_takeWhile_imp hblank))

/-- Only white space is lost at the ends. -/
theorem mem_trim {s : String} {c : Char} (h : c ∈ s.toList) (hc : isBlank c = false) :
    c ∈ (trim s).toList := by
  rw [trim, String.toList_ofList]
  have hstart := mem_dropWhile_isBlank h hc
  exact List.mem_reverse.mpr (mem_dropWhile_isBlank (List.mem_reverse.mpr hstart) hc)

theorem mem_of_mem_trimEnd {s : String} {c : Char} (h : c ∈ (trimEnd s).toList) : c ∈ s.toList := by
  rw [trimEnd, String.toList_ofList] at h
  exact (List.rdropWhile_prefix isBlank _).subset h

/-- Behind a text that ends in no white space, only the rest loses any at its end. -/
theorem trimEnd_append {lead : String} {before : List Char} {c : Char}
    (hlead : lead.toList = before ++ [c]) (hc : isBlank c = false) (s : String) :
    trimEnd (lead ++ s) = lead ++ trimEnd s := by
  rw [← String.toList_inj, trimEnd, trimEnd, String.toList_append, String.toList_append,
    String.toList_ofList, String.toList_ofList, hlead, List.append_assoc, List.append_assoc]
  exact trimEndChars_append hc before s.toList

theorem trim_eq_trimEnd {s : String} {c : Char} {cs : List Char} (hs : s.toList = c :: cs)
    (hc : isBlank c = false) : trim s = trimEnd s := by
  rw [trim, trimEnd, trimChars, trimStartChars, hs, dropWhile_isBlank_cons hc]

/-! ## Digits -/

/-- The number that a text of digits spells. -/
def natural? (s : String) : Option Nat :=
  if s.toList ≠ [] ∧ s.toList.all Char.isDigit then some (Nat.ofDigitChars 10 s.toList 0) else none

theorem natural?_toString (n : Nat) : natural? (toString n) = some n := by
  have hdigits : (toString n).toList = Nat.toDigits 10 n := Nat.toList_repr
  have hall : (Nat.toDigits 10 n).all Char.isDigit = true :=
    List.all_eq_true.mpr fun c hc => Nat.isDigit_of_mem_toDigits (by decide) (by decide) hc
  rw [natural?, hdigits, if_pos ⟨Nat.toDigits_ne_nil, hall⟩,
    Nat.ofDigitChars_toDigits (by decide) (by decide)]

end EngineBindings.Text
