import EngineBindings.Distinct
import Mathlib.Data.List.Basic
import Mathlib.Data.List.Induction
import Mathlib.Data.List.Nodup

/-!
# What comes first in a sequence

`Preceded xs a b` says that whenever `b` occurs in `xs`, `a` has occurred before.  Where nothing is
repeated, this is a statement on positions (`Preceded.idxOf_lt`), and it turns round when the
sequence is walked backwards (`Preceded.reverse`).  Keeping first occurrences only, nothing is lost
and nothing is repeated (`mem_firstOccurrences`, `firstOccurrences_nodup`), and the order is that in
which elements come up (`KeepsFirst`, `keepsFirst_firstOccurrences`).
-/

namespace EngineBindings

variable {α β : Type}

/-- Whether each occurrence of `b` in a sequence comes after one of `a`. -/
def Preceded (xs : List α) (a b : α) : Prop :=
  ∀ before after, xs = before ++ b :: after → a ∈ before

theorem preceded_head {xs : List α} {a b : α} (hne : a ≠ b) : Preceded (a :: xs) a b := by
  intro before after heq
  cases before with
  | nil => exact absurd (List.cons.inj heq).1 hne
  | cons c before =>
    rw [(List.cons.inj heq).1]
    exact List.mem_cons_self

theorem Preceded.idxOf_lt [BEq α] [LawfulBEq α] {xs : List α} {a b : α} (h : Preceded xs a b)
    (hb : b ∈ xs) : xs.idxOf a < xs.idxOf b := by
  obtain ⟨before, after, rfl, hfirst⟩ := List.eq_append_cons_of_mem hb
  have ha : a ∈ before := h before after rfl
  rw [List.idxOf_append_of_mem ha, List.idxOf_append_of_notMem hfirst]
  have hlt := List.idxOf_lt_length_of_mem ha
  omega

/-- In a sequence without repeats nothing occurs on both sides of a place. -/
theorem notMem_of_split {before after : List α} {a : α} (h : (before ++ a :: after).Nodup) :
    a ∉ before ∧ ∀ x ∈ after, x ∉ before := by
  obtain ⟨-, -, hdisjoint⟩ := List.nodup_append.mp h
  refine ⟨fun ha => hdisjoint a ha a List.mem_cons_self rfl, fun x hafter hbefore => ?_⟩
  exact hdisjoint x hbefore x (List.mem_cons_of_mem _ hafter) rfl

theorem Preceded.reverse {xs : List α} (hnodup : xs.Nodup) {a b : α} (h : Preceded xs a b)
    (hb : b ∈ xs) : Preceded xs.reverse b a := by
  intro before after heq
  have hxs : xs = after.reverse ++ a :: before.reverse := by
    rw [← List.reverse_reverse xs, heq, List.reverse_append, List.reverse_cons,
      List.append_assoc, List.singleton_append]
  have honce := notMem_of_split (hxs ▸ hnodup)
  rw [hxs, List.mem_append, List.mem_cons] at hb
  rcases hb with hearlier | rfl | hlater
  · obtain ⟨front, back, hsplit⟩ := List.append_of_mem hearlier
    have ha : a ∈ front := h front (back ++ a :: before.reverse) (by
      rw [hxs, hsplit, List.append_assoc, List.cons_append])
    exact absurd (hsplit ▸ List.mem_append_left _ ha) honce.1
  · exact absurd (h _ _ hxs) honce.1
  · exact List.mem_reverse.mp hlater

/-- Where no two elements have a value, an element that has it is the only one. -/
theorem filter_eq_singleton_of_pairwise [BEq β] [LawfulBEq β] {f : α → β} {b : β} {xs : List α}
    (hpairwise : xs.Pairwise fun x y => f x = b → f y ≠ b) {a : α} (ha : a ∈ xs) (hb : f a = b) :
    xs.filter (fun x => f x == b) = [a] := by
  obtain ⟨before, after, rfl⟩ := List.append_of_mem ha
  obtain ⟨-, hafter, hbefore⟩ := List.pairwise_append.mp hpairwise
  have hbefore : before.filter (fun x => f x == b) = [] := by
    refine List.filter_eq_nil_iff.mpr fun x hx hsame => ?_
    exact hbefore x hx a List.mem_cons_self (eq_of_beq hsame) hb
  have hafter : after.filter (fun x => f x == b) = [] := by
    refine List.filter_eq_nil_iff.mpr fun x hx hsame => ?_
    exact (List.pairwise_cons.mp hafter).1 x hx hb (eq_of_beq hsame)
  rw [List.filter_append, hbefore, List.filter_cons, if_pos (beq_iff_eq.mpr hb), hafter,
    List.nil_append]

/-- An element that differs from all others in some value is the only one with its value. -/
theorem filter_eq_singleton [BEq β] [LawfulBEq β] {f : α → β} {xs : List α}
    (hnodup : (xs.map f).Nodup) {a : α} (ha : a ∈ xs) : xs.filter (fun x => f x == f a) = [a] := by
  have hpairwise := List.pairwise_map.mp hnodup
  exact filter_eq_singleton_of_pairwise
    (hpairwise.imp fun hne hx hy => hne (hx.trans hy.symm)) ha rfl

/-- Values that never come up again are distinct. -/
theorem nodup_filterMap_of_split {f : α → Option β} {xs : List α}
    (h : ∀ before x after b, xs = before ++ x :: after → f x = some b → b ∉ before.filterMap f) :
    (xs.filterMap f).Nodup := by
  induction xs using List.reverseRecOn with
  | nil => exact List.nodup_nil
  | append_singleton xs x ih =>
    have hxs : (xs.filterMap f).Nodup := by
      refine ih fun before y after b heq => h before y (after ++ [x]) b ?_
      rw [heq, List.append_assoc, List.cons_append]
    rw [List.filterMap_append]
    cases hx : f x with
    | none => simpa [hx] using hxs
    | some b =>
      have hb : b ∉ xs.filterMap f := h xs x [] b rfl hx
      rw [List.filterMap_cons_some hx, List.filterMap_nil]
      exact (List.perm_append_singleton b _).nodup_iff.mpr (List.nodup_cons.mpr ⟨hb, hxs⟩)

/-- What comes first of its kind is unique. -/
theorem eq_of_first {p : α → Prop} {before before' after after' : List α} {a b : α}
    (heq : before ++ a :: after = before' ++ b :: after') (ha : p a) (hb : p b)
    (hbefore : ∀ x ∈ before, ¬p x) (hbefore' : ∀ x ∈ before', ¬p x) : a = b := by
  induction before generalizing before' with
  | nil =>
    cases before' with
    | nil => exact (List.cons.inj heq).1
    | cons c before' =>
      obtain ⟨rfl, -⟩ := List.cons.inj heq
      exact absurd ha (hbefore' a List.mem_cons_self)
  | cons c before ih =>
    cases before' with
    | nil =>
      obtain ⟨rfl, -⟩ := List.cons.inj heq
      exact absurd hb (hbefore c List.mem_cons_self)
    | cons c' before' =>
      exact ih (List.cons.inj heq).2 (fun x hx => hbefore x (List.mem_cons_of_mem _ hx))
        fun x hx => hbefore' x (List.mem_cons_of_mem _ hx)

/-- A place in a sequence of pieces is a place in one of the pieces. -/
theorem flatMap_eq_append_cons {f : α → List β} {xs : List α} {before after : List β} {b : β}
    (h : xs.flatMap f = before ++ b :: after) :
    ∃ xs₁ x xs₂ front back, xs = xs₁ ++ x :: xs₂ ∧ before = xs₁.flatMap f ++ front ∧
      f x = front ++ b :: back := by
  induction xs generalizing before with
  | nil => simp at h
  | cons x xs ih =>
    rw [List.flatMap_cons] at h
    rcases List.append_eq_append_iff.mp h with ⟨front, hbefore, hrest⟩ | ⟨back, hx, hrest⟩
    · obtain ⟨xs₁, y, xs₂, front', back, rfl, rfl, hy⟩ := ih hrest
      refine ⟨x :: xs₁, y, xs₂, front', back, rfl, ?_, hy⟩
      rw [hbefore, List.flatMap_cons, List.append_assoc]
    · cases back with
      | nil =>
        obtain ⟨xs₁, y, xs₂, front', back, rfl, hnil, hy⟩ := @ih [] hrest.symm
        refine ⟨x :: xs₁, y, xs₂, front', back, rfl, ?_, hy⟩
        rw [List.append_nil] at hx
        rw [List.flatMap_cons, List.append_assoc, ← hnil, List.append_nil, hx]
      | cons c back =>
        obtain ⟨rfl, -⟩ : b = c ∧ after = back ++ xs.flatMap f := by simpa using hrest
        exact ⟨[], x, xs, before, back, rfl, rfl, hx⟩

/-- What comes first in a sequence is there as soon as what it precedes is. -/
theorem Preceded.mem_so_far {xs done : List α} {a b : α} (h : Preceded xs a b)
    (hdone : done <+: xs) (hb : b ∈ done) : a ∈ done := by
  obtain ⟨rest, rfl⟩ := hdone
  obtain ⟨before, after, rfl⟩ := List.append_of_mem hb
  have ha : a ∈ before := h before (after ++ rest) (by rw [List.append_assoc, List.cons_append])
  exact List.mem_append_left _ ha

/-- A sequence in which each element is repeated some times on the spot. -/
def repeatEach (count : α → Nat) (xs : List α) : List α :=
  xs.flatMap fun x => List.replicate (count x) x

theorem mem_repeatEach {count : α → Nat} (hcount : ∀ x, 0 < count x) {xs : List α} {a : α} :
    a ∈ repeatEach count xs ↔ a ∈ xs := by
  rw [repeatEach, List.mem_flatMap]
  constructor
  · rintro ⟨x, hx, ha⟩
    rwa [List.eq_of_mem_replicate ha]
  · intro ha
    exact ⟨a, ha, List.mem_replicate.mpr ⟨Nat.ne_of_gt (hcount a), rfl⟩⟩

/-- What comes first in a sequence of pieces still does when pieces are repeated. -/
theorem Preceded.repeatEach {count : α → Nat} (hcount : ∀ x, 0 < count x) {f : α → List β}
    {xs : List α} {a b : β} (h : Preceded (xs.flatMap f) a b) :
    Preceded ((repeatEach count xs).flatMap f) a b := by
  intro before after heq
  obtain ⟨ys, y, ys', front, back, hvisits, rfl, hpiece⟩ := flatMap_eq_append_cons heq
  obtain ⟨zs, z, zs', earlier, later, rfl, rfl, hcopies⟩ := flatMap_eq_append_cons hvisits
  obtain rfl : y = z := List.eq_of_mem_replicate
    (hcopies ▸ List.mem_append_right _ List.mem_cons_self)
  have ha : a ∈ zs.flatMap f ++ front := by
    refine h _ (back ++ zs'.flatMap f) ?_
    rw [List.flatMap_append, List.flatMap_cons, hpiece, List.append_assoc, List.append_assoc,
      List.cons_append]
  rcases List.mem_append.mp ha with hzs | hfront
  · obtain ⟨x, hx, ha⟩ := List.mem_flatMap.mp hzs
    have hvisit : x ∈ EngineBindings.repeatEach count zs ++ earlier :=
      List.mem_append_left _ ((mem_repeatEach hcount).mpr hx)
    exact List.mem_append_left _ (List.mem_flatMap.mpr ⟨x, hvisit, ha⟩)
  · exact List.mem_append_right _ hfront

/-- Where no key is repeated, a lookup finds each entry. -/
theorem lookup_eq_some_iff_mem [BEq α] [LawfulBEq α] {xs : List (α × β)}
    (hnodup : (xs.map Prod.fst).Nodup) {a : α} {b : β} : xs.lookup a = some b ↔ (a, b) ∈ xs := by
  induction xs with
  | nil => simp
  | cons x xs ih =>
    obtain ⟨a', b'⟩ := x
    obtain ⟨hfirst, hrest⟩ := List.nodup_cons.mp hnodup
    by_cases ha : a = a'
    · subst ha
      have hnone : (a, b) ∉ xs := fun hmem => hfirst (List.mem_map.mpr ⟨_, hmem, rfl⟩)
      simp [hnone, eq_comm]
    · rw [List.lookup_cons, beq_false_of_ne ha, List.mem_cons, Prod.mk.injEq, ih hrest]
      simp [ha]

/-- The last entry with a key is that of the last list that has one. -/
theorem lookup_reverse_flatMap {γ : Type} [BEq α] (f : γ → List (α × β)) (xs : List γ) (a : α) :
    (xs.flatMap f).reverse.lookup a = xs.reverse.findSome? fun x => (f x).reverse.lookup a := by
  induction xs with
  | nil => rfl
  | cons x xs ih =>
    rw [List.flatMap_cons, List.reverse_append, List.lookup_append, ih, List.reverse_cons,
      List.findSome?_append, List.findSome?_singleton]

theorem findSome?_congr_of_mem {f g : α → Option β} {xs : List α} (h : ∀ x ∈ xs, f x = g x) :
    xs.findSome? f = xs.findSome? g := by
  induction xs with
  | nil => rfl
  | cons x xs ih =>
    obtain ⟨hx, hxs⟩ := List.forall_mem_cons.mp h
    rw [List.findSome?_cons, List.findSome?_cons, hx, ih hxs]

theorem findSome?_ite (c : α → Bool) (f : α → β) (xs : List α) :
    (xs.findSome? fun x => if c x then some (f x) else none) = (xs.find? c).map f := by
  induction xs with
  | nil => rfl
  | cons x xs ih =>
    rw [List.findSome?_cons, List.find?_cons, ih]
    cases c x <;> rfl

/-! ## First occurrences -/

section FirstOccurrences

variable [BEq α] [LawfulBEq α]

/-- One step of `firstOccurrences`. -/
def keep (kept : List α) (x : α) : List α :=
  if kept.contains x then kept else kept ++ [x]

theorem keep_of_mem {kept : List α} {x : α} (h : x ∈ kept) : keep kept x = kept :=
  if_pos (List.contains_iff_mem.mpr h)

theorem keep_of_notMem {kept : List α} {x : α} (h : x ∉ kept) : keep kept x = kept ++ [x] :=
  if_neg fun hmem => h (List.contains_iff_mem.mp hmem)

theorem mem_keep {kept : List α} {x y : α} : y ∈ keep kept x ↔ y ∈ kept ∨ y = x := by
  unfold keep
  split
  · next hx =>
    refine ⟨.inl, fun h => h.elim id ?_⟩
    rintro rfl
    exact List.contains_iff_mem.mp hx
  · rw [List.mem_append, List.mem_singleton]

theorem keep_nodup {kept : List α} (h : kept.Nodup) (x : α) : (keep kept x).Nodup := by
  unfold keep
  split
  · exact h
  · next hx =>
    have hx : x ∉ kept := fun hmem => hx (List.contains_iff_mem.mpr hmem)
    exact (List.nodup_middle.mpr (by simpa using ⟨hx, h⟩))

theorem mem_foldl_keep {kept xs : List α} {y : α} :
    y ∈ xs.foldl keep kept ↔ y ∈ kept ∨ y ∈ xs := by
  induction xs generalizing kept with
  | nil => simp
  | cons x xs ih => rw [List.foldl_cons, ih, mem_keep, List.mem_cons, or_assoc]

theorem foldl_keep_nodup {kept : List α} (h : kept.Nodup) (xs : List α) :
    (xs.foldl keep kept).Nodup := by
  induction xs generalizing kept with
  | nil => exact h
  | cons x xs ih => exact ih (keep_nodup h x)

theorem mem_firstOccurrences {xs : List α} {y : α} : y ∈ firstOccurrences xs ↔ y ∈ xs := by
  refine mem_foldl_keep.trans ?_
  simp

theorem firstOccurrences_nodup (xs : List α) : (firstOccurrences xs).Nodup :=
  foldl_keep_nodup List.nodup_nil xs

omit [LawfulBEq α] in
theorem firstOccurrences_concat (xs : List α) (x : α) :
    firstOccurrences (xs ++ [x]) = keep (firstOccurrences xs) x :=
  List.foldl_append (f := keep)

theorem foldl_keep_of_subset {kept xs : List α} (h : ∀ x ∈ xs, x ∈ kept) :
    xs.foldl keep kept = kept := by
  induction xs with
  | nil => rfl
  | cons x xs ih =>
    rw [List.foldl_cons, keep_of_mem (h x List.mem_cons_self)]
    exact ih fun y hy => h y (List.mem_cons_of_mem _ hy)

/-- What is added to a list of kept elements is what it does not have yet. -/
theorem foldl_keep_eq_append (kept xs : List α) :
    xs.foldl keep kept = kept ++ firstOccurrences (xs.filter fun x => !kept.contains x) := by
  induction xs using List.reverseRecOn with
  | nil => exact (List.append_nil kept).symm
  | append_singleton xs x ih =>
    rw [List.foldl_concat, ih, List.filter_append]
    by_cases hx : x ∈ kept
    · have hold : [x].filter (fun y => !kept.contains y) = [] := by simp [hx]
      rw [hold, List.append_nil, keep_of_mem (List.mem_append_left _ hx)]
    · have hnew : [x].filter (fun y => !kept.contains y) = [x] := by simp [hx]
      rw [hnew, firstOccurrences_concat]
      by_cases hlater : x ∈ firstOccurrences (xs.filter fun y => !kept.contains y)
      · rw [keep_of_mem (List.mem_append_right _ hlater), keep_of_mem hlater]
      · have hnone : x ∉ kept ++ firstOccurrences (xs.filter fun y => !kept.contains y) :=
          List.mem_append.not.mpr (not_or.mpr ⟨hx, hlater⟩)
        rw [keep_of_notMem hnone, keep_of_notMem hlater, List.append_assoc]

/-- The elements of the first list come first, and then what the second one has besides. -/
theorem firstOccurrences_append (xs ys : List α) :
    firstOccurrences (xs ++ ys) =
      firstOccurrences xs ++
        firstOccurrences (ys.filter fun y => !(firstOccurrences xs).contains y) := by
  rw [← foldl_keep_eq_append]
  exact List.foldl_append

theorem firstOccurrences_append_append (xs ys : List α) :
    firstOccurrences (xs ++ (xs ++ ys)) = firstOccurrences (xs ++ ys) := by
  have hkept : ∀ x ∈ xs, x ∈ firstOccurrences xs := fun x hx => mem_firstOccurrences.mpr hx
  calc firstOccurrences (xs ++ (xs ++ ys))
      = ys.foldl keep (xs.foldl keep (firstOccurrences xs)) := by
        rw [firstOccurrences, List.foldl_append, List.foldl_append]
        rfl
    _ = ys.foldl keep (firstOccurrences xs) := by rw [foldl_keep_of_subset hkept]
    _ = firstOccurrences (xs ++ ys) := (List.foldl_append (f := keep)).symm

theorem firstOccurrences_of_nodup {xs : List α} (h : xs.Nodup) : firstOccurrences xs = xs := by
  induction xs using List.reverseRecOn with
  | nil => rfl
  | append_singleton xs x ih =>
    obtain ⟨hxs, -, hdisjoint⟩ := List.nodup_append.mp h
    have hx : x ∉ xs := fun hmem => hdisjoint x hmem x List.mem_cons_self rfl
    rw [firstOccurrences_concat, ih hxs, keep_of_notMem hx]

/-- In a sequence of pieces nothing new comes up when a piece is repeated. -/
theorem foldl_keep_repeatEach {γ : Type} {count : γ → Nat} (hcount : ∀ x, 0 < count x)
    (f : γ → List α) (xs : List γ) (kept : List α) :
    ((repeatEach count xs).flatMap f).foldl keep kept = (xs.flatMap f).foldl keep kept := by
  induction xs generalizing kept with
  | nil => rfl
  | cons x xs ih =>
    obtain ⟨n, hn⟩ := Nat.exists_eq_succ_of_ne_zero (Nat.ne_of_gt (hcount x))
    have hpiece : ((List.replicate (count x) x).flatMap f).foldl keep kept =
        (f x).foldl keep kept := by
      rw [hn, List.replicate_succ, List.flatMap_cons, List.foldl_append]
      refine foldl_keep_of_subset fun y hy => mem_foldl_keep.mpr (.inr ?_)
      obtain ⟨z, hz, hy⟩ := List.mem_flatMap.mp hy
      rwa [List.eq_of_mem_replicate hz] at hy
    rw [repeatEach, List.flatMap_cons, List.flatMap_append, List.foldl_append, hpiece,
      ← repeatEach, ih, List.flatMap_cons, List.foldl_append]

/-- Whether a list has the elements of another one once each, in the order in which they first
occur there. -/
structure KeepsFirst (xs ys : List α) : Prop where
  mem_iff : ∀ x, x ∈ ys ↔ x ∈ xs
  ordered : ys.Pairwise fun x y => xs.idxOf x < xs.idxOf y

theorem KeepsFirst.keep {xs ys : List α} (h : KeepsFirst xs ys) (x : α) :
    KeepsFirst (xs ++ [x]) (keep ys x) := by
  have hold : ys.Pairwise fun y z => (xs ++ [x]).idxOf y < (xs ++ [x]).idxOf z := by
    refine h.ordered.imp_of_mem fun hy hz hlt => ?_
    rw [List.idxOf_append_of_mem ((h.mem_iff _).mp hy),
      List.idxOf_append_of_mem ((h.mem_iff _).mp hz)]
    exact hlt
  constructor
  · intro y
    rw [mem_keep, h.mem_iff, List.mem_append, List.mem_singleton]
  · unfold EngineBindings.keep
    split
    · exact hold
    · next hnew =>
      have hx : x ∉ xs := fun hx => hnew (List.contains_iff_mem.mpr ((h.mem_iff x).mpr hx))
      refine List.pairwise_append.mpr ⟨hold, List.pairwise_singleton _ _, fun y hy z hz => ?_⟩
      have hy : y ∈ xs := (h.mem_iff y).mp hy
      obtain rfl := List.mem_singleton.mp hz
      rw [List.idxOf_append_of_mem hy, List.idxOf_append_of_notMem hx]
      have hlt := List.idxOf_lt_length_of_mem hy
      omega

theorem keepsFirst_firstOccurrences (xs : List α) : KeepsFirst xs (firstOccurrences xs) := by
  induction xs using List.reverseRecOn with
  | nil => exact ⟨fun _ => Iff.rfl, .nil⟩
  | append_singleton xs x ih =>
    rw [firstOccurrences_concat]
    exact ih.keep x

end FirstOccurrences

end EngineBindings
