import EngineBindings.Proofs.Chain
import EngineBindings.Startup.Plan

/-!
# Taking ready classes

`drain` takes classes whose parents do not wait, one after another.  `Drains` says the same as a
relation, one rule for each step; what a whole run keeps is shown by induction on it.

* `Drains.perm`, `Drains.stuck_sublist`: no class is lost, and those left keep their order.
* `Drains.parent_not_after`: when a class is taken, its parent does not wait any more.
* `mem_stuck_iff`: the classes left are exactly those whose chain of parents among the waiting
  classes runs into a loop.
-/

namespace EngineBindings.StartupPlan

/-- Whether one of some classes is the parent of another one. -/
def ParentAmong (classes : List ClassNode) (c p : ClassNode) : Prop :=
  c ∈ classes ∧ p ∈ classes ∧ c.parent? = some p.name

theorem isReady_iff {waiting : List ClassNode} {c : ClassNode} :
    isReady waiting c = true ↔ ∀ d ∈ waiting, c.parent? ≠ some d.name := by
  unfold isReady
  cases c.parent? with
  | none => simp
  | some parent =>
    simp only [Bool.not_eq_true', List.any_eq_false, beq_iff_eq, ne_eq, Option.some.injEq]
    exact forall₂_congr fun d _ => ⟨fun h e => h e.symm, fun h e => h e.symm⟩

/-! ## Draining as a relation -/

/-- Which classes are taken, and which are left, when ready classes are taken one by one. -/
inductive Drains : List ClassNode → List ClassNode → List ClassNode → Prop
  | stuck {waiting : List ClassNode} (hnone : waiting.find? (isReady waiting) = none) :
    Drains waiting [] waiting
  | take {waiting ordered stuck : List ClassNode} {next : ClassNode}
    (hnext : waiting.find? (isReady waiting) = some next)
    (hrest : Drains (waiting.erase next) ordered stuck) :
    Drains waiting (next :: ordered) stuck

theorem drains_drain (waiting : List ClassNode) :
    Drains waiting (drain waiting).1 (drain waiting).2 := by
  induction waiting using drain.induct with
  | case1 waiting hnone =>
    rw [drain]
    split
    · exact .stuck hnone
    · next next hnext =>
      rw [hnone] at hnext
      cases hnext
  | case2 waiting next hnext ordered stuck hrest ih =>
    rw [drain]
    split
    · next hnone =>
      rw [hnone] at hnext
      cases hnext
    · next next' hnext' =>
      obtain rfl : next' = next := Option.some.inj (hnext'.symm.trans hnext)
      rw [hrest] at ih ⊢
      exact .take hnext' ih

namespace Drains

variable {waiting ordered stuck : List ClassNode}

theorem perm (h : Drains waiting ordered stuck) : (ordered ++ stuck).Perm waiting := by
  induction h with
  | stuck _ => exact .refl _
  | take hnext _ ih =>
    exact (ih.cons _).trans (List.perm_cons_erase (List.mem_of_find?_eq_some hnext)).symm

theorem mem_waiting_iff (h : Drains waiting ordered stuck) {c : ClassNode} :
    c ∈ waiting ↔ c ∈ ordered ∨ c ∈ stuck := by
  rw [← h.perm.mem_iff, List.mem_append]

theorem stuck_sublist (h : Drains waiting ordered stuck) : stuck.Sublist waiting := by
  induction h with
  | stuck _ => exact .refl _
  | take _ _ ih => exact ih.trans List.erase_sublist

/-- When a class is taken, its parent does not wait any more. -/
theorem parent_not_after (h : Drains waiting ordered stuck) {before after : List ClassNode}
    {c : ClassNode} (heq : ordered = before ++ c :: after) {d : ClassNode}
    (hd : d ∈ c :: after ∨ d ∈ stuck) : c.parent? ≠ some d.name := by
  induction h generalizing before with
  | stuck _ => simp at heq
  | @take waiting ordered stuck next hnext hrest ih =>
    cases before with
    | nil =>
      obtain ⟨rfl, rfl⟩ : next = c ∧ ordered = after := by simpa using heq
      have hwaits : d ∈ waiting := (take hnext hrest).mem_waiting_iff.mpr hd
      exact isReady_iff.mp (List.find?_some hnext) d hwaits
    | cons b before =>
      obtain ⟨-, rfl⟩ : next = b ∧ ordered = before ++ c :: after := by simpa using heq
      exact ih rfl hd

/-- The parent of a class that is taken was taken before, if it waited at all. -/
theorem parent_mem_before (h : Drains waiting ordered stuck) {before after : List ClassNode}
    {c p : ClassNode} (heq : ordered = before ++ c :: after) (hp : p ∈ waiting)
    (hparent : c.parent? = some p.name) : p ∈ before := by
  have hlater : ¬(p ∈ c :: after ∨ p ∈ stuck) := fun hd => h.parent_not_after heq hd hparent
  rcases h.mem_waiting_iff.mp hp with hmem | hmem
  · rw [heq, List.mem_append] at hmem
    exact hmem.resolve_right fun hafter => hlater (.inl hafter)
  · exact absurd (.inr hmem) hlater

/-- Every class left waits for one that is left too. -/
theorem exists_parent_stuck (h : Drains waiting ordered stuck) {c : ClassNode} (hc : c ∈ stuck) :
    ∃ p ∈ stuck, c.parent? = some p.name := by
  induction h with
  | @stuck waiting hnone =>
    have hwaits := List.find?_eq_none.mp hnone c hc
    rw [isReady_iff] at hwaits
    push Not at hwaits
    exact hwaits
  | take _ _ ih => exact ih hc

/-! ## Loops -/

/-- The chain of parents of a class that is taken goes through classes taken before, so it ends. -/
theorem acc_of_mem_ordered (h : Drains waiting ordered stuck) {c : ClassNode} (hc : c ∈ ordered) :
    Acc (fun p c => ParentAmong waiting c p) c := by
  obtain ⟨before, after, heq⟩ := List.append_of_mem hc
  generalize hn : before.length = n
  -- strong induction on how many classes were taken before
  induction n using Nat.strongRecOn generalizing c before after with
  | _ n ih =>
    refine ⟨c, fun p ⟨_, hp, hparent⟩ => ?_⟩
    have hbefore : p ∈ before := h.parent_mem_before heq hp hparent
    obtain ⟨before', after', rfl⟩ := List.append_of_mem hbefore
    have hordered : ordered = before' ++ p :: (after' ++ c :: after) := by
      rw [heq, List.append_assoc, List.cons_append]
    have hmem : p ∈ ordered := by
      rw [hordered]
      exact List.mem_append_right _ List.mem_cons_self
    refine ih before'.length ?_ hmem before' _ hordered rfl
    rw [← hn, List.length_append, List.length_cons]
    omega

theorem mem_stuck_iff (h : Drains waiting ordered stuck) {c : ClassNode} :
    c ∈ stuck ↔ c ∈ waiting ∧ RunsIntoLoop (ParentAmong waiting) c := by
  constructor
  · intro hc
    refine ⟨h.stuck_sublist.subset hc, ?_⟩
    refine runsIntoLoop_of_forall_exists (fun a ha => ?_) hc
    obtain ⟨p, hp, hparent⟩ := h.exists_parent_stuck ha
    exact ⟨p, hp, h.stuck_sublist.subset ha, h.stuck_sublist.subset hp, hparent⟩
  · rintro ⟨hc, hloop⟩
    rcases h.mem_waiting_iff.mp hc with hordered | hstuck
    · exact absurd hloop (not_runsIntoLoop_of_acc (h.acc_of_mem_ordered hordered))
    · exact hstuck

/-- The first class left is the first one declared whose chain of parents runs into a loop. -/
theorem first_stuck (h : Drains waiting ordered stuck) (hnodup : waiting.Nodup) {c : ClassNode}
    {rest : List ClassNode} (hstuck : stuck = c :: rest) :
    ∃ before after, waiting = before ++ c :: after ∧
      ∀ b ∈ before, ¬RunsIntoLoop (ParentAmong waiting) b := by
  obtain ⟨front, back, heq, hc, hrest⟩ := List.cons_sublist_iff.mp (hstuck ▸ h.stuck_sublist)
  obtain ⟨before, after, rfl⟩ := List.append_of_mem hc
  have hsplit : waiting = before ++ c :: (after ++ back) := by
    rw [heq, List.append_assoc, List.cons_append]
  refine ⟨before, after ++ back, hsplit, fun b hb hloop => ?_⟩
  have hdisjoint : ∀ x ∈ before, ∀ y ∈ c :: (after ++ back), x ≠ y := by
    rw [hsplit, List.nodup_append] at hnodup
    exact hnodup.2.2
  have hmem : b ∈ c :: rest := by
    rw [← hstuck, h.mem_stuck_iff, hsplit]
    exact ⟨List.mem_append_left _ hb, hsplit ▸ hloop⟩
  rcases List.mem_cons.mp hmem with rfl | hlater
  · exact hdisjoint b hb b List.mem_cons_self rfl
  · exact hdisjoint b hb b (by simp [hrest.subset hlater]) rfl

end Drains

end EngineBindings.StartupPlan
