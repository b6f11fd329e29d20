import EngineBindings.Proofs.Startup.Resolve

/-!
# Which classes can be ordered

`resolve` orders exactly the classes that can be ordered (`Orderable`), and otherwise says what is
wrong with them (`Refused`): `resolve_accepts_iff`.

Cycles are looked for level by level.  Nothing is missed and nothing is mistaken for a cycle once
parents are known to be at no later level: going up, levels only fall, so a loop stays at one level
(`RunsIntoLoop.stuck_or_earlier`), and the first level with stuck classes has the whole way into the
loop.
-/

namespace EngineBindings.StartupPlan

open Relation

/-- Classes that can be ordered for registration. -/
structure Orderable (levels : LevelAssignment) (classes : List ClassNode) : Prop where
  distinct : (classes.map ClassNode.name).Nodup
  parent_le : ∀ c ∈ classes, ∀ parent, c.parent? = some parent →
    levels.levelOf parent ≤ levels.levelOf c.name
  no_loop : ∀ c ∈ classes, ¬RunsIntoLoop (ParentAmong classes) c

/-- What is wrong with classes that cannot be ordered.  Repeated names come first, then parents at
later levels, then loops; of the classes at fault the first declared is named, for a loop the first
of the earliest level at fault. -/
inductive Refused (levels : LevelAssignment) (classes : List ClassNode) : StartupError → Prop
  | duplicateClass {before after : List ClassNode} {c : ClassNode}
    (heq : classes = before ++ c :: after) (hbefore : (before.map ClassNode.name).Nodup)
    (hrepeated : c.name ∈ before.map ClassNode.name) :
    Refused levels classes (.duplicateClass c.name)
  | parentInLaterLevel {before after : List ClassNode} {c : ClassNode} {parent : String}
    (hdistinct : (classes.map ClassNode.name).Nodup) (heq : classes = before ++ c :: after)
    (hbefore : ∀ b ∈ before, ∀ q, b.parent? = some q → levels.levelOf q ≤ levels.levelOf b.name)
    (hparent : c.parent? = some parent) (hlater : levels.levelOf c.name < levels.levelOf parent) :
    Refused levels classes
      (.parentInLaterLevel c.name (levels.levelOf c.name) parent (levels.levelOf parent))
  | cycle {before after : List ClassNode} {c : ClassNode}
    (hdistinct : (classes.map ClassNode.name).Nodup)
    (hparents : ∀ d ∈ classes, ∀ q, d.parent? = some q → levels.levelOf q ≤ levels.levelOf d.name)
    (heq : classes = before ++ c :: after) (hloop : RunsIntoLoop (ParentAmong classes) c)
    (hearliest : ∀ d ∈ classes, RunsIntoLoop (ParentAmong classes) d →
      levels.levelOf c.name ≤ levels.levelOf d.name)
    (hbefore : ∀ b ∈ before, levels.levelOf b.name = levels.levelOf c.name →
      ¬RunsIntoLoop (ParentAmong classes) b) :
    Refused levels classes (.cycle c.name)

variable {levels : LevelAssignment} {classes : List ClassNode}

/-! ## Loops and levels -/

theorem parentAmong_mono {level : Level} {c p : ClassNode}
    (h : ParentAmong (classesAtLevel levels classes level) c p) : ParentAmong classes c p :=
  ⟨(mem_classesAtLevel.mp h.1).1, (mem_classesAtLevel.mp h.2.1).1, h.2.2⟩

theorem mem_stuckAt_iff {level : Level} {c : ClassNode} :
    c ∈ stuckAt levels classes level ↔ c ∈ classesAtLevel levels classes level ∧
      RunsIntoLoop (ParentAmong (classesAtLevel levels classes level)) c :=
  (drains_level levels classes level).mem_stuck_iff

/-- A class that is stuck at its level runs into a loop, and it is at that level. -/
theorem runsIntoLoop_of_mem_stuckAt {level : Level} {c : ClassNode}
    (h : c ∈ stuckAt levels classes level) :
    c ∈ classes ∧ levels.levelOf c.name = level ∧ RunsIntoLoop (ParentAmong classes) c := by
  obtain ⟨hmem, hloop⟩ := mem_stuckAt_iff.mp h
  obtain ⟨hc, hlevel⟩ := mem_classesAtLevel.mp hmem
  exact ⟨hc, hlevel, hloop.mono fun _ _ hparent => parentAmong_mono hparent⟩

section levels

variable (hlate : ∀ c ∈ classes, lateParent? levels c = none)

include hlate

theorem levelOf_le_of_parentAmong {c p : ClassNode} (h : ParentAmong classes c p) :
    levels.levelOf p.name ≤ levels.levelOf c.name :=
  lateParent?_eq_none_iff.mp (hlate c h.1) p.name h.2.2

/-- Going up, levels only fall. -/
theorem levelOf_le_of_reflTransGen {c d : ClassNode} (h : ReflTransGen (ParentAmong classes) c d) :
    levels.levelOf d.name ≤ levels.levelOf c.name := by
  induction h with
  | refl => exact Nat.le_refl _
  | tail _ hstep ih => exact Nat.le_trans (levelOf_le_of_parentAmong hlate hstep) ih

/-- A step of a way up between classes of one level stays at that level. -/
theorem step_at_level {level : Level} {c p d : ClassNode} (hc : levels.levelOf c.name = level)
    (hstep : ParentAmong classes c p) (hpd : ReflTransGen (ParentAmong classes) p d)
    (hd : levels.levelOf d.name = level) :
    levels.levelOf p.name = level ∧ ParentAmong (classesAtLevel levels classes level) c p := by
  have hp : levels.levelOf p.name = level :=
    Level.le_antisymm (hc ▸ levelOf_le_of_parentAmong hlate hstep)
      (hd ▸ levelOf_le_of_reflTransGen hlate hpd)
  exact ⟨hp, mem_classesAtLevel.mpr ⟨hstep.1, hc⟩, mem_classesAtLevel.mpr ⟨hstep.2.1, hp⟩, hstep.2.2⟩

theorem reflTransGen_at_level {level : Level} {c d : ClassNode}
    (h : ReflTransGen (ParentAmong classes) c d) (hc : levels.levelOf c.name = level)
    (hd : levels.levelOf d.name = level) :
    ReflTransGen (ParentAmong (classesAtLevel levels classes level)) c d := by
  induction h using ReflTransGen.head_induction_on with
  | refl => exact .refl
  | head hstep hpd ih =>
    obtain ⟨hp, hat⟩ := step_at_level hlate hc hstep hpd hd
    exact (ih hp).head hat

/-- The way of a class into a loop stays at its level, unless there are stuck classes at an earlier
one. -/
theorem RunsIntoLoop.stuck_or_earlier {c : ClassNode} (hc : c ∈ classes)
    (h : RunsIntoLoop (ParentAmong classes) c) :
    c ∈ stuckAt levels classes (levels.levelOf c.name) ∨
      ∃ level < levels.levelOf c.name, stuckAt levels classes level ≠ [] := by
  obtain ⟨d, hcd, hdd⟩ := h
  obtain ⟨p, hdp, hpd⟩ := TransGen.head'_iff.mp hdd
  obtain ⟨hp, hat⟩ := step_at_level hlate rfl hdp hpd rfl
  have hloop : TransGen (ParentAmong (classesAtLevel levels classes (levels.levelOf d.name))) d d :=
    TransGen.head' hat (reflTransGen_at_level hlate hpd hp rfl)
  by_cases hlevel : levels.levelOf d.name = levels.levelOf c.name
  · left
    rw [hlevel] at hloop
    exact mem_stuckAt_iff.mpr ⟨mem_classesAtLevel.mpr ⟨hc, rfl⟩, d,
      reflTransGen_at_level hlate hcd rfl hlevel, hloop⟩
  · right
    refine ⟨levels.levelOf d.name,
      Level.lt_of_le_of_ne (levelOf_le_of_reflTransGen hlate hcd) hlevel, ?_⟩
    have hstuck : d ∈ stuckAt levels classes (levels.levelOf d.name) :=
      mem_stuckAt_iff.mpr ⟨mem_classesAtLevel.mpr ⟨hdp.1, rfl⟩, d, .refl, hloop⟩
    exact List.ne_nil_of_mem hstuck

theorem no_loop_iff :
    (∀ c ∈ classes, ¬RunsIntoLoop (ParentAmong classes) c) ↔
      ∀ level, stuckAt levels classes level = [] := by
  constructor
  · intro h level
    refine List.eq_nil_iff_forall_not_mem.mpr fun c hc => ?_
    obtain ⟨hmem, -, hloop⟩ := runsIntoLoop_of_mem_stuckAt hc
    exact h c hmem hloop
  · intro h c hc hloop
    rcases RunsIntoLoop.stuck_or_earlier hlate hc hloop with hstuck | ⟨level, -, hne⟩
    · rw [h] at hstuck
      cases hstuck
    · exact hne (h level)

/-- The first stuck class of the first level that has one is the first declared class there that
runs into a loop. -/
theorem first_stuckAt (hnodup : (classes.map ClassNode.name).Nodup) {level : Level}
    (hearlier : ∀ l < level, stuckAt levels classes l = []) {c : ClassNode} {rest : List ClassNode}
    (hstuck : stuckAt levels classes level = c :: rest) :
    ∃ before after, classes = before ++ c :: after ∧
      ∀ b ∈ before, ¬(levels.levelOf b.name = level ∧ RunsIntoLoop (ParentAmong classes) b) := by
  have hatLevel : (classesAtLevel levels classes level).Nodup := hnodup.of_map.filter _
  obtain ⟨front, back, heq, hfront⟩ := (drains_level levels classes level).first_stuck hatLevel hstuck
  obtain ⟨before, rest', rfl, hbefore, hrest⟩ := List.filter_eq_append_iff.mp heq
  obtain ⟨skipped, after, rfl, hskipped, -, -⟩ := List.filter_eq_cons_iff.mp hrest
  refine ⟨before ++ skipped, after, by rw [List.append_assoc], ?_⟩
  rintro b hb ⟨hlevel, hloop⟩
  have hmem : b ∈ before ++ (skipped ++ c :: after) := by
    rw [← List.append_assoc]
    exact List.mem_append_left _ hb
  rcases RunsIntoLoop.stuck_or_earlier hlate hmem hloop with hstuck | ⟨l, hl, hne⟩
  · rw [hlevel, mem_stuckAt_iff] at hstuck
    rcases List.mem_append.mp hb with hb | hb
    · exact hfront b (hbefore ▸ List.mem_filter.mpr ⟨hb, beq_iff_eq.mpr hlevel⟩) hstuck.2
    · exact hskipped b hb (beq_iff_eq.mpr hlevel)
  · exact hne (hearlier l (hlevel ▸ hl))

end levels

/-! ## What is reported -/

theorem resolve_eq_error_iff {e : StartupError} :
    resolve levels classes = .error e ↔
      (∃ c, firstDuplicate? [] classes = some c ∧ e = .duplicateClass c.name) ∨
        firstDuplicate? [] classes = none ∧
          (classes.findSome? (lateParent? levels) = some e ∨
            classes.findSome? (lateParent? levels) = none ∧
              blocksOf levels classes Level.all = .error e) := by
  unfold resolve
  cases firstDuplicate? [] classes with
  | some c => simp [eq_comm]
  | none =>
    cases classes.findSome? (lateParent? levels) with
    | some e' => simp
    | none => cases blocksOf levels classes Level.all <;> simp

theorem refused_of_blocksOf_eq_error (hnodup : (classes.map ClassNode.name).Nodup)
    (hlate : ∀ c ∈ classes, lateParent? levels c = none) {e : StartupError}
    (h : blocksOf levels classes Level.all = .error e) : Refused levels classes e := by
  obtain ⟨ls, level, ls', c, rest, hall, hls, hstuck, rfl⟩ := blocksOf_eq_error_iff.mp h
  have hearlier : ∀ l < level, stuckAt levels classes l = [] :=
    fun l hl => hls l (Level.mem_of_lt hall hl)
  obtain ⟨hc, hlevel, hloop⟩ := runsIntoLoop_of_mem_stuckAt (hstuck ▸ List.mem_cons_self)
  obtain ⟨before, after, heq, hbefore⟩ := first_stuckAt hlate hnodup hearlier hstuck
  refine .cycle hnodup (fun d hd => lateParent?_eq_none_iff.mp (hlate d hd)) heq hloop ?_ ?_
  · intro d hd hdloop
    rw [hlevel, ← Level.not_lt_iff]
    intro hlt
    rcases RunsIntoLoop.stuck_or_earlier hlate hd hdloop with hdstuck | ⟨l, hl, hne⟩
    · rw [hearlier _ hlt] at hdstuck
      cases hdstuck
    · exact hne (hearlier l (Nat.lt_trans hl hlt))
  · intro b hb hblevel hbloop
    exact hbefore b hb ⟨hblevel.trans hlevel, hbloop⟩

theorem blocksOf_eq_error_of_loop (hnodup : (classes.map ClassNode.name).Nodup)
    (hlate : ∀ c ∈ classes, lateParent? levels c = none) {before after : List ClassNode}
    {c : ClassNode} (heq : classes = before ++ c :: after)
    (hloop : RunsIntoLoop (ParentAmong classes) c)
    (hearliest : ∀ d ∈ classes, RunsIntoLoop (ParentAmong classes) d →
      levels.levelOf c.name ≤ levels.levelOf d.name)
    (hbefore : ∀ b ∈ before, levels.levelOf b.name = levels.levelOf c.name →
      ¬RunsIntoLoop (ParentAmong classes) b) :
    blocksOf levels classes Level.all = .error (.cycle c.name) := by
  have hc : c ∈ classes := heq ▸ List.mem_append_right _ List.mem_cons_self
  have hearlier : ∀ l < levels.levelOf c.name, stuckAt levels classes l = [] := by
    intro l hl
    refine List.eq_nil_iff_forall_not_mem.mpr fun d hd => ?_
    obtain ⟨hmem, rfl, hdloop⟩ := runsIntoLoop_of_mem_stuckAt hd
    exact Level.not_lt_iff.mpr (hearliest d hmem hdloop) hl
  have hstuck : c ∈ stuckAt levels classes (levels.levelOf c.name) := by
    rcases RunsIntoLoop.stuck_or_earlier hlate hc hloop with hstuck | ⟨l, hl, hne⟩
    · exact hstuck
    · exact absurd (hearlier l hl) hne
  cases hfirst : stuckAt levels classes (levels.levelOf c.name) with
  | nil =>
    rw [hfirst] at hstuck
    cases hstuck
  | cons d rest =>
    obtain ⟨-, hlevel, hdloop⟩ := runsIntoLoop_of_mem_stuckAt (hfirst ▸ List.mem_cons_self)
    obtain ⟨before', after', heq', hbefore'⟩ := first_stuckAt hlate hnodup hearlier hfirst
    obtain rfl : d = c := eq_of_first (heq'.symm.trans heq) ⟨hlevel, hdloop⟩ ⟨rfl, hloop⟩ hbefore'
      fun b hb h => hbefore b hb h.1 h.2
    obtain ⟨ls, ls', hall⟩ := List.append_of_mem (Level.mem_all (levels.levelOf d.name))
    refine blocksOf_eq_error_iff.mpr ⟨ls, _, ls', d, rest, hall, fun l hl => ?_, hfirst, rfl⟩
    have hsorted := (List.pairwise_append.mp (hall ▸ Level.all_pairwise_lt)).2.2
    exact hearlier l (hsorted l hl _ List.mem_cons_self)

/-- Classes are ordered exactly if their names are distinct, no parent is at a later level, and no
chain of parents among them runs into a loop; otherwise it is said what is wrong. -/
theorem resolve_accepts_iff (levels : LevelAssignment) (classes : List ClassNode) :
    ((∃ plan, resolve levels classes = .ok plan) ↔ Orderable levels classes) ∧
      ∀ e, resolve levels classes = .error e ↔ Refused levels classes e := by
  constructor
  · constructor
    · rintro ⟨plan, h⟩
      obtain ⟨hnodup, hlate, hstuck, -⟩ := resolve_eq_ok_iff.mp h
      exact ⟨hnodup, fun c hc => lateParent?_eq_none_iff.mp (hlate c hc),
        (no_loop_iff hlate).mpr hstuck⟩
    · rintro ⟨hnodup, hparents, hloops⟩
      have hlate : ∀ c ∈ classes, lateParent? levels c = none :=
        fun c hc => lateParent?_eq_none_iff.mpr (hparents c hc)
      exact ⟨_, resolve_eq_ok_iff.mpr ⟨hnodup, hlate, (no_loop_iff hlate).mp hloops, rfl⟩⟩
  · intro e
    rw [resolve_eq_error_iff, firstDuplicate?_nil_eq_none_iff, List.findSome?_eq_none_iff,
      List.findSome?_eq_some_iff]
    constructor
    · rintro (⟨c, hfirst, rfl⟩ | ⟨hnodup, ⟨before, c, after, heq, hlate, hbefore⟩ | ⟨hlate, hblocks⟩⟩)
      · obtain ⟨before, after, heq, hbefore, hrepeated⟩ := firstDuplicate?_eq_some_iff.mp hfirst
        exact .duplicateClass heq hbefore hrepeated
      · obtain ⟨parent, hparent, hlater, rfl⟩ := lateParent?_eq_some_iff.mp hlate
        exact .parentInLaterLevel hnodup heq
          (fun b hb => lateParent?_eq_none_iff.mp (hbefore b hb)) hparent hlater
      · exact refused_of_blocksOf_eq_error hnodup hlate hblocks
    · intro h
      cases h with
      | duplicateClass heq hbefore hrepeated =>
        exact .inl ⟨_, firstDuplicate?_eq_some_iff.mpr ⟨_, _, heq, hbefore, hrepeated⟩, rfl⟩
      | parentInLaterLevel hnodup heq hbefore hparent hlater =>
        exact .inr ⟨hnodup, .inl ⟨_, _, _, heq, lateParent?_eq_some_iff.mpr ⟨_, hparent, hlater, rfl⟩,
          fun b hb => lateParent?_eq_none_iff.mpr (hbefore b hb)⟩⟩
      | cycle hnodup hparents heq hloop hearliest hbefore =>
        have hlate : ∀ c ∈ classes, lateParent? levels c = none :=
          fun c hc => lateParent?_eq_none_iff.mpr (hparents c hc)
        exact .inr ⟨hnodup, .inr ⟨hlate,
          blocksOf_eq_error_of_loop hnodup hlate heq hloop hearliest hbefore⟩⟩

end EngineBindings.StartupPlan
