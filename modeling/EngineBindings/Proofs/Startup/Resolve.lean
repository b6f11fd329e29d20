import EngineBindings.Proofs.Sequence
import EngineBindings.Proofs.Startup.Drain
import EngineBindings.Startup.Plan
import Mathlib.Data.List.Nodup
import Mathlib.Data.List.Perm.Basic

/-!
# The order of registration

Taken level by level in startup order, the classes of a list are all there
(`flatMap_classesAtLevel_perm`).  What `resolve` does, check by check
(`firstDuplicate?_eq_some_iff`, `lateParent?_eq_some_iff`, `blocksOf_eq_error_iff`), and the plan
that it gives (`resolve_eq_ok_iff`): the classes of each level in the order in which they are taken.
`resolve_order` says what that order is worth.
-/

namespace EngineBindings

/-! ## Levels -/

namespace Level

theorem lt_iff {a b : Level} : a < b ↔ a.ordinal < b.ordinal := Iff.rfl

theorem le_iff {a b : Level} : a ≤ b ↔ a.ordinal ≤ b.ordinal := Iff.rfl

theorem not_lt_iff {a b : Level} : ¬a < b ↔ b ≤ a := by
  rw [lt_iff, le_iff, Nat.not_lt]

theorem lt_of_le_of_ne {a b : Level} (hle : a ≤ b) (hne : a ≠ b) : a < b := by
  rw [le_iff] at hle
  rw [lt_iff]
  cases a <;> cases b <;> first | exact absurd rfl hne | exact absurd hle (by decide) | decide

theorem le_antisymm {a b : Level} (hab : a ≤ b) (hba : b ≤ a) : a = b := by
  by_contra hne
  have hlt := lt_of_le_of_ne hab hne
  rw [lt_iff] at hlt
  rw [le_iff] at hba
  omega

theorem mem_all (level : Level) : level ∈ all := by
  cases level <;> decide

/-- The levels are listed in startup order. -/
theorem all_pairwise_lt : all.Pairwise (· < ·) := by decide

theorem all_nodup : all.Nodup := by decide

/-- The levels before one of the list are the earlier ones. -/
theorem mem_of_lt {before after : List Level} {a b : Level} (hall : all = before ++ b :: after)
    (hlt : a < b) : a ∈ before := by
  have hmem : a ∈ before ++ b :: after := hall ▸ mem_all a
  have hsorted : (b :: after).Pairwise (· < ·) :=
    (List.pairwise_append.mp (hall ▸ all_pairwise_lt)).2.1
  rw [lt_iff] at hlt
  rcases List.mem_append.mp hmem with hbefore | hlater
  · exact hbefore
  · rcases List.mem_cons.mp hlater with rfl | hafter
    · omega
    · have hgt := (List.pairwise_cons.mp hsorted).1 a hafter
      rw [lt_iff] at hgt
      omega

end Level

namespace StartupPlan

/-- The classes of a list at one level, in order of declaration. -/
def classesAtLevel (levels : LevelAssignment) (classes : List ClassNode) (level : Level) :
    List ClassNode :=
  classes.filter fun c => levels.levelOf c.name == level

variable {levels : LevelAssignment} {classes : List ClassNode}

theorem mem_classesAtLevel {level : Level} {c : ClassNode} :
    c ∈ classesAtLevel levels classes level ↔ c ∈ classes ∧ levels.levelOf c.name = level := by
  rw [classesAtLevel, List.mem_filter, beq_iff_eq]

/-- Cutting a list by the values of a function loses nothing and repeats nothing. -/
theorem flatMap_filter_perm {α β : Type} [BEq β] [LawfulBEq β] (f : α → β) (xs : List α)
    {ys : List β} (hys : ys.Nodup) :
    (ys.flatMap fun y => xs.filter fun x => f x == y).Perm (xs.filter fun x => ys.contains (f x)) := by
  induction ys with
  | nil => simp
  | cons y ys ih =>
    obtain ⟨hy, hys⟩ := List.nodup_cons.mp hys
    rw [List.flatMap_cons]
    refine ((ih hys).append_left _).trans ?_
    have hsplit := List.filter_append_perm (fun x => f x == y)
      (xs.filter fun x => (y :: ys).contains (f x))
    have hfirst : (xs.filter fun x => (y :: ys).contains (f x)).filter (fun x => f x == y) =
        xs.filter fun x => f x == y := by
      rw [List.filter_filter]
      refine List.filter_congr fun x _ => ?_
      cases hx : f x == y <;> simp [hx]
    have hothers : (xs.filter fun x => (y :: ys).contains (f x)).filter (fun x => !(f x == y)) =
        xs.filter fun x => ys.contains (f x) := by
      rw [List.filter_filter]
      refine List.filter_congr fun x _ => ?_
      cases hx : f x == y with
      | true =>
        rw [eq_of_beq hx]
        simpa using hy
      | false => simp [hx]
    rw [hfirst, hothers] at hsplit
    exact hsplit

theorem flatMap_classesAtLevel_perm :
    (Level.all.flatMap (classesAtLevel levels classes)).Perm classes := by
  have hall : (classes.filter fun c => Level.all.contains (levels.levelOf c.name)) = classes := by
    refine List.filter_eq_self.mpr fun c _ => ?_
    rw [List.contains_iff_mem]
    exact Level.mem_all _
  have hperm := flatMap_filter_perm (fun c : ClassNode => levels.levelOf c.name) classes
    Level.all_nodup
  rw [hall] at hperm
  exact hperm

/-! ## Repeated names -/

theorem firstDuplicate?_eq_none_iff {seen rest : List ClassNode} :
    firstDuplicate? seen rest = none ↔
      (rest.map ClassNode.name).Nodup ∧ ∀ c ∈ rest, ∀ d ∈ seen, d.name ≠ c.name := by
  induction rest generalizing seen with
  | nil => simp [firstDuplicate?]
  | cons c rest ih =>
    rw [firstDuplicate?]
    split
    · next hseen =>
      obtain ⟨d, hd, hname⟩ := List.any_eq_true.mp hseen
      refine ⟨fun h => (nomatch h), fun h => ?_⟩
      exact absurd (eq_of_beq hname) (h.2 c List.mem_cons_self d hd)
    · next hseen =>
      have hnew : ∀ d ∈ seen, d.name ≠ c.name := by simpa using hseen
      rw [ih, List.map_cons, List.nodup_cons]
      constructor
      · rintro ⟨hnodup, hold⟩
        refine ⟨⟨?_, hnodup⟩, ?_⟩
        · intro hmem
          obtain ⟨d, hd, hname⟩ := List.mem_map.mp hmem
          exact hold d hd c List.mem_cons_self hname.symm
        · rintro e he d hd
          rcases List.mem_cons.mp he with rfl | he
          · exact hnew d hd
          · exact hold e he d (List.mem_cons_of_mem _ hd)
      · rintro ⟨⟨hc, hnodup⟩, hold⟩
        refine ⟨hnodup, fun e he d hd => ?_⟩
        rcases List.mem_cons.mp hd with rfl | hd
        · exact fun hname => hc (List.mem_map.mpr ⟨e, he, hname.symm⟩)
        · exact hold e (List.mem_cons_of_mem _ he) d hd

theorem firstDuplicate?_nil_eq_none_iff :
    firstDuplicate? [] classes = none ↔ (classes.map ClassNode.name).Nodup := by
  rw [firstDuplicate?_eq_none_iff]
  simp

theorem firstDuplicate?_append_of_eq_none {seen before after : List ClassNode}
    (h : firstDuplicate? seen before = none) :
    firstDuplicate? seen (before ++ after) = firstDuplicate? (before.reverse ++ seen) after := by
  induction before generalizing seen with
  | nil => rfl
  | cons c before ih =>
    rw [firstDuplicate?] at h
    rw [List.cons_append, firstDuplicate?]
    split at h
    · cases h
    · next hnew => rw [if_neg hnew, ih h, List.reverse_cons, List.append_assoc]; rfl

/-- The repeated name that is reported is that of the first class with an earlier class's name. -/
theorem firstDuplicate?_eq_some_iff {c : ClassNode} :
    firstDuplicate? [] classes = some c ↔
      ∃ before after, classes = before ++ c :: after ∧ (before.map ClassNode.name).Nodup ∧
        c.name ∈ before.map ClassNode.name := by
  constructor
  · intro h
    suffices hgen : ∀ seen rest, firstDuplicate? seen rest = some c →
        ∃ before after, rest = before ++ c :: after ∧ firstDuplicate? seen before = none ∧
          (before.reverse ++ seen).any (fun d => d.name == c.name) = true by
      obtain ⟨before, after, heq, hnone, hany⟩ := hgen [] classes h
      refine ⟨before, after, heq, firstDuplicate?_nil_eq_none_iff.mp hnone, ?_⟩
      simpa using hany
    intro seen rest
    induction rest generalizing seen with
    | nil => intro h; cases h
    | cons d rest ih =>
      intro h
      rw [firstDuplicate?] at h
      split at h
      · next hseen =>
        obtain rfl := Option.some.inj h
        exact ⟨[], rest, rfl, rfl, hseen⟩
      · next hseen =>
        obtain ⟨before, after, rfl, hnone, hany⟩ := ih (d :: seen) h
        refine ⟨d :: before, after, rfl, ?_, by simpa using hany⟩
        rw [firstDuplicate?, if_neg hseen, hnone]
  · rintro ⟨before, after, rfl, hnodup, hmem⟩
    rw [firstDuplicate?_append_of_eq_none (firstDuplicate?_nil_eq_none_iff.mpr hnodup),
      firstDuplicate?, if_pos]
    simpa using hmem

/-! ## Parents at later levels -/

theorem lateParent?_eq_some_iff {c : ClassNode} {e : StartupError} :
    lateParent? levels c = some e ↔
      ∃ parent, c.parent? = some parent ∧ levels.levelOf c.name < levels.levelOf parent ∧
        e = .parentInLaterLevel c.name (levels.levelOf c.name) parent (levels.levelOf parent) := by
  unfold lateParent?
  cases c.parent? with
  | none => simp
  | some parent =>
    by_cases h : levels.levelOf c.name < levels.levelOf parent
    · simp [h, eq_comm]
    · simp [h]

theorem lateParent?_eq_none_iff {c : ClassNode} :
    lateParent? levels c = none ↔
      ∀ parent, c.parent? = some parent → levels.levelOf parent ≤ levels.levelOf c.name := by
  unfold lateParent?
  cases c.parent? with
  | none => simp
  | some parent =>
    simp only [ite_eq_right_iff, reduceCtorEq, imp_false, Option.some.injEq, forall_eq']
    exact Level.not_lt_iff

/-! ## Blocks -/

/-- The classes of a level in the order in which they are taken. -/
def takenAt (levels : LevelAssignment) (classes : List ClassNode) (level : Level) :
    List ClassNode :=
  (drain (classesAtLevel levels classes level)).1

/-- The classes of a level that are never ready. -/
def stuckAt (levels : LevelAssignment) (classes : List ClassNode) (level : Level) :
    List ClassNode :=
  (drain (classesAtLevel levels classes level)).2

theorem drains_level (levels : LevelAssignment) (classes : List ClassNode) (level : Level) :
    Drains (classesAtLevel levels classes level) (takenAt levels classes level)
      (stuckAt levels classes level) :=
  drains_drain _

/-- The block of a level whose classes are all taken. -/
def takenBlock? (levels : LevelAssignment) (classes : List ClassNode) (level : Level) :
    Option LevelBlock :=
  match takenAt levels classes level with
  | [] => none
  | taken => some ⟨level, taken.map ClassNode.name⟩

theorem block?_of_stuckAt_nil {level : Level} (h : stuckAt levels classes level = []) :
    block? levels classes level = .ok (takenBlock? levels classes level) := by
  have hperm := (drains_level levels classes level).perm
  rw [h, List.append_nil] at hperm
  unfold block? takenBlock?
  rw [← classesAtLevel]
  split
  · next hnone =>
    rw [hnone, List.perm_nil] at hperm
    rw [hperm]
  · next hsome =>
    have hne : takenAt levels classes level ≠ [] := fun hnil =>
      hsome (List.nil_perm.mp (hnil ▸ hperm))
    unfold orderLevel
    rw [stuckAt] at h
    rw [takenAt] at hne ⊢
    rcases hdrain : drain (classesAtLevel levels classes level) with ⟨taken, stuck⟩
    rw [hdrain] at h hne
    obtain rfl : stuck = [] := h
    cases taken with
    | nil => exact absurd rfl hne
    | cons c rest => rfl

theorem block?_of_stuckAt_cons {level : Level} {c : ClassNode} {rest : List ClassNode}
    (h : stuckAt levels classes level = c :: rest) :
    block? levels classes level = .error (.cycle c.name) := by
  have hmem : c ∈ classesAtLevel levels classes level :=
    (drains_level levels classes level).stuck_sublist.subset (h ▸ List.mem_cons_self)
  unfold block? orderLevel
  rw [← classesAtLevel]
  split
  · next hnone =>
    rw [hnone] at hmem
    cases hmem
  · rw [stuckAt] at h
    rcases hdrain : drain (classesAtLevel levels classes level) with ⟨taken, stuck⟩
    rw [hdrain] at h
    obtain rfl : stuck = c :: rest := h
    rfl

theorem blocksOf_cons_of_stuckAt_nil {level : Level} {rest : List Level}
    (h : stuckAt levels classes level = []) :
    blocksOf levels classes (level :: rest) =
      (blocksOf levels classes rest).map ((takenBlock? levels classes level).toList ++ ·) := by
  rw [blocksOf, block?_of_stuckAt_nil h]
  cases blocksOf levels classes rest <;> rfl

theorem blocksOf_cons_of_stuckAt_cons {level : Level} {rest : List Level} {c : ClassNode}
    {others : List ClassNode} (h : stuckAt levels classes level = c :: others) :
    blocksOf levels classes (level :: rest) = .error (.cycle c.name) := by
  rw [blocksOf, block?_of_stuckAt_cons h]

theorem blocksOf_eq_ok_iff {ls : List Level} {blocks : List LevelBlock} :
    blocksOf levels classes ls = .ok blocks ↔
      (∀ level ∈ ls, stuckAt levels classes level = []) ∧
        blocks = ls.filterMap (takenBlock? levels classes) := by
  induction ls generalizing blocks with
  | nil =>
    rw [blocksOf, Except.ok.injEq]
    exact ⟨fun h => ⟨by simp, h.symm⟩, fun h => h.2.symm⟩
  | cons level rest ih =>
    cases hstuck : stuckAt levels classes level with
    | cons c others => simp [blocksOf_cons_of_stuckAt_cons hstuck, hstuck]
    | nil =>
      have hblocks : (level :: rest).filterMap (takenBlock? levels classes) =
          (takenBlock? levels classes level).toList ++
            rest.filterMap (takenBlock? levels classes) := by
        rw [List.filterMap_cons]
        cases takenBlock? levels classes level <;> rfl
      rw [blocksOf_cons_of_stuckAt_nil hstuck, List.forall_mem_cons, hblocks,
        and_iff_right hstuck]
      constructor
      · intro h
        cases hrest : blocksOf levels classes rest with
        | error e =>
          rw [hrest] at h
          cases h
        | ok more =>
          rw [hrest] at h
          obtain ⟨hall, rfl⟩ := ih.mp hrest
          exact ⟨hall, (Except.ok.inj h).symm⟩
      · rintro ⟨hall, rfl⟩
        rw [ih.mpr ⟨hall, rfl⟩]
        rfl

/-- The class that is reported is the first one stuck at the first level that has one. -/
theorem blocksOf_eq_error_iff {ls : List Level} {e : StartupError} :
    blocksOf levels classes ls = .error e ↔
      ∃ before level after c rest, ls = before ++ level :: after ∧
        (∀ l ∈ before, stuckAt levels classes l = []) ∧
        stuckAt levels classes level = c :: rest ∧ e = .cycle c.name := by
  induction ls with
  | nil => simp [blocksOf]
  | cons level ls ih =>
    cases hstuck : stuckAt levels classes level with
    | cons c rest =>
      rw [blocksOf_cons_of_stuckAt_cons hstuck]
      constructor
      · intro h
        exact ⟨[], level, ls, c, rest, rfl, by simp, hstuck, (Except.error.inj h).symm⟩
      · rintro ⟨before, l, after, d, others, heq, hbefore, hl, rfl⟩
        cases before with
        | nil =>
          obtain ⟨rfl, -⟩ : level = l ∧ ls = after := by simpa using heq
          obtain ⟨rfl, -⟩ : c = d ∧ rest = others := by simpa [hstuck] using hl
          rfl
        | cons b before =>
          obtain ⟨rfl, -⟩ : level = b ∧ ls = before ++ l :: after := by simpa using heq
          have hnone := hbefore level List.mem_cons_self
          rw [hstuck] at hnone
          cases hnone
    | nil =>
      have hrest : blocksOf levels classes (level :: ls) = .error e ↔
          blocksOf levels classes ls = .error e := by
        rw [blocksOf_cons_of_stuckAt_nil hstuck]
        cases blocksOf levels classes ls <;> simp [Except.map]
      refine hrest.trans (ih.trans ?_)
      constructor
      · rintro ⟨before, l, after, c, rest, rfl, hbefore, hl, he⟩
        exact ⟨level :: before, l, after, c, rest, rfl,
          List.forall_mem_cons.mpr ⟨hstuck, hbefore⟩, hl, he⟩
      · rintro ⟨before, l, after, c, rest, heq, hbefore, hl, he⟩
        cases before with
        | nil =>
          obtain ⟨rfl, -⟩ : level = l ∧ ls = after := by simpa using heq
          rw [hstuck] at hl
          cases hl
        | cons b before =>
          obtain ⟨-, rfl⟩ : level = b ∧ ls = before ++ l :: after := by simpa using heq
          exact ⟨before, l, after, c, rest, rfl, (List.forall_mem_cons.mp hbefore).2, hl, he⟩

/-! ## Plans -/

/-- The plan of classes that can all be taken. -/
def takenPlan (levels : LevelAssignment) (classes : List ClassNode) : StartupPlan :=
  ⟨Level.all.filterMap (takenBlock? levels classes)⟩

theorem resolve_eq_ok_iff {plan : StartupPlan} :
    resolve levels classes = .ok plan ↔
      (classes.map ClassNode.name).Nodup ∧ (∀ c ∈ classes, lateParent? levels c = none) ∧
        (∀ level, stuckAt levels classes level = []) ∧ plan = takenPlan levels classes := by
  unfold resolve
  cases hduplicate : firstDuplicate? [] classes with
  | some c =>
    simp only [reduceCtorEq, false_iff, not_and]
    intro hnodup
    rw [firstDuplicate?_nil_eq_none_iff.mpr hnodup] at hduplicate
    cases hduplicate
  | none =>
    simp only [firstDuplicate?_nil_eq_none_iff.mp hduplicate, true_and]
    cases hlate : classes.findSome? (lateParent? levels) with
    | some e =>
      simp only [reduceCtorEq, false_iff, not_and]
      intro hnone
      rw [List.findSome?_eq_none_iff.mpr hnone] at hlate
      cases hlate
    | none =>
      have hparents : ∀ c ∈ classes, lateParent? levels c = none :=
        List.findSome?_eq_none_iff.mp hlate
      have hlevels : (∀ level, stuckAt levels classes level = []) ↔
          ∀ level ∈ Level.all, stuckAt levels classes level = [] :=
        ⟨fun h level _ => h level, fun h level => h level (Level.mem_all level)⟩
      rw [and_iff_right hparents, hlevels]
      cases hblocks : blocksOf levels classes Level.all with
      | error e =>
        simp only [reduceCtorEq, false_iff, not_and]
        intro hstuck
        rw [blocksOf_eq_ok_iff.mpr ⟨hstuck, rfl⟩] at hblocks
        cases hblocks
      | ok blocks =>
        obtain ⟨hstuck, rfl⟩ := blocksOf_eq_ok_iff.mp hblocks
        rw [and_iff_right hstuck, Except.ok.injEq, takenPlan, eq_comm]

theorem takenBlock?_level {level : Level} {block : LevelBlock}
    (h : takenBlock? levels classes level = some block) : block.level = level := by
  unfold takenBlock? at h
  split at h
  · cases h
  · obtain rfl := Option.some.inj h
    rfl

theorem takenBlock?_classes (level : Level) :
    ((takenBlock? levels classes level).map LevelBlock.classes).getD [] =
      (takenAt levels classes level).map ClassNode.name := by
  unfold takenBlock?
  split
  · next hnil => rw [hnil]; rfl
  · rfl

theorem find?_takenBlocks {level : Level} {ls : List Level} (hlevel : level ∈ ls) :
    (ls.filterMap (takenBlock? levels classes)).find? (fun block => block.level == level) =
      takenBlock? levels classes level := by
  cases hfound : (ls.filterMap (takenBlock? levels classes)).find? _ with
  | none =>
    cases htaken : takenBlock? levels classes level with
    | none => rfl
    | some block =>
      have hmem := List.mem_filterMap.mpr ⟨level, hlevel, htaken⟩
      have hother := List.find?_eq_none.mp hfound block hmem
      rw [takenBlock?_level htaken] at hother
      exact absurd (beq_self_eq_true level) hother
  | some block =>
    obtain ⟨l, -, htaken⟩ := List.mem_filterMap.mp (List.mem_of_find?_eq_some hfound)
    have hsame := List.find?_some hfound
    rw [takenBlock?_level htaken] at hsame
    rw [← eq_of_beq hsame, htaken]

/-- The plan finds the classes of each level. -/
theorem classesAt_takenPlan (level : Level) :
    (takenPlan levels classes).classesAt level =
      (takenAt levels classes level).map ClassNode.name := by
  rw [← takenBlock?_classes, classesAt, takenPlan, find?_takenBlocks (Level.mem_all level)]
  cases takenBlock? levels classes level <;> rfl

theorem takenPlan_levels_pairwise :
    ((takenPlan levels classes).blocks.map LevelBlock.level).Pairwise (· < ·) := by
  rw [List.pairwise_map, takenPlan, List.pairwise_filterMap]
  refine Level.all_pairwise_lt.imp fun hlt block hblock block' hblock' => ?_
  rw [takenBlock?_level hblock, takenBlock?_level hblock']
  exact hlt

/-- All classes in the order in which they are taken. -/
def takenClasses (levels : LevelAssignment) (classes : List ClassNode) : List ClassNode :=
  Level.all.flatMap (takenAt levels classes)

theorem mem_takenAt {level : Level} {c : ClassNode} (hstuck : stuckAt levels classes level = []) :
    c ∈ takenAt levels classes level ↔ c ∈ classes ∧ levels.levelOf c.name = level := by
  rw [← mem_classesAtLevel, (drains_level levels classes level).mem_waiting_iff, hstuck]
  simp

theorem takenClasses_perm (hstuck : ∀ level, stuckAt levels classes level = []) :
    (takenClasses levels classes).Perm classes := by
  have htaken : ∀ level ∈ Level.all,
      (takenAt levels classes level).Perm (classesAtLevel levels classes level) := by
    intro level _
    have hperm := (drains_level levels classes level).perm
    rw [hstuck level, List.append_nil] at hperm
    exact hperm
  exact (List.Perm.flatMap_left _ htaken).trans flatMap_classesAtLevel_perm

theorem registrationOrder_takenPlan (hstuck : ∀ level, stuckAt levels classes level = []) :
    (takenPlan levels classes).registrationOrder =
      (takenClasses levels classes).map fun c => (levels.levelOf c.name, c.name) := by
  have hlevel : ∀ level, (takenAt levels classes level).map (fun c => (level, c.name)) =
      (takenAt levels classes level).map fun c => (levels.levelOf c.name, c.name) := by
    intro level
    refine List.map_congr_left fun c hc => ?_
    rw [((mem_takenAt (hstuck level)).mp hc).2]
  unfold registrationOrder takenPlan takenClasses
  rw [List.map_flatMap]
  induction Level.all with
  | nil => rfl
  | cons level rest ih =>
    rw [List.flatMap_cons, ← ih, ← hlevel level, List.filterMap_cons]
    unfold takenBlock?
    cases takenAt levels classes level with
    | nil => rfl
    | cons c others => simp only [List.flatMap_cons, List.map_map]; rfl

/-- Classes of distinct names are told apart by them. -/
theorem eq_of_name_eq (hnodup : (classes.map ClassNode.name).Nodup) {c d : ClassNode}
    (hc : c ∈ classes) (hd : d ∈ classes) (h : c.name = d.name) : c = d :=
  List.inj_on_of_nodup_map hnodup hc hd h

/-- A parent at an earlier level is taken with that level, one at the same level before its child
there. -/
theorem preceded_takenClasses (hstuck : ∀ level, stuckAt levels classes level = [])
    (hlate : ∀ c ∈ classes, lateParent? levels c = none) {c p : ClassNode} (hc : c ∈ classes)
    (hp : p ∈ classes) (hparent : c.parent? = some p.name) :
    Preceded (takenClasses levels classes) p c := by
  intro before after heq
  obtain ⟨ls, level, ls', front, back, hall, rfl, htaken⟩ := flatMap_eq_append_cons heq
  have hlevel : levels.levelOf c.name = level :=
    ((mem_takenAt (hstuck level)).mp (htaken ▸ List.mem_append_right _ List.mem_cons_self)).2
  have hle : levels.levelOf p.name ≤ level :=
    hlevel ▸ lateParent?_eq_none_iff.mp (hlate c hc) _ hparent
  by_cases hsame : levels.levelOf p.name = level
  · have hwaits : p ∈ classesAtLevel levels classes level := mem_classesAtLevel.mpr ⟨hp, hsame⟩
    exact List.mem_append_right _
      ((drains_level levels classes level).parent_mem_before htaken hwaits hparent)
  · have hlt : levels.levelOf p.name < level := Level.lt_of_le_of_ne hle hsame
    have hearlier : levels.levelOf p.name ∈ ls := Level.mem_of_lt hall hlt
    refine List.mem_append_left _ (List.mem_flatMap.mpr ⟨_, hearlier, ?_⟩)
    exact (mem_takenAt (hstuck _)).mpr ⟨hp, rfl⟩

theorem preceded_names (hstuck : ∀ level, stuckAt levels classes level = [])
    (hlate : ∀ c ∈ classes, lateParent? levels c = none)
    (hnodup : (classes.map ClassNode.name).Nodup) {c p : ClassNode} (hc : c ∈ classes)
    (hp : p ∈ classes) (hparent : c.parent? = some p.name) :
    Preceded ((takenClasses levels classes).map ClassNode.name) p.name c.name := by
  intro before after heq
  obtain ⟨front, rest, htaken, rfl, hrest⟩ := List.map_eq_append_iff.mp heq
  obtain ⟨d, back, rfl, hname, rfl⟩ := List.map_eq_cons_iff.mp hrest
  have hd : d ∈ classes := (takenClasses_perm hstuck).mem_iff.mp
    (htaken ▸ List.mem_append_right _ List.mem_cons_self)
  obtain rfl := eq_of_name_eq hnodup hd hc hname
  exact List.mem_map_of_mem (preceded_takenClasses hstuck hlate hc hp hparent _ _ htaken)

/-- The blocks of a plan are not empty and come in startup order; every class is registered once and
at its own level; and a class is registered after its parent and removed before it, if the parent is
among the classes. -/
theorem resolve_order {plan : StartupPlan} (h : resolve levels classes = .ok plan) :
    (∀ block ∈ plan.blocks, block.classes ≠ []) ∧
      (plan.blocks.map LevelBlock.level).Pairwise (· < ·) ∧
      (plan.registrationOrder.map Prod.snd).Perm (classes.map ClassNode.name) ∧
      (∀ entry ∈ plan.registrationOrder, entry.1 = levels.levelOf entry.2) ∧
      ∀ c ∈ classes, ∀ parent, c.parent? = some parent → parent ∈ classes.map ClassNode.name →
        (plan.registrationOrder.map Prod.snd).idxOf parent <
            (plan.registrationOrder.map Prod.snd).idxOf c.name ∧
          (plan.deregistrationOrder.map Prod.snd).idxOf c.name <
            (plan.deregistrationOrder.map Prod.snd).idxOf parent := by
  obtain ⟨hnodup, hlate, hstuck, rfl⟩ := resolve_eq_ok_iff.mp h
  have hnames : (takenPlan levels classes).registrationOrder.map Prod.snd =
      (takenClasses levels classes).map ClassNode.name := by
    rw [registrationOrder_takenPlan hstuck, List.map_map]
    rfl
  have hperm : ((takenClasses levels classes).map ClassNode.name).Perm
      (classes.map ClassNode.name) := (takenClasses_perm hstuck).map _
  refine ⟨?_, ?_, ?_, ?_, ?_⟩
  · intro block hblock
    obtain ⟨level, -, htaken⟩ := List.mem_filterMap.mp hblock
    unfold takenBlock? at htaken
    split at htaken
    · cases htaken
    · next hne =>
      obtain rfl := Option.some.inj htaken
      exact fun hnil => hne (List.map_eq_nil_iff.mp hnil)
  · exact takenPlan_levels_pairwise
  · rw [hnames]
    exact hperm
  · intro entry hentry
    rw [registrationOrder_takenPlan hstuck] at hentry
    obtain ⟨c, -, rfl⟩ := List.mem_map.mp hentry
    rfl
  · intro c hc parent hparent hmem
    obtain ⟨p, hp, rfl⟩ := List.mem_map.mp hmem
    have hpreceded := preceded_names hstuck hlate hnodup hc hp hparent
    have hmem : ∀ d ∈ classes, d.name ∈ (takenClasses levels classes).map ClassNode.name :=
      fun d hd => hperm.mem_iff.mpr (List.mem_map_of_mem hd)
    rw [deregistrationOrder, List.map_reverse, hnames]
    refine ⟨hpreceded.idxOf_lt (hmem c hc), ?_⟩
    refine (hpreceded.reverse (hperm.nodup_iff.mpr hnodup) (hmem c hc)).idxOf_lt ?_
    exact List.mem_reverse.mpr (hmem p hp)

theorem resolve_order_three_classes :
    resolve ((LevelAssignment.uniform .scene).assign "Object" .core)
        [⟨"Sprite", some "Node"⟩, ⟨"Node", some "Object"⟩, ⟨"Object", none⟩] =
      .ok ⟨[⟨.core, ["Object"]⟩, ⟨.scene, ["Node", "Sprite"]⟩]⟩ ∧
    ["Object", "Node", "Sprite"].Perm ["Sprite", "Node", "Object"] ∧
    ["Object", "Node", "Sprite"].idxOf "Node" < ["Object", "Node", "Sprite"].idxOf "Sprite" := by
  have hresolve : resolve ((LevelAssignment.uniform .scene).assign "Object" .core)
      [⟨"Sprite", some "Node"⟩, ⟨"Node", some "Object"⟩, ⟨"Object", none⟩] =
    .ok ⟨[⟨.core, ["Object"]⟩, ⟨.scene, ["Node", "Sprite"]⟩]⟩ := by decide +kernel
  obtain ⟨-, -, hperm, -, hparents⟩ := resolve_order hresolve
  exact ⟨hresolve, hperm, (hparents _ List.mem_cons_self "Node" rfl (by simp)).1⟩

end StartupPlan

end EngineBindings
