import EngineBindings.Proofs.Startup.Resolve

/-!
# The order of classes declared first

The classes of a level can be put in many orders in which parents come first (`IsLevelOrder`).  Of
all these `resolve` takes the one that is smallest when it is read as places in the list of
declarations, in the order of dictionaries (`resolve_smallest`).

Taking the ready class declared first makes the first place smallest, since every such order starts
with a class that is ready (`ParentsFirst.isReady_head`).  What remains of an order that starts with
the same class is such an order of the classes that remain, so the argument repeats
(`Drains.smallest`).
-/

namespace EngineBindings.StartupPlan

/-- Whether no class of a sequence has its parent there behind it, or in its own place. -/
def ParentsFirst (order : List ClassNode) : Prop :=
  ∀ before c after, order = before ++ c :: after → ∀ d ∈ c :: after, c.parent? ≠ some d.name

/-- An order of the classes of a level in which every class comes after its parent, if the parent is
one of them. -/
structure IsLevelOrder (levels : LevelAssignment) (classes : List ClassNode) (level : Level)
    (order : List ClassNode) : Prop where
  perm : order.Perm (classesAtLevel levels classes level)
  parent_before : ∀ c ∈ order, ∀ p ∈ order, c.parent? = some p.name →
    order.idxOf p < order.idxOf c

/-! ## Orders with parents first -/

namespace ParentsFirst

variable {order waiting : List ClassNode} {c : ClassNode}

theorem tail (h : ParentsFirst (c :: order)) : ParentsFirst order := by
  intro before d after heq
  exact h (c :: before) d after (by rw [heq, List.cons_append])

/-- The first class of an order has no parent that waits. -/
theorem isReady_head (h : ParentsFirst (c :: order)) (hperm : (c :: order).Perm waiting) :
    isReady waiting c = true :=
  isReady_iff.mpr fun d hd => h [] c order rfl d (hperm.mem_iff.mpr hd)

end ParentsFirst

/-- In a sequence without repeats, parents come first if they have smaller places. -/
theorem parentsFirst_iff {order : List ClassNode} (hnodup : order.Nodup) :
    ParentsFirst order ↔ ∀ c ∈ order, ∀ p ∈ order, c.parent? = some p.name →
      order.idxOf p < order.idxOf c := by
  constructor
  · intro h c hc p hp hparent
    refine Preceded.idxOf_lt (fun before after heq => ?_) hc
    rcases List.mem_append.mp (heq ▸ hp) with hbefore | hlater
    · exact hbefore
    · exact absurd hparent (h before c after heq p hlater)
  · rintro h before c after rfl d hd hparent
    have hlt := h c (List.mem_append_right _ List.mem_cons_self) d
      (List.mem_append_right _ hd) hparent
    obtain ⟨hc, hafter⟩ := notMem_of_split hnodup
    have hd : d ∉ before := by
      rcases List.mem_cons.mp hd with rfl | hd
      · exact hc
      · exact hafter d hd
    rw [List.idxOf_append_of_notMem hc, List.idxOf_append_of_notMem hd, List.idxOf_cons_self] at hlt
    omega

/-! ## The first ready class -/

/-- Of all elements that pass a test, the first one has the smallest place. -/
theorem eq_or_lt_of_find? {α : Type} {rank : α → Nat} {p : α → Bool} {xs : List α}
    (hrank : xs.Pairwise fun a b => rank a < rank b) {first : α} (hfirst : xs.find? p = some first)
    {a : α} (ha : a ∈ xs) (hp : p a = true) : a = first ∨ rank first < rank a := by
  obtain ⟨-, before, after, rfl, hbefore⟩ := List.find?_eq_some_iff_append.mp hfirst
  rcases List.mem_append.mp ha with hearlier | hlater
  · have hfails := hbefore a hearlier
    rw [hp] at hfails
    cases hfails
  · rcases List.mem_cons.mp hlater with rfl | hafter
    · exact .inl rfl
    · exact .inr ((List.pairwise_cons.mp (List.pairwise_append.mp hrank).2.1).1 a hafter)

theorem Drains.parentsFirst {waiting ordered stuck : List ClassNode}
    (h : Drains waiting ordered stuck) : ParentsFirst ordered :=
  fun _ _ _ heq _ hd => h.parent_not_after heq (.inl hd)

/-- Any other order with parents first is greater than the order in which classes are taken: it
takes a later class at the first place where the two differ. -/
theorem Drains.smallest {waiting ordered stuck : List ClassNode} (h : Drains waiting ordered stuck)
    (hstuck : stuck = []) {rank : ClassNode → Nat}
    (hrank : waiting.Pairwise fun a b => rank a < rank b) {order : List ClassNode}
    (hperm : order.Perm waiting) (horder : ParentsFirst order) :
    order = ordered ∨ List.Lex (· < ·) (ordered.map rank) (order.map rank) := by
  induction h generalizing order with
  | stuck _ =>
    subst hstuck
    exact .inl hperm.eq_nil
  | @take waiting ordered stuck next hnext hrest ih =>
    cases order with
    | nil =>
      rw [List.nil_perm.mp hperm] at hnext
      cases hnext
    | cons first order =>
      have hfirst : first ∈ waiting := hperm.mem_iff.mp List.mem_cons_self
      rcases eq_or_lt_of_find? hrank hnext hfirst (horder.isReady_head hperm) with rfl | hlt
      · have hrest : order.Perm (waiting.erase first) :=
          (hperm.trans (List.perm_cons_erase hfirst)).cons_inv
        rcases ih hstuck (hrank.sublist List.erase_sublist) hrest horder.tail with rfl | hlex
        · exact .inl rfl
        · exact .inr (.cons hlex)
      · exact .inr (.rel hlt)

/-! ## The order of a level -/

variable {levels : LevelAssignment} {classes : List ClassNode}

theorem idxOf_lt_of_nodup {xs : List ClassNode} (hnodup : xs.Nodup) :
    xs.Pairwise fun a b => xs.idxOf a < xs.idxOf b := by
  rw [List.pairwise_iff_getElem]
  intro i j hi hj hlt
  rwa [hnodup.idxOf_getElem i hi, hnodup.idxOf_getElem j hj]

/-- The classes of a level are registered in the order that is smallest among all in which parents
come first, when it is read as places in the list of declarations: every other one is greater. -/
theorem resolve_smallest {plan : StartupPlan} (h : resolve levels classes = .ok plan)
    (level : Level) :
    ∃ taken, IsLevelOrder levels classes level taken ∧
      plan.classesAt level = taken.map ClassNode.name ∧
      ∀ order, IsLevelOrder levels classes level order →
        order = taken ∨ List.Lex (· < ·) (taken.map fun c => classes.idxOf c)
          (order.map fun c => classes.idxOf c) := by
  obtain ⟨hnames, -, hstuck, rfl⟩ := resolve_eq_ok_iff.mp h
  have hdrains := drains_level levels classes level
  have hperm : (takenAt levels classes level).Perm (classesAtLevel levels classes level) := by
    have hall := hdrains.perm
    rwa [hstuck level, List.append_nil] at hall
  have hsublist : (classesAtLevel levels classes level).Sublist classes := List.filter_sublist
  have hclasses : classes.Nodup := hnames.of_map
  have hnodup : (classesAtLevel levels classes level).Nodup := hclasses.sublist hsublist
  refine ⟨takenAt levels classes level, ⟨hperm, ?_⟩, classesAt_takenPlan level, ?_⟩
  · exact (parentsFirst_iff (hperm.nodup_iff.mpr hnodup)).mp hdrains.parentsFirst
  · intro order horder
    have hparents := (parentsFirst_iff (horder.perm.nodup_iff.mpr hnodup)).mpr horder.parent_before
    exact hdrains.smallest (hstuck level) ((idxOf_lt_of_nodup hclasses).sublist hsublist)
      horder.perm hparents

/-- Two classes without parents come first, in the order of declaration, and then their children. -/
theorem resolve_smallest_two_roots :
    let classes : List ClassNode := [⟨"B", none⟩, ⟨"A", none⟩, ⟨"C", some "A"⟩, ⟨"D", some "B"⟩]
    let plan : StartupPlan := ⟨[⟨.core, ["B", "A", "C", "D"]⟩]⟩
    resolve (.uniform .core) classes = .ok plan ∧
      ∃ taken, IsLevelOrder (.uniform .core) classes .core taken ∧
        taken.map ClassNode.name = ["B", "A", "C", "D"] := by
  intro classes plan
  have hresolve : resolve (.uniform .core) classes = .ok plan := by decide +kernel
  obtain ⟨taken, htaken, hnames, -⟩ := resolve_smallest hresolve .core
  exact ⟨hresolve, taken, htaken, hnames.symm⟩

end EngineBindings.StartupPlan
