import EngineBindings.Proofs.Chain
import EngineBindings.Schema.Basic

/-!
# Ancestors of classes

Ancestors are listed by at most as many steps along parent links as a schema has classes.  That is
enough for all of them (`Schema.mem_ancestors_iff`), and each stands at the place of the number of
steps that lead to it (`Schema.stepsFrom_of_ancestors`), so a search in the list finds the nearest.
In a valid schema no chain loops, and the list starts with the parent and goes on with the ancestors
of the parent (`Schema.IsValid.ancestors_of_parent?`).
-/

namespace EngineBindings.Schema

variable {s : Schema}

/-! ## Lookup -/

theorem class?_name {name : String} {c : ClassDescriptor} (h : s.class? name = some c) :
    c.name = name := by
  unfold class? at h
  have hname := List.find?_some h
  exact eq_of_beq hname

theorem builtin?_name {name : String} {b : Builtin} (h : s.builtin? name = some b) :
    b.name = name := by
  unfold builtin? at h
  have hname := List.find?_some h
  exact eq_of_beq hname

theorem containsClass_of_class? {name : String} {c : ClassDescriptor}
    (h : s.class? name = some c) : s.containsClass name = true :=
  List.any_eq_true.mpr ⟨c, List.mem_of_find?_eq_some h, beq_iff_eq.mpr (class?_name h)⟩

theorem containsClass_of_parent? {name parent : String} (h : s.parent? name = some parent) :
    s.containsClass name = true := by
  obtain ⟨c, hc, -⟩ := Option.bind_eq_some_iff.mp h
  exact containsClass_of_class? hc

/-! ## Parent links -/

theorem chainFrom_getElem? (parent? : String → Option String) (steps n : Nat) (name : String) :
    (chainFrom parent? steps name)[n]? =
      if n < steps then stepsFrom parent? n (parent? name) else none := by
  induction steps generalizing n name with
  | zero => simp [chainFrom]
  | succ steps ih =>
    rw [chainFrom]
    cases hparent : parent? name with
    | none => simp
    | some parent =>
      cases n with
      | zero => simp [stepsFrom]
      | succ n => simp [ih, stepsFrom]

theorem stepsFrom_of_ancestors {n : Nat} {name other : String}
    (h : (s.ancestors name)[n]? = some other) :
    stepsFrom s.parent? n (s.parent? name) = some other := by
  rw [ancestors, chainFrom_getElem?] at h
  split at h
  · exact h
  · cases h

/-- No ancestor is cut off: a class with a parent is listed, so a shortest way up takes fewer steps
than there are classes. -/
theorem mem_ancestors_iff {name other : String} :
    other ∈ s.ancestors name ↔ LeadsTo s.parent? name other := by
  rw [List.mem_iff_getElem?]
  constructor
  · rintro ⟨n, hn⟩
    exact leadsTo_iff.mpr ⟨n, stepsFrom_of_ancestors hn⟩
  · intro h
    have hlisted : ∀ a b, s.parent? a = some b → a ∈ s.classes.map ClassDescriptor.name := by
      intro a b hab
      obtain ⟨c, hc, hname⟩ := List.any_eq_true.mp (containsClass_of_parent? hab)
      exact List.mem_map.mpr ⟨c, hc, eq_of_beq hname⟩
    obtain ⟨n, hlt, hn⟩ := h.exists_steps_lt hlisted
    rw [List.length_map] at hlt
    exact ⟨n, by rw [ancestors, chainFrom_getElem?, if_pos hlt, hn]⟩

/-! ## Valid schemas -/

/-- Whether a schema is accepted. -/
def IsValid (s : Schema) : Prop :=
  ofDescriptors s.version s.classes s.builtins s.globalEnums s.singletons s.utilityFunctions = .ok s

theorem IsValid.firstCyclic? (h : s.IsValid) : s.firstCyclic? = none := by
  unfold IsValid ofDescriptors at h
  dsimp only at h
  split at h
  · cases h
  · split at h
    · cases h
    · split at h
      · cases h
      · next hcyclic => exact hcyclic

/-- A chain that comes to a name it has passed loops, if enough links are followed. -/
theorem loops_of_stepsFrom {parent? : String → Option String} {steps n : Nat} {seen : List String}
    {name? : Option String} {name : String} (hn : n < steps)
    (hname : stepsFrom parent? n name? = some name) (hseen : name ∈ seen) :
    loops parent? steps seen name? = true := by
  induction steps generalizing n seen name? with
  | zero => cases hn
  | succ steps ih =>
    cases name? with
    | none =>
      rw [stepsFrom_none] at hname
      cases hname
    | some first =>
      rw [loops, Bool.or_eq_true, List.contains_iff_mem]
      cases n with
      | zero =>
        obtain rfl := Option.some.inj hname
        exact .inl hseen
      | succ n => exact .inr (ih (Nat.lt_of_succ_lt_succ hn) hname (List.mem_cons_of_mem _ hseen))

/-- No class is its own ancestor. -/
theorem IsValid.not_leadsTo_self (h : s.IsValid) (name : String) :
    ¬LeadsTo s.parent? name name := by
  intro hself
  have hmem := mem_ancestors_iff.mpr hself
  obtain ⟨n, hn⟩ := List.mem_iff_getElem?.mp hmem
  have hsteps := stepsFrom_of_ancestors hn
  cases hparent : s.parent? name with
  | none =>
    rw [hparent, stepsFrom_none] at hsteps
    cases hsteps
  | some parent =>
    obtain ⟨c, hc, hcparent⟩ := Option.bind_eq_some_iff.mp hparent
    have hlength : n < s.classes.length := by
      by_contra hle
      rw [ancestors, chainFrom_getElem?, if_neg hle] at hn
      cases hn
    have hloops : loops s.parent? (s.classes.length + 1) [c.name] c.parent? = true := by
      refine loops_of_stepsFrom (Nat.lt_succ_of_lt hlength) ?_ (List.mem_singleton_self _)
      rw [class?_name hc, hcparent, ← hparent]
      exact hsteps
    have hfree := List.find?_eq_none.mp (Option.map_eq_none_iff.mp h.firstCyclic?) c
      (List.mem_of_find?_eq_some hc)
    exact hfree hloops

theorem ancestors_of_parent?_none {name : String} (h : s.parent? name = none) :
    s.ancestors name = [] := by
  unfold ancestors
  cases s.classes.length with
  | zero => rfl
  | succ n => rw [chainFrom, h]

/-- The ancestors of a class are its parent and the ancestors of its parent: no chain is cut off,
for it would have passed every class and come to one of them again. -/
theorem IsValid.ancestors_of_parent? (h : s.IsValid) {name parent : String}
    (hparent : s.parent? name = some parent) :
    s.ancestors name = parent :: s.ancestors parent := by
  have hend : stepsFrom s.parent? s.classes.length (s.parent? name) = none := by
    refine Option.eq_none_iff_forall_ne_some.mpr fun other hother => ?_
    have hmem := mem_ancestors_iff.mpr (leadsTo_iff.mpr ⟨_, hother⟩)
    obtain ⟨n, hn⟩ := List.mem_iff_getElem?.mp hmem
    rw [ancestors, chainFrom_getElem?] at hn
    split at hn
    · next hlt =>
      obtain ⟨k, hk⟩ := Nat.exists_eq_add_of_lt hlt
      rw [hk, Nat.add_assoc, stepsFrom_add, hn, stepsFrom] at hother
      exact h.not_leadsTo_self other (leadsTo_iff.mpr ⟨k, hother⟩)
    · cases hn
  refine List.ext_getElem? fun n => ?_
  cases n with
  | zero =>
    rw [ancestors, chainFrom_getElem?, List.getElem?_cons_zero, hparent]
    split
    · rfl
    · next hlt =>
      obtain ⟨c, hc, -⟩ := Option.bind_eq_some_iff.mp hparent
      exact absurd (List.length_pos_of_mem (List.mem_of_find?_eq_some hc)) hlt
  | succ n =>
    rw [List.getElem?_cons_succ, ancestors, ancestors, chainFrom_getElem?, chainFrom_getElem?,
      hparent]
    change (if n + 1 < _ then stepsFrom s.parent? n (s.parent? parent) else none) = _
    split
    · next hlt => rw [if_pos (Nat.lt_of_succ_lt hlt)]
    · next hge =>
      split
      · next hlt =>
        have hlast : s.classes.length = n + 1 := by omega
        rw [hlast, hparent] at hend
        exact hend.symm
      · rfl

end EngineBindings.Schema
