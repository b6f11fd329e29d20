import EngineBindings.Bindings.Naming
import EngineBindings.Proofs.Traverse

/-!
# Steps that reserve names

Items get their names in steps that hand on the names taken so far.  A sequence of steps is their
items in turn (`Reserving.flatten_mapM_cons`), so what holds of each step holds of the sequence, if
it goes along with doing steps in turn (`Reserving.Ensures.mapM`).  Where the names that are taken
do not decide whether a step succeeds, something else does (`Reserving.SucceedsIff`).
-/

namespace EngineBindings.Reserving

variable {α β ρ : Type} {taken later : List String}

theorem run_bind_eq_ok_iff {x : Reserving α} {f : α → Reserving β} {b : β} :
    (x >>= f).run taken = .ok (b, later) ↔
      ∃ a mid, x.run taken = .ok (a, mid) ∧ (f a).run mid = .ok (b, later) := by
  rw [StateT.run_bind, bind_eq_ok_iff, Prod.exists]

theorem run_pure_eq_ok_iff {a b : α} :
    (pure a : Reserving α).run taken = .ok (b, later) ↔ a = b ∧ taken = later := by
  rw [StateT.run_pure]
  simp only [pure, Except.pure, Except.ok.injEq, Prod.mk.injEq]

theorem run_lift_eq_ok_iff {x : Emission α} {a : α} :
    (liftM x : Reserving α).run taken = .ok (a, later) ↔ x = .ok a ∧ taken = later := by
  change (x >>= fun b => pure (b, taken)) = _ ↔ _
  rw [bind_eq_ok_iff]
  simp [pure, Except.pure]

theorem ite_bind (p : Prop) [Decidable p] (x y : Reserving α) (f : α → Reserving β) :
    (if p then x else y) >>= f = if p then x >>= f else y >>= f := by
  split <;> rfl

/-- The items of two steps, one after the other. -/
def inTurn (x y : Reserving (List α)) : Reserving (List α) := do
  let first ← x
  return first ++ (← y)

theorem flatten_mapM_cons (f : α → Reserving (List β)) (a : α) (as : List α) :
    List.flatten <$> (a :: as).mapM f = inTurn (f a) (List.flatten <$> as.mapM f) := by
  simp only [inTurn, List.mapM_cons, map_bind, map_pure, bind_map_left, List.flatten_cons]

/-! ## What a step ensures -/

/-- Whether a step that succeeds relates the names taken before it, what it gives, and the names
taken after it. -/
def Ensures (step : Reserving α) (post : List String → α → List String → Prop) : Prop :=
  ∀ taken a later, step.run taken = .ok (a, later) → post taken a later

section Ensures

variable {post : List String → β → List String → Prop}

theorem Ensures.bind {x : Reserving α} {f : α → Reserving β} {good : β → Prop}
    (h : ∀ a, Ensures (f a) fun _ b _ => good b) : Ensures (x >>= f) fun _ b _ => good b := by
  intro taken b later hrun
  obtain ⟨a, mid, -, hrun⟩ := run_bind_eq_ok_iff.mp hrun
  exact h a _ _ _ hrun

theorem ensures_pure {b : β} (h : ∀ taken, post taken b taken) : Ensures (pure b) post := by
  intro taken b' later hrun
  obtain ⟨rfl, rfl⟩ := run_pure_eq_ok_iff.mp hrun
  exact h taken

theorem Ensures.bind_lift {x : Emission α} {f : α → Reserving β}
    (h : ∀ a, x = .ok a → Ensures (f a) post) : Ensures (liftM x >>= f) post := by
  intro taken b later hrun
  obtain ⟨a, mid, hx, hrun⟩ := run_bind_eq_ok_iff.mp hrun
  obtain ⟨ha, rfl⟩ := run_lift_eq_ok_iff.mp hx
  exact h a ha _ _ _ hrun

end Ensures

/-- Whether what becomes of requests goes along with handling them in turn. -/
structure InTurn (R : List ρ → List String → List β → List String → Prop) : Prop where
  nil : ∀ taken, R [] taken [] taken
  append : ∀ {asked asked' taken mid later items items'}, R asked taken items mid →
    R asked' mid items' later → R (asked ++ asked') taken (items ++ items') later

section InTurn

variable {R : List ρ → List String → List β → List String → Prop} (hR : InTurn R)
  {asked asked' : List ρ}

include hR

theorem Ensures.inTurn {x y : Reserving (List β)} (hx : Ensures x (R asked))
    (hy : Ensures y (R asked')) : Ensures (inTurn x y) (R (asked ++ asked')) := by
  intro taken items later h
  obtain ⟨first, mid, hfirst, h⟩ := run_bind_eq_ok_iff.mp h
  obtain ⟨second, last, hsecond, h⟩ := run_bind_eq_ok_iff.mp h
  obtain ⟨rfl, rfl⟩ := run_pure_eq_ok_iff.mp h
  exact hR.append (hx _ _ _ hfirst) (hy _ _ _ hsecond)

theorem Ensures.mapM {f : α → Reserving (List β)} {asked : α → List ρ}
    (h : ∀ a, Ensures (f a) (R (asked a))) (as : List α) :
    Ensures (List.flatten <$> as.mapM f) (R (as.flatMap asked)) := by
  induction as with
  | nil => exact ensures_pure hR.nil
  | cons a as ih =>
    rw [flatten_mapM_cons]
    exact Ensures.inTurn hR (h a) ih

end InTurn

/-! ## Whether a step succeeds -/

/-- Whether a step succeeds just if a condition holds, whatever names are taken before it. -/
def SucceedsIff (step : Reserving α) (p : Prop) : Prop :=
  ∀ taken, (∃ a later, step.run taken = .ok (a, later)) ↔ p

section SucceedsIff

variable {p q : Prop}

theorem succeedsIff_pure (a : α) : SucceedsIff (pure a) True :=
  fun taken => iff_of_true ⟨a, taken, rfl⟩ trivial

theorem SucceedsIff.congr {step : Reserving α} (h : SucceedsIff step p) (hpq : p ↔ q) :
    SucceedsIff step q :=
  fun taken => (h taken).trans hpq

theorem SucceedsIff.bind {x : Reserving α} {f : α → Reserving β} (hx : SucceedsIff x p)
    (hf : ∀ taken a later, x.run taken = .ok (a, later) → SucceedsIff (f a) q) :
    SucceedsIff (x >>= f) (p ∧ q) := by
  intro taken
  simp only [run_bind_eq_ok_iff]
  constructor
  · rintro ⟨b, later, a, mid, ha, hb⟩
    exact ⟨(hx taken).mp ⟨a, mid, ha⟩, (hf _ _ _ ha mid).mp ⟨b, later, hb⟩⟩
  · rintro ⟨hp, hq⟩
    obtain ⟨a, mid, ha⟩ := (hx taken).mpr hp
    obtain ⟨b, later, hb⟩ := (hf _ _ _ ha mid).mpr hq
    exact ⟨b, later, a, mid, ha, hb⟩

/-- Where a step goes on from a result in a way that names do not stop, names do not stop it. -/
theorem exists_succeedsIff_bind_lift {x : Emission α} {f : α → Reserving β}
    (h : ∀ a, x = .ok a → ∃ p, SucceedsIff (f a) p) : ∃ p, SucceedsIff (liftM x >>= f) p := by
  cases x with
  | error e =>
    refine ⟨False, fun taken => iff_of_false ?_ id⟩
    rintro ⟨b, later, hrun⟩
    cases hrun
  | ok a =>
    obtain ⟨p, hp⟩ := h a rfl
    exact ⟨p, hp⟩

theorem succeedsIff_lift (x : Emission α) : SucceedsIff (liftM x) (∃ a, x = .ok a) := by
  intro taken
  simp only [run_lift_eq_ok_iff, exists_and_left, exists_eq', and_true]

theorem SucceedsIff.inTurn {x y : Reserving (List α)} (hx : SucceedsIff x p)
    (hy : SucceedsIff y q) : SucceedsIff (inTurn x y) (p ∧ q) :=
  hx.bind fun _ _ _ _ =>
    (hy.bind fun _ _ _ _ => succeedsIff_pure _).congr (and_iff_left trivial)

theorem SucceedsIff.mapM {f : α → Reserving (List β)} {r : α → Prop} {as : List α}
    (h : ∀ a ∈ as, SucceedsIff (f a) (r a)) :
    SucceedsIff (List.flatten <$> as.mapM f) (∀ a ∈ as, r a) := by
  induction as with
  | nil => exact (succeedsIff_pure []).congr (iff_of_true trivial (List.forall_mem_nil r))
  | cons a as ih =>
    obtain ⟨ha, has⟩ := List.forall_mem_cons.mp h
    rw [flatten_mapM_cons]
    exact (ha.inTurn (ih has)).congr List.forall_mem_cons.symm

end SucceedsIff

end EngineBindings.Reserving
