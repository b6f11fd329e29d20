import Mathlib.Data.Fintype.Card
import Mathlib.Data.List.Perm.Subperm
import Mathlib.Data.Set.Finite.Basic
import Mathlib.Order.WellFounded

/-!
# Chains and loops

Parents of classes and dependencies of modules are followed from one name to the next.

* `RunsIntoLoop r a`: following `r` from `a` may come back to where it was.  Among finitely many
  elements that all have a successor among them, every one runs into a loop
  (`runsIntoLoop_of_forall_exists`); an accessible one never does (`not_runsIntoLoop_of_acc`).
* `LeadsTo next? a b`: some steps of a partial function lead from `a` to `b`.  If only listed
  elements have a next one, then no more steps than there are listed elements are needed
  (`LeadsTo.exists_steps_lt`): a shortest chain passes no element twice.
-/

namespace EngineBindings

open Relation

variable {α : Type}

/-! ## Loops -/

/-- Whether a way from an element leads to a loop. -/
def RunsIntoLoop (r : α → α → Prop) (a : α) : Prop :=
  ∃ b, ReflTransGen r a b ∧ TransGen r b b

theorem RunsIntoLoop.mono {r q : α → α → Prop} (hrq : ∀ a b, r a b → q a b) {a : α}
    (h : RunsIntoLoop r a) : RunsIntoLoop q a := by
  obtain ⟨b, hab, hbb⟩ := h
  exact ⟨b, ReflTransGen.mono hrq _ _ hab, TransGen.mono hrq _ _ hbb⟩

/-- The way to a loop, and the loop itself, never ends. -/
theorem RunsIntoLoop.exists_step {r : α → α → Prop} {a : α} (h : RunsIntoLoop r a) :
    ∃ c, r a c ∧ RunsIntoLoop r c := by
  obtain ⟨b, hab, hbb⟩ := h
  rcases ReflTransGen.cases_head hab with rfl | ⟨c, hac, hcb⟩
  · obtain ⟨c, hac, hca⟩ := TransGen.head'_iff.mp hbb
    exact ⟨c, hac, a, hca, hbb⟩
  · exact ⟨c, hac, b, hcb, hbb⟩

theorem not_runsIntoLoop_of_acc {r : α → α → Prop} {a : α} (h : Acc (fun b a => r a b) a) :
    ¬RunsIntoLoop r a := by
  induction h with
  | intro a _ ih =>
    intro hloop
    obtain ⟨c, hac, hc⟩ := hloop.exists_step
    exact ih c hac hc

/-- Where every element of a list has a successor in the list, there is no way out of it, and
every way comes back to where it was. -/
theorem runsIntoLoop_of_forall_exists {r : α → α → Prop} {xs : List α}
    (hnext : ∀ a ∈ xs, ∃ b ∈ xs, r a b) {a : α} (ha : a ∈ xs) : RunsIntoLoop r a := by
  by_contra hno
  let Reached := { b // b ∈ xs ∧ ReflTransGen r a b }
  have : Finite Reached :=
    Set.Finite.subset (List.finite_toSet xs) fun b (hb : b ∈ xs ∧ ReflTransGen r a b) => hb.1
  let later : Reached → Reached → Prop := fun c b => TransGen r b.1 c.1
  have : IsTrans Reached later := ⟨fun _ _ _ hdc hcb => hcb.trans hdc⟩
  have : Std.Irrefl later := ⟨fun b hbb => hno ⟨b.1, b.2.2, hbb⟩⟩
  obtain ⟨b, -, hlast⟩ := (Finite.wellFounded_of_trans_of_irrefl later).has_min Set.univ
    ⟨⟨a, ha, .refl⟩, trivial⟩
  obtain ⟨c, hc, hbc⟩ := hnext b.1 b.2.1
  exact hlast ⟨c, hc, b.2.2.tail hbc⟩ trivial (.single hbc)

/-! ## Chains of a partial function -/

/-- Whether one or more steps of a partial function lead from an element to another one. -/
def LeadsTo (next? : α → Option α) : α → α → Prop :=
  TransGen fun a b => next? a = some b

/-- What so many steps lead to. -/
def stepsFrom (next? : α → Option α) : Nat → Option α → Option α
  | 0, a? => a?
  | n + 1, a? => stepsFrom next? n (a?.bind next?)

variable {next? : α → Option α}

@[simp] theorem stepsFrom_none (n : Nat) : stepsFrom next? n none = none := by
  induction n with
  | zero => rfl
  | succ n ih => exact ih

theorem stepsFrom_add (m n : Nat) (a? : Option α) :
    stepsFrom next? (m + n) a? = stepsFrom next? n (stepsFrom next? m a?) := by
  induction m generalizing a? with
  | zero => simp [stepsFrom]
  | succ m ih => rw [Nat.succ_add]; exact ih _

theorem stepsFrom_succ (n : Nat) (a? : Option α) :
    stepsFrom next? (n + 1) a? = (stepsFrom next? n a?).bind next? :=
  stepsFrom_add n 1 a?

theorem leadsTo_iff {a b : α} : LeadsTo next? a b ↔ ∃ n, stepsFrom next? n (next? a) = some b := by
  constructor
  · intro h
    induction h with
    | single hab => exact ⟨0, hab⟩
    | tail _ hbc ih =>
      obtain ⟨n, hn⟩ := ih
      exact ⟨n + 1, by rw [stepsFrom_succ, hn]; exact hbc⟩
  · rintro ⟨n, hn⟩
    induction n generalizing b with
    | zero => exact .single hn
    | succ n ih =>
      rw [stepsFrom_succ] at hn
      obtain ⟨c, hc, hcb⟩ := Option.bind_eq_some_iff.mp hn
      exact (ih hc).tail hcb

/-- A chain is passed step by step: what comes before an element of it is an element. -/
theorem exists_stepsFrom_of_le {m n : Nat} (hmn : m ≤ n) {a? : Option α} {b : α}
    (h : stepsFrom next? n a? = some b) : ∃ c, stepsFrom next? m a? = some c := by
  obtain ⟨k, rfl⟩ := Nat.exists_eq_add_of_le hmn
  rw [stepsFrom_add] at h
  cases hm : stepsFrom next? m a? with
  | none => rw [hm, stepsFrom_none] at h; cases h
  | some c => exact ⟨c, rfl⟩

/-- Before a chain first leads to an element, it passes no element twice: else the steps between
could be left out. -/
theorem stepsFrom_injective {a b : α} {n : Nat} (hn : stepsFrom next? n (next? a) = some b)
    (hleast : ∀ m < n, stepsFrom next? m (next? a) ≠ some b) {i j : Nat} (hij : i < j)
    (hj : j ≤ n) : stepsFrom next? i (some a) ≠ stepsFrom next? j (some a) := by
  intro heq
  have hb : stepsFrom next? (j + (n + 1 - j)) (some a) = some b := by
    rw [show j + (n + 1 - j) = n + 1 by omega]
    exact hn
  have hshort : stepsFrom next? (i + (n - j) + 1) (some a) = some b := by
    rw [show i + (n - j) + 1 = i + (n + 1 - j) by omega, stepsFrom_add, heq, ← stepsFrom_add]
    exact hb
  exact hleast (i + (n - j)) (by omega) hshort

/-- If only listed elements have a next one, then whatever is reached at all is reached in fewer
steps from the next one than elements are listed. -/
theorem LeadsTo.exists_steps_lt {xs : List α} (hxs : ∀ a b, next? a = some b → a ∈ xs) {a b : α}
    (h : LeadsTo next? a b) : ∃ n < xs.length, stepsFrom next? n (next? a) = some b := by
  classical
  have hex := leadsTo_iff.mp h
  have hn : stepsFrom next? (Nat.find hex) (next? a) = some b := Nat.find_spec hex
  have hleast : ∀ m < Nat.find hex, stepsFrom next? m (next? a) ≠ some b :=
    fun m hm => Nat.find_min hex hm
  refine ⟨Nat.find hex, ?_, hn⟩
  generalize Nat.find hex = n at hn hleast
  let passed := (List.range (n + 1)).map fun i => stepsFrom next? i (some a)
  have hnodup : passed.Nodup := by
    refine List.pairwise_map.mpr (List.pairwise_lt_range.imp_of_mem ?_)
    intro i j _ hj hij
    exact stepsFrom_injective hn hleast hij (by simpa [Nat.lt_succ_iff] using hj)
  have hsubset : passed ⊆ xs.map some := by
    intro c? hc?
    obtain ⟨i, hi, rfl⟩ := List.mem_map.mp hc?
    have hi : i ≤ n := by simpa [Nat.lt_succ_iff] using hi
    have hend : stepsFrom next? (n + 1) (some a) = some b := hn
    obtain ⟨c, hc⟩ := exists_stepsFrom_of_le (Nat.le_succ_of_le hi) hend
    obtain ⟨d, hd⟩ := exists_stepsFrom_of_le (Nat.succ_le_succ hi) hend
    rw [stepsFrom_succ, hc] at hd
    exact List.mem_map.mpr ⟨c, hxs c d hd, hc.symm⟩
  have hlength := (hnodup.subperm hsubset).length_le
  simp only [passed, List.length_map, List.length_range] at hlength
  exact hlength

end EngineBindings
