import EngineBindings.Proofs.Chain
import EngineBindings.Proofs.Registry.ClassDatabase

/-!
# Remembered answers about inheritance

The class database remembers every answer about inheritance until a class comes or goes.

* `findAncestor_iff`: the walk up the parent links finds exactly the ancestors.  It takes as many
  steps as classes are registered; a shortest way up passes every registered class at most once
  (`LeadsTo.exists_steps_lt`), so this bound cuts off nothing, and a walk round a loop ends.
* `AnswersCurrent`: every remembered answer is what the walk finds now.  Each call keeps it
  (`AnswersCurrent.perform`), so it holds after any calls (`answersCurrent_run`).
* `isSubclass_run_iff`: whatever was called before, an answer is as if nothing were remembered.
-/

namespace EngineBindings.ClassDatabase

variable {db : ClassDatabase}

/-! ## The walk up -/

theorem reaches_iff {ancestor : String} {steps : Nat} {name? : Option String} :
    db.reaches ancestor steps name? = true ↔
      ∃ n ≤ steps, stepsFrom db.parentOf? n name? = some ancestor := by
  induction steps generalizing name? with
  | zero =>
    cases name? with
    | none => simp [reaches]
    | some name => simp [reaches, stepsFrom]
  | succ steps ih =>
    cases name? with
    | none => simp [reaches]
    | some name =>
      simp only [reaches, Bool.or_eq_true, beq_iff_eq, ih]
      constructor
      · rintro (rfl | ⟨n, hn, h⟩)
        · exact ⟨0, Nat.zero_le _, rfl⟩
        · exact ⟨n + 1, Nat.succ_le_succ hn, h⟩
      · rintro ⟨n, hn, h⟩
        cases n with
        | zero => exact .inl (Option.some.inj h)
        | succ n => exact .inr ⟨n, Nat.le_of_succ_le_succ hn, h⟩

/-- Whatever lies above a class is found within as many steps as classes are registered, and a
longer walk finds no more. -/
theorem reaches_parent_iff {name ancestor : String} (extra : Nat) :
    db.reaches ancestor (db.classes.length + extra) (db.parentOf? name) = true ↔
      LeadsTo db.parentOf? name ancestor := by
  rw [reaches_iff]
  constructor
  · rintro ⟨n, -, hn⟩
    exact leadsTo_iff.mpr ⟨n, hn⟩
  · intro h
    have hkeys : ∀ a b, db.parentOf? a = some b → a ∈ db.classes.map Prod.fst :=
      fun a b hab => (db.mem_keys_iff a).mpr (db.isRegistered_of_parentOf? hab)
    obtain ⟨n, hlt, hn⟩ := h.exists_steps_lt hkeys
    have hlength : (db.classes.map Prod.fst).length = db.classes.length := List.length_map _
    exact ⟨n, by omega, hn⟩

theorem findAncestor_iff {name ancestor : String} :
    db.findAncestor name ancestor = true ↔ LeadsTo db.parentOf? name ancestor :=
  reaches_parent_iff 0

/-- The walk reads nothing of the classes but their parents. -/
theorem findAncestor_congr {db' : ClassDatabase} (h : db.parentOf? = db'.parentOf?)
    (name ancestor : String) : db.findAncestor name ancestor = db'.findAncestor name ancestor := by
  rw [Bool.eq_iff_iff, findAncestor_iff, findAncestor_iff, h]

/-! ## What is remembered -/

/-- Every remembered answer is what the walk finds now. -/
def AnswersCurrent (db : ClassDatabase) : Prop :=
  ∀ name ancestor answer, ((name, ancestor), answer) ∈ db.answers →
    answer = db.findAncestor name ancestor

theorem answersCurrent_of_answers_eq_nil (h : db.answers = []) : db.AnswersCurrent := by
  intro name ancestor answer hmem
  rw [h] at hmem
  cases hmem

namespace AnswersCurrent

theorem register (h : db.AnswersCurrent) (name : String) (parent? : Option String)
    (isRefCounted : Bool) : (db.register name parent? isRefCounted).AnswersCurrent := by
  unfold ClassDatabase.register
  split
  · exact h
  · exact answersCurrent_of_answers_eq_nil rfl

/-- What is not registered has no parent to lose, so the answers stay what they were. -/
theorem unregister (h : db.AnswersCurrent) (name : String) :
    (db.unregister name).AnswersCurrent := by
  cases hname : db.isRegistered name with
  | true => exact answersCurrent_of_answers_eq_nil (if_pos hname)
  | false =>
    have hanswers : (db.unregister name).answers = db.answers := if_neg (Bool.eq_false_iff.mp hname)
    intro n ancestor answer hmem
    rw [findAncestor_congr (db.parentOf?_unregister_of_not_isRegistered name hname)]
    exact h n ancestor answer (hanswers ▸ hmem)

/-- A member changes no parent, so the answers stay what they were. -/
theorem addMember (h : db.AnswersCurrent) (name : String) (member : RegisteredMember) :
    (db.addMember name member).AnswersCurrent := by
  intro n ancestor answer hmem
  rw [findAncestor_congr (db.parentOf?_addMember name member)]
  exact h n ancestor answer hmem

theorem remember (h : db.AnswersCurrent) (name ancestor : String) :
    (db.remember name ancestor).AnswersCurrent := by
  intro n a answer hmem
  rw [findAncestor_congr (db.parentOf?_remember name ancestor)]
  unfold ClassDatabase.remember at hmem
  split at hmem
  · exact h n a answer hmem
  · rcases List.mem_cons.mp hmem with heq | hold
    · cases heq
      rfl
    · exact h n a answer hold

theorem perform (h : db.AnswersCurrent) (call : RegistryCall) :
    (db.perform call).1.AnswersCurrent := by
  cases call with
  | register name parent? isRefCounted => exact h.register name parent? isRefCounted
  | unregister name => exact h.unregister name
  | addMember name member => exact h.addMember name member
  | isSubclass name ancestor => exact h.remember name ancestor

/-- An answer that is remembered is the one that the walk would give. -/
theorem isSubclass_eq (h : db.AnswersCurrent) (name ancestor : String) :
    db.isSubclass name ancestor = (name == ancestor || db.findAncestor name ancestor) := by
  unfold isSubclass
  cases hlookup : db.answers.lookup (name, ancestor) with
  | none => rfl
  | some answer =>
    obtain ⟨before, after, heq, -⟩ := List.lookup_eq_some_iff.mp hlookup
    have hmem : ((name, ancestor), answer) ∈ db.answers := by
      rw [heq]
      exact List.mem_append_right _ List.mem_cons_self
    rw [Option.getD_some, h name ancestor answer hmem]

end AnswersCurrent

theorem answersCurrent_run (h : db.AnswersCurrent) (calls : List RegistryCall) :
    (db.run calls).AnswersCurrent :=
  run_induction h fun call _ _ hdb => hdb.perform call

/-- After any calls, a class is answered to inherit from another one exactly if it is that one, or
parent links of registered classes lead to it; the walk finds this by itself, and finds no more
when it may take more steps. -/
theorem isSubclass_run_iff (calls : List RegistryCall) (name ancestor : String) :
    let db := empty.run calls
    (db.isSubclass name ancestor = true ↔ name = ancestor ∨ LeadsTo db.parentOf? name ancestor) ∧
      (db.findAncestor name ancestor = true ↔ LeadsTo db.parentOf? name ancestor) ∧
      ∀ extra, db.reaches ancestor (db.classes.length + extra) (db.parentOf? name) =
        db.findAncestor name ancestor := by
  intro db
  have hcurrent : db.AnswersCurrent :=
    answersCurrent_run (answersCurrent_of_answers_eq_nil rfl) calls
  refine ⟨?_, findAncestor_iff, fun extra => ?_⟩
  · rw [hcurrent.isSubclass_eq, Bool.or_eq_true, beq_iff_eq, findAncestor_iff]
  · rw [Bool.eq_iff_iff, reaches_parent_iff, findAncestor_iff]

end EngineBindings.ClassDatabase
