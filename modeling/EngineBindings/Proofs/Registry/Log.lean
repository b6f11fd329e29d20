import EngineBindings.Proofs.Registry.ClassDatabase
import Mathlib.Data.List.Induction

/-!
# What the class database keeps of its calls

A call takes effect for a class if it brings the class or takes it away, which its answer tells
(`TakesEffect`).  After any calls the database is told from the calls alone (`Replays`,
`run_replays`): registered are the classes for which the last call that took effect is a
registration (`IsLastEvent`); of this registration are the parent, the flag, and the place in the
order; and the members are those that were recorded since.

Two lemmas carry this.  From a registration on, the record of a class grows by the members that are
recorded for it, as long as no call removes the class (`record?_run_of_kept`); and a registration is
the last call that took effect exactly if the class was not there before and is not removed
afterwards (`isLastEvent_register_iff`).
-/

namespace EngineBindings

namespace RegistryCall

/-- The class that a call brings or takes away, if the call takes effect. -/
def subject? : RegistryCall → Option String
  | register name _ _ | unregister name => some name
  | addMember _ _ | isSubclass _ _ => none

/-- The member that a call records for a class. -/
def memberOf? (name : String) : RegistryCall → Option RegisteredMember
  | addMember n member => if n = name then some member else none
  | register _ _ _ | unregister _ | isSubclass _ _ => none

end RegistryCall

namespace ClassDatabase

/-! ## Calls that take effect -/

/-- Whether a call brings a class or takes it away. -/
def TakesEffect (db : ClassDatabase) (name : String) (call : RegistryCall) : Prop :=
  call.subject? = some name ∧ (db.perform call).2 = some true

variable {db : ClassDatabase} {name : String} {call : RegistryCall}

theorem takesEffect_register_iff {n : String} {parent? : Option String} {isRefCounted : Bool} :
    db.TakesEffect name (.register n parent? isRefCounted) ↔
      n = name ∧ db.isRegistered name = false := by
  simp only [TakesEffect, RegistryCall.subject?, perform, Option.some.injEq, Bool.not_eq_true']
  exact and_congr_right fun h => by rw [h]

theorem takesEffect_unregister_iff {n : String} :
    db.TakesEffect name (.unregister n) ↔ n = name ∧ db.isRegistered name = true := by
  simp only [TakesEffect, RegistryCall.subject?, perform, Option.some.injEq]
  exact and_congr_right fun h => by rw [h]

/-- A registration that takes effect brings the class, a removal takes it away. -/
theorem isRegistered_perform_of_takesEffect (h : db.TakesEffect name call) :
    (db.perform call).1.isRegistered name = !db.isRegistered name := by
  cases call with
  | register n parent? isRefCounted =>
    obtain ⟨rfl, hnew⟩ := takesEffect_register_iff.mp h
    simp [perform, hnew]
  | unregister n =>
    obtain ⟨rfl, hold⟩ := takesEffect_unregister_iff.mp h
    simp [perform, hold]
  | addMember n member => cases h.1
  | isSubclass n ancestor => cases h.1

/-- No other call changes whether the class is registered. -/
theorem isRegistered_perform_of_not_takesEffect (h : ¬db.TakesEffect name call) :
    (db.perform call).1.isRegistered name = db.isRegistered name := by
  cases call with
  | register n parent? isRefCounted =>
    rw [perform, isRegistered_register]
    by_cases hn : name = n
    · have hold : db.isRegistered name = true := by
        by_contra hnew
        exact h (takesEffect_register_iff.mpr ⟨hn.symm, Bool.eq_false_iff.mpr hnew⟩)
      rw [hold, Bool.or_true]
    · rw [beq_false_of_ne hn, Bool.false_or]
  | unregister n =>
    rw [perform, isRegistered_unregister]
    by_cases hn : name = n
    · have hnew : db.isRegistered name = false := by
        by_contra hold
        exact h (takesEffect_unregister_iff.mpr ⟨hn.symm, eq_true_of_ne_false hold⟩)
      rw [hnew, Bool.and_false]
    · rw [bne_iff_ne.mpr hn, Bool.true_and]
  | addMember n member => exact db.isRegistered_addMember n name member
  | isSubclass n ancestor => exact db.isRegistered_remember n name ancestor

theorem run_concat (calls : List RegistryCall) :
    db.run (calls ++ [call]) = ((db.run calls).perform call).1 :=
  run_append db calls [call]

/-! ## The record of a class that stays -/

theorem record?_perform_of_kept {record : ClassRecord} (hrecord : db.record? name = some record)
    (hkept : call ≠ .unregister name) :
    (db.perform call).1.record? name =
      some { record with members := record.members ++ (call.memberOf? name).toList } := by
  have hregistered : db.isRegistered name = true := by
    rw [isRegistered, hrecord, Option.isSome_some]
  cases call with
  | register n parent? isRefCounted =>
    have hold : ¬(name = n ∧ db.isRegistered n = false) := by
      rintro ⟨rfl, hnew⟩
      rw [hregistered] at hnew
      cases hnew
    rw [perform, record?_register, if_neg hold, hrecord, RegistryCall.memberOf?, Option.toList_none,
      List.append_nil]
  | unregister n =>
    have hne : name ≠ n := fun heq => hkept (by rw [heq])
    rw [perform, record?_unregister, if_neg hne, hrecord, RegistryCall.memberOf?,
      Option.toList_none, List.append_nil]
  | addMember n member =>
    rw [perform, record?_addMember, hrecord, Option.map_some, RegistryCall.memberOf?]
    by_cases hn : n = name
    · rw [if_pos hn, if_pos hn.symm, Option.toList_some]
    · rw [if_neg hn, if_neg (fun heq => hn heq.symm), Option.toList_none, List.append_nil]
  | isSubclass n ancestor =>
    rw [perform, record?_remember, hrecord, RegistryCall.memberOf?, Option.toList_none,
      List.append_nil]

/-- As long as a class is not removed, its record grows by the members that are recorded for it. -/
theorem record?_run_of_kept {record : ClassRecord} (hrecord : db.record? name = some record)
    {calls : List RegistryCall} (hkept : .unregister name ∉ calls) :
    (db.run calls).record? name =
      some { record with members := record.members ++ calls.filterMap (·.memberOf? name) } := by
  induction calls generalizing db record with
  | nil => rw [List.filterMap_nil, List.append_nil]; exact hrecord
  | cons call rest ih =>
    have hcall : call ≠ .unregister name := fun heq => hkept (heq ▸ List.mem_cons_self)
    have hrest : .unregister name ∉ rest := fun hmem => hkept (List.mem_cons_of_mem _ hmem)
    have hmembers : (call :: rest).filterMap (·.memberOf? name) =
        (call.memberOf? name).toList ++ rest.filterMap (·.memberOf? name) := by
      rw [List.filterMap_cons]
      cases call.memberOf? name <;> rfl
    rw [run, List.foldl_cons, ← run, ih (record?_perform_of_kept hrecord hcall) hrest, hmembers,
      List.append_assoc]

/-! ## The last call that took effect -/

/-- Whether a call is the last one that took effect for a class, and what stands before and after
it. -/
structure IsLastEvent (calls : List RegistryCall) (name : String) (before : List RegistryCall)
    (call : RegistryCall) (after : List RegistryCall) : Prop where
  split : calls = before ++ call :: after
  takesEffect : (empty.run before).TakesEffect name call
  last : ∀ mid later rest, after = mid ++ later :: rest →
    ¬(empty.run (before ++ call :: mid)).TakesEffect name later

variable {calls before after : List RegistryCall} {parent? : Option String} {isRefCounted : Bool}

theorem isRegistered_run_of_kept (h : db.isRegistered name = true)
    (hkept : .unregister name ∉ calls) : (db.run calls).isRegistered name = true := by
  obtain ⟨record, hrecord⟩ := Option.isSome_iff_exists.mp h
  rw [isRegistered, record?_run_of_kept hrecord hkept, Option.isSome_some]

theorem record?_perform_register (h : db.isRegistered name = false) :
    (db.perform (.register name parent? isRefCounted)).1.record? name =
      some ⟨parent?, isRefCounted, []⟩ := by
  rw [perform, record?_register, if_pos ⟨rfl, h⟩]

theorem run_append_cons : db.run (before ++ call :: after) =
    (((db.run before).perform call).1).run after := by
  rw [run_append]
  rfl

/-- A registration that takes effect is the last call that does, if the class is not removed
afterwards: until then all further registrations are refused. -/
theorem isLastEvent_register_iff :
    IsLastEvent calls name before (.register name parent? isRefCounted) after ↔
      calls = before ++ .register name parent? isRefCounted :: after ∧
        (empty.run before).isRegistered name = false ∧ .unregister name ∉ after := by
  have hregistered : ∀ mid : List RegistryCall, (empty.run before).isRegistered name = false →
      .unregister name ∉ mid →
      (empty.run (before ++ .register name parent? isRefCounted :: mid)).isRegistered name =
        true := by
    intro mid hnew hmid
    rw [run_append_cons]
    refine isRegistered_run_of_kept ?_ hmid
    rw [isRegistered, record?_perform_register hnew, Option.isSome_some]
  constructor
  · rintro ⟨hsplit, heffect, hlast⟩
    obtain ⟨-, hnew⟩ := takesEffect_register_iff.mp heffect
    refine ⟨hsplit, hnew, fun hmem => ?_⟩
    obtain ⟨mid, rest, hafter, hmid⟩ := List.eq_append_cons_of_mem hmem
    exact hlast mid _ rest hafter (takesEffect_unregister_iff.mpr ⟨rfl, hregistered mid hnew hmid⟩)
  · rintro ⟨hsplit, hnew, hkept⟩
    refine ⟨hsplit, takesEffect_register_iff.mpr ⟨rfl, hnew⟩, ?_⟩
    rintro mid later rest rfl heffect
    have hmid : .unregister name ∉ mid := fun hmem => hkept (List.mem_append_left _ hmem)
    have hthere := hregistered mid hnew hmid
    cases later with
    | register n p r =>
      obtain ⟨-, hgone⟩ := takesEffect_register_iff.mp heffect
      rw [hthere] at hgone
      cases hgone
    | unregister n =>
      obtain ⟨rfl, -⟩ := takesEffect_unregister_iff.mp heffect
      exact hkept (List.mem_append_right _ List.mem_cons_self)
    | addMember n member => cases heffect.1
    | isSubclass n ancestor => cases heffect.1

/-- The record of a class is of its last registration, with the members recorded since. -/
theorem IsLastEvent.record?_eq
    (h : IsLastEvent calls name before (.register name parent? isRefCounted) after) :
    (empty.run calls).record? name =
      some ⟨parent?, isRefCounted, after.filterMap (·.memberOf? name)⟩ := by
  obtain ⟨rfl, hnew, hkept⟩ := isLastEvent_register_iff.mp h
  rw [run_append_cons, record?_run_of_kept (record?_perform_register hnew) hkept, List.nil_append]

theorem IsLastEvent.isRegistered
    (h : IsLastEvent calls name before (.register name parent? isRefCounted) after) :
    (empty.run calls).isRegistered name = true := by
  rw [ClassDatabase.isRegistered, h.record?_eq, Option.isSome_some]

/-- What happens to the last registration of a class with one more call. -/
theorem isLastEvent_concat_iff :
    IsLastEvent (calls ++ [call]) name before (.register name parent? isRefCounted) after ↔
      (call = .register name parent? isRefCounted ∧ before = calls ∧ after = [] ∧
        (empty.run calls).isRegistered name = false) ∨
      ∃ rest, after = rest ++ [call] ∧ call ≠ .unregister name ∧
        IsLastEvent calls name before (.register name parent? isRefCounted) rest := by
  simp only [isLastEvent_register_iff]
  constructor
  · rintro ⟨hsplit, hnew, hkept⟩
    rcases List.eq_nil_or_concat after with rfl | ⟨rest, last, rfl⟩
    · obtain ⟨rfl, hcall⟩ := List.append_inj' hsplit rfl
      exact .inl ⟨List.singleton_inj.mp hcall, rfl, rfl, hnew⟩
    · rw [List.concat_eq_append, ← List.cons_append, ← List.append_assoc] at hsplit
      obtain ⟨hcalls, hcall⟩ := List.append_inj' hsplit rfl
      obtain rfl := List.singleton_inj.mp hcall
      rw [List.concat_eq_append, List.mem_append, List.mem_singleton, not_or] at hkept
      exact .inr ⟨rest, List.concat_eq_append, fun heq => hkept.2 heq.symm, hcalls, hnew, hkept.1⟩
  · rintro (⟨rfl, rfl, rfl, hnew⟩ | ⟨rest, rfl, hcall, rfl, hnew, hkept⟩)
    · exact ⟨rfl, hnew, List.not_mem_nil⟩
    · refine ⟨by simp, hnew, ?_⟩
      rw [List.mem_append, List.mem_singleton, not_or]
      exact ⟨hkept, fun heq => hcall heq.symm⟩

/-- A class is registered if the last call that took effect for it is a registration. -/
theorem isRegistered_run_iff :
    (empty.run calls).isRegistered name = true ↔ ∃ before parent? isRefCounted after,
      IsLastEvent calls name before (.register name parent? isRefCounted) after := by
  constructor
  · induction calls using List.reverseRecOn with
    | nil => exact fun h => nomatch h
    | append_singleton calls call ih =>
      intro h
      rw [run_concat] at h
      by_cases heffect : (empty.run calls).TakesEffect name call
      · -- what brings the class is a registration, and no call follows it
        rw [isRegistered_perform_of_takesEffect heffect, Bool.not_eq_true'] at h
        cases call with
        | register n parent? isRefCounted =>
          obtain ⟨rfl, hnew⟩ := takesEffect_register_iff.mp heffect
          exact ⟨calls, parent?, isRefCounted, [],
            isLastEvent_concat_iff.mpr (.inl ⟨rfl, rfl, rfl, hnew⟩)⟩
        | unregister n =>
          obtain ⟨rfl, hold⟩ := takesEffect_unregister_iff.mp heffect
          rw [h] at hold
          cases hold
        | addMember n member => cases heffect.1
        | isSubclass n ancestor => cases heffect.1
      · rw [isRegistered_perform_of_not_takesEffect heffect] at h
        obtain ⟨before, parent?, isRefCounted, rest, hlast⟩ := ih h
        refine ⟨before, parent?, isRefCounted, rest ++ [call],
          isLastEvent_concat_iff.mpr (.inr ⟨rest, rfl, ?_, hlast⟩)⟩
        rintro rfl
        exact heffect (takesEffect_unregister_iff.mpr ⟨rfl, h⟩)
  · rintro ⟨before, parent?, isRefCounted, after, hlast⟩
    exact hlast.isRegistered

/-- In terms of calls alone, refused or not: it was registered, and not removed since. -/
theorem isRegistered_run_iff_kept :
    (empty.run calls).isRegistered name = true ↔ ∃ before parent? isRefCounted after,
      calls = before ++ .register name parent? isRefCounted :: after ∧
        .unregister name ∉ after := by
  constructor
  · intro h
    obtain ⟨before, parent?, isRefCounted, after, hlast⟩ := isRegistered_run_iff.mp h
    obtain ⟨hsplit, -, hkept⟩ := isLastEvent_register_iff.mp hlast
    exact ⟨before, parent?, isRefCounted, after, hsplit, hkept⟩
  · rintro ⟨before, parent?, isRefCounted, after, rfl, hkept⟩
    rw [run_append_cons]
    refine isRegistered_run_of_kept ?_ hkept
    rw [perform, isRegistered_register, beq_self_eq_true, Bool.true_or]

/-! ## The order of registration -/

/-- Whether the latest registration of a class comes before that of another one. -/
def CameBefore (calls : List RegistryCall) (x y : String) : Prop :=
  ∀ before parent? isRefCounted after before' parent'? isRefCounted' after',
    IsLastEvent calls x before (.register x parent? isRefCounted) after →
      IsLastEvent calls y before' (.register y parent'? isRefCounted') after' →
        before.length < before'.length

/-- Further calls leave classes in the order in which they came, as long as they stay. -/
theorem CameBefore.concat {x y : String} (h : CameBefore calls x y)
    (hx : (empty.run calls).isRegistered x = true) (hy : (empty.run calls).isRegistered y = true) :
    CameBefore (calls ++ [call]) x y := by
  intro before _ _ _ before' _ _ _ hlast hlast'
  rcases isLastEvent_concat_iff.mp hlast with ⟨-, -, -, hnew⟩ | ⟨_, -, -, hold⟩
  · rw [hx] at hnew
    cases hnew
  · rcases isLastEvent_concat_iff.mp hlast' with ⟨-, -, -, hnew'⟩ | ⟨_, -, -, hold'⟩
    · rw [hy] at hnew'
      cases hnew'
    · exact h _ _ _ _ _ _ _ _ hold hold'

/-- A class that comes with the last call comes after all others. -/
theorem cameBefore_register {x y : String} (hx : (empty.run calls).isRegistered x = true)
    (hy : (empty.run calls).isRegistered y = false) :
    CameBefore (calls ++ [call]) x y := by
  intro before _ _ _ before' _ _ _ hlast hlast'
  have hbefore' : before' = calls := by
    rcases isLastEvent_concat_iff.mp hlast' with ⟨-, heq, -⟩ | ⟨_, -, -, hold⟩
    · exact heq
    · rw [hold.isRegistered] at hy
      cases hy
  rcases isLastEvent_concat_iff.mp hlast with ⟨-, -, -, hnew⟩ | ⟨rest, -, -, hold⟩
  · rw [hx] at hnew
    cases hnew
  · rw [hbefore', hold.split, List.length_append, List.length_cons]
    omega

theorem names_pairwise_cameBefore (calls : List RegistryCall) :
    (empty.run calls).names.Pairwise (CameBefore calls) := by
  induction calls using List.reverseRecOn with
  | nil => exact .nil
  | append_singleton calls call ih =>
    have hregistered : ∀ x ∈ (empty.run calls).names, (empty.run calls).isRegistered x = true :=
      fun x hx => ((inStep_run _ .empty calls).mem_iff x).mp hx
    have hstay : (empty.run calls).names.Pairwise (CameBefore (calls ++ [call])) :=
      ih.imp_of_mem fun hx hy h => h.concat (hregistered _ hx) (hregistered _ hy)
    rw [run_concat]
    cases call with
    | register n parent? isRefCounted =>
      rw [perform, names_register]
      split
      · exact hstay
      · next hnew =>
        refine List.pairwise_append.mpr ⟨hstay, List.pairwise_singleton _ _, fun x hx y hy => ?_⟩
        obtain rfl := List.mem_singleton.mp hy
        exact cameBefore_register (hregistered x hx) (Bool.eq_false_iff.mpr hnew)
    | unregister n => exact hstay.filter _
    | addMember n member => exact hstay
    | isSubclass n ancestor =>
      rw [perform, names_remember]
      exact hstay

/-! ## Main statement -/

/-- Whether a database is what some calls make of an empty one, as the calls alone tell. -/
structure Replays (calls : List RegistryCall) (db : ClassDatabase) : Prop where
  isRegistered_iff : ∀ name, db.isRegistered name = true ↔ ∃ before parent? isRefCounted after,
    IsLastEvent calls name before (.register name parent? isRefCounted) after
  isRegistered_iff_kept : ∀ name, db.isRegistered name = true ↔
    ∃ before parent? isRefCounted after,
      calls = before ++ .register name parent? isRefCounted :: after ∧ .unregister name ∉ after
  names_nodup : db.names.Nodup
  mem_names_iff : ∀ name, name ∈ db.names ↔ db.isRegistered name = true
  names_ordered : db.names.Pairwise (CameBefore calls)
  /-- The parent and the flag are of the last registration, the members have been recorded since. -/
  of_isLastEvent : ∀ name before parent? isRefCounted after,
    IsLastEvent calls name before (.register name parent? isRefCounted) after →
      db.record? name = some ⟨parent?, isRefCounted, after.filterMap (·.memberOf? name)⟩ ∧
        db.parentOf? name = parent? ∧ db.members name = after.filterMap (·.memberOf? name)
  members_of_not_isRegistered : ∀ name, db.isRegistered name = false → db.members name = []
  /-- What is refused changes nothing. -/
  refused : ∀ call, (db.perform call).2 = some false → call.subject?.isSome = true →
    (db.perform call).1 = db
  /-- A member of a class that is not registered is not recorded. -/
  unknown : ∀ name member, db.isRegistered name = false →
    (db.perform (.addMember name member)).1 = db

theorem InStep.perform_of_refused (hdb : db.InStep) (hrefused : (db.perform call).2 = some false)
    (hsubject : call.subject?.isSome = true) : (db.perform call).1 = db := by
  cases call with
  | register n parent? isRefCounted =>
    have hold : db.isRegistered n = true := by simpa [ClassDatabase.perform] using hrefused
    exact db.register_of_isRegistered n parent? isRefCounted hold
  | unregister n =>
    have hnew : db.isRegistered n = false := by simpa [ClassDatabase.perform] using hrefused
    exact hdb.unregister_of_not_isRegistered hnew
  | addMember n member => cases hsubject
  | isSubclass n ancestor => cases hsubject

/-- The database after any calls, starting without classes. -/
theorem run_replays (calls : List RegistryCall) : Replays calls (empty.run calls) := by
  have hstep : (empty.run calls).InStep := inStep_run _ .empty calls
  exact
    { isRegistered_iff := fun _ => isRegistered_run_iff
      isRegistered_iff_kept := fun _ => isRegistered_run_iff_kept
      names_nodup := hstep.nodup
      mem_names_iff := hstep.mem_iff
      names_ordered := names_pairwise_cameBefore calls
      of_isLastEvent := fun name before parent? isRefCounted after h => by
        refine ⟨h.record?_eq, ?_, ?_⟩
        · rw [parentOf?, h.record?_eq, Option.bind_some]
        · rw [members, h.record?_eq, Option.map_some, Option.getD_some]
      members_of_not_isRegistered := fun name h => by
        rw [members, (record?_eq_none_iff _ name).mpr h, Option.map_none, Option.getD_none]
      refused := fun _ => hstep.perform_of_refused
      unknown := fun name member h => addMember_of_not_isRegistered _ name member h }

example :
    (empty.run [.register "A" none false, .register "B" none false, .unregister "A",
      .register "B" none true, .register "A" (some "B") true]).names = ["B", "A"] := by decide

end ClassDatabase

end EngineBindings
