import EngineBindings.Proofs.Registry.SubclassCache
import EngineBindings.Proofs.Schema.Inheritance

/-!
# A class database that holds the classes of a schema

A schema looks up a chain of parents in its list of classes; the class database walks up the classes
that came in one by one, and remembers what it found.  Once the classes of a schema are registered,
in whatever order and whatever was asked on the way, both know one parent of each name
(`RegistersAll.parentOf?_run`), and so both give one answer about inheritance
(`ClassDatabase.isSubclass_eq_inheritsFrom`).

A database that starts empty knows of each class what its first registration said
(`ClassDatabase.map_parent?_run`): a second one is refused, and no other call changes a parent.
-/

namespace EngineBindings

/-- The class that a call registers, with its parent. -/
def RegistryCall.registered? : RegistryCall → Option (String × Option String)
  | .register name parent? _ => some (name, parent?)
  | .unregister _ | .addMember _ _ | .isSubclass _ _ => none

/-- Calls that register the classes of a schema, each with its parent, in some order, and remove
none.  In between they may record members and ask what they like. -/
structure RegistersAll (s : Schema) (calls : List RegistryCall) : Prop where
  registers : ∀ name parent?, (name, parent?) ∈ calls.filterMap RegistryCall.registered? ↔
    ∃ c ∈ s.classes, c.name = name ∧ c.parent? = parent?
  keeps : ∀ name, .unregister name ∉ calls

namespace ClassDatabase

variable {db : ClassDatabase}

theorem map_parent?_perform {call : RegistryCall} (hkeeps : ∀ name, .unregister name ≠ call)
    (x : String) : ((db.perform call).1.record? x).map ClassRecord.parent? =
      ((db.record? x).map ClassRecord.parent?).or (call.registered?.toList.lookup x) := by
  cases call with
  | register name parent? isRefCounted =>
    rw [perform, record?_register, RegistryCall.registered?, Option.toList_some]
    by_cases hx : x = name
    · subst hx
      rw [isRegistered]
      cases db.record? x <;> simp
    · rw [if_neg (fun h => hx h.1), List.lookup_cons, beq_false_of_ne hx, List.lookup_nil,
        Option.or_none]
  | unregister name => exact absurd rfl (hkeeps name)
  | addMember name member =>
    rw [perform, record?_addMember, RegistryCall.registered?, Option.toList_none, List.lookup_nil,
      Option.or_none, Option.map_map]
    refine congrArg (Option.map · (db.record? x)) (funext fun record => ?_)
    dsimp only [Function.comp_apply]
    split <;> rfl
  | isSubclass name ancestor =>
    rw [perform, record?_remember, RegistryCall.registered?, Option.toList_none, List.lookup_nil,
      Option.or_none]

/-- What calls without removals make of the parent of a class: it stays, or it is what the first
registration says. -/
theorem map_parent?_run {calls : List RegistryCall} (hkeeps : ∀ name, .unregister name ∉ calls)
    (x : String) : ((db.run calls).record? x).map ClassRecord.parent? =
      ((db.record? x).map ClassRecord.parent?).or
        ((calls.filterMap RegistryCall.registered?).lookup x) := by
  induction calls generalizing db with
  | nil => rw [List.filterMap_nil, List.lookup_nil, Option.or_none]; rfl
  | cons call rest ih =>
    have hcall : ∀ name, .unregister name ≠ call := fun name heq =>
      hkeeps name (heq ▸ List.mem_cons_self)
    have hrest : ∀ name, .unregister name ∉ rest := fun name hmem =>
      hkeeps name (List.mem_cons_of_mem _ hmem)
    have hregistered : (call :: rest).filterMap RegistryCall.registered? =
        call.registered?.toList ++ rest.filterMap RegistryCall.registered? := by
      rw [List.filterMap_cons]
      cases call.registered? <;> rfl
    rw [run, List.foldl_cons, ← run, ih hrest, map_parent?_perform hcall, hregistered,
      List.lookup_append, Option.or_assoc]

end ClassDatabase

namespace RegistersAll

variable {s : Schema} {calls : List RegistryCall}

/-- A name is registered with the parent that the schema gives to it, and a name outside the schema
is not registered. -/
theorem lookup_registered (h : RegistersAll s calls) (hs : s.IsValid) (name : String) :
    (calls.filterMap RegistryCall.registered?).lookup name =
      (s.class? name).map ClassDescriptor.parent? := by
  obtain ⟨hnodup, -, -⟩ := Schema.isValid_iff.mp hs
  cases hlookup : (calls.filterMap RegistryCall.registered?).lookup name with
  | none =>
    cases hclass : s.class? name with
    | none => rfl
    | some c =>
      have hmem := (h.registers name c.parent?).mpr
        ⟨c, List.mem_of_find?_eq_some hclass, Schema.class?_name hclass, rfl⟩
      exact absurd rfl (bne_iff_ne.mp (List.lookup_eq_none_iff.mp hlookup _ hmem))
  | some parent? =>
    obtain ⟨before, after, hsplit, -⟩ := List.lookup_eq_some_iff.mp hlookup
    have hmem : (name, parent?) ∈ calls.filterMap RegistryCall.registered? := by
      rw [hsplit]
      exact List.mem_append_right _ List.mem_cons_self
    obtain ⟨c, hc, rfl, rfl⟩ := (h.registers name parent?).mp hmem
    rw [Schema.class?_of_mem hnodup hc, Option.map_some]

theorem parentOf?_run (h : RegistersAll s calls) (hs : s.IsValid) :
    (ClassDatabase.empty.run calls).parentOf? = s.parent? := by
  funext name
  have hrecord : ((ClassDatabase.empty.run calls).record? name).map ClassRecord.parent? =
      (s.class? name).map ClassDescriptor.parent? :=
    (ClassDatabase.map_parent?_run h.keeps name).trans (h.lookup_registered hs name)
  calc (ClassDatabase.empty.run calls).parentOf? name
    _ = (((ClassDatabase.empty.run calls).record? name).map ClassRecord.parent?).bind id := by
      rw [Option.bind_map, Function.id_comp, ClassDatabase.parentOf?]
    _ = ((s.class? name).map ClassDescriptor.parent?).bind id := by rw [hrecord]
    _ = s.parent? name := by rw [Option.bind_map, Function.id_comp, Schema.parent?]

end RegistersAll

/-- Once the classes of a schema are registered, in any order and whatever is asked in between, the
class database says of any two names what the schema says: whether one inherits from the other. -/
theorem ClassDatabase.isSubclass_eq_inheritsFrom {s : Schema} {calls : List RegistryCall}
    (hs : s.IsValid) (hcalls : RegistersAll s calls) (name ancestor : String) :
    (ClassDatabase.empty.run calls).isSubclass name ancestor = s.inheritsFrom name ancestor := by
  have hcurrent : (ClassDatabase.empty.run calls).AnswersCurrent :=
    answersCurrent_run (answersCurrent_of_answers_eq_nil rfl) calls
  rw [hcurrent.isSubclass_eq, Bool.eq_iff_iff, Schema.inheritsFrom_iff, Bool.or_eq_true, beq_iff_eq,
    findAncestor_iff, hcalls.parentOf?_run hs]

namespace SmallRegistration

/-- A tree of classes, and one below a class that is not listed. -/
def schema : Schema :=
  { (default : Schema) with classes := Schema.SmallTree.listed }

/-- The classes come in another order than the schema lists them, and what is asked before their
parents are there is answered otherwise than at the end. -/
def calls : List RegistryCall :=
  [.isSubclass "Sprite" "Object", .register "Sprite" (some "Node") false,
    .isSubclass "Sprite" "Object", .register "Object" none false,
    .register "Plugin" (some "Extension") true, .isSubclass "Sprite" "Node",
    .addMember "Object" default, .register "Node" (some "Object") false]

theorem registersAll_calls : RegistersAll schema calls where
  registers name parent? := by
    simp only [calls, schema, Schema.SmallTree.listed, Schema.SmallTree.named,
      RegistryCall.registered?, List.filterMap_cons, List.filterMap_nil, List.mem_cons,
      Prod.mk.injEq, List.not_mem_nil, or_false, exists_eq_or_imp, exists_eq_left]
    grind
  keeps name := by simp [calls]

end SmallRegistration

open SmallRegistration in
theorem ClassDatabase.isSubclass_eq_inheritsFrom_small :
    schema.IsValid ∧ RegistersAll schema calls ∧
      (empty.run (calls.take 2)).isSubclass "Sprite" "Object" = false ∧
      (empty.run calls).isSubclass "Sprite" "Object" = true ∧
      schema.inheritsFrom "Sprite" "Object" = true ∧
      (empty.run calls).isSubclass "Plugin" "Extension" =
        schema.inheritsFrom "Plugin" "Extension" ∧
      (empty.run calls).isSubclass "Ghost" "Object" = schema.inheritsFrom "Ghost" "Object" := by
  have hs : schema.IsValid := rfl
  have hagree := isSubclass_eq_inheritsFrom hs registersAll_calls
  have hinherits : schema.inheritsFrom "Sprite" "Object" = true := by decide +kernel
  exact ⟨hs, registersAll_calls, by decide +kernel, (hagree _ _).trans hinherits, hinherits,
    hagree _ _, hagree _ _⟩

end EngineBindings
