import EngineBindings.Proofs.Object.Exchange
import EngineBindings.Proofs.World.Setter
import EngineBindings.World.Act

/-!
# What setters do to objects

A call of a setter exchanges the object in its field for that of its argument, and puts the new
fields into the instance (`World.get?_perform_set`).  Without a value it leaves all objects as they
are.
-/

namespace EngineBindings

/-- The content of a property. -/
def ClassMember.content? {α : Type} : ClassMember α → Option α
  | property _ content => some content
  | _ => none

/-- What the field of a property does with references. -/
def ExportedProperty.ownership (p : ExportedProperty) : FieldOwnership :=
  .ofCategory p.type.category

/-- The exported properties of a class. -/
def ExportedClass.properties (c : ExportedClass) : List ExportedProperty :=
  c.members.filterMap ClassMember.content?

/-- The instance after a value was put into a field. -/
def Instance.setField (i : Instance) (field : String) (x : HostValue) : Instance :=
  { i with fields := i.fields.set field x }

/-- The value that a setter puts into the field of a property, if its argument has one. -/
def World.newValue? (w : World) (c : UserClass) (p : ExportedProperty) (args : List Variant) :
    Option HostValue :=
  ((ArgumentDecoder.ofCategory p.type.category true).read w.view (c.typeOf p.type) args
    0).toOption.join

/-- The name of a setter leads to an exported property. -/
theorem UserClass.mem_properties_of_access? {c : UserClass} {name property : String}
    {access : UserClass.Access} {p : ExportedProperty}
    (h : c.access? name = some (access, property, p)) : p ∈ c.exported.properties := by
  obtain ⟨m, hm, haccess⟩ := List.exists_of_findSome?_eq_some h
  have hdeclared : m.declared ∈ c.exported.members := by
    rw [← ClassMember.plan_declared c.exported.members]
    exact List.mem_map_of_mem hm
  cases m with
  | group name lead => cases haccess
  | subgroup name lead => cases haccess
  | property other accessor q =>
    have hq : q = p := by
      simp only [UserClass.accessOf?] at haccess
      split at haccess
      · simp only [Option.some.injEq, Prod.mk.injEq] at haccess
        exact haccess.2.2
      · split at haccess
        · simp only [Option.some.injEq, Prod.mk.injEq] at haccess
          exact haccess.2.2
        · cases haccess
    subst hq
    exact List.mem_filterMap.mpr ⟨_, hdeclared, rfl⟩

namespace World

variable {w : World} {c : UserClass} {p : ExportedProperty} {args : List Variant}

theorem newValue?_eq_some_iff {x : HostValue} : w.newValue? c p args = some x ↔
    (ArgumentDecoder.ofCategory p.type.category true).read w.view (c.typeOf p.type) args 0 =
      .ok (some x) := by
  unfold newValue?
  cases (ArgumentDecoder.ofCategory p.type.category true).read w.view (c.typeOf p.type) args 0 with
  | error e => simp [Except.toOption]
  | ok x? => cases x? <;> simp [Except.toOption]

/-- An object that a setter puts into a field lives. -/
theorem exists_entry_of_newValue? {x : HostValue} (h : w.newValue? c p args = some x)
    {handle : ObjectHandle} (hx : x.object? = some handle) :
    ∃ entry, w.objects.get? handle = some entry := by
  obtain ⟨v, -, hdecodes⟩ :=
    ArgumentDecoder.read_lenient_eq_some_iff.mp (newValue?_eq_some_iff.mp h)
  have halive := hdecodes.1.classOf?_ne_none hx
  rw [← Option.isSome_iff_exists, ← Option.ne_none_iff_isSome]
  intro hnone
  exact halive (by simp [view, ObjectTable.classOf?, hnone])

theorem setProperty_of_newValue? {x : HostValue} (h : w.newValue? c p args = some x)
    (fields : Fields) (name : String) : w.setProperty c fields name p args =
      ({ w with
          objects := p.ownership.exchange x.object? (fields.value p.field).object? w.objects },
        fields.set p.field x) := by
  simp only [setProperty, newValue?_eq_some_iff.mp h]
  rfl

theorem setProperty_of_newValue?_eq_none (h : w.newValue? c p args = none) (fields : Fields)
    (name : String) : (w.setProperty c fields name p args).1.objects = w.objects ∧
      (w.setProperty c fields name p args).2 = fields := by
  cases hread : (ArgumentDecoder.ofCategory p.type.category true).read w.view (c.typeOf p.type)
      args 0 with
  | error e => simp [setProperty, hread, report]
  | ok x? =>
    cases x? with
    | none => simp [setProperty, hread]
    | some x =>
      rw [newValue?_eq_some_iff.mpr hread] at h
      cases h

variable {handle other : ObjectHandle} {i : Instance} {entry : ObjectEntry Instance}
  {name property : String}

theorem perform_set_of_none (hi : w.objects.instance? handle = none) (name : String)
    (args : List Variant) : w.perform (.set handle name args) = w := by
  simp only [perform, call]
  cases hentry : w.objects.get? handle with
  | none => rfl
  | some entry =>
    have hnone : entry.instance? = none := by
      rw [ObjectTable.instance?, hentry] at hi
      exact hi
    simp only [hnone]

section Access

variable (hi : w.objects.instance? handle = some i)
  (haccess : i.userClass.access? name = some (.set, property, p))

include hi haccess

/-- A call of a setter runs it and puts the fields back. -/
theorem objects_perform_set (args : List Variant) :
    (w.perform (.set handle name args)).objects =
      (w.setProperty i.userClass i.fields property p args).1.objects.setInstance handle
        { i with fields := (w.setProperty i.userClass i.fields property p args).2 } := by
  obtain ⟨className, hcall⟩ := call_of_instance hi name args
  simp only [perform, hcall, runMember, haccess, putFields]

theorem objects_perform_set_of_value {x : HostValue}
    (hx : w.newValue? i.userClass p args = some x) :
    (w.perform (.set handle name args)).objects =
      (p.ownership.exchange x.object? (i.fields.value p.field).object? w.objects).setInstance
        handle (i.setField p.field x) := by
  rw [objects_perform_set hi haccess, setProperty_of_newValue? hx]
  rfl

/-- A setter without a value does nothing to objects. -/
theorem objects_perform_set_of_none (hx : w.newValue? i.userClass p args = none) :
    (w.perform (.set handle name args)).objects = w.objects := by
  obtain ⟨hobjects, hfields⟩ := setProperty_of_newValue?_eq_none hx i.fields property
  rw [objects_perform_set hi haccess, hobjects, hfields]
  exact ObjectTable.setInstance_self hi

/-- A setter with a value recounts the objects that its field takes and gives up. -/
theorem get?_perform_set {x : HostValue} (hx : w.newValue? i.userClass p args = some x)
    (hentry : w.objects.get? other = some entry) :
    (w.perform (.set handle name args)).objects.get? other =
      (entry.recount (decide (x.object? = some other) && p.ownership.tracks entry.isRefCounted)
        (decide ((i.fields.value p.field).object? = some other) &&
          p.ownership.tracks entry.isRefCounted)).map fun entry =>
            if other = handle then { entry with instance? := some (i.setField p.field x) }
            else entry := by
  rw [objects_perform_set_of_value hi haccess hx, ObjectTable.get?_setInstance]
  by_cases heq : other = handle
  · subst heq
    simp only [if_true, FieldOwnership.get?_exchange, hentry, Option.bind_some]
    exact Option.map_eq_bind.symm
  · simp only [heq, if_false, FieldOwnership.get?_exchange, hentry, Option.bind_some,
      Option.map_id']

end Access

end World

end EngineBindings
