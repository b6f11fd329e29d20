import EngineBindings.Proofs.World.Act

/-!
# Ledgers of references

A ledger keeps what a run did with references: the retains and releases that were asked for, the
references that setters took, and all instances that were created, with the values that their fields
had last.  Instances stay in the ledger when their objects are gone, since nobody releases what
their fields hold.

`Reaches` are the worlds that acts lead to, with their ledgers.
-/

namespace EngineBindings

/-! ## Object fields -/

/-- Whether a property refers to objects. -/
def ExportedProperty.isObject (p : ExportedProperty) : Bool :=
  p.type.category.className?.isSome

namespace ExportedClass

/-- The fields of the properties that refer to objects. -/
def objectFields (c : ExportedClass) : List String :=
  (c.properties.filter ExportedProperty.isObject).map ExportedProperty.field

/-- Whether every property has a field of its own, and those that refer to objects count them.  So
it is with the classes of declarations (`countsReferences_of_declared`). -/
structure CountsReferences (c : ExportedClass) : Prop where
  fields_nodup : (c.properties.map ExportedProperty.field).Nodup
  ne_uncounted : ∀ p ∈ c.properties, ∀ className nullable,
    p.type.category ≠ .object className nullable .uncounted

end ExportedClass

namespace Instance

/-- The objects that the exported object fields of an instance hold. -/
def held (i : Instance) : List ObjectHandle :=
  i.userClass.exported.objectFields.filterMap fun field => (i.fields.value field).object?

/-- Whether the class of an instance counts its references, and its properties have fields. -/
structure IsSound (i : Instance) : Prop where
  countsReferences : i.userClass.exported.CountsReferences
  field_mem : ∀ p ∈ i.userClass.exported.properties, p.field ∈ i.fields.map Prod.fst

end Instance

/-! ## Ledgers -/

/-- What a run did with references so far. -/
structure Ledger where
  /-- The object of every retain by hand. -/
  retains : List ObjectHandle
  /-- The object of every release by hand. -/
  releases : List ObjectHandle
  /-- The object of every reference that a setter took. -/
  takes : List ObjectHandle
  /-- All instances with the objects that they were created for. -/
  instances : List (ObjectHandle × Instance)

namespace Ledger

/-- The ledger before any act. -/
def empty : Ledger :=
  ⟨[], [], [], []⟩

/-- The objects that the exported object fields of all instances hold. -/
def held (l : Ledger) : List ObjectHandle :=
  l.instances.flatMap fun entry => entry.2.held

/-- Writes down what an instance has become. -/
def replace (l : Ledger) (handle : ObjectHandle) (i : Instance) : Ledger :=
  { l with
    instances := l.instances.map fun entry => if entry.1 = handle then (handle, i) else entry }

/-- Writes down that a field of an instance took a value, and which references were taken for it. -/
def setField (l : Ledger) (handle : ObjectHandle) (i : Instance) (field : String) (x : HostValue)
    (takes : List ObjectHandle) : Ledger :=
  { l.replace handle (i.setField field x) with takes := takes ++ l.takes }

/-- Writes down a call of the setter of a property; without a value it does nothing. -/
def recordSet (l : Ledger) (w : World) (handle : ObjectHandle) (i : Instance)
    (p : ExportedProperty) (args : List Variant) : Ledger :=
  match w.newValue? i.userClass p args with
  | some x => l.setField handle i p.field x (p.ownership.taken? w.objects x.object?).toList
  | none => l

/-- Writes down an act.  What is done to an object that does not live is no retain or release. -/
def record (l : Ledger) (w : World) : ObjectAct → Ledger
  | .create _ _ => l
  | .instantiate c fields =>
    let created := w.objects.create c.exported.name c.base.isRefCounted (some ⟨c, fields⟩)
    { l with instances := (created.1, ⟨c, fields⟩) :: l.instances }
  | .set handle name args =>
    match w.objects.instance? handle with
    | none => l
    | some i =>
      match i.userClass.access? name with
      | some (.set, _, p) => l.recordSet w handle i p args
      | _ => l
  | .retain handle =>
    if w.objects.isAlive handle then { l with retains := handle :: l.retains } else l
  | .release handle =>
    if w.objects.isAlive handle then { l with releases := handle :: l.releases } else l
  | .free _ => l

end Ledger

/-- Whether an act is proper in a world: the object fields of a new instance hold nothing that
lives, and what is called is the setter of a property. -/
def ObjectAct.IsProper (w : World) : ObjectAct → Prop
  | .instantiate c fields =>
    (Instance.mk c fields).IsSound ∧ ∀ handle ∈ (Instance.mk c fields).held,
      handle.index < w.objects.places.size ∧ w.objects.get? handle = none
  | .set handle name _ => ∀ i, w.objects.instance? handle = some i →
    ∃ property p, i.userClass.access? name = some (.set, property, p)
  | _ => True

/-- The worlds that acts lead to, with the ledgers of the acts.  In between, anything may happen
that leaves the objects alone. -/
inductive Reaches (start : World) : World → Ledger → Prop where
  | start : Reaches start start .empty
  | act {w : World} {l : Ledger} {act : ObjectAct} (hreaches : Reaches start w l)
      (hproper : act.IsProper w) : Reaches start (w.perform act) (l.record w act)
  | elsewhere {w w' : World} {l : Ledger} (hreaches : Reaches start w l)
      (hobjects : w'.objects = w.objects) : Reaches start w' l

/-! ## What fields hold -/

namespace ExportedClass

variable {c : ExportedClass} {p : ExportedProperty}

theorem objectFields_nodup (h : c.CountsReferences) : c.objectFields.Nodup :=
  h.fields_nodup.sublist (List.filter_sublist.map _)

/-- A field belongs to one property only. -/
theorem mem_objectFields_iff (h : c.CountsReferences) (hp : p ∈ c.properties) :
    p.field ∈ c.objectFields ↔ p.isObject = true := by
  constructor
  · intro hmem
    obtain ⟨q, hq, hfield⟩ := List.mem_map.mp hmem
    obtain ⟨hq, hobject⟩ := List.mem_filter.mp hq
    obtain rfl := List.inj_on_of_nodup_map h.fields_nodup hq hp hfield
    exact hobject
  · intro hobject
    exact List.mem_map_of_mem (List.mem_filter.mpr ⟨hp, hobject⟩)

end ExportedClass

/-- Where references are counted, the field of a property counts them to all counted objects. -/
theorem ExportedProperty.tracks_true {c : ExportedClass} (h : c.CountsReferences)
    {p : ExportedProperty} (hp : p ∈ c.properties) : p.ownership.tracks true = p.isObject := by
  have hne := h.ne_uncounted p hp
  unfold ownership isObject
  cases hcategory : p.type.category with
  | object className nullable counting =>
    cases counting with
    | counted => rfl
    | uncounted => exact absurd hcategory (hne className nullable)
    | dynamic => rfl
  | _ => rfl

theorem ExportedProperty.isObject_of_tracks {p : ExportedProperty} {isRefCounted : Bool}
    (h : p.ownership.tracks isRefCounted = true) : p.isObject = true := by
  unfold ownership at h
  unfold isObject
  cases hcategory : p.type.category with
  | object className nullable counting => rfl
  | _ =>
    rw [hcategory] at h
    cases h

theorem Fields.map_fst_set (fields : Fields) (field : String) (x : HostValue) :
    (fields.set field x).map Prod.fst = fields.map Prod.fst := by
  induction fields with
  | nil => rfl
  | cons entry fields ih =>
    obtain ⟨name, y⟩ := entry
    rw [set_cons, List.map_cons, List.map_cons, ih]

section Count

variable {handle : ObjectHandle} {field : String} {f g : String → Option ObjectHandle}

theorem count_cons (other handle : ObjectHandle) (handles : List ObjectHandle) :
    (other :: handles).count handle = handles.count handle + (decide (other = handle)).toNat := by
  rw [List.count_cons]
  by_cases heq : other = handle <;> simp [heq]

theorem count_filterMap_cons (f : String → Option ObjectHandle) (a : String) (fields : List String)
    (handle : ObjectHandle) : ((a :: fields).filterMap f).count handle =
      (fields.filterMap f).count handle + (decide (f a = some handle)).toNat := by
  rw [List.filterMap_cons]
  cases hfa : f a with
  | none => simp
  | some other =>
    simp only [Option.some.injEq]
    exact count_cons other handle _

/-- Where one field takes a new object, the new one is held once more and the old one once less. -/
theorem count_filterMap_update (hfg : ∀ other, other ≠ field → g other = f other)
    {fields : List String} (hfields : fields.Nodup) (handle : ObjectHandle) :
    (fields.filterMap g).count handle +
        (decide (f field = some handle) && decide (field ∈ fields)).toNat =
      (fields.filterMap f).count handle +
        (decide (g field = some handle) && decide (field ∈ fields)).toNat := by
  induction fields with
  | nil => simp
  | cons a fields ih =>
    obtain ⟨hnot, hrest⟩ := List.nodup_cons.mp hfields
    have hih := ih hrest
    rw [count_filterMap_cons, count_filterMap_cons]
    by_cases heq : a = field
    · subst heq
      simp only [hnot, decide_false, Bool.and_false, Bool.toNat_false, Nat.add_zero] at hih
      simp only [List.mem_cons_self, decide_true, Bool.and_true]
      omega
    · have hmem : (field ∈ a :: fields) = (field ∈ fields) := by
        simp [List.mem_cons, Ne.symm heq]
      rw [hfg a heq]
      simp only [hmem]
      omega

end Count

namespace Instance

variable {i : Instance} {p : ExportedProperty} {handle : ObjectHandle}

theorem mem_held (hp : p ∈ i.userClass.exported.properties) (hobject : p.isObject = true)
    (hvalue : (i.fields.value p.field).object? = some handle) : handle ∈ i.held := by
  have hfield : p.field ∈ i.userClass.exported.objectFields :=
    List.mem_map_of_mem (List.mem_filter.mpr ⟨hp, hobject⟩)
  exact List.mem_filterMap.mpr ⟨p.field, hfield, hvalue⟩

theorem isSound_setField (h : i.IsSound) (field : String) (x : HostValue) :
    (i.setField field x).IsSound where
  countsReferences := h.countsReferences
  field_mem := by
    intro q hq
    rw [setField, Fields.map_fst_set]
    exact h.field_mem q hq

theorem count_held_setField (h : i.IsSound) (hp : p ∈ i.userClass.exported.properties)
    (x : HostValue) (handle : ObjectHandle) :
    (i.setField p.field x).held.count handle +
        (decide ((i.fields.value p.field).object? = some handle) && p.isObject).toNat =
      i.held.count handle + (decide (x.object? = some handle) && p.isObject).toNat := by
  have hobject : decide (p.field ∈ i.userClass.exported.objectFields) = p.isObject := by
    rw [Bool.eq_iff_iff, decide_eq_true_eq]
    exact ExportedClass.mem_objectFields_iff h.countsReferences hp
  have hself : (i.fields.set p.field x).value p.field = x :=
    Fields.value_set_self (h.field_mem p hp)
  have hothers : ∀ other, other ≠ p.field →
      ((i.fields.set p.field x).value other).object? = (i.fields.value other).object? :=
    fun other hne => congrArg HostValue.object? (Fields.value_set_of_ne hne)
  have hcount := count_filterMap_update (f := fun field => (i.fields.value field).object?)
    (g := fun field => ((i.fields.set p.field x).value field).object?) hothers
    (ExportedClass.objectFields_nodup h.countsReferences) handle
  rw [hobject] at hcount
  simp only [hself] at hcount
  exact hcount

end Instance

namespace Ledger

variable {l : Ledger} {handle other : ObjectHandle} {i i' : Instance}

theorem mem_held (hmem : (other, i) ∈ l.instances) (hheld : handle ∈ i.held) : handle ∈ l.held :=
  List.mem_flatMap.mpr ⟨(other, i), hmem, hheld⟩

theorem map_fst_replace (l : Ledger) (handle : ObjectHandle) (i : Instance) :
    (l.replace handle i).instances.map Prod.fst = l.instances.map Prod.fst := by
  rw [replace, List.map_map]
  refine List.map_congr_left fun entry _ => ?_
  by_cases heq : entry.1 = handle <;> simp [heq]

theorem mem_replace {entry : ObjectHandle × Instance}
    (h : entry ∈ (l.replace handle i).instances) :
    entry = (handle, i) ∨ entry.1 ≠ handle ∧ entry ∈ l.instances := by
  obtain ⟨old, hold, hentry⟩ := List.mem_map.mp h
  by_cases heq : old.1 = handle
  · rw [if_pos heq] at hentry
    exact .inl hentry.symm
  · rw [if_neg heq] at hentry
    exact .inr ⟨hentry ▸ heq, hentry ▸ hold⟩

theorem mem_replace_self (h : handle ∈ l.instances.map Prod.fst) :
    (handle, i) ∈ (l.replace handle i).instances := by
  obtain ⟨entry, hentry, rfl⟩ := List.mem_map.mp h
  exact List.mem_map.mpr ⟨entry, hentry, if_pos rfl⟩

theorem mem_replace_of_ne (h : (other, i) ∈ l.instances) (hne : other ≠ handle) :
    (other, i) ∈ (l.replace handle i').instances :=
  List.mem_map.mpr ⟨(other, i), h, if_neg hne⟩

/-- Where the fields of one instance change, what this instance holds changes and nothing else. -/
theorem count_held_replace (hdistinct : (l.instances.map Prod.fst).Nodup)
    (hmem : (handle, i) ∈ l.instances) (i' : Instance) (held : ObjectHandle) :
    (l.replace handle i').held.count held + i.held.count held =
      l.held.count held + i'.held.count held := by
  simp only [replace, Ledger.held]
  generalize l.instances = instances at hdistinct hmem
  induction instances with
  | nil => cases hmem
  | cons entry rest ih =>
    obtain ⟨hnot, hrest⟩ := List.nodup_cons.mp hdistinct
    simp only [List.map_cons, List.flatMap_cons, List.count_append]
    rcases List.mem_cons.mp hmem with rfl | htail
    · have hsame : rest.map (fun entry => if entry.1 = handle then (handle, i') else entry) =
          rest := by
        refine (List.map_congr_left fun entry hentry => if_neg fun heq => hnot ?_).trans
          (List.map_id rest)
        exact List.mem_map.mpr ⟨entry, hentry, heq⟩
      rw [hsame, if_pos rfl]
      dsimp only
      omega
    · have hne : entry.1 ≠ handle := fun heq => hnot (heq ▸ List.mem_map_of_mem htail)
      have hih := ih hrest htail
      rw [if_neg hne]
      omega

end Ledger

end EngineBindings
