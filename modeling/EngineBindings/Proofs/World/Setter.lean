import EngineBindings.Proofs.Host.Arguments
import EngineBindings.Proofs.Marshal.Members
import EngineBindings.Proofs.Object.Table
import EngineBindings.World.Basic

/-!
# Setters

A call of an object with an instance runs the member of the name on the fields of the instance, and
puts the fields that this leaves back into the instance (`call_of_instance`).  The member of a name
is a setter (`call_of_set`), or else a getter (`call_of_get`), or else a callable
(`call_of_callable`).

A setter reads its argument before it does anything else.  If the argument has a value, the field
takes it, and only the objects that go into the field or out of it can change besides (`SetsField`).
If it has none, the setter makes one report and changes nothing; a number that names no case of an
enumeration changes nothing without a report (`call_setter`).
-/

namespace EngineBindings

/-! ## Calls by name -/

/-- What a call by name gives back. -/
def CallOutcome.answer (className name : String) :
    CallOutcome → Except CallError (Option Variant)
  | returned value? => .ok value?
  | notFound => .error (.unknownMethod className name)

namespace World

/-- The world in which an instance has these fields. -/
def putFields (w : World) (handle : ObjectHandle) (i : Instance) (fields : Fields) : World :=
  { w with objects := w.objects.setInstance handle { i with fields } }

variable {w : World} {handle : ObjectHandle} {i : Instance}
  (hi : w.objects.instance? handle = some i)

include hi

theorem putFields_self : w.putFields handle i i.fields = w := by
  have hsame : w.objects.setInstance handle i = w.objects := ObjectTable.setInstance_self hi
  simp only [putFields, hsame]

theorem report_putFields_self (message : String) :
    (w.report message).putFields handle i i.fields = w.report message :=
  putFields_self (w := w.report message) hi

theorem call_of_instance (name : String) (args : List Variant) :
    ∃ className, w.call handle name args =
      ((w.runMember i handle name args).1.putFields handle i (w.runMember i handle name args).2.1,
        (w.runMember i handle name args).2.2.answer className name) := by
  obtain ⟨entry, hentry, hinstance⟩ := ObjectTable.instance?_eq_some_iff.mp hi
  refine ⟨entry.className, ?_⟩
  simp only [call, hentry, hinstance]
  cases (w.runMember i handle name args).2.2 <;> rfl

variable {name property : String} {p : ExportedProperty} {m : Callable}

/-- A call by the name of a setter puts back the fields that the setter leaves. -/
theorem call_of_set (haccess : i.userClass.access? name = some (.set, property, p))
    (args : List Variant) :
    w.call handle name args =
      ((w.setProperty i.userClass i.fields property p args).1.putFields handle i
        (w.setProperty i.userClass i.fields property p args).2, .ok none) := by
  obtain ⟨className, hcall⟩ := call_of_instance hi name args
  rw [hcall]
  simp only [runMember, haccess]
  rfl

/-- A call by the name of a getter gives the value of the field, and changes nothing. -/
theorem call_of_get (haccess : i.userClass.access? name = some (.get, property, p))
    (args : List Variant) :
    w.call handle name args = (w, .ok (some (i.fields.value p.field).encode)) := by
  obtain ⟨className, hcall⟩ := call_of_instance hi name args
  rw [hcall]
  simp only [runMember, haccess, putFields_self hi]
  rfl

/-- A call by another name runs the callable of that name, and puts back the fields that it
leaves. -/
theorem call_of_callable (hfree : i.userClass.access? name = none)
    (hfound : i.userClass.callable? name = some m) (args : List Variant) :
    w.call handle name args =
      ((w.runCallable i.userClass i.fields m args).1.putFields handle i
        (w.runCallable i.userClass i.fields m args).2.1,
        .ok (w.runCallable i.userClass i.fields m args).2.2) := by
  obtain ⟨className, hcall⟩ := call_of_instance hi name args
  rw [hcall]
  simp only [runMember, hfree, dispatchMethod, hfound]
  rfl

end World

/-! ## Fields -/

namespace Fields

variable {fields : Fields} {field other : String} {x : HostValue}

theorem value_cons (name : String) (y : HostValue) (fields : Fields) (field : String) :
    value ((name, y) :: fields) field = if field = name then y else fields.value field := by
  unfold value
  rw [List.lookup_cons]
  by_cases h : field = name
  · simp [h]
  · simp [h, beq_false_of_ne h]

theorem set_cons (name : String) (y : HostValue) (fields : Fields) (field : String)
    (x : HostValue) :
    set ((name, y) :: fields) field x =
      (name, if name = field then x else y) :: fields.set field x := by
  by_cases h : name = field <;> simp [set, h]

theorem value_set_self (h : field ∈ fields.map Prod.fst) : (fields.set field x).value field = x := by
  induction fields with
  | nil => cases h
  | cons entry fields ih =>
    obtain ⟨name, y⟩ := entry
    rw [set_cons, value_cons]
    by_cases hname : field = name
    · simp [hname]
    · rw [if_neg hname]
      rw [List.map_cons, List.mem_cons] at h
      exact ih (h.resolve_left hname)

theorem value_set_of_ne (h : other ≠ field) :
    (fields.set field x).value other = fields.value other := by
  induction fields with
  | nil => rfl
  | cons entry fields ih =>
    obtain ⟨name, y⟩ := entry
    rw [set_cons, value_cons, value_cons, ih]
    by_cases hname : other = name
    · have hfield : name ≠ field := fun heq => h (hname.trans heq)
      simp [hname, hfield]
    · simp [hname]

end Fields

/-! ## Instances -/

/-- Whether the accessors of an instance are distinct and its exported properties have fields. -/
structure Instance.IsWellFormed (i : Instance) : Prop where
  accessors_nodup : (i.userClass.exported.plan.filterMap PlannedMember.accessor?).Nodup
  field_mem : ∀ property accessor p, .property property accessor p ∈ i.userClass.exported.plan →
    p.field ∈ i.fields.map Prod.fst

/-- Properties with distinct names have distinct accessors. -/
theorem Instance.isWellFormed_of_names {i : Instance}
    (hnames : (ClassMember.storedNames i.userClass.exported.members).Nodup)
    (hfields : ∀ property p, .property property p ∈ i.userClass.exported.members →
      p.field ∈ i.fields.map Prod.fst) : i.IsWellFormed where
  accessors_nodup := ClassMember.plan_accessors_nodup hnames
  field_mem := by
    intro property accessor p hp
    refine hfields property p ?_
    rw [← ClassMember.plan_declared i.userClass.exported.members]
    exact List.mem_map_of_mem hp

/-- The names of the accessors of a property find that property. -/
theorem UserClass.access?_of_mem {c : UserClass} {property accessor : String} {p : ExportedProperty}
    (hdistinct : (c.exported.plan.filterMap PlannedMember.accessor?).Nodup)
    (hp : .property property accessor p ∈ c.exported.plan) :
    c.access? (PlannedMember.setterName accessor) = some (.set, property, p) ∧
      c.access? (PlannedMember.getterName accessor) = some (.get, property, p) := by
  obtain ⟨before, after, hplan⟩ := List.append_of_mem hp
  obtain ⟨hset, hget⟩ := MemberCode.filterMap_accessOf? hplan hdistinct
  rw [access?, access?, ← List.head?_filterMap, ← List.head?_filterMap, hset, hget]
  exact ⟨rfl, rfl⟩

/-! ## References -/

/-- Taking a new object in the place of an old one changes the counts of these two alone, and no
object but the old one can go. -/
theorem FieldOwnership.recounts_exchange {ι : Type} (o : FieldOwnership)
    {new? old? : Option ObjectHandle} {changed gone : ObjectHandle → Prop}
    (hnew : ∀ handle, new? = some handle → changed handle)
    (hold : ∀ handle, old? = some handle → changed handle ∧ gone handle) (t : ObjectTable ι) :
    t.Recounts changed gone (o.exchange new? old? t) := by
  cases o with
  | untracked => exact .refl t
  | shared nullable dynamic =>
    have hretain : ∀ handle, new? = some handle → t.Recounts changed gone
        (if dynamic then t.retainIfCounted handle else t.retain handle) := by
      intro handle h
      split
      · exact ObjectTable.recounts_retainIfCounted (hnew handle h)
      · exact ObjectTable.recounts_retain (hnew handle h)
    have hrelease : ∀ (u : ObjectTable ι) handle, old? = some handle → u.Recounts changed gone
        (if dynamic then u.releaseIfCounted handle else u.release handle) := by
      intro u handle h
      obtain ⟨hchanged, hgone⟩ := hold handle h
      split
      · exact ObjectTable.recounts_releaseIfCounted hchanged hgone
      · exact ObjectTable.recounts_release hchanged hgone
    cases new? with
    | none =>
      cases old? with
      | none => exact .refl t
      | some old => exact hrelease t old rfl
    | some new =>
      cases old? with
      | none => exact hretain new rfl
      | some old => exact (hretain new rfl).trans (hrelease _ old rfl)

namespace World

/-! ## One setter -/

section Property

variable {w : World} {c : UserClass} {fields : Fields} {name : String} {p : ExportedProperty}
  {args : List Variant}

theorem setProperty_of_value {v : Variant} {x : HostValue} (hv : args[0]? = some v)
    (hx : DecodesAs w.view p.type.category (c.typeOf p.type) v x) :
    w.setProperty c fields name p args =
      ({ w with
          objects := (FieldOwnership.ofCategory p.type.category).exchange x.object?
            (fields.value p.field).object? w.objects },
        fields.set p.field x) := by
  have hread := ArgumentDecoder.read_lenient_eq_some_iff.mpr ⟨v, hv, hx⟩
  simp only [setProperty, hread]

theorem setProperty_of_noCase {v : Variant} (hv : args[0]? = some v)
    (hnone : NamesNoCase p.type.category (c.typeOf p.type) v) :
    w.setProperty c fields name p args = (w, fields) := by
  have hread : (ArgumentDecoder.ofCategory p.type.category true).read w.view (c.typeOf p.type) args
      0 = .ok none := ArgumentDecoder.read_lenient_eq_none_iff.mpr ⟨v, hv, hnone⟩
  simp only [setProperty, hread]

theorem setProperty_of_unread (fields : Fields) (name : String) (hnone : ∀ v, args[0]? = some v →
    ¬NamesNoCase p.type.category (c.typeOf p.type) v ∧
      ∀ x, ¬DecodesAs w.view p.type.category (c.typeOf p.type) v x) :
    ∃ e : ArgumentError, e.index = 0 ∧ w.setProperty c fields name p args =
      (w.report ("Error setting `" ++ c.exported.name ++ "." ++ name ++ "`: expected " ++
        p.type.category.text ++ ", " ++ e.message), fields) := by
  cases hread : (ArgumentDecoder.ofCategory p.type.category true).read w.view (c.typeOf p.type)
      args 0 with
  | error e =>
    refine ⟨e, ArgumentDecoder.read_errorsAt _ _ e hread, ?_⟩
    simp only [setProperty, hread]
  | ok x? =>
    cases x? with
    | none =>
      obtain ⟨v, hv, hcase⟩ := ArgumentDecoder.read_lenient_eq_none_iff.mp hread
      exact absurd hcase (hnone v hv).1
    | some x =>
      obtain ⟨v, hv, hx⟩ := ArgumentDecoder.read_lenient_eq_some_iff.mp hread
      exact absurd hx ((hnone v hv).2 x)

end Property

/-! ## Calls of setters -/

/-- What putting a value into a field of an instance does to the world. -/
structure SetsField (handle : ObjectHandle) (i : Instance) (field : String) (x : HostValue)
    (w w' : World) : Prop where
  reports_eq : w'.reports = w.reports
  classes_eq : w'.classes = w.classes
  engine_eq : w'.engine = w.engine
  /-- The field has the value, and every other field has what it had. -/
  instance_eq : ∀ entry, w'.objects.get? handle = some entry → ∃ i' count,
    entry.instance? = some i' ∧
      w.objects.get? handle = some { entry with count, instance? := some i } ∧
      i'.userClass = i.userClass ∧ i'.fields.value field = x ∧
      ∀ other, other ≠ field → i'.fields.value other = i.fields.value other
  /-- Nothing but the counts of other objects can change. -/
  others_eq : ∀ other entry, other ≠ handle → w'.objects.get? other = some entry →
    ∃ count, w.objects.get? other = some { entry with count }
  /-- The counts of objects that neither come nor go do not change. -/
  untouched : ∀ other, other ≠ handle → x.object? ≠ some other →
    (i.fields.value field).object? ≠ some other →
      w'.objects.get? other = w.objects.get? other
  /-- No object but the one that was in the field can die. -/
  dies : ∀ other, (w.objects.get? other).isSome = true → w'.objects.get? other = none →
    (i.fields.value field).object? = some other

section Calls

variable {w : World} {handle : ObjectHandle} {i : Instance}
  (hi : w.objects.instance? handle = some i)

include hi

theorem setsField_putFields {field : String} (hfield : field ∈ i.fields.map Prod.fst)
    {x : HostValue} {t : ObjectTable Instance}
    (ht : w.objects.Recounts
      (fun other => x.object? = some other ∨ (i.fields.value field).object? = some other)
      (fun other => (i.fields.value field).object? = some other) t) :
    SetsField handle i field x w
      ({ w with objects := t }.putFields handle i (i.fields.set field x)) where
  reports_eq := rfl
  classes_eq := rfl
  engine_eq := rfl
  instance_eq := by
    intro entry hentry
    rw [putFields, ObjectTable.get?_setInstance, if_pos rfl] at hentry
    obtain ⟨mid, hmid, hset⟩ := Option.bind_eq_some_iff.mp hentry
    obtain rfl := Option.some.inj hset
    obtain ⟨count, hold⟩ := ht.entry_eq handle mid hmid
    obtain ⟨old, hget, hinstance⟩ := ObjectTable.instance?_eq_some_iff.mp hi
    obtain rfl := Option.some.inj (hget.symm.trans hold)
    have hmidi : mid.instance? = some i := hinstance
    refine ⟨_, count, rfl, ?_, rfl, Fields.value_set_self hfield,
      fun other hne => Fields.value_set_of_ne hne⟩
    rw [hold, ← hmidi]
  others_eq := by
    intro other entry hne hentry
    rw [putFields, ObjectTable.get?_setInstance, if_neg hne] at hentry
    exact ht.entry_eq other entry hentry
  untouched := by
    intro other hne hnew hold
    rw [putFields, ObjectTable.get?_setInstance, if_neg hne]
    exact ht.same other fun h => h.elim hnew hold
  dies := by
    intro other halive hdead
    rw [putFields, ObjectTable.get?_setInstance] at hdead
    refine ht.dies other halive ?_
    by_cases heq : other = handle
    · subst heq
      rw [if_pos rfl] at hdead
      cases hmid : t.get? other with
      | none => rfl
      | some mid =>
        rw [hmid] at hdead
        cases hdead
    · rwa [if_neg heq] at hdead

variable {property accessor : String} {p : ExportedProperty} {args : List Variant}

/-- A call by the name of a setter runs the setter of the property. -/
theorem call_eq_setProperty (hwell : i.IsWellFormed)
    (hp : .property property accessor p ∈ i.userClass.exported.plan) :
    w.call handle (PlannedMember.setterName accessor) args =
      ((w.setProperty i.userClass i.fields property p args).1.putFields handle i
        (w.setProperty i.userClass i.fields property p args).2, .ok none) :=
  call_of_set hi (UserClass.access?_of_mem hwell.accessors_nodup hp).1 args

/-- A call of a setter gives nothing back.  The field takes the value that the first argument has;
an argument without a value is reported, and changes nothing; and a number that names no case
changes nothing at all. -/
theorem call_setter (hwell : i.IsWellFormed)
    (hp : .property property accessor p ∈ i.userClass.exported.plan) (args : List Variant) :
    ∃ w', w.call handle (PlannedMember.setterName accessor) args = (w', .ok none) ∧
      (∀ v x, args[0]? = some v →
        DecodesAs w.view p.type.category (i.userClass.typeOf p.type) v x →
          SetsField handle i p.field x w w') ∧
      ((∀ v, args[0]? = some v →
        ¬NamesNoCase p.type.category (i.userClass.typeOf p.type) v ∧
          ∀ x, ¬DecodesAs w.view p.type.category (i.userClass.typeOf p.type) v x) →
        ∃ e : ArgumentError, e.index = 0 ∧
          w' = w.report ("Error setting `" ++ i.userClass.exported.name ++ "." ++ property ++
            "`: expected " ++ p.type.category.text ++ ", " ++ e.message)) ∧
      ∀ v, args[0]? = some v → NamesNoCase p.type.category (i.userClass.typeOf p.type) v →
        w' = w := by
  refine ⟨_, call_eq_setProperty hi hwell hp, fun v x hv hx => ?_, fun hnone => ?_,
    fun v hv hnone => ?_⟩
  · rw [setProperty_of_value hv hx]
    refine setsField_putFields hi (hwell.field_mem property accessor p hp) ?_
    exact FieldOwnership.recounts_exchange _ (fun _ h => .inl h) (fun _ h => ⟨.inr h, h⟩) _
  · obtain ⟨e, hindex, heq⟩ := setProperty_of_unread i.fields property hnone
    refine ⟨e, hindex, ?_⟩
    rw [heq]
    exact report_putFields_self hi _
  · rw [setProperty_of_noCase hv hnone]
    exact putFields_self hi

end Calls

namespace OneCar

/-- A property of integers. -/
def speed : ExportedProperty :=
  ⟨"speed", ⟨Code.word "i64", .plain "i64", .primitive (.integer .i64)⟩, .usual⟩

def car : UserClass :=
  { (default : UserClass) with
    exported := { (default : ExportedClass) with
      name := "Car"
      members := [.group "Motion" "motion_", .property "motion_speed" speed] } }

def parked : Instance :=
  ⟨car, [("speed", .integer 0), ("honks", .integer 3)]⟩

/-- A world with one car. -/
def world : World :=
  { World.empty with objects := ⟨#[some ⟨"Car", false, 0, some parked⟩]⟩ }

theorem parked_isWellFormed : parked.IsWellFormed := by
  refine Instance.isWellFormed_of_names (by decide) fun property p hp => ?_
  obtain ⟨rfl, rfl⟩ : property = "motion_speed" ∧ p = speed := by
    simpa [parked, car] using hp
  decide

end OneCar

theorem call_setter_speed :
    OneCar.world.objects.instance? ⟨0⟩ = some OneCar.parked ∧ OneCar.parked.IsWellFormed ∧
      (∃ w', OneCar.world.call ⟨0⟩ "set_speed" [.int 7, .nil] = (w', .ok none) ∧
        SetsField ⟨0⟩ OneCar.parked "speed" (.integer 7) OneCar.world w') ∧
      ∃ w', OneCar.world.call ⟨0⟩ "set_speed" [] = (w', .ok none) ∧
        w'.reports.length = 1 := by
  have hi : OneCar.world.objects.instance? ⟨0⟩ = some OneCar.parked := by rfl
  have hp : .property "motion_speed" "speed" OneCar.speed ∈
      OneCar.parked.userClass.exported.plan := List.mem_cons_of_mem _ List.mem_cons_self
  have hdecodes : DecodesAs OneCar.world.view OneCar.speed.type.category
      (OneCar.car.typeOf OneCar.speed.type) (.int 7) (.integer 7) := by
    refine ⟨.integer (by decide) (by decide), ?_⟩
    intro width e n hcategory
    cases hcategory
  refine ⟨hi, OneCar.parked_isWellFormed, ?_, ?_⟩
  · obtain ⟨w', hcall, hset, -⟩ :=
      call_setter hi OneCar.parked_isWellFormed hp [.int 7, .nil]
    exact ⟨w', hcall, hset (.int 7) (.integer 7) rfl hdecodes⟩
  · obtain ⟨w', hcall, -, hreport, -⟩ := call_setter hi OneCar.parked_isWellFormed hp []
    obtain ⟨e, -, rfl⟩ := hreport fun v hv => nomatch hv
    exact ⟨_, hcall, rfl⟩

end World

end EngineBindings
