import EngineBindings.Proofs.Registry.Extension
import EngineBindings.Proofs.World.Proxy
import EngineBindings.Proofs.World.Setter
import EngineBindings.Sample.Garage

/-!
# Registered members by name

What the engine knows of a class are the members that the class has registered: properties, each
with the names of a setter and a getter, and methods with their names.  A call by the name of a
registered accessor runs that accessor, and a call by the name of a registered method runs that
method, unless an accessor has the name too (`call_registered`).  For the names of accessors are
kept apart from each other only, and an object looks for an accessor before it looks for a method,
so that a method under the name of an accessor is registered but never run.
-/

namespace EngineBindings

open PlannedMember (setterName getterName)

/-- Whether some members tell of an accessor with a name. -/
def RegisteredMember.HasAccessor (members : List RegisteredMember) (name : String) : Prop :=
  ∃ info setter getter, .property info setter getter ∈ members ∧ (name = setter ∨ name = getter)

namespace UserClass

variable {c : UserClass}

/-! ## What is registered -/

theorem property_mem_registeredMembers_iff {info : PropertyInfo} {setter getter : String} :
    .property info setter getter ∈ c.registeredMembers ↔ ∃ property accessor p,
      .property property accessor p ∈ c.exported.plan ∧ info = c.info property p.type p.spec ∧
        setter = setterName accessor ∧ getter = getterName accessor := by
  rw [registeredMembers, List.mem_append, List.mem_map, List.mem_map]
  constructor
  · rintro (⟨member, hmember, heq⟩ | ⟨member, -, heq⟩)
    · cases member with
      | group name lead => cases heq
      | subgroup name lead => cases heq
      | property property accessor p =>
        obtain ⟨hinfo, hsetter, hgetter⟩ := RegisteredMember.property.inj heq
        exact ⟨property, accessor, p, hmember, hinfo.symm, hsetter.symm, hgetter.symm⟩
    · cases member with
      | callable m => cases heq
      | signal s => cases heq
  · rintro ⟨property, accessor, p, hp, rfl, rfl, rfl⟩
    exact .inl ⟨_, hp, rfl⟩

theorem name_of_method_mem {info : MethodInfo} (h : .method info ∈ c.registeredMembers) :
    ∃ m, .callable m ∈ c.methods.members ∧ m.ident = info.name := by
  rw [registeredMembers, List.mem_append, List.mem_map, List.mem_map] at h
  rcases h with ⟨member, -, heq⟩ | ⟨member, hmember, heq⟩
  · cases member with
    | group name lead => cases heq
    | subgroup name lead => cases heq
    | property property accessor p => cases heq
  · cases member with
    | signal s => cases heq
    | callable m => exact ⟨m, hmember, congrArg MethodInfo.name (RegisteredMember.method.inj heq)⟩

theorem access?_eq_none {name : String}
    (h : ¬RegisteredMember.HasAccessor c.registeredMembers name) :
    c.access? name = none := by
  refine List.findSome?_eq_none_iff.mpr fun member hmember => ?_
  cases member with
  | group name lead => rfl
  | subgroup name lead => rfl
  | property property accessor p =>
    have hregistered := property_mem_registeredMembers_iff.mpr
      ⟨property, accessor, p, hmember, rfl, rfl, rfl⟩
    have hsetter : name ≠ setterName accessor := fun heq => h ⟨_, _, _, hregistered, .inl heq⟩
    have hgetter : name ≠ getterName accessor := fun heq => h ⟨_, _, _, hregistered, .inr heq⟩
    rw [accessOf?, if_neg hsetter, if_neg hgetter]

/-- Whether the exported properties of a class have distinct names, and its callables too. -/
structure HasDistinctNames (c : UserClass) : Prop where
  properties_nodup : (ClassMember.storedNames c.exported.members).Nodup
  callables_nodup : (c.methods.members.filterMap ExposedMember.callableName?).Nodup

/-- Whether a class is registered, as it was declared. -/
def IsRegisteredIn (c : UserClass) (db : ClassDatabase) : Prop :=
  db.record? c.exported.name = some c.registration.record

theorem IsRegisteredIn.members_eq {db : ClassDatabase} (h : c.IsRegisteredIn db) :
    db.members c.exported.name = c.registeredMembers := by
  rw [ClassDatabase.members, h]
  rfl

theorem isRegisteredIn_registerClass {db : ClassDatabase}
    (hnew : db.isRegistered c.exported.name = false) :
    c.IsRegisteredIn (Extension.registerClass db c.registration) := by
  rw [IsRegisteredIn, Extension.record?_registerClass, (db.record?_eq_none_iff _).mpr hnew,
    Option.none_or]
  exact if_pos rfl

end UserClass

namespace World

variable {w : World} {handle : ObjectHandle} {i : Instance}

/-- What calls by the names of registered members run: a setter or a getter, on the field of its
property; or a method on the values of its arguments, if its name is not that of an accessor. -/
theorem call_registered (hi : w.objects.instance? handle = some i)
    (hnames : i.userClass.HasDistinctNames) (hregistered : i.userClass.IsRegisteredIn w.classes)
    (args : List Variant) :
    (∀ info setter getter,
      .property info setter getter ∈ w.classes.members i.userClass.exported.name →
        ∃ property accessor p, .property property accessor p ∈ i.userClass.exported.plan ∧
          info = i.userClass.info property p.type p.spec ∧
          w.call handle setter args =
            ((w.setProperty i.userClass i.fields property p args).1.putFields handle i
              (w.setProperty i.userClass i.fields property p args).2, .ok none) ∧
          w.call handle getter args = (w, .ok (some (i.fields.value p.field).encode))) ∧
    ∀ info, .method info ∈ w.classes.members i.userClass.exported.name →
      ¬RegisteredMember.HasAccessor (w.classes.members i.userClass.exported.name) info.name →
        ∃ m, .callable m ∈ i.userClass.methods.members ∧ m.ident = info.name ∧
          w.call handle info.name args =
            ((w.runCallable i.userClass i.fields m args).1.putFields handle i
              (w.runCallable i.userClass i.fields m args).2.1,
              .ok (w.runCallable i.userClass i.fields m args).2.2) := by
  rw [hregistered.members_eq]
  constructor
  · intro info setter getter hproperty
    obtain ⟨property, accessor, p, hp, hinfo, rfl, rfl⟩ :=
      UserClass.property_mem_registeredMembers_iff.mp hproperty
    obtain ⟨hset, hget⟩ :=
      UserClass.access?_of_mem (ClassMember.plan_accessors_nodup hnames.properties_nodup) hp
    exact ⟨property, accessor, p, hp, hinfo, call_of_set hi hset args, call_of_get hi hget args⟩
  · intro info hmethod hother
    obtain ⟨m, hm, hname⟩ := UserClass.name_of_method_mem hmethod
    have hfound := UserClass.callable?_eq_some hm hnames.callables_nodup
    rw [hname] at hfound
    exact ⟨m, hm, hname, call_of_callable hi (UserClass.access?_eq_none hother) hfound args⟩

namespace Vintage

open Garage

/-- The year is in a group, so its accessors go by the rest of its name. -/
def declaration : ClassDeclaration where
  ident := "Car"
  params := ⟨[], true⟩
  attributes := []
  body := .named
    [field "base" (generic "Base" "Node") [],
      field "ymms_year" (plain "i64") [groupMark "Year Made" "ymms_", plainExport]]

/-- A method with the name of the getter of the year, and another one. -/
def methods : MethodsDeclaration :=
  block "Car"
    [callable "get_year" (some .shared) [] (some (plain "i64")),
      callable "age" (some .shared) [] (some (plain "i64"))]
    none

def car : UserClass where
  exported := declared (ExportedClass.ofDeclaration declaration)
  methods := declared (ExposedMethods.ofDeclaration methods)
  base := nodeClass
  names := ⟨[], []⟩
  body ident fields _ := (fields, some (.integer (if ident = "get_year" then -1 else 40)))
  virtuals := noVirtuals

def year : ExportedProperty :=
  ⟨"ymms_year", Honking.whole, .usual⟩

def reading (ident : String) : Callable :=
  ⟨ident, some .shared, [], some Honking.whole⟩

theorem plan_eq : car.exported.plan =
    [.group "Year Made" "ymms_", .property "ymms_year" "year" year] := by rfl

theorem callables_eq : car.methods.members =
    [.callable (reading "get_year"), .callable (reading "age")] := by rfl

theorem eq_reading {m : Callable} (hm : .callable m ∈ car.methods.members) :
    m = reading m.ident := by
  rw [callables_eq] at hm
  rcases List.mem_cons.mp hm with heq | hrest
  · rw [ExposedMember.callable.inj heq]
    rfl
  · rw [ExposedMember.callable.inj (List.mem_singleton.mp hrest)]
    rfl

theorem hasDistinctNames : car.HasDistinctNames where
  properties_nodup := by decide +kernel
  callables_nodup := by
    rw [callables_eq]
    decide

def parked : Instance :=
  ⟨car, [("ymms_year", .integer 1980)]⟩

/-- A world in which cars are registered, with one car. -/
def world : World :=
  { World.empty with
    objects := ⟨#[some ⟨"Car", false, 0, some parked⟩]⟩
    classes := Extension.registerClass .empty car.registration }

theorem instance_parked : world.objects.instance? ⟨0⟩ = some parked := by rfl

theorem isRegisteredIn : car.IsRegisteredIn world.classes :=
  UserClass.isRegisteredIn_registerClass (by rfl)

theorem members_eq : ∃ info getYear age,
    world.classes.members "Car" = [.group "Year Made" "ymms_", .property info "set_year" "get_year",
      .method getYear, .method age] ∧ getYear.name = "get_year" ∧ age.name = "age" :=
  ⟨_, _, _, by rfl, by rfl, by rfl⟩

end Vintage

theorem call_registered_vintage :
    Vintage.world.objects.instance? ⟨0⟩ = some Vintage.parked ∧ Vintage.car.HasDistinctNames ∧
      Vintage.car.IsRegisteredIn Vintage.world.classes ∧
      Vintage.world.call ⟨0⟩ "get_year" [] = (Vintage.world, .ok (some (.int 1980))) ∧
      (Vintage.world.call ⟨0⟩ "age" []).2 = .ok (some (.int 40)) := by
  obtain ⟨info, getYear, age, hmembers, hyear, hage⟩ := Vintage.members_eq
  obtain ⟨haccessors, hcallables⟩ :=
    call_registered Vintage.instance_parked Vintage.hasDistinctNames Vintage.isRegisteredIn []
  refine ⟨Vintage.instance_parked, Vintage.hasDistinctNames, Vintage.isRegisteredIn, ?_, ?_⟩
  · obtain ⟨property, accessor, p, hp, -, -, hget⟩ :=
      haccessors info "set_year" "get_year" (hmembers ▸ by simp)
    obtain ⟨rfl, rfl, rfl⟩ : property = "ymms_year" ∧ accessor = "year" ∧ p = Vintage.year := by
      simpa [Vintage.parked, Vintage.plan_eq] using hp
    exact hget
  · have hother : ¬RegisteredMember.HasAccessor (Vintage.world.classes.members "Car") age.name := by
      rintro ⟨info', setter, getter, hmem, hname⟩
      obtain ⟨rfl, rfl, rfl⟩ : info' = info ∧ setter = "set_year" ∧ getter = "get_year" := by
        simpa [hmembers] using hmem
      rw [hage] at hname
      revert hname
      decide
    obtain ⟨m, hm, hname, hcall⟩ := hcallables age (hmembers ▸ by simp) hother
    rw [Vintage.eq_reading hm, hname, hage] at hcall
    rw [hcall]
    rfl

/-- A method with the name of a getter is registered, but does not answer. -/
theorem not_call_registered :
    ¬∀ (d : ClassDeclaration) (b : MethodsDeclaration) (w : World) (handle : ObjectHandle)
      (i : Instance), ExportedClass.ofDeclaration d = .ok i.userClass.exported →
        ExposedMethods.ofDeclaration b = .ok i.userClass.methods →
        i.userClass.HasDistinctNames → i.userClass.IsRegisteredIn w.classes →
        w.objects.instance? handle = some i →
          ∀ info, .method info ∈ w.classes.members i.userClass.exported.name →
            ∃ m, .callable m ∈ i.userClass.methods.members ∧ m.ident = info.name ∧
              (w.call handle info.name []).2 =
                .ok (w.runCallable i.userClass i.fields m []).2.2 := by
  intro hcallables
  obtain ⟨info, getYear, age, hmembers, hyear, -⟩ := Vintage.members_eq
  obtain ⟨m, hm, hname, hcall⟩ :=
    hcallables Vintage.declaration Vintage.methods Vintage.world ⟨0⟩ Vintage.parked (by rfl)
      (by rfl) Vintage.hasDistinctNames Vintage.isRegisteredIn Vintage.instance_parked getYear
      (hmembers ▸ by simp)
  rw [Vintage.eq_reading hm, hname, hyear] at hcall
  have hvalue : Variant.int 1980 = .int (-1) := Option.some.inj (Except.ok.inj hcall)
  exact absurd (Variant.int.inj hvalue) (by decide)

end World

end EngineBindings
