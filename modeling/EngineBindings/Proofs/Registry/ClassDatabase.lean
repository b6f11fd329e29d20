import EngineBindings.Registry.Call

/-!
# What a call does to the registered classes

The record of a class after each operation of the class database (`record?_register`,
`record?_unregister`, `record?_addMember`, `record?_remember`), and what follows for who is
registered and for parents.

The names stand beside the records, in the order of registration.  That they name the registered
classes, each once, is an invariant of all operations (`InStep`), so it holds after any calls
(`inStep_run`).

A call is about one class at most (`RegistryCall.changes?`).  After any calls that are about some
classes only, all others are there as before, in the same order (`AgreesOff`, `agreesOff_run`); so
once the classes that the calls were about are gone, the database is what it was without them
(`AgreesOff.eq_off`), and nothing was lost exactly if they were not there in the first place
(`AgreesOff.keeps_iff`).
-/

namespace EngineBindings.ClassDatabase

variable (db : ClassDatabase) (name x : String)

/-! ## Records -/

theorem mem_keys_iff : x ∈ db.classes.map Prod.fst ↔ db.isRegistered x = true := by
  unfold isRegistered record?
  rw [List.lookup_isSome_iff]
  constructor
  · intro h
    obtain ⟨entry, hentry, rfl⟩ := List.mem_map.mp h
    exact ⟨entry, hentry, beq_self_eq_true _⟩
  · rintro ⟨entry, hentry, hx⟩
    exact List.mem_map.mpr ⟨entry, hentry, (eq_of_beq hx).symm⟩

theorem lookup_cons_ite (n : String) (record : ClassRecord) (rest : List (String × ClassRecord)) :
    ((n, record) :: rest).lookup x = if x = n then some record else rest.lookup x := by
  by_cases hx : x = n
  · subst x
    simp
  · have hne : (x == n) = false := beq_eq_false_iff_ne.mpr hx
    simp only [List.lookup_cons, hne, hx, ↓reduceIte]

theorem record?_register (parent? : Option String) (isRefCounted : Bool) :
    (db.register name parent? isRefCounted).record? x =
      if x = name ∧ db.isRegistered name = false then some ⟨parent?, isRefCounted, []⟩
      else db.record? x := by
  unfold register
  cases h : db.isRegistered name with
  | true => simp
  | false => simp only [Bool.false_eq_true, ↓reduceIte, record?, lookup_cons_ite, and_true]

theorem lookup_filter_ne (entries : List (String × ClassRecord)) :
    (entries.filter (·.1 != name)).lookup x = if x = name then none else entries.lookup x := by
  induction entries with
  | nil => simp only [List.filter_nil, List.lookup_nil, ite_self]
  | cons entry rest ih =>
    obtain ⟨n, record⟩ := entry
    by_cases hn : n = name
    · subst n
      rw [List.filter_cons_of_neg (by simp), ih, lookup_cons_ite]
      split <;> rfl
    · rw [List.filter_cons_of_pos (by simpa using hn), lookup_cons_ite, lookup_cons_ite, ih]
      by_cases hx : x = n
      · subst x
        rw [if_pos rfl, if_neg hn, if_pos rfl]
      · rw [if_neg hx, if_neg hx]

theorem record?_unregister :
    (db.unregister name).record? x = if x = name then none else db.record? x := by
  simp only [unregister, record?, lookup_filter_ne]

theorem record?_addMember (member : RegisteredMember) :
    (db.addMember name member).record? x =
      (db.record? x).map fun record =>
        if x = name then { record with members := record.members ++ [member] } else record := by
  obtain ⟨classes, order, answers⟩ := db
  simp only [addMember, record?]
  induction classes with
  | nil => rfl
  | cons entry rest ih =>
    obtain ⟨n, record⟩ := entry
    by_cases hx : x = n
    · subst x
      by_cases hn : n = name <;> simp [hn]
    · by_cases hn : n = name <;>
        simp only [List.map_cons, hn, ↓reduceIte, lookup_cons_ite, ih] at hx ⊢ <;>
        rw [if_neg hx, if_neg hx]

theorem classes_remember (ancestor : String) :
    (db.remember name ancestor).classes = db.classes := by
  unfold remember
  split <;> rfl

theorem record?_remember (ancestor : String) :
    (db.remember name ancestor).record? x = db.record? x := by
  rw [record?, classes_remember, record?]

/-! ## Who is registered -/

@[simp] theorem isRegistered_register (parent? : Option String) (isRefCounted : Bool) :
    (db.register name parent? isRefCounted).isRegistered x = (x == name || db.isRegistered x) := by
  unfold isRegistered
  rw [record?_register]
  by_cases hx : x = name
  · subst x
    cases h : db.record? name <;> simp [isRegistered, h]
  · simp [hx]

@[simp] theorem isRegistered_unregister :
    (db.unregister name).isRegistered x = (x != name && db.isRegistered x) := by
  unfold isRegistered
  rw [record?_unregister]
  by_cases hx : x = name <;> simp [hx]

@[simp] theorem isRegistered_addMember (member : RegisteredMember) :
    (db.addMember name member).isRegistered x = db.isRegistered x := by
  simp only [isRegistered, record?_addMember, Option.isSome_map]

@[simp] theorem isRegistered_remember (ancestor : String) :
    (db.remember name ancestor).isRegistered x = db.isRegistered x := by
  simp only [isRegistered, record?_remember]

theorem record?_eq_none_iff : db.record? x = none ↔ db.isRegistered x = false := by
  rw [isRegistered, Option.isSome_eq_false_iff, Option.isNone_iff_eq_none]

theorem run_append (calls more : List RegistryCall) :
    db.run (calls ++ more) = (db.run calls).run more :=
  List.foldl_append

/-- What holds and is kept by each of some calls holds after them. -/
theorem run_induction {P : ClassDatabase → Prop} {db : ClassDatabase} {calls : List RegistryCall}
    (h : P db) (hperform : ∀ call ∈ calls, ∀ now, P now → P (now.perform call).1) :
    P (db.run calls) :=
  List.foldlRecOn calls _ h fun now hnow call hcall => hperform call hcall now hnow

/-- After some registrations their classes are registered, and those that were before. -/
theorem isRegistered_run_register (names : List String) (parent? : String → Option String)
    (isRefCounted : String → Bool) :
    (db.run (names.map fun n => .register n (parent? n) (isRefCounted n))).isRegistered x =
      (names.contains x || db.isRegistered x) := by
  induction names generalizing db with
  | nil => rfl
  | cons n names ih =>
    rw [List.map_cons, run, List.foldl_cons, ← run, ih, perform, isRegistered_register,
      List.contains_cons, Bool.or_left_comm, Bool.or_assoc]

/-- After some removals the other classes are left. -/
theorem isRegistered_run_unregister (names : List String) :
    (db.run (names.map .unregister)).isRegistered x =
      (!names.contains x && db.isRegistered x) := by
  induction names generalizing db with
  | nil => rfl
  | cons n names ih =>
    rw [List.map_cons, run, List.foldl_cons, ← run, ih, perform, isRegistered_unregister,
      List.contains_cons, Bool.not_or, bne, Bool.and_left_comm, Bool.and_assoc]

/-! ## The order of registration -/

@[simp] theorem names_register (parent? : Option String) (isRefCounted : Bool) :
    (db.register name parent? isRefCounted).names =
      if db.isRegistered name then db.names else db.names ++ [name] := by
  unfold register
  split <;> rfl

@[simp] theorem names_unregister : (db.unregister name).names = db.names.filter (· != name) :=
  rfl

@[simp] theorem names_addMember (member : RegisteredMember) :
    (db.addMember name member).names = db.names :=
  rfl

@[simp] theorem names_remember (ancestor : String) :
    (db.remember name ancestor).names = db.names := by
  unfold remember
  split <;> rfl

/-- Whether the names in the order of registration are those of the registered classes. -/
structure InStep (db : ClassDatabase) : Prop where
  nodup : db.names.Nodup
  mem_iff : ∀ name, name ∈ db.names ↔ db.isRegistered name = true

namespace InStep

theorem empty : ClassDatabase.empty.InStep where
  nodup := List.nodup_nil
  mem_iff _ := ⟨fun h => (nomatch h), fun h => (nomatch h)⟩

variable {db} (h : db.InStep)

include h

theorem register (name : String) (parent? : Option String) (isRefCounted : Bool) :
    (db.register name parent? isRefCounted).InStep := by
  cases hname : db.isRegistered name with
  | true =>
    rw [ClassDatabase.register, if_pos hname]
    exact h
  | false =>
    have hnew : name ∉ db.names := by
      rw [h.mem_iff, hname]
      exact Bool.false_ne_true
    have hnames : (db.register name parent? isRefCounted).names = db.names ++ [name] := by
      rw [names_register, hname]
      rfl
    constructor
    · rw [hnames, (List.perm_append_singleton name _).nodup_iff, List.nodup_cons]
      exact ⟨hnew, h.nodup⟩
    · intro x
      rw [hnames, isRegistered_register, Bool.or_eq_true, beq_iff_eq, ← h.mem_iff,
        List.mem_append, List.mem_singleton, or_comm]

theorem unregister (name : String) : (db.unregister name).InStep where
  nodup := h.nodup.filter _
  mem_iff x := by
    rw [names_unregister, List.mem_filter, isRegistered_unregister, Bool.and_eq_true, h.mem_iff,
      and_comm]

theorem addMember (name : String) (member : RegisteredMember) :
    (db.addMember name member).InStep :=
  ⟨h.nodup, fun x => by rw [names_addMember, isRegistered_addMember, h.mem_iff]⟩

theorem remember (name ancestor : String) : (db.remember name ancestor).InStep where
  nodup := by
    rw [names_remember]
    exact h.nodup
  mem_iff x := by rw [names_remember, isRegistered_remember, h.mem_iff]

theorem perform (call : RegistryCall) : (db.perform call).1.InStep := by
  cases call with
  | register name parent? isRefCounted => exact h.register name parent? isRefCounted
  | unregister name => exact h.unregister name
  | addMember name member => exact h.addMember name member
  | isSubclass name ancestor => exact h.remember name ancestor

end InStep

theorem inStep_run (h : db.InStep) (calls : List RegistryCall) : (db.run calls).InStep :=
  run_induction h fun call _ _ hdb => hdb.perform call

/-! ## Calls without effect -/

theorem name_ne_of_mem_classes (h : db.isRegistered name = false) {entry : String × ClassRecord}
    (hentry : entry ∈ db.classes) : entry.1 ≠ name := by
  rintro rfl
  have hkey := (db.mem_keys_iff entry.1).mp (List.mem_map_of_mem hentry)
  rw [h] at hkey
  cases hkey

theorem register_of_isRegistered (parent? : Option String) (isRefCounted : Bool)
    (h : db.isRegistered name = true) : db.register name parent? isRefCounted = db :=
  if_pos h

theorem classes_unregister_of_not_isRegistered (h : db.isRegistered name = false) :
    (db.unregister name).classes = db.classes :=
  List.filter_eq_self.mpr fun _ hentry => bne_iff_ne.mpr (db.name_ne_of_mem_classes name h hentry)

theorem InStep.unregister_of_not_isRegistered {db : ClassDatabase} {name : String}
    (hdb : db.InStep) (h : db.isRegistered name = false) : db.unregister name = db := by
  have hnames : name ∉ db.names := by
    rw [hdb.mem_iff, h]
    exact Bool.false_ne_true
  ext1
  · exact db.classes_unregister_of_not_isRegistered name h
  · exact List.filter_eq_self.mpr fun n hn => bne_iff_ne.mpr fun heq => hnames (heq ▸ hn)
  · exact if_neg (Bool.eq_false_iff.mp h)

theorem addMember_of_not_isRegistered (member : RegisteredMember)
    (h : db.isRegistered name = false) : db.addMember name member = db := by
  ext1
  · refine (List.map_congr_left fun entry hentry => ?_).trans (List.map_id _)
    exact if_neg (db.name_ne_of_mem_classes name h hentry)
  · rfl
  · rfl

/-! ## Parents -/

theorem parentOf?_unregister_of_not_isRegistered (h : db.isRegistered name = false) :
    (db.unregister name).parentOf? = db.parentOf? := by
  funext y
  simp only [parentOf?, record?, db.classes_unregister_of_not_isRegistered name h]

theorem isRegistered_of_parentOf? {name parent : String} (h : db.parentOf? name = some parent) :
    db.isRegistered name = true := by
  obtain ⟨record, hrecord, -⟩ := Option.bind_eq_some_iff.mp h
  simp [isRegistered, hrecord]

@[simp] theorem parentOf?_addMember (member : RegisteredMember) :
    (db.addMember name member).parentOf? = db.parentOf? := by
  funext y
  unfold parentOf?
  rw [record?_addMember]
  cases db.record? y with
  | none => rfl
  | some record =>
    simp only [Option.map_some, Option.bind_some]
    split <;> rfl

@[simp] theorem parentOf?_remember (ancestor : String) :
    (db.remember name ancestor).parentOf? = db.parentOf? := by
  funext y
  rw [parentOf?, record?_remember, parentOf?]

end EngineBindings.ClassDatabase

namespace EngineBindings

/-! ## Calls about some classes only -/

/-- The class that a call is about, if the call changes any. -/
def RegistryCall.changes? : RegistryCall → Option String
  | register name _ _ | unregister name | addMember name _ => some name
  | isSubclass _ _ => none

namespace ClassDatabase

/-- The classes that are not among some names. -/
def classesOff (names : List String) (db : ClassDatabase) : List (String × ClassRecord) :=
  db.classes.filter fun entry => entry.1 ∉ names

/-- The names of the classes that are not among some names, in the order of registration. -/
def namesOff (names : List String) (db : ClassDatabase) : List String :=
  db.names.filter fun name => name ∉ names

/-- Whether two databases have the same classes, but for some names. -/
structure AgreesOff (names : List String) (db db' : ClassDatabase) : Prop where
  classes : db'.classesOff names = db.classesOff names
  order : db'.namesOff names = db.namesOff names

variable {names : List String} {db db' : ClassDatabase} {name : String}

theorem AgreesOff.refl (names : List String) (db : ClassDatabase) : AgreesOff names db db :=
  ⟨rfl, rfl⟩

theorem AgreesOff.trans {db'' : ClassDatabase} (h : AgreesOff names db db')
    (h' : AgreesOff names db' db'') : AgreesOff names db db'' :=
  ⟨h'.classes.trans h.classes, h'.order.trans h.order⟩

/-! ## One call -/

theorem agreesOff_register (hname : name ∈ names) (parent? : Option String) (isRefCounted : Bool) :
    AgreesOff names db (db.register name parent? isRefCounted) := by
  unfold register
  split
  · exact .refl names db
  · constructor
    · exact List.filter_cons_of_neg (by simpa using hname)
    · have hnone : [name].filter (fun n => n ∉ names) = [] :=
        List.filter_cons_of_neg (by simpa using hname)
      exact (List.filter_append db.names [name]).trans (by rw [hnone, List.append_nil]; rfl)

theorem agreesOff_unregister (hname : name ∈ names) : AgreesOff names db (db.unregister name) := by
  have hne : ∀ n : String, (decide (n ∉ names) && n != name) = decide (n ∉ names) := by
    intro n
    by_cases hn : n ∈ names
    · simp [hn]
    · have hne : n ≠ name := fun heq => hn (heq ▸ hname)
      simp [hn, hne]
  constructor
  · simp only [classesOff, unregister, List.filter_filter, hne]
  · simp only [namesOff, names_unregister, List.filter_filter, hne]

theorem agreesOff_addMember (hname : name ∈ names) (member : RegisteredMember) :
    AgreesOff names db (db.addMember name member) := by
  refine ⟨?_, rfl⟩
  unfold classesOff addMember
  rw [List.filter_map]
  -- a record keeps its name, so the same ones are left out
  have hkeys : ((fun entry : String × ClassRecord => decide (entry.1 ∉ names)) ∘
      fun ((n, record) : String × ClassRecord) =>
        if n = name then (n, { record with members := record.members ++ [member] })
        else (n, record)) = fun entry => decide (entry.1 ∉ names) := by
    funext entry
    simp only [Function.comp_apply]
    split <;> rfl
  rw [hkeys]
  refine (List.map_congr_left fun entry hentry => ?_).trans (List.map_id _)
  have hother : entry.1 ∉ names := by simpa using (List.mem_filter.mp hentry).2
  have hne : entry.1 ≠ name := fun heq => hother (heq ▸ hname)
  exact if_neg hne

theorem agreesOff_perform (db : ClassDatabase) {call : RegistryCall}
    (h : ∀ n, call.changes? = some n → n ∈ names) : AgreesOff names db (db.perform call).1 := by
  cases call with
  | register n parent? isRefCounted => exact agreesOff_register (h n rfl) parent? isRefCounted
  | unregister n => exact agreesOff_unregister (h n rfl)
  | addMember n member => exact agreesOff_addMember (h n rfl) member
  | isSubclass n ancestor =>
    constructor
    · rw [classesOff, perform, classes_remember, ← classesOff]
    · rw [namesOff, perform, names_remember, ← namesOff]

/-! ## Any calls -/

theorem agreesOff_run {calls : List RegistryCall}
    (h : ∀ call ∈ calls, ∀ n, call.changes? = some n → n ∈ names) :
    AgreesOff names db (db.run calls) :=
  run_induction (.refl names db) fun call hcall now hnow =>
    hnow.trans (agreesOff_perform now (h call hcall))

theorem classesOff_eq_self (h : ∀ n ∈ names, db.isRegistered n = false) :
    db.classesOff names = db.classes :=
  List.filter_eq_self.mpr fun entry hentry => decide_eq_true fun hmem =>
    db.name_ne_of_mem_classes entry.1 (h _ hmem) hentry rfl

theorem InStep.namesOff_eq_self (hdb : db.InStep) (h : ∀ n ∈ names, db.isRegistered n = false) :
    db.namesOff names = db.names := by
  refine List.filter_eq_self.mpr fun n hn => decide_eq_true fun hmem => ?_
  have hregistered := (hdb.mem_iff n).mp hn
  rw [h n hmem] at hregistered
  cases hregistered

/-- Once the classes of some names are gone, what is left is what was there without them. -/
theorem AgreesOff.eq_off (h : AgreesOff names db db') (hstep : db'.InStep)
    (hgone : ∀ n ∈ names, db'.isRegistered n = false) :
    db'.classes = db.classesOff names ∧ db'.names = db.namesOff names :=
  ⟨(classesOff_eq_self hgone).symm.trans h.classes,
    (hstep.namesOff_eq_self hgone).symm.trans h.order⟩

/-- Whether a database has all classes of another one, as they are there and in the same order. -/
structure Keeps (db db' : ClassDatabase) : Prop where
  record?_eq : ∀ name, db.isRegistered name = true → db'.record? name = db.record? name
  order : db.names.Sublist db'.names

theorem AgreesOff.keeps_iff (h : AgreesOff names db db') (hdb : db.InStep) (hdb' : db'.InStep)
    (hgone : ∀ n ∈ names, db'.isRegistered n = false) :
    Keeps db db' ↔ ∀ n ∈ names, db.isRegistered n = false := by
  constructor
  · intro hkeeps n hn
    refine Bool.eq_false_iff.mpr fun hregistered => ?_
    have hlost := hgone n hn
    rw [isRegistered, hkeeps.record?_eq n hregistered, ← isRegistered, hregistered] at hlost
    cases hlost
  · intro hnew
    obtain ⟨hclasses, hnames⟩ := h.eq_off hdb' hgone
    rw [classesOff_eq_self hnew] at hclasses
    rw [hdb.namesOff_eq_self hnew] at hnames
    exact ⟨fun name _ => by rw [record?, hclasses, record?], hnames ▸ List.Sublist.refl _⟩

end ClassDatabase

end EngineBindings
