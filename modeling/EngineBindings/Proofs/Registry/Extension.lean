import EngineBindings.Proofs.Registry.ClassDatabase
import EngineBindings.Proofs.Registry.SubclassCache
import EngineBindings.Proofs.Startup.Resolve
import EngineBindings.Registry.Extension

/-!
# Extensions come and go

While the engine starts up, an extension is asked for the classes of one level after another, and
for the same levels backwards while the engine shuts down.  A level may be asked for repeatedly
(`startAll`, `stopAll`); in effect all this is one sequence of registrations and one of removals
(`startAll_eq`, `stopAll_eq`).

* `startAll_stopAll`: where no other class has a name of the extension, no registered class of the
  extension misses a parent in it, at no step of either sequence; in between the extension adds its
  classes in the order of the plan, with all members; and in the end the database is what it was.
* `stopAll_keeps_iff`: a class that somebody else has registered under a name of the extension does
  not survive.  It is left as it is when the extension starts, and removed when the extension stops.
-/

namespace EngineBindings

/-- What a registration tells of its class. -/
def ClassRegistration.record (c : ClassRegistration) : ClassRecord :=
  ⟨c.parent?, c.isRefCounted, c.members⟩

namespace ClassDatabase

variable (db : ClassDatabase) (name x : String)

theorem record?_foldl_addMember (members : List RegisteredMember) :
    (members.foldl (fun db m => db.addMember name m) db).record? x =
      (db.record? x).map fun record =>
        if x = name then { record with members := record.members ++ members } else record := by
  induction members generalizing db with
  | nil => simp
  | cons m members ih =>
    rw [List.foldl_cons, ih, record?_addMember, Option.map_map]
    congr 1
    funext record
    by_cases hx : x = name <;> simp [hx]

theorem names_foldl_addMember (members : List RegisteredMember) :
    (members.foldl (fun db m => db.addMember name m) db).names = db.names := by
  induction members generalizing db with
  | nil => rfl
  | cons m members ih => rw [List.foldl_cons, ih, names_addMember]

end ClassDatabase

namespace Extension

open ClassDatabase

variable {classes : List ClassRegistration} {e : Extension} {db : ClassDatabase}

/-! ## Registering a class -/

/-- The calls by which a class is registered with its members. -/
def registrationCalls (db : ClassDatabase) (c : ClassRegistration) : List RegistryCall :=
  if db.isRegistered c.name then []
  else .register c.name c.parent? c.isRefCounted :: c.members.map (.addMember c.name)

theorem registerClass_eq_run (db : ClassDatabase) (c : ClassRegistration) :
    registerClass db c = db.run (registrationCalls db c) := by
  unfold registerClass registrationCalls
  split
  · rfl
  · rw [run, List.foldl_cons, List.foldl_map]
    rfl

theorem changes?_registrationCalls {c : ClassRegistration} {call : RegistryCall}
    (hcall : call ∈ registrationCalls db c) {n : String} (hn : call.changes? = some n) :
    n = c.name := by
  unfold registrationCalls at hcall
  split at hcall
  · cases hcall
  · rcases List.mem_cons.mp hcall with rfl | hmember
    · exact (Option.some.inj hn).symm
    · obtain ⟨m, -, rfl⟩ := List.mem_map.mp hmember
      exact (Option.some.inj hn).symm

theorem record?_registerClass (c : ClassRegistration) (x : String) :
    (registerClass db c).record? x =
      (db.record? x).or (if x = c.name then some c.record else none) := by
  unfold registerClass
  cases hc : db.isRegistered c.name with
  | true =>
    rw [if_pos rfl]
    by_cases hx : x = c.name
    · subst hx
      obtain ⟨record, hrecord⟩ := Option.isSome_iff_exists.mp hc
      rw [hrecord, Option.some_or]
    · rw [if_neg hx, Option.or_none]
  | false =>
    rw [if_neg Bool.false_ne_true, record?_foldl_addMember, record?_register]
    by_cases hx : x = c.name
    · subst hx
      rw [if_pos ⟨rfl, hc⟩, (db.record?_eq_none_iff _).mpr hc]
      simp [ClassRegistration.record]
    · simp [hx]

theorem names_registerClass (hdb : db.InStep) (c : ClassRegistration) :
    (registerClass db c).names = keep db.names c.name := by
  unfold registerClass
  cases hc : db.isRegistered c.name with
  | true => rw [if_pos rfl, keep_of_mem ((hdb.mem_iff c.name).mpr hc)]
  | false =>
    have hnew : c.name ∉ db.names := by
      rw [hdb.mem_iff, hc]
      exact Bool.false_ne_true
    rw [if_neg Bool.false_ne_true, names_foldl_addMember, names_register, hc,
      if_neg Bool.false_ne_true, keep_of_notMem hnew]

/-! ## Registering names -/

/-- What an extension tells of the class of a name. -/
def recordOf? (e : Extension) (name : String) : Option ClassRecord :=
  (e.classes.find? (·.name == name)).map ClassRegistration.record

/-- The names of the classes of an extension. -/
def classNames (classes : List ClassRegistration) : List String :=
  classes.map ClassRegistration.name

theorem isSome_recordOf? {name : String} :
    (e.recordOf? name).isSome = true ↔ name ∈ classNames e.classes := by
  rw [recordOf?, Option.isSome_map, List.find?_isSome, classNames, List.mem_map]
  simp only [beq_iff_eq]

theorem recordOf?_of_nodup (hnodup : (classNames e.classes).Nodup) {c : ClassRegistration}
    (hc : c ∈ e.classes) : e.recordOf? c.name = some c.record := by
  rw [recordOf?, ← List.head?_filter, filter_eq_singleton hnodup hc, List.head?_cons,
    Option.map_some]

/-- A name of a class stands for the registration of that class. -/
theorem registerNamed_of_mem {name : String} (h : name ∈ classNames e.classes) :
    ∃ c ∈ e.classes, c.name = name ∧ ∀ db, e.registerNamed db name = registerClass db c := by
  obtain ⟨record, hrecord⟩ := Option.isSome_iff_exists.mp (isSome_recordOf?.mpr h)
  obtain ⟨c, hfind, -⟩ := Option.map_eq_some_iff.mp hrecord
  refine ⟨c, List.mem_of_find?_eq_some hfind, eq_of_beq (List.find?_some hfind :), fun db => ?_⟩
  rw [registerNamed, hfind]

theorem record?_registerNamed (name x : String) :
    (e.registerNamed db name).record? x =
      (db.record? x).or (if x = name then e.recordOf? name else none) := by
  unfold registerNamed recordOf?
  cases hfind : e.classes.find? (·.name == name) with
  | none => simp
  | some c =>
    have hname : c.name = name := eq_of_beq (List.find?_some hfind :)
    rw [record?_registerClass, hname, Option.map_some]

/-- After some registrations there is what was there before, and of the rest what is told. -/
theorem record?_foldl_registerNamed (names : List String) (x : String) :
    (names.foldl e.registerNamed db).record? x =
      (db.record? x).or (if x ∈ names then e.recordOf? x else none) := by
  induction names generalizing db with
  | nil => simp
  | cons name names ih =>
    rw [List.foldl_cons, ih, record?_registerNamed, Option.or_assoc]
    by_cases hx : x = name
    · subst hx
      cases e.recordOf? x <;> simp
    · simp [hx]

theorem isRegistered_foldl_registerNamed {names : List String}
    (hnames : ∀ n ∈ names, n ∈ classNames e.classes) (x : String) :
    (names.foldl e.registerNamed db).isRegistered x = true ↔
      db.isRegistered x = true ∨ x ∈ names := by
  rw [isRegistered, record?_foldl_registerNamed, Option.isSome_or, Bool.or_eq_true, isRegistered]
  by_cases hx : x ∈ names
  · simp [hx, isSome_recordOf?.mpr (hnames x hx)]
  · simp [hx]

theorem foldl_registerNamed_eq_run {names : List String}
    (hnames : ∀ n ∈ names, n ∈ classNames e.classes) (db : ClassDatabase) :
    ∃ calls : List RegistryCall, names.foldl e.registerNamed db = db.run calls ∧
      ∀ call ∈ calls, ∀ n, call.changes? = some n → n ∈ classNames e.classes := by
  induction names generalizing db with
  | nil => exact ⟨[], rfl, fun _ h => nomatch h⟩
  | cons name names ih =>
    obtain ⟨hname, hrest⟩ := List.forall_mem_cons.mp hnames
    obtain ⟨c, -, hc, hregister⟩ := registerNamed_of_mem hname
    obtain ⟨calls, hcalls, hchanges⟩ := ih hrest (registerClass db c)
    refine ⟨registrationCalls db c ++ calls, ?_, fun call hcall n hn => ?_⟩
    · rw [List.foldl_cons, hregister, hcalls, run_append, registerClass_eq_run]
    · rcases List.mem_append.mp hcall with hfirst | hlater
      · rwa [changes?_registrationCalls hfirst hn, hc]
      · exact hchanges call hlater n hn

theorem names_foldl_registerNamed {names : List String}
    (hnames : ∀ n ∈ names, n ∈ classNames e.classes) (hdb : db.InStep) :
    (names.foldl e.registerNamed db).names = names.foldl keep db.names := by
  induction names using List.reverseRecOn with
  | nil => rfl
  | append_singleton names name ih =>
    have hbefore : ∀ n ∈ names, n ∈ classNames e.classes :=
      fun n hn => hnames n (List.mem_append_left _ hn)
    obtain ⟨c, -, hc, hregister⟩ :=
      registerNamed_of_mem (hnames name (List.mem_append_right _ List.mem_cons_self))
    obtain ⟨calls, hcalls, -⟩ := foldl_registerNamed_eq_run hbefore db
    have hstep : (names.foldl e.registerNamed db).InStep := hcalls ▸ inStep_run db hdb calls
    rw [List.foldl_concat, List.foldl_concat, hregister, names_registerClass hstep, ih hbefore, hc]

/-! ## Levels, one after another -/

/-- The database after an extension was asked to start some levels. -/
def startAll (e : Extension) (levels : List Level) (db : ClassDatabase) : ClassDatabase :=
  levels.foldl (fun db level => e.start level db) db

/-- The database after an extension was asked to stop some levels. -/
def stopAll (e : Extension) (levels : List Level) (db : ClassDatabase) : ClassDatabase :=
  levels.foldl (fun db level => e.stop level db) db

/-- The classes in the order in which they are registered while some levels start. -/
def registrations (e : Extension) (levels : List Level) : List String :=
  levels.flatMap e.plan.classesAt

/-- The classes in the order in which they are removed while some levels stop. -/
def removals (e : Extension) (levels : List Level) : List String :=
  levels.flatMap fun level => (e.plan.classesAt level).reverse

theorem startAll_eq (e : Extension) (levels : List Level) (db : ClassDatabase) :
    (e.registrations levels).foldl e.registerNamed db = e.startAll levels db :=
  List.foldl_flatMap

theorem stopAll_eq (e : Extension) (levels : List Level) (db : ClassDatabase) :
    (e.removals levels).foldl unregister db = e.stopAll levels db :=
  List.foldl_flatMap

theorem foldl_unregister_eq_run (names : List String) (db : ClassDatabase) :
    names.foldl unregister db = db.run (names.map .unregister) := by
  rw [run, List.foldl_map]
  rfl

theorem isRegistered_foldl_unregister (names : List String) (x : String) :
    (names.foldl unregister db).isRegistered x = true ↔
      x ∉ names ∧ db.isRegistered x = true := by
  rw [foldl_unregister_eq_run, isRegistered_run_unregister, Bool.and_eq_true, Bool.not_eq_true',
    List.contains_eq_mem, decide_eq_false_iff_not]

theorem mem_removals {levels : List Level} {name : String} :
    name ∈ e.removals levels ↔ name ∈ e.registrations levels := by
  simp only [removals, registrations, List.mem_flatMap, List.mem_reverse]

/-! ## The order of the plan -/

/-- Whether the plan of an extension has each of its classes once, and parents first. -/
structure IsOrdered (classes : List ClassRegistration) (e : Extension) : Prop where
  classes_eq : e.classes = classes
  nodup : (classNames classes).Nodup
  order_eq : e.plan.registrationOrder.map Prod.snd = e.registrations Level.all
  perm : (e.registrations Level.all).Perm (classNames classes)
  preceded : ∀ c ∈ classes, ∀ p ∈ classes, c.parent? = some p.name →
    Preceded (e.registrations Level.all) p.name c.name

theorem isOrdered_of_ofClasses (h : ofClasses classes = .ok e) : IsOrdered classes e := by
  let node (c : ClassRegistration) : ClassNode := ⟨c.name, c.parent?⟩
  unfold ofClasses at h
  cases hplan : StartupPlan.resolve (levels classes) (classes.map node) with
  | error error => rw [hplan] at h; cases h
  | ok plan =>
    rw [hplan] at h
    obtain rfl := Except.ok.inj h
    obtain ⟨hnodup, hlate, hstuck, rfl⟩ := StartupPlan.resolve_eq_ok_iff.mp hplan
    have hnames : (classes.map node).map ClassNode.name = classNames classes := List.map_map
    have horder : Level.all.flatMap
        (StartupPlan.takenPlan (levels classes) (classes.map node)).classesAt =
        (StartupPlan.takenClasses (levels classes) (classes.map node)).map ClassNode.name := by
      rw [StartupPlan.takenClasses, List.map_flatMap]
      exact List.flatMap_congr fun level _ => StartupPlan.classesAt_takenPlan level
    refine ⟨rfl, hnames ▸ hnodup, ?_, ?_, fun c hc p hp hparent => ?_⟩
    · rw [registrations, horder, StartupPlan.registrationOrder_takenPlan hstuck, List.map_map]
      rfl
    · rw [registrations, horder, ← hnames]
      exact (StartupPlan.takenClasses_perm hstuck).map _
    · rw [registrations, horder]
      exact StartupPlan.preceded_names hstuck hlate hnodup (c := node c) (p := node p)
        (List.mem_map_of_mem hc) (List.mem_map_of_mem hp) hparent

namespace IsOrdered

variable (h : IsOrdered classes e)

include h

theorem mem_of_mem_registrations (up : List Level) {name : String}
    (hname : name ∈ e.registrations up) : name ∈ classNames e.classes := by
  obtain ⟨level, -, hname⟩ := List.mem_flatMap.mp hname
  rw [h.classes_eq, ← h.perm.mem_iff]
  exact List.mem_flatMap.mpr ⟨level, Level.mem_all level, hname⟩

theorem mem_registrations {up : List Level} (hup : ∀ level, level ∈ up) {name : String} :
    name ∈ e.registrations up ↔ name ∈ classNames classes := by
  refine ⟨fun hname => h.classes_eq ▸ h.mem_of_mem_registrations up hname, fun hname => ?_⟩
  obtain ⟨level, -, hname⟩ := List.mem_flatMap.mp (h.perm.mem_iff.mpr hname)
  exact List.mem_flatMap.mpr ⟨level, hup level, hname⟩

-- this is the order of registration backwards, where nothing stands twice
theorem preceded_removals {c p : ClassRegistration} (hc : c ∈ classes) (hp : p ∈ classes)
    (hparent : c.parent? = some p.name) :
    Preceded (e.removals Level.all.reverse) c.name p.name := by
  have hnodup : (e.registrations Level.all).Nodup := h.perm.nodup_iff.mpr h.nodup
  have hreverse : e.removals Level.all.reverse = (e.registrations Level.all).reverse :=
    List.reverse_flatMap.symm
  rw [hreverse]
  exact (h.preceded c hc p hp hparent).reverse hnodup
    (h.perm.mem_iff.mpr (List.mem_map_of_mem hc))

/-- All that an extension does concerns its own classes. -/
theorem stopAll_startAll_eq_run (up down : List Level) (db : ClassDatabase) :
    ∃ calls : List RegistryCall, e.stopAll down (e.startAll up db) = db.run calls ∧
      ∀ call ∈ calls, ∀ n, call.changes? = some n → n ∈ classNames classes := by
  obtain ⟨calls, hcalls, hchanges⟩ :=
    foldl_registerNamed_eq_run (fun _ => h.mem_of_mem_registrations up) db
  refine ⟨calls ++ (e.removals down).map .unregister, ?_, fun call hcall n hn => ?_⟩
  · rw [← stopAll_eq, ← startAll_eq, hcalls, foldl_unregister_eq_run, run_append]
  · rw [← h.classes_eq]
    rcases List.mem_append.mp hcall with hstart | hstop
    · exact hchanges call hstart n hn
    · obtain ⟨name, hname, rfl⟩ := List.mem_map.mp hstop
      obtain rfl := Option.some.inj hn
      exact h.mem_of_mem_registrations down (mem_removals.mp hname)

theorem isRegistered_stopAll {up down : List Level} (hdown : ∀ level, level ∈ down) {name : String}
    (hname : name ∈ classNames classes) :
    (e.stopAll down (e.startAll up db)).isRegistered name = false := by
  refine Bool.eq_false_iff.mpr fun hregistered => ?_
  rw [← stopAll_eq, isRegistered_foldl_unregister, mem_removals, h.mem_registrations hdown]
    at hregistered
  exact hregistered.1 hname

theorem agreesOff_stopAll (up down : List Level) :
    AgreesOff (classNames classes) db (e.stopAll down (e.startAll up db)) := by
  obtain ⟨calls, hcalls, hchanges⟩ := h.stopAll_startAll_eq_run up down db
  exact hcalls ▸ agreesOff_run hchanges

theorem inStep_stopAll (up down : List Level) (hdb : db.InStep) :
    (e.stopAll down (e.startAll up db)).InStep := by
  obtain ⟨calls, hcalls, -⟩ := h.stopAll_startAll_eq_run up down db
  exact hcalls ▸ inStep_run db hdb calls

/-- What is left of a database is what it had under other names. -/
theorem stopAll_eq_off (up : List Level) {down : List Level} (hdown : ∀ level, level ∈ down)
    (hdb : db.InStep) :
    (e.stopAll down (e.startAll up db)).classes = db.classesOff (classNames classes) ∧
      (e.stopAll down (e.startAll up db)).names = db.namesOff (classNames classes) :=
  (h.agreesOff_stopAll up down).eq_off (h.inStep_stopAll up down hdb)
    fun _ hname => h.isRegistered_stopAll hdown hname

end IsOrdered

/-! ## Parents under children -/

/-- Whether no registered class of an extension misses a parent in the extension. -/
def ParentsRegistered (classes : List ClassRegistration) (db : ClassDatabase) : Prop :=
  ∀ c ∈ classes, ∀ p ∈ classes, c.parent? = some p.name →
    db.isRegistered c.name = true → db.isRegistered p.name = true

/-- Classes that are registered parents first never miss a parent. -/
theorem parentsRegistered_foldl_registerNamed {all done : List String}
    (hnames : ∀ n ∈ all, n ∈ classNames e.classes)
    (hnew : ∀ c ∈ classes, db.isRegistered c.name = false)
    (hpreceded : ∀ c ∈ classes, ∀ p ∈ classes, c.parent? = some p.name →
      Preceded all p.name c.name)
    (hdone : done <+: all) : ParentsRegistered classes (done.foldl e.registerNamed db) := by
  intro c hc p hp hparent hregistered
  have hnames : ∀ n ∈ done, n ∈ classNames e.classes := fun n hn => hnames n (hdone.subset hn)
  rw [isRegistered_foldl_registerNamed hnames, hnew c hc] at hregistered
  rw [isRegistered_foldl_registerNamed hnames]
  have hchild : c.name ∈ done := hregistered.resolve_left Bool.false_ne_true
  exact .inr ((hpreceded c hc p hp hparent).mem_so_far hdone hchild)

theorem parentsRegistered_foldl_unregister {all done : List String}
    (hold : ∀ c ∈ classes, db.isRegistered c.name = true)
    (hpreceded : ∀ c ∈ classes, ∀ p ∈ classes, c.parent? = some p.name →
      Preceded all c.name p.name)
    (hdone : done <+: all) : ParentsRegistered classes (done.foldl unregister db) := by
  intro c hc p hp hparent hregistered
  rw [isRegistered_foldl_unregister] at hregistered ⊢
  refine ⟨fun hparentGone => hregistered.1 ?_, hold p hp⟩
  exact (hpreceded c hc p hp hparent).mem_so_far hdone hparentGone

/-! ## Where the names are free -/

namespace IsOrdered

variable (h : IsOrdered classes e) (hnew : ∀ n ∈ classNames classes, db.isRegistered n = false)

include h

theorem record?_startAll {up : List Level} (hup : ∀ level, level ∈ up) (name : String) :
    (e.startAll up db).record? name =
      (db.record? name).or (if name ∈ classNames classes then e.recordOf? name else none) := by
  rw [← startAll_eq, record?_foldl_registerNamed]
  simp only [h.mem_registrations hup]

include hnew

theorem record?_startAll_of_mem {up : List Level} (hup : ∀ level, level ∈ up)
    {c : ClassRegistration} (hc : c ∈ classes) :
    (e.startAll up db).record? c.name = some c.record := by
  have hname : c.name ∈ classNames classes := List.mem_map_of_mem hc
  rw [h.record?_startAll hup, (db.record?_eq_none_iff c.name).mpr (hnew c.name hname),
    Option.none_or, if_pos hname]
  exact recordOf?_of_nodup (h.classes_eq ▸ h.nodup) (h.classes_eq ▸ hc)

theorem names_startAll (hdb : db.InStep) {starts : Level → Nat}
    (hstarts : ∀ level, 0 < starts level) :
    (e.startAll (repeatEach starts Level.all) db).names =
      db.names ++ e.plan.registrationOrder.map Prod.snd := by
  have hnodup : (e.registrations Level.all).Nodup := h.perm.nodup_iff.mpr h.nodup
  have hothers : (e.registrations Level.all).filter (fun n => !db.names.contains n) =
      e.registrations Level.all := by
    refine List.filter_eq_self.mpr fun n hn => ?_
    have hfree : n ∉ db.names := by
      rw [hdb.mem_iff, hnew n (h.perm.mem_iff.mp hn)]
      exact Bool.false_ne_true
    simpa using hfree
  calc (e.startAll (repeatEach starts Level.all) db).names
      = (e.registrations (repeatEach starts Level.all)).foldl keep db.names := by
        rw [← startAll_eq, names_foldl_registerNamed (fun _ => h.mem_of_mem_registrations _) hdb]
    _ = (e.registrations Level.all).foldl keep db.names := foldl_keep_repeatEach hstarts _ _ _
    _ = db.names ++ e.plan.registrationOrder.map Prod.snd := by
        rw [foldl_keep_eq_append, hothers, firstOccurrences_of_nodup hnodup, h.order_eq]

theorem isSubclass_stopAll {up down : List Level} (hdown : ∀ level, level ∈ down)
    (hdb : db.InStep) (hcurrent : db.AnswersCurrent) (name ancestor : String) :
    (e.stopAll down (e.startAll up db)).isSubclass name ancestor = db.isSubclass name ancestor := by
  obtain ⟨calls, hcalls, -⟩ := h.stopAll_startAll_eq_run up down db
  have hclasses : (db.run calls).classes = db.classes := by
    rw [← hcalls, (h.stopAll_eq_off up hdown hdb).1, classesOff_eq_self hnew]
  have hparents : (db.run calls).parentOf? = db.parentOf? := by
    funext x
    rw [parentOf?, record?, hclasses, parentOf?, record?]
  rw [hcalls, (answersCurrent_run hcurrent calls).isSubclass_eq, hcurrent.isSubclass_eq,
    findAncestor_congr hparents]

end IsOrdered

/-- What comes of an extension while levels are started, and stopped again: no step leaves a class
without its parent; then the classes are there with their members, after all others and in the order
of the plan; and in the end nothing has changed. -/
structure ComesAndGoes (classes : List ClassRegistration) (e : Extension) (up down : List Level)
    (db : ClassDatabase) : Prop where
  registrations_eq : (e.registrations up).foldl e.registerNamed db = e.startAll up db
  parents_starting : ∀ done, done <+: e.registrations up →
    ParentsRegistered classes (done.foldl e.registerNamed db)
  order_perm : (e.plan.registrationOrder.map Prod.snd).Perm (classNames classes)
  names_started : (e.startAll up db).names = db.names ++ e.plan.registrationOrder.map Prod.snd
  record_started : ∀ c ∈ classes, (e.startAll up db).record? c.name = some c.record
  record_others : ∀ name, name ∉ classNames classes →
    (e.startAll up db).record? name = db.record? name
  removals_eq : (e.removals down).foldl unregister (e.startAll up db) =
    e.stopAll down (e.startAll up db)
  parents_stopping : ∀ done, done <+: e.removals down →
    ParentsRegistered classes (done.foldl unregister (e.startAll up db))
  classes_stopped : (e.stopAll down (e.startAll up db)).classes = db.classes
  names_stopped : (e.stopAll down (e.startAll up db)).names = db.names
  isSubclass_stopped : ∀ name ancestor,
    (e.stopAll down (e.startAll up db)).isSubclass name ancestor = db.isSubclass name ancestor

/-- Where no class has a name of an extension, any number of starts of the levels, in order, and
then any number of stops, in reverse, leave the classes that were there, and never a class of the
extension without its parent. -/
theorem startAll_stopAll (calls : List RegistryCall) (hok : ofClasses classes = .ok e)
    (hnew : ∀ n ∈ classNames classes, (ClassDatabase.empty.run calls).isRegistered n = false)
    {starts stops : Level → Nat} (hstarts : ∀ level, 0 < starts level)
    (hstops : ∀ level, 0 < stops level) :
    ComesAndGoes classes e (repeatEach starts Level.all) (repeatEach stops Level.all.reverse)
      (ClassDatabase.empty.run calls) := by
  have hordered : IsOrdered classes e := isOrdered_of_ofClasses hok
  have hdb : (ClassDatabase.empty.run calls).InStep := inStep_run _ .empty calls
  have hcurrent : (ClassDatabase.empty.run calls).AnswersCurrent :=
    answersCurrent_run (answersCurrent_of_answers_eq_nil rfl) calls
  have hup : ∀ level, level ∈ repeatEach starts Level.all :=
    fun level => (mem_repeatEach hstarts).mpr (Level.mem_all level)
  have hdown : ∀ level, level ∈ repeatEach stops Level.all.reverse :=
    fun level => (mem_repeatEach hstops).mpr (List.mem_reverse.mpr (Level.mem_all level))
  obtain ⟨hclasses, hnames⟩ :=
    hordered.stopAll_eq_off (repeatEach starts Level.all) hdown hdb
  exact
    { registrations_eq := startAll_eq e _ _
      parents_starting := fun done hdone =>
        parentsRegistered_foldl_registerNamed (fun _ => hordered.mem_of_mem_registrations _)
          (fun c hc => hnew c.name (List.mem_map_of_mem hc))
          (fun c hc p hp hparent => (hordered.preceded c hc p hp hparent).repeatEach hstarts) hdone
      order_perm := hordered.order_eq ▸ hordered.perm
      names_started := hordered.names_startAll hnew hdb hstarts
      record_started := fun c hc => hordered.record?_startAll_of_mem hnew hup hc
      record_others := fun name hname => by
        rw [hordered.record?_startAll hup, if_neg hname, Option.or_none]
      removals_eq := stopAll_eq e _ _
      parents_stopping := fun done hdone => by
        refine parentsRegistered_foldl_unregister (fun c hc => ?_)
          (fun c hc p hp hparent => ?_) hdone
        · rw [isRegistered, hordered.record?_startAll_of_mem hnew hup hc, Option.isSome_some]
        · exact (hordered.preceded_removals hc hp hparent).repeatEach hstops
      classes_stopped := hclasses.trans (classesOff_eq_self hnew)
      names_stopped := hnames.trans (hdb.namesOff_eq_self hnew)
      isSubclass_stopped := hordered.isSubclass_stopAll hnew hdown hdb hcurrent }

-- children are declared before their parents, at the same level and at a later one
def actors : List ClassRegistration :=
  [⟨"Boss", some "Player", false, .scene, []⟩, ⟨"Player", some "Actor", false, .scene, []⟩,
    ⟨"Actor", some "Node", false, .servers, [.signal ⟨"hit", []⟩]⟩]

theorem ofClasses_actors : ofClasses actors =
    .ok ⟨actors, ⟨[⟨.servers, ["Actor"]⟩, ⟨.scene, ["Player", "Boss"]⟩]⟩⟩ := by
  have hplan : StartupPlan.resolve (levels actors) (actors.map fun c => ⟨c.name, c.parent?⟩) =
      .ok ⟨[⟨.servers, ["Actor"]⟩, ⟨.scene, ["Player", "Boss"]⟩]⟩ := by decide +kernel
  rw [ofClasses, hplan]
  rfl

theorem startAll_stopAll_actors :
    ∃ e, ofClasses actors = .ok e ∧
      ComesAndGoes actors e (repeatEach (fun _ => 2) Level.all)
        (repeatEach (fun _ => 1) Level.all.reverse)
        (ClassDatabase.empty.run [.register "Node" none false]) :=
  ⟨_, ofClasses_actors,
    startAll_stopAll [.register "Node" none false] ofClasses_actors (by decide)
      (fun _ => Nat.two_pos) fun _ => Nat.one_pos⟩

/-! ## Where names are taken -/

theorem IsOrdered.keeps_startAll (h : IsOrdered classes e) (hdb : db.InStep) :
    Keeps db (e.startAll Level.all db) := by
  constructor
  · intro name hname
    obtain ⟨record, hrecord⟩ := Option.isSome_iff_exists.mp hname
    rw [h.record?_startAll Level.mem_all, hrecord, Option.some_or]
  · rw [← startAll_eq, names_foldl_registerNamed (fun _ => h.mem_of_mem_registrations _) hdb,
      foldl_keep_eq_append]
    exact List.sublist_append_left _ _

/-- Starting an extension takes nothing away.  Stopping it removes the classes of all its names,
whoever registered them; so nothing is lost exactly if nobody else had registered any of them. -/
theorem stopAll_keeps_iff (calls : List RegistryCall) (hok : ofClasses classes = .ok e) :
    let db := ClassDatabase.empty.run calls
    let started := e.startAll Level.all db
    let stopped := e.stopAll Level.all.reverse started
    Keeps db started ∧
      stopped.classes = db.classesOff (classNames classes) ∧
      stopped.names = db.namesOff (classNames classes) ∧
      (Keeps db stopped ↔ ∀ n ∈ classNames classes, db.isRegistered n = false) := by
  intro db started stopped
  have hordered : IsOrdered classes e := isOrdered_of_ofClasses hok
  have hdb : db.InStep := inStep_run _ .empty calls
  have hdown : ∀ level, level ∈ Level.all.reverse :=
    fun level => List.mem_reverse.mpr (Level.mem_all level)
  obtain ⟨hclasses, hnames⟩ := hordered.stopAll_eq_off Level.all hdown hdb
  refine ⟨hordered.keeps_startAll hdb, hclasses, hnames, ?_⟩
  exact (hordered.agreesOff_stopAll Level.all Level.all.reverse).keeps_iff hdb
    (hordered.inStep_stopAll Level.all Level.all.reverse hdb)
    fun _ hname => hordered.isRegistered_stopAll hdown hname

theorem stopAll_keeps_iff_actors :
    ∃ e, ofClasses actors = .ok e ∧
      Keeps (ClassDatabase.empty.run [.register "Node" none false])
        (e.stopAll Level.all.reverse
          (e.startAll Level.all (ClassDatabase.empty.run [.register "Node" none false]))) :=
  ⟨_, ofClasses_actors,
    (stopAll_keeps_iff [.register "Node" none false] ofClasses_actors).2.2.2.mpr (by decide)⟩

/-- The actor of somebody else is gone. -/
theorem not_keeps_stopAll :
    ¬∀ (calls : List RegistryCall) (classes : List ClassRegistration) (e : Extension),
      ofClasses classes = .ok e →
        Keeps (ClassDatabase.empty.run calls)
          (e.stopAll Level.all.reverse (e.startAll Level.all (ClassDatabase.empty.run calls))) := by
  intro hkeeps
  have hactor := hkeeps [.register "Actor" none false] actors _ ofClasses_actors
  exact absurd (hactor.record?_eq "Actor" (by decide)) (by decide)

end Extension

end EngineBindings
