import EngineBindings.Proofs.Bindings.ClassConstants
import EngineBindings.Proofs.Bindings.EntryCalls
import EngineBindings.Proofs.Bindings.FilePaths

/-!
# Running the entry point of a module

The startup functions of a module are run for all levels in turn, and backwards when the engine
shuts down.  Then each class is registered once, at the level that its own code says and after its
parent, and removed in the reverse order (`ModulePlan.entry_runs_plan`), provided that the names of
the classes have identifiers of their own.
-/

namespace EngineBindings

open FilePath Code AssembledModule

/-! ## Order -/

namespace GeneratedModule

variable {s : Schema} {levels : LevelAssignment} {foundational : String}
  (g : GeneratedModule s levels foundational)

/-- The classes of a module level by level in the order of their registration. -/
def registrationNames : List String :=
  Level.all.flatMap g.namesAt

theorem mem_registrationNames {name : String} :
    name ∈ g.registrationNames ↔ name ∈ g.plan.generatedClasses := by
  rw [registrationNames, List.mem_flatMap]
  constructor
  · rintro ⟨level, -, hname⟩
    exact (g.mem_namesAt.mp hname).1
  · exact fun hname => ⟨levels.levelOf name, Level.mem_all _, g.mem_namesAt.mpr ⟨hname, rfl⟩⟩

theorem registrationNames_nodup : g.registrationNames.Nodup := by
  refine List.nodup_flatMap.mpr ⟨fun level _ => g.namesAt_nodup level, ?_⟩
  refine Level.all_nodup.imp fun hne name hname hname' => ?_
  exact hne ((g.mem_namesAt.mp hname).2.symm.trans (g.mem_namesAt.mp hname').2)

theorem registrationNames_perm : g.registrationNames.Perm g.plan.generatedClasses :=
  (List.perm_ext_iff_of_nodup g.registrationNames_nodup g.generatedClasses_nodup).mpr fun _ =>
    g.mem_registrationNames

/-- The classes of a level in the whole sequence are those of the level. -/
theorem filter_registrationNames (level : Level) :
    g.registrationNames.filter (fun name => levels.levelOf name == level) = g.namesAt level := by
  have hat (other : Level) : (g.namesAt other).filter (fun name => levels.levelOf name == level) =
      if other = level then g.namesAt level else [] := by
    split
    · next heq =>
      subst heq
      exact List.filter_eq_self.mpr fun name hname => beq_iff_eq.mpr (g.mem_namesAt.mp hname).2
    · next hne =>
      refine List.filter_eq_nil_iff.mpr fun name hname hlevel => hne ?_
      exact (g.mem_namesAt.mp hname).2.symm.trans (eq_of_beq hlevel)
  rw [registrationNames, List.filter_flatMap]
  simp only [hat]
  cases level <;> simp [Level.all]

/-- A class comes after its parent, if the module generates that too. -/
theorem preceded_registrationNames {name parent : String} (hparent : s.parent? name = some parent)
    (hgenerated : parent ∈ g.plan.generatedClasses) :
    Preceded g.registrationNames parent name := by
  intro before after heq
  obtain ⟨ls, level, ls', front, back, hall, rfl, hlevel⟩ := flatMap_eq_append_cons heq
  obtain ⟨hname, rfl⟩ : name ∈ g.plan.generatedClasses ∧ levels.levelOf name = level :=
    g.mem_namesAt.mp (hlevel ▸ List.mem_append_right _ List.mem_cons_self)
  have hle := g.parent_level_le hname hparent
  by_cases hsame : levels.levelOf parent = levels.levelOf name
  · exact List.mem_append_right _ (g.parent_mem_front hlevel hparent hgenerated hsame)
  · have hearlier := Level.mem_of_lt hall (Level.lt_of_le_of_ne hle hsame)
    refine List.mem_append_left _ (List.mem_flatMap.mpr ⟨_, hearlier, ?_⟩)
    exact g.mem_namesAt.mpr ⟨hgenerated, rfl⟩

/-! ## Classes -/

/-- The constants in the code of the classes of a module. -/
def constants : List ClassConstants :=
  g.unit.classes.map ClassUnit.constants

theorem constants_names : g.constants.map ClassConstants.name = g.plan.generatedClasses := by
  rw [constants, List.map_map]
  exact classes_names g.unit_eq

/-- The constants of a class are those of the schema, with its level. -/
theorem of_mem_constants {c : ClassConstants} (hc : c ∈ g.constants) :
    Naming.ident c.name = .ok c.ident ∧ c.parent? = s.parent? c.name ∧
      c.level = levels.levelOf c.name := by
  obtain ⟨u, hu, rfl⟩ := List.mem_map.mp hc
  obtain ⟨classes, plan, hclasses, -, hunits, -⟩ := ofPlan_inv g.unit_eq
  obtain ⟨d, hd, hunit⟩ := exists_of_mem_mapM hunits hu
  obtain ⟨name, -, hplanned⟩ := exists_of_mem_mapM hclasses hd
  obtain ⟨huname, hident, hparent, -, hlevel, -⟩ := ClassUnit.isFor_of_ofClass hunit
  split at hplanned
  · next found hfound =>
    obtain rfl := Except.ok.inj hplanned
    obtain rfl := Schema.class?_name hfound
    refine ⟨?_, ?_, ?_⟩
    · rw [ClassUnit.constants, huname, hident]
    · rw [ClassUnit.constants, hparent, huname, Schema.parent?, hfound, Option.bind_some]
    · rw [ClassUnit.constants, hlevel, huname]
  · cases hplanned

theorem classEntries_constants :
    g.unit.classEntries.map (fun t => ClassConstants.ofCode? t.code) = g.constants.map some := by
  rw [classEntries, classModules, constants, List.map_map, List.map_map, List.map_map]
  refine List.map_congr_left fun u hu => ?_
  have hident := (g.of_mem_constants (List.mem_map_of_mem (f := ClassUnit.constants) hu)).1
  rw [Function.comp_apply, Function.comp_apply, Function.comp_apply, TypeModule.entry_code]
  dsimp only
  rw [u.ofCode?_code hident]

/-- The constants of the class with a name. -/
def constant? (name : String) : Option ClassConstants :=
  g.constants.find? fun c => c.name == name

/-- The classes of a module in the order of their registration. -/
def order : List ClassConstants :=
  g.registrationNames.filterMap g.constant?

theorem constant?_name {c : ClassConstants} (hc : c ∈ g.constants) :
    g.constant? c.name = some c := by
  have hnodup : (g.constants.map ClassConstants.name).Nodup := by
    rw [g.constants_names]
    exact g.generatedClasses_nodup
  rw [constant?, ← List.head?_filter, filter_eq_singleton hnodup hc, List.head?_cons]

theorem order_perm : g.order.Perm g.constants := by
  have hall : g.plan.generatedClasses.filterMap g.constant? = g.constants := by
    rw [← g.constants_names, List.filterMap_map]
    refine (List.filterMap_congr fun c hc => ?_).trans List.filterMap_some
    exact g.constant?_name hc
  rw [← hall]
  exact g.registrationNames_perm.filterMap g.constant?

theorem exists_constant? {name : String} (hname : name ∈ g.registrationNames) :
    ∃ c ∈ g.constants, g.constant? name = some c ∧ c.name = name := by
  rw [g.mem_registrationNames, ← g.constants_names] at hname
  obtain ⟨c, hc, rfl⟩ := List.mem_map.mp hname
  exact ⟨c, hc, g.constant?_name hc, rfl⟩

theorem order_names : g.order.map ClassConstants.name = g.registrationNames := by
  rw [order, List.map_filterMap]
  refine (List.filterMap_congr fun name hname => ?_).trans List.filterMap_some
  obtain ⟨c, -, hfound, hc⟩ := g.exists_constant? hname
  rw [hfound, Option.map_some, hc]

/-- The classes with a level are those that are registered there. -/
theorem filter_order (level : Level) :
    g.order.filter (fun c => c.level == level) = (g.namesAt level).filterMap g.constant? := by
  rw [order, ← g.filter_registrationNames, List.filter_filterMap, List.filterMap_filter]
  refine List.filterMap_congr fun name hname => ?_
  obtain ⟨c, hc, hfound, rfl⟩ := g.exists_constant? hname
  rw [hfound, ← (g.of_mem_constants hc).2.2]
  rfl

theorem order_eq_flatMap :
    g.order = Level.all.flatMap fun level => g.order.filter fun c => c.level == level := by
  simp only [filter_order]
  rw [order, registrationNames, List.filterMap_flatMap]

/-- The identifiers of a level are those of its classes in order. -/
theorem identsAt_eq (level : Level) :
    g.unit.entry.identsAt level =
      (g.order.filter fun c => c.level == level).map ClassConstants.ident := by
  have hidents := mapM_eq_ok_iff.mp (g.mapM_ident_namesAt level)
  have hclasses : (g.namesAt level).map Naming.ident =
      ((g.order.filter fun c => c.level == level).map ClassConstants.ident).map .ok := by
    have hlevels : g.order.filter ((fun name => levels.levelOf name == level) ∘
        ClassConstants.name) = g.order.filter fun c => c.level == level := by
      refine List.filter_congr fun c hc => ?_
      rw [(g.of_mem_constants (g.order_perm.mem_iff.mp hc)).2.2, Function.comp_apply]
    rw [← g.filter_registrationNames, ← g.order_names, List.filter_map, hlevels, List.map_map,
      List.map_map]
    refine List.map_congr_left fun c hc => ?_
    exact (g.of_mem_constants (g.order_perm.mem_iff.mp (List.mem_of_mem_filter hc))).1
  exact List.map_injective_iff.mpr (fun _ _ => Except.ok.inj) (hidents.symm.trans hclasses)

theorem parents_first {before after : List ClassConstants} {c : ClassConstants} {parent : String}
    (heq : g.order = before ++ c :: after) (hparent : c.parent? = some parent)
    (hgenerated : parent ∈ g.plan.generatedClasses) : ∃ d ∈ before, d.name = parent := by
  have hc : c ∈ g.constants :=
    g.order_perm.mem_iff.mp (heq ▸ List.mem_append_right _ List.mem_cons_self)
  have hnames : g.registrationNames = before.map ClassConstants.name ++
      c.name :: after.map ClassConstants.name := by
    rw [← g.order_names, heq, List.map_append, List.map_cons]
  have hschema : s.parent? c.name = some parent := (g.of_mem_constants hc).2.1.symm.trans hparent
  have hbefore := g.preceded_registrationNames hschema hgenerated _ _ hnames
  obtain ⟨d, hd, hname⟩ := List.mem_map.mp hbefore
  exact ⟨d, hd, hname⟩

end GeneratedModule

/-! ## Runs -/

namespace ClassConstants

/-- The call that registers a class. -/
def registration (c : ClassConstants) : RegistryCall :=
  .register c.name c.parent? c.isRefCounted

/-- The call that removes a class. -/
def removal (c : ClassConstants) : RegistryCall :=
  .unregister c.name

/-- The class that an identifier stands for.  Code that gives two classes one identifier does not
compile. -/
def ofIdent? (classes : List ClassConstants) (ident : String) : Option ClassConstants :=
  match classes.filter fun c => c.ident == ident with
  | [c] => some c
  | _ => none

/-- What the functions that register the classes of each level call, for all levels in turn. -/
def startupCalls? (root : Code) (classes : List ClassConstants) : Option (List RegistryCall) :=
  (Level.all.mapM fun level => (registeredAt root level).bind fun idents =>
    (idents.mapM (ofIdent? classes)).map (List.map registration)).map List.flatten

/-- What the functions that remove the classes of each level call, for all levels backwards. -/
def shutdownCalls? (root : Code) (classes : List ClassConstants) : Option (List RegistryCall) :=
  (Level.all.reverse.mapM fun level => (removedAt root level).bind fun idents =>
    (idents.mapM (ofIdent? classes)).map (List.map removal)).map List.flatten

variable {classes order : List ClassConstants}

theorem mapM_ofIdent? (hnodup : (classes.map ident).Nodup) {cs : List ClassConstants}
    (hcs : ∀ c ∈ cs, c ∈ classes) : (cs.map ident).mapM (ofIdent? classes) = some cs := by
  rw [mapM_eq_some_iff, List.map_map]
  refine List.map_congr_left fun c hc => ?_
  rw [Function.comp_apply, ofIdent?, filter_eq_singleton hnodup (hcs c hc)]

/-- Identifiers that stand for classes are distinct. -/
theorem nodup_of_ofIdent? (h : ∀ c ∈ classes, (ofIdent? classes c.ident).isSome) :
    (classes.map ident).Nodup := by
  refine List.nodup_iff_count_le_one.mpr fun identifier => ?_
  by_cases hmem : identifier ∈ classes.map ident
  · obtain ⟨c, hc, rfl⟩ := List.mem_map.mp hmem
    have hsome := h c hc
    unfold ofIdent? at hsome
    split at hsome
    · next d hd =>
      rw [List.count, List.countP_map, List.countP_eq_length_filter]
      exact (congrArg List.length hd).le
    · cases hsome
  · rw [List.count_eq_zero_of_not_mem hmem]
    exact Nat.zero_le 1

/-- Whether a list of classes goes through levels in turn, parents first. -/
structure IsStartupOrder (classes order : List ClassConstants) : Prop where
  perm : order.Perm classes
  by_level : order = Level.all.flatMap fun level => order.filter fun c => c.level == level
  parents_first : ∀ before c after parent, order = before ++ c :: after → c.parent? = some parent →
    parent ∈ classes.map ClassConstants.name → ∃ d ∈ before, d.name = parent

/-- Whether the startup functions register and remove the classes of each level by their
identifiers in order. -/
structure RunsAlong (root : Code) (order : List ClassConstants) : Prop where
  registered : ∀ level, registeredAt root level =
    some ((order.filter fun c => c.level == level).map ident)
  removed : ∀ level, removedAt root level =
    some ((order.filter fun c => c.level == level).map ident).reverse

variable {root : Code}

theorem RunsAlong.startupCalls?_eq (h : RunsAlong root order)
    (horder : IsStartupOrder classes order) (hnodup : (classes.map ident).Nodup) :
    startupCalls? root classes = some (order.map registration) ∧
      shutdownCalls? root classes = some (order.reverse.map removal) := by
  have hmem (level : Level) : ∀ c ∈ order.filter (fun c => c.level == level), c ∈ classes :=
    fun c hc => horder.perm.mem_iff.mp (List.mem_of_mem_filter hc)
  have hregistered (level : Level) : ((registeredAt root level).bind fun idents =>
      (idents.mapM (ofIdent? classes)).map (List.map registration)) =
        some ((order.filter fun c => c.level == level).map registration) := by
    rw [h.registered, Option.bind_some, mapM_ofIdent? hnodup (hmem level), Option.map_some]
  have hremoved (level : Level) : ((removedAt root level).bind fun idents =>
      (idents.mapM (ofIdent? classes)).map (List.map removal)) =
        some ((order.filter fun c => c.level == level).reverse.map removal) := by
    rw [h.removed, Option.bind_some, ← List.map_reverse, mapM_ofIdent? hnodup, Option.map_some]
    exact fun c hc => hmem level c (List.mem_reverse.mp hc)
  constructor
  · rw [startupCalls?, mapM_eq_some_map fun level _ => hregistered level, Option.map_some,
      ← List.flatMap_def, ← List.map_flatMap, ← horder.by_level]
  · have hreverse : order.reverse = Level.all.reverse.flatMap fun level =>
        (order.filter fun c => c.level == level).reverse :=
      (congrArg List.reverse horder.by_level).trans List.reverse_flatMap
    rw [shutdownCalls?, mapM_eq_some_map fun level _ => hremoved level, Option.map_some,
      ← List.flatMap_def, ← List.map_flatMap, ← hreverse]

/-- Startup functions can be run just if each class has an identifier of its own. -/
theorem RunsAlong.isSome_startupCalls?_iff (h : RunsAlong root order)
    (horder : IsStartupOrder classes order) :
    (startupCalls? root classes).isSome ↔ (classes.map ident).Nodup := by
  constructor
  · intro hsome
    obtain ⟨calls, hcalls⟩ := Option.isSome_iff_exists.mp hsome
    obtain ⟨pieces, hpieces, -⟩ := Option.map_eq_some_iff.mp hcalls
    rw [mapM_eq_some_iff] at hpieces
    refine nodup_of_ofIdent? fun c hc => ?_
    have hlevel : ((registeredAt root c.level).bind fun idents =>
        (idents.mapM (ofIdent? classes)).map (List.map registration)) ∈ pieces.map some :=
      hpieces ▸ List.mem_map_of_mem (Level.mem_all c.level)
    obtain ⟨piece, -, hpiece⟩ := List.mem_map.mp hlevel
    rw [h.registered, Option.bind_some] at hpiece
    obtain ⟨units, hunits, -⟩ := Option.map_eq_some_iff.mp hpiece.symm
    have hmem : c ∈ order.filter fun d => d.level == c.level :=
      List.mem_filter.mpr ⟨horder.perm.mem_iff.mpr hc, beq_self_eq_true _⟩
    have hfound : ofIdent? classes c.ident ∈ units.map some :=
      mapM_eq_some_iff.mp hunits ▸ List.mem_map_of_mem (List.mem_map_of_mem hmem)
    obtain ⟨unit, -, hunit⟩ := List.mem_map.mp hfound
    rw [← hunit, Option.isSome_some]
  · intro hnodup
    rw [(h.startupCalls?_eq horder hnodup).1, Option.isSome_some]

end ClassConstants

/-! ## Main statement -/

namespace ModulePlan

open ClassConstants

variable {s : Schema} {p : ModulePlan} {levels : LevelAssignment} {foundational : String}

/-- The startup functions of a module register its classes at the levels that are in their code,
each after its parent, and remove them backwards, if no two of them have one identifier. -/
theorem entry_runs_plan {files : List GeneratedFile}
    (h : p.assemble s levels foundational = .ok files) :
    ∃ a typeFiles root, ofPlan s p levels foundational = .ok a ∧
      files = typeFiles ++ engineFiles p a ++ [root] ∧
      p.layout.Holds p.module a.classEntries a.builtinEntries typeFiles ∧
      ∃ classes order : List ClassConstants,
        a.classEntries.map (fun t => ofCode? t.code) = classes.map some ∧
        classes.map name = p.generatedClasses ∧
        p.generatedClasses.mapM Naming.ident = .ok (classes.map ident) ∧
        IsStartupOrder classes order ∧ RunsAlong root.code order ∧
        ((startupCalls? root.code classes).isSome ↔ (classes.map ident).Nodup) ∧
        ((classes.map ident).Nodup →
          startupCalls? root.code classes = some (order.map registration) ∧
            shutdownCalls? root.code classes = some (order.reverse.map removal)) := by
  obtain ⟨a, ha, -, typeFiles, root, hfiles, hholds, hroot⟩ := sections_of_assemble h
  let g : GeneratedModule s levels foundational := ⟨p, a, files, ha, h⟩
  have hidents : p.generatedClasses.mapM Naming.ident = .ok (g.constants.map ident) := by
    have hnames : g.constants.map name = p.generatedClasses := g.constants_names
    rw [mapM_eq_ok_iff, ← hnames, List.map_map, List.map_map]
    exact List.map_congr_left fun c hc => (g.of_mem_constants hc).1
  have horder : IsStartupOrder g.constants g.order :=
    ⟨g.order_perm, g.order_eq_flatMap, fun before c after parent heq hparent hgenerated =>
      g.parents_first heq hparent (g.constants_names ▸ hgenerated)⟩
  have hruns : RunsAlong root.code g.order := by
    constructor
    · intro level
      rw [← g.identsAt_eq level]
      exact (a.entry.registeredAt_code hroot.functions_eq level).1
    · intro level
      rw [← g.identsAt_eq level]
      exact (a.entry.registeredAt_code hroot.functions_eq level).2
  exact ⟨a, typeFiles, root, ha, hfiles, hholds, g.constants, g.order, g.classEntries_constants,
    g.constants_names, hidents, horder, hruns, hruns.isSome_startupCalls?_iff horder,
    hruns.startupCalls?_eq horder⟩

theorem entry_runs_plan_node :
    ∃ files root classes order, SmallModule.files "scene" .perType ["Node"] = .ok files ∧
      files.getLast? = some root ∧ classes.map name = ["Object", "Node"] ∧
      IsStartupOrder classes order ∧
      startupCalls? root.code classes = some (order.map registration) ∧
      shutdownCalls? root.code classes = some (order.reverse.map removal) := by
  obtain ⟨files, hfiles⟩ : ∃ files, SmallModule.files "scene" .perType ["Node"] = .ok files :=
    ⟨_, eq_ok_of_isOk (by decide +kernel) []⟩
  obtain ⟨a, typeFiles, root, -, hsections, -, classes, order, -, hnames, hidents, horder, -, -,
    hcalls⟩ := entry_runs_plan hfiles
  have hspelled : (["Object", "Node"].mapM Naming.ident).toOption = some ["Object", "Node"] := by
    decide +kernel
  have hclasses : classes.map ident = ["Object", "Node"] :=
    Except.ok.inj (hidents.symm.trans (toOption_eq_some_iff.mp hspelled))
  have hnodup : (classes.map ident).Nodup := by
    rw [hclasses]
    decide
  obtain ⟨hstartup, hshutdown⟩ := hcalls hnodup
  have hlast : files.getLast? = some root := by
    rw [hsections, List.getLast?_concat]
  exact ⟨files, root, classes, order, hfiles, hlast, hnames, horder, hstartup, hshutdown⟩

/-- Two classes are registered by one identifier, if that of a keyword that cannot be escaped is the
name of the other one. -/
theorem not_entry_runs_plan :
    (SmallModule.schema ["Self", "Self_"]).IsValid ∧ ["Object", "Self", "Self_"].Nodup ∧
      ∃ files root, SmallModule.files "scene" .perType ["Self", "Self_"] = .ok files ∧
        files.getLast? = some root ∧
        registeredAt root.code .scene = some ["Object", "Self_", "Self_"] := by
  have hregistered : (SmallModule.files "scene" .perType ["Self", "Self_"]).toOption.bind
      (fun files => files.getLast?.bind fun root => registeredAt root.code .scene) =
        some ["Object", "Self_", "Self_"] := by
    decide +kernel
  obtain ⟨files, hfiles, hroot⟩ := Option.bind_eq_some_iff.mp hregistered
  obtain ⟨root, hlast, hidents⟩ := Option.bind_eq_some_iff.mp hroot
  exact ⟨rfl, by decide, files, root, toOption_eq_some_iff.mp hfiles, hlast, hidents⟩

end ModulePlan

end EngineBindings
