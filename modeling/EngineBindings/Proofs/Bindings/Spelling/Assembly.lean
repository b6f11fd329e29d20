import EngineBindings.Proofs.Bindings.Assembly
import EngineBindings.Proofs.Bindings.Files
import EngineBindings.Proofs.Bindings.Spelling.Units

/-!
# Modules that can be assembled

A module is assembled, or there is an error that says why not; no name is in the way, if the names
of the schema are identifiers and the names that are built of them and of types have some
(`ModulePlan.assemble_or_error`).
-/

namespace EngineBindings

open Naming

/-! ## Startup -/

/-- What is registered is one of the classes that were to be ordered. -/
theorem StartupPlan.exists_of_mem_block {levels : LevelAssignment} {classes : List ClassNode}
    {plan : StartupPlan} (h : resolve levels classes = .ok plan) {block : LevelBlock}
    (hblock : block ∈ plan.blocks) {name : String} (hname : name ∈ block.classes) :
    ∃ c ∈ classes, c.name = name := by
  obtain ⟨-, -, hstuck, rfl⟩ := resolve_eq_ok_iff.mp h
  obtain ⟨level, -, htaken⟩ := List.mem_filterMap.mp hblock
  unfold takenBlock? at htaken
  split at htaken
  · cases htaken
  · obtain rfl := Option.some.inj htaken
    obtain ⟨c, hc, rfl⟩ := List.mem_map.mp hname
    exact ⟨c, ((mem_takenAt (hstuck level)).mp hc).1, rfl⟩

theorem EntryUnit.spells_ofPlan {levels : LevelAssignment} {classes : List ClassNode}
    {plan : StartupPlan} (h : StartupPlan.resolve levels classes = .ok plan)
    (hclasses : ∀ c ∈ classes, HasIdent c.name) : Spells (ofPlan plan) := by
  refine Spells.bind (spells_mapM fun block hblock => ?_) fun _ _ => spells_pure _
  refine Spells.bind (spells_mapM fun name hname => ?_) fun _ _ => spells_pure _
  obtain ⟨c, hc, rfl⟩ := StartupPlan.exists_of_mem_block h hblock hname
  exact spells_ident (hclasses c hc)

/-- What is generated for a builtin type keeps its name and its kind. -/
theorem BuiltinUnit.kind_of_ofBuiltin {m : TypeMap} {b : Builtin} {u : BuiltinUnit}
    (h : ofBuiltin m b = .ok (some u)) : u.name = b.name ∧ u.kind = b.kind ∧ b.kind ≠ .nil := by
  unfold ofBuiltin at h
  split at h
  · cases h
  next htrait =>
  obtain ⟨_, -, h⟩ := bind_eq_ok_iff.mp h
  obtain ⟨_, -, h⟩ := bind_eq_ok_iff.mp h
  obtain ⟨_, -, h⟩ := bind_eq_ok_iff.mp h
  obtain ⟨_, -, h⟩ := bind_eq_ok_iff.mp h
  obtain rfl := Option.some.inj (Except.ok.inj h)
  refine ⟨rfl, rfl, fun hnil => htrait ?_⟩
  rw [hasTrait, hnil]
  rfl

namespace AssembledModule

/-! ## Files -/

theorem isIdentifier_letterStem {name : String} (h : Text.isIdentifier name = true) {letter : Char}
    (hletter : letter ∈ FileLayout.letters) :
    Text.isIdentifier (letterStem name letter) = true := by
  have hletters : (FileLayout.letters.all fun c =>
      decide (IsSpellable c.toLower.toString)) = true := by decide +kernel
  exact isIdentifier_append (isIdentifier_append h (by decide))
    (of_decide_eq_true (List.all_eq_true.mp hletters letter hletter))

/-- Whether the names of a type and of its module have identifiers. -/
structure TypeModule.IsNamed (t : TypeModule) : Prop where
  module : HasIdent t.module
  exported : HasIdent t.exported

section Files

variable {a : AssembledModule} {module : String}

theorem spells_exportCode {t : TypeModule} (h : t.IsNamed) : Spells (exportCode t) :=
  (spells_identCode h.module).bind fun _ _ => (spells_identCode h.exported).bind
    fun _ _ => spells_pure _

theorem spells_declaration {t : TypeModule} (h : t.IsNamed) : Spells (declaration t) :=
  (spells_identCode h.module).bind fun _ _ => (spells_exportCode h).bind fun _ _ => spells_pure _

theorem spells_inline {t : TypeModule} (h : t.IsNamed) : Spells (inline t) :=
  (spells_identCode h.module).bind fun _ _ => (spells_exportCode h).bind fun _ _ => spells_pure _

theorem spells_directoryFiles {types : List TypeModule} (h : ∀ t ∈ types, t.IsNamed)
    (directory : String) : Spells (directoryFiles directory types) :=
  (spells_mapM fun t ht => spells_declaration (h t ht)).bind fun _ _ => spells_pure _

theorem spells_perTypeFiles (h : ∀ t ∈ a.classModules ++ a.builtinModules, t.IsNamed)
    (root : String) : Spells (perTypeFiles root a) := by
  rw [List.forall_mem_append] at h
  refine Spells.bind (spells_mapM fun group hgroup => ?_) fun _ _ => spells_pure _
  refine spells_directoryFiles (fun t ht => ?_) _
  have hgroup := List.mem_of_mem_filter hgroup
  simp only [List.mem_cons, List.not_mem_nil, or_false] at hgroup
  rcases hgroup with rfl | rfl
  · exact h.1 t ht
  · exact h.2 t ht

theorem spells_letterFiles (h : ∀ t ∈ a.classModules ++ a.builtinModules, t.IsNamed)
    (hmodule : Text.isIdentifier module = true) : Spells (letterFiles module a) := by
  refine Spells.bind (spells_mapM fun letter hletter => ?_) fun _ _ =>
    Spells.bind (spells_mapM fun letter hletter => ?_) fun _ _ => spells_pure _
  · refine Spells.bind (spells_mapM fun t ht => ?_) fun _ _ => spells_pure _
    exact spells_inline (h t (List.mem_of_mem_filter ht))
  · have hstem := hasIdent_of_isIdentifier (isIdentifier_letterStem hmodule hletter)
    exact (spells_identCode hstem).bind fun _ _ => spells_pure _

theorem spells_files {s : Schema} {p : ModulePlan}
    (h : ∀ t ∈ a.classModules ++ a.builtinModules, t.IsNamed)
    (hmodule : Text.isIdentifier p.module = true) : Spells (AssembledModule.files s p a) := by
  rw [files_eq]
  refine Spells.map ?_ _
  unfold typeFiles
  split
  · exact spells_perTypeFiles h p.module
  · exact spells_letterFiles h hmodule

end Files

/-! ## Units -/

section Units

variable {s : Schema} {p : ModulePlan} {levels : LevelAssignment} {foundational : String}

theorem spells_plannedClasses : Spells (plannedClasses s p) := by
  refine spells_mapM fun name _ => ?_
  split
  · exact spells_ok _
  · exact fun _ herror => nomatch herror

theorem spells_plannedBuiltins : Spells (plannedBuiltins s p) := by
  refine spells_mapM fun name _ => ?_
  split
  · exact spells_ok _
  · exact fun _ herror => nomatch herror

theorem spells_checkParents (classes : List ClassDescriptor) : Spells (checkParents p classes) := by
  unfold checkParents
  split
  · exact spells_ok ()
  · next error hmissing =>
    obtain ⟨c, -, hparent⟩ := List.exists_of_findSome?_eq_some hmissing
    unfold missingParent? at hparent
    split at hparent
    · cases hparent
    · obtain ⟨-, hparent⟩ := Option.ite_none_left_eq_some.mp hparent
      rw [← Option.some.inj hparent]
      exact fun _ herror => nomatch herror

theorem spells_startupPlan (classes : List ClassDescriptor) :
    Spells (startupPlan levels p classes) := by
  unfold startupPlan
  split
  · exact spells_ok _
  · exact fun _ herror => nomatch herror

theorem mem_classes_of_plannedClasses {classes : List ClassDescriptor}
    (h : plannedClasses s p = .ok classes) : ∀ c ∈ classes, c ∈ s.classes := by
  intro c hc
  obtain ⟨name, -, hclass⟩ := exists_of_mem_mapM h hc
  split at hclass
  · next d hd =>
    obtain rfl := Except.ok.inj hclass
    exact List.mem_of_find?_eq_some hd
  · cases hclass

theorem mem_builtins_of_plannedBuiltins {builtins : List Builtin}
    (h : plannedBuiltins s p = .ok builtins) : ∀ b ∈ builtins, b ∈ s.builtins := by
  intro b hb
  obtain ⟨name, -, hbuiltin⟩ := exists_of_mem_mapM h hb
  split at hbuiltin
  · next d hd =>
    obtain rfl := Except.ok.inj hbuiltin
    exact List.mem_of_find?_eq_some hd
  · cases hbuiltin

variable (hnames : s.NamesSpelled) (hkinds : ∀ b ∈ s.builtins, b.name = b.kind.engineName)

include hnames hkinds

theorem spells_ofPlan (h : TypeMap.BuildsNames ⟨s, p.availableClasses, foundational⟩) :
    Spells (ofPlan s p levels foundational) := by
  unfold ofPlan
  refine spells_plannedClasses.bind fun classes hclasses => ?_
  refine spells_plannedBuiltins.bind fun builtins hbuiltins => ?_
  refine (spells_checkParents classes).bind fun _ _ => ?_
  have hclass := mem_classes_of_plannedClasses hclasses
  have hbuiltin := mem_builtins_of_plannedBuiltins hbuiltins
  refine Spells.bind (spells_mapM fun c hc => ?_) fun _ _ => ?_
  · exact ClassUnit.spells_ofClass hnames h (hclass c hc) _ _
  refine Spells.bind (spells_mapM fun b hb => ?_) fun _ _ => ?_
  · exact BuiltinUnit.spells_ofBuiltin hnames h (hbuiltin b hb) (hkinds b (hbuiltin b hb))
  refine (spells_startupPlan classes).bind fun plan hplan => ?_
  refine (EntryUnit.spells_ofPlan (startupPlan_eq_ok_iff.mp hplan) fun node hnode => ?_).bind
    fun _ _ => ?_
  · obtain ⟨c, hc, rfl⟩ := List.mem_map.mp hnode
    exact (hnames.of_class (hclass c hc) ClassDescriptor.name_mem_names).hasIdent
  have henums := spells_moduleEnums (m := ⟨s, p.availableClasses, foundational⟩) hnames h
  have hfunctions := UtilityUnit.spells_ofFunctions
    (m := ⟨s, p.availableClasses, foundational⟩) hnames h
  -- what stands at module scope comes with the first builtin type only
  dsimp only
  split
  · refine (spells_ok none).bind fun enums? _ => ?_
    split
    · exact (spells_ok none).bind fun _ _ => spells_pure _
    · exact (hfunctions.map some).bind fun _ _ => spells_pure _
  · refine (henums.map some).bind fun enums? _ => ?_
    split
    · exact (spells_ok none).bind fun _ _ => spells_pure _
    · exact (hfunctions.map some).bind fun _ _ => spells_pure _

/-- The types of an assembled module and their modules have identifiers. -/
theorem isNamed_of_ofPlan {a : AssembledModule} (ha : ofPlan s p levels foundational = .ok a) :
    ∀ t ∈ a.classModules ++ a.builtinModules, t.IsNamed := by
  intro t ht
  rcases List.mem_append.mp ht with ht | ht
  · obtain ⟨u, hu, rfl⟩ := List.mem_map.mp ht
    obtain ⟨classes, -, hclasses, -⟩ := ofPlan_inv ha
    have hplanned : u.name ∈ p.generatedClasses := by
      rw [← classes_names ha]
      exact List.mem_map_of_mem hu
    obtain ⟨c, hc, hclass⟩ := exists_plannedClass hclasses hplanned
    have hname := hnames.of_class (List.mem_of_find?_eq_some hclass) ClassDescriptor.name_mem_names
    rw [Schema.class?_name hclass] at hname
    exact ⟨hasIdent_of_isIdentifier (isIdentifier_moduleName hname.isIdentifier),
      hname.hasIdent⟩
  · obtain ⟨u, hu, rfl⟩ := List.mem_map.mp ht
    obtain ⟨-, -, -, -, -, -, -, builtins, units, hbuiltins, hunits, hunitsEq⟩ := ofPlan_inv ha
    rw [hunitsEq] at hu
    obtain ⟨u?, hu?, rfl⟩ := List.mem_filterMap.mp hu
    obtain ⟨b, hb, hunit⟩ := exists_of_mem_mapM hunits hu?
    obtain ⟨hname, hkind, hnil⟩ := BuiltinUnit.kind_of_ofBuiltin hunit
    have hmem := mem_builtins_of_plannedBuiltins hbuiltins b hb
    have hspelled := hnames.of_builtin hmem Builtin.name_mem_names
    refine ⟨hasIdent_of_isIdentifier ?_, hasIdent_of_isIdentifier ?_⟩
    · exact hname ▸ isIdentifier_moduleName hspelled.isIdentifier
    · have htrait := isIdentifier_builtinTrait b.kind hnil
      rwa [← hkinds b hmem, ← hname, ← hkind] at htrait

end Units

end AssembledModule

/-! ## Modules -/

/-- The name that a step gives up for. -/
def unspelled? {α : Type} : Emission α → Option String
  | .error (.unspellable name) => some name
  | _ => none

theorem eq_of_unspelled? {α : Type} {step : Emission α} {name : String}
    (h : unspelled? step = some name) : step = .error (.unspellable name) := by
  unfold unspelled? at h
  split at h
  · rw [Option.some.inj h]
  · cases h

namespace SmallDocument

/-- A document with one operator, which takes values of a type. -/
def text (right : String) : String :=
  "\x7b\"builtin_classes\":[\x7b\"name\":\"Vector2\",\"operators\":[\x7b\"name\":\"+\"," ++
    "\"right_type\":\"" ++ right ++ "\",\"return_type\":\"int\"\x7d]\x7d]\x7d"

def schema (right : String) : Schema :=
  (Schema.ofText (text right)).toOption.getD default

def plan : ModulePlan :=
  ⟨"kernel", [], [], ["Vector2"], "", [], false, .perType⟩

end SmallDocument

/-- Where all names in a document are identifiers, and those that are built of them and of types
have some, a module is assembled or there is an error that says why not: no plan with an identifier
for a name, no levels and no layout make the generator give up for a name. -/
theorem ModulePlan.assemble_or_error {text : String} {s : Schema}
    (hload : Schema.ofText text = .ok s) (hnames : s.NamesSpelled) {p : ModulePlan}
    (hmodule : Text.isIdentifier p.module = true) {foundational : String}
    (hbuilt : TypeMap.BuildsNames ⟨s, p.availableClasses, foundational⟩)
    (levels : LevelAssignment) :
    (∃ files, p.assemble s levels foundational = .ok files) ∨
      ∃ e, p.assemble s levels foundational = .error e ∧ ∀ name, e ≠ .unspellable name := by
  have hkinds : ∀ b ∈ s.builtins, b.name = b.kind.engineName :=
    fun b hb => Schema.name_of_ofText hload hb
  have hspells : Spells (p.assemble s levels foundational) := by
    refine (AssembledModule.spells_ofPlan hnames hkinds hbuilt).bind fun a ha => ?_
    have hnamed := AssembledModule.isNamed_of_ofPlan hnames hkinds ha
    exact (AssembledModule.spells_files hnamed hmodule).bind fun _ _ => spells_pure _
  cases hassemble : p.assemble s levels foundational with
  | ok files => exact .inl ⟨files, rfl⟩
  | error e =>
    refine .inr ⟨e, rfl, ?_⟩
    rintro name rfl
    exact hspells name hassemble

section SmallDocument

open SmallDocument

theorem ModulePlan.assemble_or_error_number :
    Schema.ofText (text "int") = .ok (schema "int") ∧ (schema "int").NamesSpelled ∧
      Text.isIdentifier plan.module = true ∧ TypeMap.BuildsNames ⟨schema "int", [], "Object"⟩ ∧
      ((∃ files, plan.assemble (schema "int") (.uniform .scene) "Object" = .ok files) ∨
        ∃ e, plan.assemble (schema "int") (.uniform .scene) "Object" = .error e ∧
          ∀ name, e ≠ .unspellable name) := by
  obtain ⟨hok, hnames, hbuilt⟩ : (Schema.ofText (text "int")).isOk = true ∧
      (schema "int").NamesSpelled ∧ TypeMap.BuildsNames ⟨schema "int", [], "Object"⟩ := by
    decide +kernel
  have hload := eq_ok_of_isOk hok default
  have hmodule : Text.isIdentifier plan.module = true := by decide
  exact ⟨hload, hnames, hmodule, hbuilt, assemble_or_error hload hnames hmodule hbuilt _⟩

/-- An operator that takes a typed array is in the way of its module, for all that the names in the
document are identifiers. -/
theorem ModulePlan.not_assemble_or_error :
    Schema.ofText (text "typedarray::int") = .ok (schema "typedarray::int") ∧
      (schema "typedarray::int").NamesSpelled ∧ Text.isIdentifier plan.module = true ∧
      plan.assemble (schema "typedarray::int") (.uniform .scene) "Object" =
        .error (.unspellable "op_add_typedarray<i64>") := by
  obtain ⟨hok, hnames, hname⟩ : (Schema.ofText (text "typedarray::int")).isOk = true ∧
      (schema "typedarray::int").NamesSpelled ∧
      unspelled? (plan.assemble (schema "typedarray::int") (.uniform .scene) "Object") =
        some "op_add_typedarray<i64>" := by
    decide +kernel
  exact ⟨eq_ok_of_isOk hok default, hnames, by decide, eq_of_unspelled? hname⟩

end SmallDocument

end EngineBindings
