import EngineBindings.Proofs.Bindings.Naming
import EngineBindings.Schema.Document

/-!
# Names and types in a schema

All names that a schema declares (`Schema.names`), all types that its signatures mention
(`Schema.types`), and all its enumerations (`Schema.enums`).  A builtin type that is read from a
document has the name of its kind (`Schema.name_of_ofText`).
-/

namespace EngineBindings

open Naming

/-! ## Names -/

def Enumeration.names (e : Enumeration) : List String :=
  e.name :: e.values.map Prod.fst

def Method.names (m : Method) : List String :=
  m.name :: m.params.map Param.name

def Signal.names (s : Signal) : List String :=
  s.name :: s.params.map Param.name

namespace ClassDescriptor

/-- The names of a class, of its parent, and of everything it declares. -/
def names (c : ClassDescriptor) : List String :=
  [c.name] ++ c.parent?.toList ++ c.methods.flatMap Method.names ++
    c.properties.map Property.name ++ c.signals.flatMap Signal.names ++
    c.enums.flatMap Enumeration.names ++ c.constants.map ClassConstant.name

variable {c : ClassDescriptor} {n : String}

theorem name_mem_names : c.name ∈ c.names := by
  simp [names]

theorem mem_names_of_parent (h : c.parent? = some n) : n ∈ c.names := by
  simp [names, h]

theorem mem_names_of_method {method : Method} (h : method ∈ c.methods) (hn : n ∈ method.names) :
    n ∈ c.names := by
  have hmem := List.mem_flatMap.mpr ⟨method, h, hn⟩
  simp only [names, List.mem_append, hmem, true_or, or_true]

theorem mem_names_of_property {p : Property} (h : p ∈ c.properties) : p.name ∈ c.names := by
  have hmem : p.name ∈ c.properties.map Property.name := List.mem_map_of_mem h
  simp only [names, List.mem_append, hmem, true_or, or_true]

theorem mem_names_of_signal {s : Signal} (h : s ∈ c.signals) (hn : n ∈ s.names) : n ∈ c.names := by
  have hmem := List.mem_flatMap.mpr ⟨s, h, hn⟩
  simp only [names, List.mem_append, hmem, true_or, or_true]

theorem mem_names_of_enum {e : Enumeration} (h : e ∈ c.enums) (hn : n ∈ e.names) :
    n ∈ c.names := by
  have hmem := List.mem_flatMap.mpr ⟨e, h, hn⟩
  simp only [names, List.mem_append, hmem, true_or, or_true]

theorem mem_names_of_constant {k : ClassConstant} (h : k ∈ c.constants) : k.name ∈ c.names := by
  have hmem : k.name ∈ c.constants.map ClassConstant.name := List.mem_map_of_mem h
  simp only [names, List.mem_append, hmem, or_true]

end ClassDescriptor

def Constructor.names (c : Constructor) : List String :=
  c.params.map Param.name

namespace Builtin

/-- The names of a builtin type and of everything it declares. -/
def names (b : Builtin) : List String :=
  [b.name] ++ b.methods.flatMap Method.names ++ b.enums.flatMap Enumeration.names ++
    b.constructors.flatMap Constructor.names ++ b.constants.map BuiltinConstant.name

variable {b : Builtin} {n : String}

theorem name_mem_names : b.name ∈ b.names := by
  simp [names]

theorem mem_names_of_method {method : Method} (h : method ∈ b.methods) (hn : n ∈ method.names) :
    n ∈ b.names := by
  have hmem := List.mem_flatMap.mpr ⟨method, h, hn⟩
  simp only [names, List.mem_append, hmem, true_or, or_true]

theorem mem_names_of_enum {e : Enumeration} (h : e ∈ b.enums) (hn : n ∈ e.names) :
    n ∈ b.names := by
  have hmem := List.mem_flatMap.mpr ⟨e, h, hn⟩
  simp only [names, List.mem_append, hmem, true_or, or_true]

theorem mem_names_of_constructor {c : Constructor} (h : c ∈ b.constructors) (hn : n ∈ c.names) :
    n ∈ b.names := by
  have hmem := List.mem_flatMap.mpr ⟨c, h, hn⟩
  simp only [names, List.mem_append, hmem, true_or, or_true]

theorem mem_names_of_constant {c : BuiltinConstant} (h : c ∈ b.constants) : c.name ∈ b.names := by
  have hmem : c.name ∈ b.constants.map BuiltinConstant.name := List.mem_map_of_mem h
  simp only [names, List.mem_append, hmem, or_true]

end Builtin

def UtilityFunction.names (f : UtilityFunction) : List String :=
  f.name :: f.params.map Param.name

/-- All names that a schema declares. -/
def Schema.names (s : Schema) : List String :=
  s.classes.flatMap ClassDescriptor.names ++ s.builtins.flatMap Builtin.names ++
    s.globalEnums.flatMap Enumeration.names ++ s.utilityFunctions.flatMap UtilityFunction.names

namespace Schema

/-- Whether all names that a schema declares are identifiers. -/
def NamesSpelled (s : Schema) : Prop :=
  ∀ n ∈ s.names, IsSpelled n

instance (s : Schema) : Decidable s.NamesSpelled :=
  inferInstanceAs (Decidable (∀ n ∈ s.names, IsSpelled n))

variable {s : Schema} {n : String}

theorem NamesSpelled.of_class (h : s.NamesSpelled) {c : ClassDescriptor} (hc : c ∈ s.classes)
    (hn : n ∈ c.names) : IsSpelled n := by
  have hmem := List.mem_flatMap.mpr ⟨c, hc, hn⟩
  exact h n (by simp only [names, List.mem_append, hmem, true_or])

theorem NamesSpelled.of_builtin (h : s.NamesSpelled) {b : Builtin} (hb : b ∈ s.builtins)
    (hn : n ∈ b.names) : IsSpelled n := by
  have hmem := List.mem_flatMap.mpr ⟨b, hb, hn⟩
  exact h n (by simp only [names, List.mem_append, hmem, true_or, or_true])

theorem NamesSpelled.of_globalEnum (h : s.NamesSpelled) {e : Enumeration}
    (he : e ∈ s.globalEnums) (hn : n ∈ e.names) : IsSpelled n := by
  have hmem := List.mem_flatMap.mpr ⟨e, he, hn⟩
  exact h n (by simp only [names, List.mem_append, hmem, true_or, or_true])

theorem NamesSpelled.of_utility (h : s.NamesSpelled) {f : UtilityFunction}
    (hf : f ∈ s.utilityFunctions) (hn : n ∈ f.names) : IsSpelled n := by
  have hmem := List.mem_flatMap.mpr ⟨f, hf, hn⟩
  exact h n (by simp only [names, List.mem_append, hmem, or_true])

end Schema

/-! ## Types -/

def Method.types (m : Method) : List DeclaredType :=
  m.params.map Param.type ++ m.returns?.toList

def Signal.types (s : Signal) : List DeclaredType :=
  s.params.map Param.type

def ClassDescriptor.types (c : ClassDescriptor) : List DeclaredType :=
  c.methods.flatMap Method.types ++ c.signals.flatMap Signal.types

def Constructor.types (c : Constructor) : List DeclaredType :=
  c.params.map Param.type

def BuiltinOperator.types (o : BuiltinOperator) : List DeclaredType :=
  o.right?.toList ++ [o.returns]

def Builtin.types (b : Builtin) : List DeclaredType :=
  b.methods.flatMap Method.types ++ b.constructors.flatMap Constructor.types ++
    b.operators.flatMap BuiltinOperator.types

def UtilityFunction.types (f : UtilityFunction) : List DeclaredType :=
  f.params.map Param.type ++ f.returns?.toList

/-- All types that the signatures of a schema mention. -/
def Schema.types (s : Schema) : List DeclaredType :=
  s.classes.flatMap ClassDescriptor.types ++ s.builtins.flatMap Builtin.types ++
    s.utilityFunctions.flatMap UtilityFunction.types

namespace Schema

/-- All enumerations of a schema. -/
def enums (s : Schema) : List Enumeration :=
  s.globalEnums ++ s.classes.flatMap ClassDescriptor.enums ++ s.builtins.flatMap Builtin.enums

variable {s : Schema} {ty : DeclaredType} {e : Enumeration}

theorem mem_types_of_class {c : ClassDescriptor} (hc : c ∈ s.classes) (h : ty ∈ c.types) :
    ty ∈ s.types := by
  have hmem := List.mem_flatMap.mpr ⟨c, hc, h⟩
  simp only [types, List.mem_append, hmem, true_or]

theorem mem_types_of_builtin {b : Builtin} (hb : b ∈ s.builtins) (h : ty ∈ b.types) :
    ty ∈ s.types := by
  have hmem := List.mem_flatMap.mpr ⟨b, hb, h⟩
  simp only [types, List.mem_append, hmem, true_or, or_true]

theorem mem_types_of_utility {f : UtilityFunction} (hf : f ∈ s.utilityFunctions)
    (h : ty ∈ f.types) : ty ∈ s.types := by
  have hmem := List.mem_flatMap.mpr ⟨f, hf, h⟩
  simp only [types, List.mem_append, hmem, or_true]

theorem mem_enums_of_class {c : ClassDescriptor} (hc : c ∈ s.classes) (h : e ∈ c.enums) :
    e ∈ s.enums := by
  have hmem := List.mem_flatMap.mpr ⟨c, hc, h⟩
  simp only [enums, List.mem_append, hmem, true_or, or_true]

theorem mem_enums_of_builtin {b : Builtin} (hb : b ∈ s.builtins) (h : e ∈ b.enums) :
    e ∈ s.enums := by
  have hmem := List.mem_flatMap.mpr ⟨b, hb, h⟩
  simp only [enums, List.mem_append, hmem, or_true]

theorem mem_enums_of_global (h : e ∈ s.globalEnums) : e ∈ s.enums := by
  simp only [enums, List.mem_append, h, true_or]

/-! ## Documents -/

open Json

theorem exists_of_mem_listField? {α : Type} {f : Fields} {name : String} {read : Json → Option α}
    {as : List α} (h : listField? f name read = some as) {a : α} (ha : a ∈ as) :
    ∃ j, read j = some a := by
  unfold listField? Fields.withDefault at h
  split at h
  · obtain rfl := Option.some.inj h
    cases ha
  · obtain ⟨elements, -, hread⟩ := Option.bind_eq_some_iff.mp h
    have hmem : some a ∈ elements.map read :=
      mapM_eq_some_iff.mp hread ▸ List.mem_map_of_mem ha
    obtain ⟨j, -, hj⟩ := List.mem_map.mp hmem
    exact ⟨j, hj⟩

theorem name_of_builtinType? {j : Json} {b : Builtin} (h : builtinType? j = some (some b)) :
    b.name = b.kind.engineName := by
  simp only [builtinType?, Option.bind_eq_bind, Option.bind_eq_some_iff, Option.some.injEq,
    Option.map_eq_some_iff] at h
  obtain ⟨-, -, name, -, -, -, -, -, -, -, -, -, -, -, -, -, -, -, -, -, kind, hkind, rfl⟩ := h
  have hname := List.find?_some hkind
  exact (eq_of_beq hname).symm

theorem builtins_of_parts? {j : Json} {p : Parts} (h : parts? j = some p) :
    ∀ b ∈ p.builtins, ∃ j, builtinType? j = some (some b) := by
  simp only [parts?, Option.bind_eq_bind, Option.bind_eq_some_iff, Option.some.injEq] at h
  obtain ⟨_, -, -, -, -, -, -, -, read, hread, -, -, -, -, rfl⟩ := h
  intro b hb
  obtain ⟨b?, hb?, rfl⟩ := List.mem_filterMap.mp hb
  exact exists_of_mem_listField? hread hb?

/-- A builtin type has the name of its kind. -/
theorem name_of_ofText {text : String} {s : Schema} (h : ofText text = .ok s) {b : Builtin}
    (hb : b ∈ s.builtins) : b.name = b.kind.engineName := by
  unfold ofText at h
  split at h
  · cases h
  unfold ofJson at h
  split at h
  · cases h
  next p hparts =>
  have hbuiltins : s.builtins = p.builtins := by
    unfold ofDescriptors at h
    dsimp only at h
    split at h
    · cases h
    split at h
    · cases h
    split at h
    · cases h
    rw [← Except.ok.inj h]
  obtain ⟨j, hj⟩ := builtins_of_parts? hparts b (hbuiltins ▸ hb)
  exact name_of_builtinType? hj

end Schema

end EngineBindings
