import EngineBindings.Declaration.Class
import EngineBindings.Proofs.Traverse

/-!
# Marks that can be read

The items of an attribute can be read if every key is known, stands once and has a value of its kind
(`AttributeItem.errors_eq_nil_iff`).  A field gives a class its members exactly if all its marks can
be read and what its last export mark asks for can be had (`FieldDeclaration.members_eq_ok_iff`):
the groups that its marks open, in the order of the marks, and then its property.
-/

namespace EngineBindings

/-! ## Attributes -/

namespace AttributeItem

/-- Whether every key of some items is known, stands once and has a value that can be read. -/
structure AreReadable (keys : Keys) (items : List AttributeItem) : Prop where
  keys_nodup : (items.map AttributeItem.key).Nodup
  readable : ∀ item ∈ items, ∃ check, keys.lookup item.key = some check ∧ check item.value = none

theorem errorsFrom_eq_nil_iff {keys : Keys} {seen : List String} {items : List AttributeItem} :
    errorsFrom keys seen items = [] ↔
      AreReadable keys items ∧ ∀ item ∈ items, item.key ∉ seen := by
  induction items generalizing seen with
  | nil => exact ⟨fun _ => ⟨⟨by simp, by simp⟩, by simp⟩, fun _ => rfl⟩
  | cons item rest ih =>
    rw [errorsFrom, List.forall_mem_cons]
    cases hlookup : keys.lookup item.key with
    | none =>
      -- an unknown key is not remembered, but it is an error by itself
      refine ⟨fun h => (nomatch h), fun h => ?_⟩
      obtain ⟨check, hcheck, -⟩ := h.1.readable item List.mem_cons_self
      rw [hlookup] at hcheck
      cases hcheck
    | some check =>
      by_cases hseen : item.key ∈ seen
      · simp [hseen]
      · simp only [List.contains_eq_mem, hseen, decide_false, Bool.false_eq_true, if_false,
          List.append_eq_nil_iff, ih, Option.toList_eq_nil_iff, List.mem_cons, not_or,
          not_false_eq_true, true_and]
        constructor
        · rintro ⟨hitem, hrest, hnew⟩
          refine ⟨⟨?_, ?_⟩, fun other hother => (hnew other hother).2⟩
          · rw [List.map_cons, List.nodup_cons]
            refine ⟨fun hmem => ?_, hrest.keys_nodup⟩
            obtain ⟨other, hother, heq⟩ := List.mem_map.mp hmem
            exact (hnew other hother).1 heq
          · exact List.forall_mem_cons.mpr ⟨⟨check, hlookup, hitem⟩, hrest.readable⟩
        · rintro ⟨h, hnew⟩
          obtain ⟨hfirst, hdistinct⟩ := List.nodup_cons.mp h.keys_nodup
          obtain ⟨⟨check', hcheck', hitem⟩, hrest⟩ := List.forall_mem_cons.mp h.readable
          obtain rfl := Option.some.inj (hlookup.symm.trans hcheck')
          refine ⟨hitem, ⟨hdistinct, hrest⟩, fun other hother => ⟨fun heq => ?_, hnew other hother⟩⟩
          exact hfirst (heq ▸ List.mem_map_of_mem hother)

/-- Nothing is wrong with items just if they can be read. -/
theorem errors_eq_nil_iff {keys : Keys} {items : List AttributeItem} :
    errors keys items = [] ↔ AreReadable keys items := by
  rw [errors, errorsFrom_eq_nil_iff]
  exact ⟨fun h => h.1, fun h => ⟨h, fun _ _ => List.not_mem_nil⟩⟩

theorem required_eq_nil_iff {name : String} {items : List AttributeItem} :
    required name items = [] ↔ name ∈ items.map AttributeItem.key := by
  unfold required
  by_cases h : name ∈ items.map AttributeItem.key
  · have hany : items.any (·.key == name) = true := by simpa [List.any_eq_true] using h
    simp [hany, h]
  · have hany : items.any (·.key == name) = false := by simpa [List.any_eq_false] using h
    simp [hany, h]

end AttributeItem

/-! ## Export marks -/

namespace ExportMark

/-- Whether the mark asks for what there is, for a field of a type: a width of 32 or 64 bits, a type
whose values travel, a hint and flags that are known. -/
structure IsValid (mark : ExportMark) (type : TypeSyntax) : Prop where
  width_known : ∀ bits, mark.enumWidth? = some bits → bits = 32 ∨ bits = 64
  type_accepted : ∃ category,
    TypeCategory.ofSyntax type (mark.enumWidth?.bind EnumWidth.ofBits?) = .ok category
  hint_known : ∀ name, mark.hint? = some name → ∃ hint, PropertyHint.ofName? name = some hint
  flags_known : ∀ usage, mark.usage? = some usage → ∀ name ∈ flagNames usage,
    ∃ flag, PropertyUsage.ofCaseName? (String.ofList (name.toList.map Char.toUpper)) = some flag

theorem width_eq_ok_iff {mark : ExportMark} {width? : Option EnumWidth} :
    mark.width = .ok width? ↔
      (∀ bits, mark.enumWidth? = some bits → bits = 32 ∨ bits = 64) ∧
        width? = mark.enumWidth?.bind EnumWidth.ofBits? := by
  unfold width
  cases mark.enumWidth? with
  | none => simp [eq_comm]
  | some bits =>
    by_cases h32 : bits = 32
    · simp [h32, EnumWidth.ofBits?, eq_comm]
    · by_cases h64 : bits = 64
      · simp [h64, EnumWidth.ofBits?, eq_comm]
      · simp [h32, h64, EnumWidth.ofBits?]

theorem exists_hint_iff {mark : ExportMark} :
    (∃ hint?, mark.hint = .ok hint?) ↔
      ∀ name, mark.hint? = some name → ∃ hint, PropertyHint.ofName? name = some hint := by
  unfold hint
  cases mark.hint? with
  | none => simp
  | some name =>
    simp only [Option.some.injEq, forall_eq']
    cases PropertyHint.ofName? name <;> simp

theorem exists_addFlag_iff {usage : PropertyUsage} {name : String} :
    (∃ all, addFlag usage name = .ok all) ↔
      ∃ flag, PropertyUsage.ofCaseName? (String.ofList (name.toList.map Char.toUpper)) =
        some flag := by
  unfold addFlag
  cases PropertyUsage.ofCaseName? (String.ofList (name.toList.map Char.toUpper)) <;> simp

theorem exists_foldlM_addFlag_iff {usage : PropertyUsage} {names : List String} :
    (∃ all, names.foldlM addFlag usage = .ok all) ↔
      ∀ name ∈ names, ∃ flag,
        PropertyUsage.ofCaseName? (String.ofList (name.toList.map Char.toUpper)) = some flag := by
  induction names generalizing usage with
  | nil => simp [pure, Except.pure]
  | cons name names ih =>
    rw [List.foldlM_cons, List.forall_mem_cons, ← exists_addFlag_iff]
    constructor
    · rintro ⟨all, h⟩
      obtain ⟨more, hmore, hall⟩ := bind_eq_ok_iff.mp h
      exact ⟨⟨more, hmore⟩, ih.mp ⟨all, hall⟩⟩
    · rintro ⟨⟨more, hmore⟩, hnames⟩
      obtain ⟨all, hall⟩ := ih.mpr hnames
      exact ⟨all, bind_eq_ok_iff.mpr ⟨more, hmore, hall⟩⟩

theorem exists_usage_iff {mark : ExportMark} :
    (∃ all, mark.usage = .ok all) ↔
      ∀ usage, mark.usage? = some usage → ∀ name ∈ flagNames usage, ∃ flag,
        PropertyUsage.ofCaseName? (String.ofList (name.toList.map Char.toUpper)) = some flag := by
  unfold usage
  cases mark.usage? with
  | none => simp
  | some usage => simpa using exists_foldlM_addFlag_iff

end ExportMark

/-! ## Fields -/

namespace FieldDeclaration

open AttributeItem

/-- Whether a mark on a field can be read; a group has to have a name.  Marks of others are not
looked at. -/
structure MarkIsReadable (a : Attribute) : Prop where
  exported : a.name = "export" → AreReadable ExportMark.keys a.items
  group : a.name = "export_group" ∨ a.name = "export_subgroup" →
    a.content?.isSome ∧ AreReadable groupKeys a.items ∧ "name" ∈ a.items.map AttributeItem.key

theorem markErrors_eq_nil_iff {a : Attribute} : markErrors a = [] ↔ MarkIsReadable a := by
  unfold markErrors
  by_cases hexport : a.name = "export"
  · rw [if_pos hexport, errors_eq_nil_iff]
    refine ⟨fun h => ⟨fun _ => h, fun hgroup => ?_⟩, fun h => h.exported hexport⟩
    simp [hexport] at hgroup
  · rw [if_neg hexport]
    by_cases hgroup : a.name = "export_group" ∨ a.name = "export_subgroup"
    · rw [if_pos hgroup]
      cases hcontent : a.content? with
      | none =>
        refine ⟨fun h => (nomatch h), fun h => ?_⟩
        simpa [hcontent] using (h.group hgroup).1
      | some content =>
        rw [List.append_eq_nil_iff, errors_eq_nil_iff, required_eq_nil_iff]
        exact ⟨fun h => ⟨fun hname => absurd hname hexport, fun _ => ⟨by simp [hcontent], h⟩⟩,
          fun h => (h.group hgroup).2⟩
    · rw [if_neg hgroup]
      exact ⟨fun _ => ⟨fun hname => absurd hname hexport, fun hname => absurd hname hgroup⟩,
        fun _ => rfl⟩

/-- Whether the marks of a field are in order: all can be read, and the last export mark asks for
what there is. -/
structure IsValid (field : FieldDeclaration) : Prop where
  marks_readable : ∀ a ∈ field.attributes, MarkIsReadable a
  export_valid : ∀ mark, field.exportMark? = some mark → mark.IsValid field.type

/-- The groups that the marks of a field open, in the order of the marks. -/
def groups (field : FieldDeclaration) : List (ClassMember ExportedProperty) :=
  field.attributes.filterMap groupOf?

/-- Whether a property is what an export mark makes of a field. -/
structure IsExportOf (field : FieldDeclaration) (mark : ExportMark) (p : ExportedProperty) :
    Prop where
  field_eq : p.field = field.name
  category : TypeCategory.ofSyntax field.type (mark.enumWidth?.bind EnumWidth.ofBits?) =
    .ok p.type.category
  type_eq : p.type = .ofSyntax field.type p.type.category
  hint : mark.hint = .ok p.spec.hint?
  hintString_eq : p.spec.hintString? = mark.hintString?
  usage : mark.usage = .ok p.spec.usage

/-- What a field gives a class: the groups that it opens, and after them its property, which has the
name that the mark states or else that of the field. -/
inductive Gives (field : FieldDeclaration) : List (ClassMember ExportedProperty) → Prop
  | unexported (hmark : field.exportMark? = none) : Gives field field.groups
  | exported {mark : ExportMark} {p : ExportedProperty} (hmark : field.exportMark? = some mark)
      (hp : IsExportOf field mark p) :
      Gives field
        (field.groups ++ [.property (mark.rename?.getD (Naming.unescaped field.name)) p])

theorem property_notMem_groups {field : FieldDeclaration} {name : String} {p : ExportedProperty} :
    .property name p ∉ field.groups := by
  intro hmem
  obtain ⟨a, -, ha⟩ := List.mem_filterMap.mp hmem
  simp only [groupOf?] at ha
  split at ha
  · cases ha
  · split at ha <;> cases ha

/-- A property that a field gives is what the export mark makes of the field. -/
theorem Gives.exists_mark {field : FieldDeclaration} {members : List (ClassMember ExportedProperty)}
    (h : field.Gives members) {name : String} {p : ExportedProperty}
    (hp : .property name p ∈ members) :
    ∃ mark, field.exportMark? = some mark ∧ field.IsExportOf mark p := by
  cases h with
  | unexported hmark => exact absurd hp property_notMem_groups
  | @exported mark q hmark hq =>
    have hlast := (List.mem_append.mp hp).resolve_left property_notMem_groups
    obtain ⟨-, rfl⟩ := ClassMember.property.inj (List.mem_singleton.mp hlast)
    exact ⟨mark, hmark, hq⟩

theorem property_eq_ok_iff {field : FieldDeclaration} {mark : ExportMark}
    {m : ClassMember ExportedProperty} :
    field.property mark = .ok m ↔
      mark.IsValid field.type ∧ ∃ p, IsExportOf field mark p ∧
        m = .property (mark.rename?.getD (Naming.unescaped field.name)) p := by
  constructor
  · intro h
    obtain ⟨width?, hwidth, h⟩ := bind_eq_ok_iff.mp h
    obtain ⟨category, hcategory, h⟩ := bind_eq_ok_iff.mp h
    obtain ⟨hint?, hhint, h⟩ := bind_eq_ok_iff.mp h
    obtain ⟨usage, husage, h⟩ := bind_eq_ok_iff.mp h
    obtain rfl := Except.ok.inj h
    obtain ⟨hknown, rfl⟩ := ExportMark.width_eq_ok_iff.mp hwidth
    have hcategory := mapError_eq_ok_iff.mp hcategory
    have hvalid : mark.IsValid field.type := ⟨hknown, ⟨category, hcategory⟩,
      ExportMark.exists_hint_iff.mp ⟨_, hhint⟩, ExportMark.exists_usage_iff.mp ⟨_, husage⟩⟩
    exact ⟨hvalid, _, ⟨rfl, hcategory, rfl, hhint, rfl, husage⟩, rfl⟩
  · rintro ⟨hvalid, p, hp, rfl⟩
    refine bind_eq_ok_iff.mpr ⟨_, ExportMark.width_eq_ok_iff.mpr ⟨hvalid.width_known, rfl⟩, ?_⟩
    refine bind_eq_ok_iff.mpr ⟨_, mapError_eq_ok_iff.mpr hp.category, ?_⟩
    refine bind_eq_ok_iff.mpr ⟨_, hp.hint, bind_eq_ok_iff.mpr ⟨_, hp.usage, ?_⟩⟩
    rw [← hp.field_eq, ← hp.type_eq, ← hp.hintString_eq]
    rfl

/-- A field of which an export is asked for has it if the mark is in order. -/
theorem exists_isExportOf {field : FieldDeclaration} {mark : ExportMark}
    (h : mark.IsValid field.type) : ∃ p, IsExportOf field mark p := by
  obtain ⟨category, hcategory⟩ := h.type_accepted
  obtain ⟨hint?, hhint⟩ := ExportMark.exists_hint_iff.mpr h.hint_known
  obtain ⟨usage, husage⟩ := ExportMark.exists_usage_iff.mpr h.flags_known
  exact ⟨⟨field.name, .ofSyntax field.type category, ⟨hint?, mark.hintString?, usage⟩⟩,
    rfl, hcategory, rfl, hhint, rfl, husage⟩

theorem members_eq_ok_iff {field : FieldDeclaration}
    {members : List (ClassMember ExportedProperty)} :
    field.members = .ok members ↔ field.IsValid ∧ field.Gives members := by
  have hreadable : field.attributes.flatMap markErrors = [] ↔
      ∀ a ∈ field.attributes, MarkIsReadable a := by
    simp only [List.flatMap_eq_nil_iff, markErrors_eq_nil_iff]
  constructor
  · intro h
    simp only [FieldDeclaration.members, Bool.not_eq_true', List.isEmpty_eq_false_iff] at h
    split at h
    · cases h
    · next hmarks =>
      have hmarks := hreadable.mp (not_not.mp hmarks)
      split at h
      · next hmark =>
        obtain rfl := Except.ok.inj h
        exact ⟨⟨hmarks, by simp [hmark]⟩, .unexported hmark⟩
      · next mark hmark =>
        split at h
        · next property hproperty =>
          obtain rfl := Except.ok.inj h
          obtain ⟨hvalid, p, hp, rfl⟩ := property_eq_ok_iff.mp hproperty
          exact ⟨⟨hmarks, by simpa [hmark] using hvalid⟩, .exported hmark hp⟩
        · cases h
  · rintro ⟨hvalid, hgives⟩
    have hmarks := hreadable.mpr hvalid.marks_readable
    cases hgives with
    | unexported hmark => simp [FieldDeclaration.members, hmarks, hmark, groups]
    | @exported mark p hmark hp =>
      have hproperty := property_eq_ok_iff.mpr ⟨hvalid.export_valid mark hmark, p, hp, rfl⟩
      simp [FieldDeclaration.members, hmarks, hmark, hproperty, groups]

theorem ne_nil_of_members {field : FieldDeclaration} {errors : List DeclarationError}
    (h : field.members = .error errors) : errors ≠ [] := by
  simp only [FieldDeclaration.members] at h
  split at h
  · next hsome =>
    obtain rfl := Except.error.inj h
    simpa using hsome
  · split at h
    · cases h
    · split at h
      · cases h
      · obtain rfl := Except.error.inj h
        simp

/-- A field whose marks are in order gives something. -/
theorem IsValid.exists_gives {field : FieldDeclaration} (h : field.IsValid) :
    ∃ members, field.Gives members := by
  cases hmark : field.exportMark? with
  | none => exact ⟨_, .unexported hmark⟩
  | some mark =>
    obtain ⟨p, hp⟩ := exists_isExportOf (h.export_valid mark hmark)
    exact ⟨_, .exported hmark hp⟩

end FieldDeclaration

end EngineBindings
