import EngineBindings.Proofs.Declaration.Acceptance
import EngineBindings.Proofs.TypeCategory
import EngineBindings.Proofs.World.Ledger

/-!
# Classes from declarations

A declaration knows no class of an object field, so whether a reference counts is left to the object
(`TypeCategory.dynamic_of_ofSyntax`).  The classes that declarations with distinct fields declare
count their references (`ExportedClass.countsReferences_of_declared`).
-/

namespace EngineBindings

/-! ## Categories -/

namespace TypeCategory

/-- A declaration knows of no class whether its references count. -/
theorem dynamic_of_ofSyntax {t : TypeSyntax} {width? : Option EnumWidth} {className : String}
    {nullable : Bool} {counting : RefCounting}
    (h : ofSyntax t width? = .ok (.object className nullable counting)) : counting = .dynamic := by
  obtain ⟨-, -, -, hclass⟩ := (classify_eq_ok_iff.mp h).object_inv
  simp only [TypeContext.ofDeclaration] at hclass
  split at hclass
  · exact (Option.some.inj hclass).symm
  · cases hclass

end TypeCategory

/-! ## Fields -/

namespace FieldDeclaration

theorem contents_groups (field : FieldDeclaration) :
    field.groups.filterMap ClassMember.content? = [] := by
  refine List.filterMap_eq_nil_iff.mpr fun m hm => ?_
  cases m with
  | group name lead => rfl
  | subgroup name lead => rfl
  | property name p => exact absurd hm property_notMem_groups

/-- A field gives a class one property at most, which is of this field. -/
theorem Gives.contents {field : FieldDeclaration} {members : List (ClassMember ExportedProperty)}
    (h : field.Gives members) :
    members.filterMap ClassMember.content? = [] ∨
      ∃ p mark, members.filterMap ClassMember.content? = [p] ∧ field.IsExportOf mark p := by
  cases h with
  | unexported => exact .inl field.contents_groups
  | @exported mark p hmark hp =>
    refine .inr ⟨p, mark, ?_, hp⟩
    rw [List.filterMap_append, contents_groups]
    rfl

theorem IsExportOf.ne_uncounted {field : FieldDeclaration} {mark : ExportMark}
    {p : ExportedProperty} (h : field.IsExportOf mark p) (className : String) (nullable : Bool) :
    p.type.category ≠ .object className nullable .uncounted := by
  intro hobject
  have hdynamic := TypeCategory.dynamic_of_ofSyntax (h.category.trans (congrArg _ hobject))
  cases hdynamic

end FieldDeclaration

/-! ## Classes -/

/-- The properties of a class are of fields of the declaration, and counted when the object is at
hand. -/
theorem ClassDeclaration.contents_of_gives {fields : List FieldDeclaration}
    {pieces : List (List (ClassMember ExportedProperty))}
    (h : List.Forall₂ FieldDeclaration.Gives fields pieces) :
    ((pieces.flatten.filterMap ClassMember.content?).map ExportedProperty.field).Sublist
        (fields.map FieldDeclaration.name) ∧
      ∀ p ∈ pieces.flatten.filterMap ClassMember.content?, ∀ className nullable,
        p.type.category ≠ .object className nullable .uncounted := by
  induction h with
  | nil => exact ⟨.slnil, fun _ hp => nomatch hp⟩
  | @cons field more fields pieces hgives _ ih =>
    obtain ⟨hfields, hcounted⟩ := ih
    rw [List.flatten_cons, List.filterMap_append, List.map_append, List.map_cons]
    rcases hgives.contents with hnone | ⟨p, mark, hone, hp⟩
    · rw [hnone]
      exact ⟨hfields.cons _, hcounted⟩
    · rw [hone]
      refine ⟨hp.field_eq ▸ hfields.cons_cons _, fun q hq => ?_⟩
      rcases List.mem_cons.mp hq with rfl | hq
      · exact hp.ne_uncounted
      · exact hcounted q hq

/-- A class that a declaration with distinct fields declares counts its references. -/
theorem ExportedClass.countsReferences_of_declared {d : ClassDeclaration} {c : ExportedClass}
    (h : ofDeclaration d = .ok c) (hfields : (d.fields.map FieldDeclaration.name).Nodup) :
    c.CountsReferences := by
  obtain ⟨base, engineClass, -, hclass⟩ := ofDeclaration_eq_ok_iff.mp h
  obtain ⟨pieces, hpieces, hmembers⟩ := hclass.members
  obtain ⟨hsublist, hcounted⟩ := ClassDeclaration.contents_of_gives hpieces
  rw [← hmembers] at hsublist hcounted
  exact
    { fields_nodup := (hfields.sublist (List.filter_sublist.map _)).sublist hsublist
      ne_uncounted := hcounted }

end EngineBindings
