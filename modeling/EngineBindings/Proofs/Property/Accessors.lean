import EngineBindings.Property.Members
import EngineBindings.Proofs.Sequence
import EngineBindings.Proofs.Text.Pieces

/-!
# Names of accessors

The accessors of a property go by the rest of its name after the text of the latest subgroup or
group, if that rest can be used, and by its whole name otherwise (`AccessorRule`,
`plan_accessorRule`).  The group that a property is in is read off the members before it, from the
latest one backwards.

Different properties have different accessors (`plan_accessors_nodup`).  A rest is used only where
neither a property nor an earlier accessor has it as a name, so what goes by its whole name can
collide with nothing before it.
-/

namespace EngineBindings

variable {α : Type}

namespace PlannedMember

/-- The member as it was declared. -/
def declared : PlannedMember α → ClassMember α
  | group name lead => .group name lead
  | subgroup name lead => .subgroup name lead
  | property name _ content => .property name content

/-- The name that the accessors of a property go by. -/
def accessor? : PlannedMember α → Option String
  | property _ accessor _ => some accessor
  | _ => none

theorem mem_accessors_iff {members : List (PlannedMember α)} {accessor : String} :
    accessor ∈ members.filterMap accessor? ↔
      ∃ name content, property name accessor content ∈ members := by
  rw [List.mem_filterMap]
  constructor
  · rintro ⟨m, hm, haccessor⟩
    cases m with
    | group name lead => cases haccessor
    | subgroup name lead => cases haccessor
    | property name other content =>
      obtain rfl : other = accessor := Option.some.inj haccessor
      exact ⟨name, content, hm⟩
  · rintro ⟨name, content, hm⟩
    exact ⟨_, hm, rfl⟩

end PlannedMember

namespace ClassMember

open PlannedMember (declared accessor?)

/-- The names of the properties. -/
def storedNames (members : List (ClassMember α)) : List String :=
  members.filterMap propertyName?

def groupLead? : ClassMember α → Option String
  | group _ lead => some lead
  | _ => none

def subgroupLead? : ClassMember α → Option String
  | subgroup _ lead => some lead
  | _ => none

/-- The text of the latest group. -/
def latestGroup? (before : List (ClassMember α)) : Option String :=
  before.reverse.findSome? groupLead?

/-- The text of the latest subgroup since the latest group. -/
def latestSubgroup? (before : List (ClassMember α)) : Option String :=
  (before.reverse.takeWhile fun m => m.groupLead?.isNone).findSome? subgroupLead?

/-- Whether a name is a text that is not empty and then `rest`. -/
def LeadsTo (lead? : Option String) (name rest : String) : Prop :=
  ∃ lead, lead? = some lead ∧ lead ≠ "" ∧ name = lead ++ rest

/-- What is left of a name after the text of its subgroup, or else of its group. -/
def IsRest (before : List (ClassMember α)) (name rest : String) : Prop :=
  LeadsTo (latestSubgroup? before) name rest ∨
    (∀ other, ¬LeadsTo (latestSubgroup? before) name other) ∧
      LeadsTo (latestGroup? before) name rest

/-- Whether what is left of a name can name accessors. -/
structure IsUsable (stored : List String) (before : List (ClassMember α)) (earlier : List String)
    (name rest : String) : Prop where
  isRest : IsRest before name rest
  ne_empty : rest ≠ ""
  notMem_stored : rest ∉ stored
  notMem_earlier : rest ∉ earlier

/-- Whether accessors go by the right name. -/
structure AccessorRule (stored : List String) (before : List (ClassMember α))
    (earlier : List String) (name accessor : String) : Prop where
  of_usable : ∀ rest, IsUsable stored before earlier name rest → accessor = rest
  of_unusable : (∀ rest, ¬IsUsable stored before earlier name rest) → accessor = name

/-! ## The group that a member is in -/

/-- The group and the subgroup after a member. -/
def enter (s : GroupState) : ClassMember α → GroupState
  | group name lead => s.enterGroup name lead
  | subgroup name lead => s.enterSubgroup name lead
  | property _ _ => s

/-- The group and the subgroup after some members. -/
def stateAfter (before : List (ClassMember α)) : GroupState :=
  before.foldl enter .empty

theorem stateAfter_concat (before : List (ClassMember α)) (m : ClassMember α) :
    stateAfter (before ++ [m]) = enter (stateAfter before) m := by
  simp [stateAfter]

theorem stateAfter_group? (before : List (ClassMember α)) :
    (stateAfter before).group?.map PropertyGroup.lead = latestGroup? before := by
  induction before using List.reverseRecOn with
  | nil => rfl
  | append_singleton before m ih =>
    rw [stateAfter_concat, latestGroup?, List.reverse_concat, List.findSome?_cons]
    cases m with
    | group name lead => rfl
    | subgroup name lead => exact ih
    | property name content => exact ih

theorem stateAfter_subgroup? (before : List (ClassMember α)) :
    (stateAfter before).subgroup?.map PropertyGroup.lead = latestSubgroup? before := by
  induction before using List.reverseRecOn with
  | nil => rfl
  | append_singleton before m ih =>
    rw [stateAfter_concat, latestSubgroup?, List.reverse_concat, List.takeWhile_cons]
    cases m with
    | group name lead => rfl
    | subgroup name lead => rfl
    | property name content => exact ih

/-! ## The name of one accessor -/

theorem restIn?_eq_some_iff {name rest : String} {g : PropertyGroup} :
    GroupState.restIn? name g = some rest ↔ LeadsTo (some g.lead) name rest := by
  unfold GroupState.restIn? LeadsTo
  by_cases hempty : g.lead = ""
  · simp [hempty]
  · have hfull : g.lead.isEmpty = false := by simpa using hempty
    simp [hfull, hempty, Text.stripLead?_eq_some_iff]

theorem bind_restIn?_eq_some_iff {name rest : String} {g? : Option PropertyGroup} :
    g?.bind (GroupState.restIn? name) = some rest ↔
      LeadsTo (g?.map PropertyGroup.lead) name rest := by
  cases g? with
  | none => simp [LeadsTo]
  | some g => simpa using restIn?_eq_some_iff

theorem rest?_eq (s : GroupState) (name : String) :
    s.rest? name = (s.subgroup?.bind (GroupState.restIn? name)).or
      (s.group?.bind (GroupState.restIn? name)) := by
  have hone : ∀ g? : Option PropertyGroup,
      g?.toList.findSome? (GroupState.restIn? name) = g?.bind (GroupState.restIn? name) := by
    intro g?
    cases g? with
    | none => rfl
    | some g => simp
  rw [GroupState.rest?, List.findSome?_append, hone, hone]

theorem rest?_eq_some_iff {before : List (ClassMember α)} {name rest : String} :
    (stateAfter before).rest? name = some rest ↔ IsRest before name rest := by
  have hsub : ∀ other, (stateAfter before).subgroup?.bind (GroupState.restIn? name) = some other ↔
      LeadsTo (latestSubgroup? before) name other := by
    intro other
    rw [bind_restIn?_eq_some_iff, stateAfter_subgroup?]
  have hgroup : (stateAfter before).group?.bind (GroupState.restIn? name) = some rest ↔
      LeadsTo (latestGroup? before) name rest := by
    rw [bind_restIn?_eq_some_iff, stateAfter_group?]
  rw [rest?_eq, Option.or_eq_some_iff, hsub, hgroup, Option.eq_none_iff_forall_not_mem, IsRest]
  simp only [Option.mem_def, hsub]

theorem IsRest.ne_name {before : List (ClassMember α)} {name rest : String}
    (h : IsRest before name rest) : rest ≠ name := by
  have hlead : ∀ lead? : Option String, LeadsTo lead? name rest → rest ≠ name := by
    rintro _ ⟨lead, -, hlead, hname⟩ rfl
    have hlist := congrArg String.length hname
    rw [String.length_append] at hlist
    exact hlead (by simpa using hlist)
  exact h.elim (hlead _) fun h => hlead _ h.2

theorem accessorFor_rule (stored : List String) (before : List (ClassMember α))
    (earlier : List String) (name : String) :
    AccessorRule stored before earlier name
      (accessorFor stored (stateAfter before) earlier name) := by
  constructor
  · rintro rest ⟨hrest, hempty, hstored, hearlier⟩
    have hne : rest.isEmpty = false := by simpa using hempty
    have haccessor : (stateAfter before).accessorName name = rest := by
      simp [GroupState.accessorName, rest?_eq_some_iff.mpr hrest, hne]
    simp [accessorFor, haccessor, hstored, hearlier]
  · intro hnone
    cases hrest : (stateAfter before).rest? name with
    | none => simp [accessorFor, GroupState.accessorName, hrest]
    | some rest =>
      by_cases hempty : rest = ""
      · simp [accessorFor, GroupState.accessorName, hrest, hempty]
      · -- a rest that is not usable is taken
        have hne : rest.isEmpty = false := by simpa using hempty
        have hrest' := rest?_eq_some_iff.mp hrest
        have htaken : rest ∈ stored ∨ rest ∈ earlier := by
          by_contra hfree
          rw [not_or] at hfree
          exact hnone rest ⟨hrest', hempty, hfree.1, hfree.2⟩
        simp [accessorFor, GroupState.accessorName, hrest, hne, hrest'.ne_name, htaken]

/-! ## All members -/

theorem planFrom_declared (stored : List String) (state : GroupState) (earlier : List String)
    (members : List (ClassMember α)) :
    (planFrom stored state earlier members).map declared = members := by
  induction members generalizing state earlier with
  | nil => rfl
  | cons m members ih =>
    cases m <;> simp [planFrom, declared, ih]

theorem plan_declared (members : List (ClassMember α)) :
    (plan members).map declared = members :=
  planFrom_declared _ _ _ members

/-- What names a property is decided by the members before it. -/
theorem planFrom_split {stored earlier : List String} {state : GroupState}
    {members : List (ClassMember α)} {before after : List (PlannedMember α)}
    {name accessor : String} {content : α}
    (h : planFrom stored state earlier members =
      before ++ .property name accessor content :: after) :
    accessor = accessorFor stored ((before.map declared).foldl enter state)
      ((before.filterMap accessor?).reverse ++ earlier) name := by
  induction before generalizing state earlier members with
  | nil =>
    cases members with
    | nil => cases h
    | cons m members =>
      cases m with
      | group other lead => cases h
      | subgroup other lead => cases h
      | property other content' =>
        simp only [planFrom, List.nil_append, List.cons.injEq, PlannedMember.property.injEq] at h
        obtain ⟨⟨rfl, rfl, -⟩, -⟩ := h
        rfl
  | cons p before ih =>
    cases members with
    | nil => cases h
    | cons m members =>
      cases m with
      | group other lead =>
        simp only [planFrom, List.cons_append, List.cons.injEq] at h
        obtain ⟨rfl, hrest⟩ := h
        exact ih hrest
      | subgroup other lead =>
        simp only [planFrom, List.cons_append, List.cons.injEq] at h
        obtain ⟨rfl, hrest⟩ := h
        exact ih hrest
      | property other content' =>
        simp only [planFrom, List.cons_append, List.cons.injEq] at h
        obtain ⟨rfl, hrest⟩ := h
        rw [List.filterMap_cons_some (show accessor? (.property other _ content') = some _ from rfl),
          List.reverse_cons, List.append_assoc]
        exact ih hrest

/-- The accessors of every property go by the right name. -/
theorem plan_accessorRule {members : List (ClassMember α)} {before after : List (PlannedMember α)}
    {name accessor : String} {content : α}
    (h : plan members = before ++ .property name accessor content :: after) :
    AccessorRule (storedNames members) (before.map declared) (before.filterMap accessor?) name
      accessor := by
  have haccessor := planFrom_split h
  have hrule := accessorFor_rule (storedNames members) (before.map declared)
    ((before.filterMap accessor?).reverse ++ []) name
  rw [haccessor]
  constructor
  · rintro rest ⟨hrest, hempty, hstored, hearlier⟩
    exact hrule.of_usable rest ⟨hrest, hempty, hstored, by simpa using hearlier⟩
  · intro hnone
    refine hrule.of_unusable fun rest hrest => hnone rest ?_
    exact ⟨hrest.isRest, hrest.ne_empty, hrest.notMem_stored, by simpa using hrest.notMem_earlier⟩

/-! ## Accessors are distinct -/

theorem AccessorRule.cases {stored earlier : List String} {before : List (ClassMember α)}
    {name accessor : String} (h : AccessorRule stored before earlier name accessor) :
    IsUsable stored before earlier name accessor ∨ accessor = name := by
  by_cases hsome : ∃ rest, IsUsable stored before earlier name rest
  · obtain ⟨rest, hrest⟩ := hsome
    rw [h.of_usable rest hrest]
    exact .inl hrest
  · exact .inr (h.of_unusable fun rest hrest => hsome ⟨rest, hrest⟩)

theorem storedNames_split {members : List (ClassMember α)} {before after : List (PlannedMember α)}
    {name accessor : String} {content : α}
    (h : plan members = before ++ .property name accessor content :: after) :
    storedNames members =
      storedNames (before.map declared) ++ name :: storedNames (after.map declared) := by
  rw [← plan_declared members, h]
  simp [storedNames, declared, propertyName?]

theorem accessor_notMem_before {members : List (ClassMember α)}
    (hdistinct : (storedNames members).Nodup) {before after : List (PlannedMember α)}
    {name accessor : String} {content : α}
    (h : plan members = before ++ .property name accessor content :: after) :
    accessor ∉ before.filterMap accessor? := by
  rcases (plan_accessorRule h).cases with husable | rfl
  · exact husable.notMem_earlier
  · intro hearlier
    have hstored := storedNames_split h
    obtain ⟨other, content', hother⟩ := PlannedMember.mem_accessors_iff.mp hearlier
    obtain ⟨front, back, rfl⟩ := List.append_of_mem hother
    have hsplit : plan members =
        front ++ .property other accessor content' :: (back ++ .property accessor accessor content ::
          after) := by
      rw [h, List.append_assoc, List.cons_append]
    rcases (plan_accessorRule hsplit).cases with husable | hname
    · -- a rest is no name of a property
      have hmem : accessor ∈ storedNames members := by
        rw [hstored]
        exact List.mem_append_right _ List.mem_cons_self
      exact husable.notMem_stored hmem
    · -- two properties have one name
      rw [hstored] at hdistinct
      refine (notMem_of_split hdistinct).1 ?_
      rw [hname]
      simp [storedNames, declared, propertyName?]

/-- Different properties have different accessors. -/
theorem plan_accessors_nodup {members : List (ClassMember α)}
    (hdistinct : (storedNames members).Nodup) : ((plan members).filterMap accessor?).Nodup := by
  refine nodup_filterMap_of_split fun before m after accessor h haccessor => ?_
  cases m with
  | group name lead => cases haccessor
  | subgroup name lead => cases haccessor
  | property name other content =>
    obtain rfl : other = accessor := Option.some.inj haccessor
    exact accessor_notMem_before hdistinct h

end ClassMember

end EngineBindings
