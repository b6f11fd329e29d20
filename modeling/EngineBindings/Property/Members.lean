import EngineBindings.Text.Pieces

/-!
# Exported members

The exported properties of a class and the groups under which the editor shows them.  A group has a
text that the names of its properties may start with; the accessors of such a property are named by
the rest of its name, unless that rest is taken.
-/

namespace EngineBindings

/-- An exported member of a class, in the order of their declaration. -/
inductive ClassMember (α : Type) where
  /-- Starts a group; `lead` is what names in the group may start with. -/
  | group (name lead : String)
  /-- Starts a subgroup of the group. -/
  | subgroup (name lead : String)
  | property (name : String) (content : α)
  deriving Inhabited

/-- A group with what names in it may start with. -/
structure PropertyGroup where
  name : String
  lead : String
  deriving DecidableEq, Inhabited

/-- The group and the subgroup that members are in. -/
structure GroupState where
  group? : Option PropertyGroup
  subgroup? : Option PropertyGroup
  deriving DecidableEq, Inhabited

namespace GroupState

/-- Outside of any group. -/
def empty : GroupState :=
  ⟨none, none⟩

/-- A group starts; a subgroup ends with the group that it is in. -/
def enterGroup (_s : GroupState) (name lead : String) : GroupState :=
  ⟨some ⟨name, lead⟩, none⟩

/-- A subgroup starts. -/
def enterSubgroup (s : GroupState) (name lead : String) : GroupState :=
  { s with subgroup? := some ⟨name, lead⟩ }

/-- The rest of a name that starts with the text of a group; an empty text counts for nothing. -/
def restIn? (name : String) (group : PropertyGroup) : Option String :=
  if group.lead.isEmpty then none else Text.stripLead? group.lead name

/-- The rest of a name in the subgroup, or else in the group. -/
def rest? (s : GroupState) (name : String) : Option String :=
  (s.subgroup?.toList ++ s.group?.toList).findSome? (restIn? name)

/-- The name by which accessors call a property. -/
def accessorName (s : GroupState) (name : String) : String :=
  match s.rest? name with
  | some rest => if rest.isEmpty then name else rest
  | none => name

end GroupState

/-- A member with the name that its accessors go by. -/
inductive PlannedMember (α : Type) where
  | group (name lead : String)
  | subgroup (name lead : String)
  | property (name accessor : String) (content : α)
  deriving Inhabited

namespace PlannedMember

variable {α : Type}

/-- The name of a setter. -/
def setterName (accessor : String) : String :=
  "set_" ++ accessor

/-- The name of a getter. -/
def getterName (accessor : String) : String :=
  "get_" ++ accessor

/-- The name of a property with the name that its accessors go by. -/
def names? : PlannedMember α → Option (String × String)
  | property name accessor _ => some (name, accessor)
  | _ => none

end PlannedMember

namespace ClassMember

variable {α : Type}

/-- The name of a property. -/
def propertyName? : ClassMember α → Option String
  | property name _ => some name
  | _ => none

/-- The name that the accessors of a property go by: the one of its group, unless that is the name
of a property or of the accessors of an earlier one. -/
def accessorFor (stored : List String) (state : GroupState) (earlier : List String)
    (name : String) : String :=
  let accessor := state.accessorName name
  if accessor != name && (stored.contains accessor || earlier.contains accessor) then name
  else accessor

/-- The members with the names of their accessors, from a group and earlier accessors on. -/
def planFrom (stored : List String) :
    GroupState → List String → List (ClassMember α) → List (PlannedMember α)
  | _, _, [] => []
  | state, earlier, .group name lead :: rest =>
    .group name lead :: planFrom stored (state.enterGroup name lead) earlier rest
  | state, earlier, .subgroup name lead :: rest =>
    .subgroup name lead :: planFrom stored (state.enterSubgroup name lead) earlier rest
  | state, earlier, .property name content :: rest =>
    let accessor := accessorFor stored state earlier name
    .property name accessor content :: planFrom stored state (accessor :: earlier) rest

/-- The members of a class with the names of their accessors. -/
def plan (members : List (ClassMember α)) : List (PlannedMember α) :=
  planFrom (members.filterMap propertyName?) .empty [] members

end ClassMember

end EngineBindings
