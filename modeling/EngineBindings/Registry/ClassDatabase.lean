import EngineBindings.Registry.Member

/-!
# The class database

The classes that are registered, each with its parent and its members, and beside them the order in
which they came.  Answers about inheritance are remembered; they are forgotten whenever a class
comes or goes.
-/

namespace EngineBindings

/-- What is known of a registered class. -/
structure ClassRecord where
  parent? : Option String
  isRefCounted : Bool
  members : List RegisteredMember
  deriving DecidableEq, Inhabited

/-- The registered classes, their order, and the remembered answers about inheritance. -/
@[ext] structure ClassDatabase where
  /-- The records of the classes by their names. -/
  classes : List (String × ClassRecord)
  /-- The names of the classes in the order of their registration. -/
  order : List String
  /-- Pairs of a class and an ancestor that was asked for, with the answers. -/
  answers : List ((String × String) × Bool)
  deriving Inhabited

namespace ClassDatabase

/-- No classes. -/
def empty : ClassDatabase :=
  ⟨[], [], []⟩

/-- The record of a class. -/
def record? (db : ClassDatabase) (name : String) : Option ClassRecord :=
  db.classes.lookup name

/-- Whether a class is registered. -/
def isRegistered (db : ClassDatabase) (name : String) : Bool :=
  (db.record? name).isSome

/-- The parent of a registered class. -/
def parentOf? (db : ClassDatabase) (name : String) : Option String :=
  (db.record? name).bind ClassRecord.parent?

/-- The names of the classes in the order of their registration. -/
def names (db : ClassDatabase) : List String :=
  db.order

/-- The members of a class in the order in which they were recorded. -/
def members (db : ClassDatabase) (name : String) : List RegisteredMember :=
  ((db.record? name).map ClassRecord.members).getD []

/-- Registers a class, unless one of its name is registered. -/
def register (db : ClassDatabase) (name : String) (parent? : Option String) (isRefCounted : Bool) :
    ClassDatabase :=
  if db.isRegistered name then db
  else ⟨(name, ⟨parent?, isRefCounted, []⟩) :: db.classes, db.order ++ [name], []⟩

/-- Removes a class. -/
def unregister (db : ClassDatabase) (name : String) : ClassDatabase where
  classes := db.classes.filter (·.1 != name)
  order := db.order.filter (· != name)
  answers := if db.isRegistered name then [] else db.answers

/-- Records a member of a registered class. -/
def addMember (db : ClassDatabase) (name : String) (member : RegisteredMember) : ClassDatabase :=
  { db with
    classes := db.classes.map fun (n, record) =>
      if n = name then (n, { record with members := record.members ++ [member] }) else (n, record) }

/-! ## Inheritance -/

/-- Whether a class or one of its ancestors has a name; so many steps are taken at most. -/
def reaches (db : ClassDatabase) (ancestor : String) : Nat → Option String → Bool
  | _, none => false
  | 0, some name => name == ancestor
  | steps + 1, some name => name == ancestor || reaches db ancestor steps (db.parentOf? name)

/-- Whether an ancestor is found on the way up from the parent of a class. -/
def findAncestor (db : ClassDatabase) (name ancestor : String) : Bool :=
  db.reaches ancestor db.classes.length (db.parentOf? name)

/-- Whether a class is another one or inherits from it: as remembered, or else as found. -/
def isSubclass (db : ClassDatabase) (name ancestor : String) : Bool :=
  name == ancestor ||
    (db.answers.lookup (name, ancestor)).getD (db.findAncestor name ancestor)

/-- The database with the answer about a class and an ancestor remembered. -/
def remember (db : ClassDatabase) (name ancestor : String) : ClassDatabase :=
  if name = ancestor ∨ (db.answers.lookup (name, ancestor)).isSome then db
  else { db with answers := ((name, ancestor), db.findAncestor name ancestor) :: db.answers }

end ClassDatabase

end EngineBindings
