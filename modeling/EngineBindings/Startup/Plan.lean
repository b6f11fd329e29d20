import EngineBindings.Level

/-!
# Startup plans

In which order classes are registered while the engine starts up.  Every class has a level, and a
class may not start before its parent.  `StartupPlan.resolve` orders the classes of each level:
parents come before children, and of the classes that may come next the one declared first does.
Shutting down walks the same sequence backwards.
-/

namespace EngineBindings

/-- A class that is to be registered. -/
structure ClassNode where
  name : String
  parent? : Option String
  deriving DecidableEq, Inhabited

/-- The level of every class: some are assigned one, the others share a fallback. -/
structure LevelAssignment where
  fallback : Level
  assigned : List (String × Level)
  deriving Inhabited

namespace LevelAssignment

/-- Every class at one level. -/
def uniform (level : Level) : LevelAssignment :=
  ⟨level, []⟩

/-- Puts a class at a level; the last assignment counts. -/
def assign (a : LevelAssignment) (className : String) (level : Level) : LevelAssignment :=
  { a with assigned := (className, level) :: a.assigned }

/-- The level that was assigned to a class. -/
def assigned? (a : LevelAssignment) (className : String) : Option Level :=
  a.assigned.lookup className

/-- Puts a class at a level unless it was assigned one before. -/
def assignIfAbsent (a : LevelAssignment) (className : String) (level : Level) : LevelAssignment :=
  if (a.assigned? className).isSome then a else a.assign className level

/-- The level of a class. -/
def levelOf (a : LevelAssignment) (className : String) : Level :=
  (a.assigned? className).getD a.fallback

end LevelAssignment

/-- Why classes cannot be ordered for registration. -/
inductive StartupError where
  | parentInLaterLevel (className : String) (level : Level) (parent : String) (parentLevel : Level)
  | duplicateClass (name : String)
  | cycle (name : String)
  deriving DecidableEq, Inhabited

/-- The text of an error. -/
def StartupError.message : StartupError → String
  | .parentInLaterLevel className level parent parentLevel =>
    "class `" ++ className ++ "` is registered at level `" ++ level.name ++ "` but its parent `" ++
      parent ++ "` is registered later, at level `" ++ parentLevel.name ++ "`"
  | .duplicateClass name =>
    "class `" ++ name ++ "` appears more than once in the registration list"
  | .cycle name => "inheritance cycle involving class `" ++ name ++ "`"

/-- The classes of one level in the order of their registration. -/
structure LevelBlock where
  level : Level
  classes : List String
  deriving DecidableEq, Inhabited

/-- The order in which classes are registered, level by level. -/
structure StartupPlan where
  blocks : List LevelBlock
  deriving DecidableEq, Inhabited

namespace StartupPlan

/-- The classes of a level. -/
def classesAt (p : StartupPlan) (level : Level) : List String :=
  match p.blocks.find? (fun block => block.level == level) with
  | some block => block.classes
  | none => []

/-- The whole sequence of registrations. -/
def registrationOrder (p : StartupPlan) : List (Level × String) :=
  p.blocks.flatMap fun block => block.classes.map fun name => (block.level, name)

/-- The sequence of registrations backwards. -/
def deregistrationOrder (p : StartupPlan) : List (Level × String) :=
  p.registrationOrder.reverse

/-- The number of classes. -/
def size (p : StartupPlan) : Nat :=
  p.registrationOrder.length

/-! ## Ordering one level -/

/-- Whether the parent of a class is not among the classes that still wait. -/
def isReady (waiting : List ClassNode) (c : ClassNode) : Bool :=
  match c.parent? with
  | none => true
  | some parent => !waiting.any (fun other => other.name == parent)

/-- Takes ready classes out of the waiting ones, the first declared first, until none is ready.
Gives the classes taken, in order, and those left. -/
def drain (waiting : List ClassNode) : List ClassNode × List ClassNode :=
  match _h : waiting.find? (isReady waiting) with
  | none => ([], waiting)
  | some next =>
    let (ordered, stuck) := drain (waiting.erase next)
    (next :: ordered, stuck)
termination_by waiting.length
decreasing_by
  have hmem := List.mem_of_find?_eq_some _h
  have hpos := List.length_pos_of_mem hmem
  rw [List.length_erase_of_mem hmem]
  omega

/-- Orders the classes of one level.  Classes that never become ready have a cycle among their
ancestors. -/
def orderLevel (classes : List ClassNode) : Except StartupError (List ClassNode) :=
  match drain classes with
  | (ordered, []) => .ok ordered
  | (_, stuck :: _) => .error (.cycle stuck.name)

/-! ## Ordering all levels -/

/-- The first class whose name an earlier one has. -/
def firstDuplicate? : List ClassNode → List ClassNode → Option ClassNode
  | _, [] => none
  | before, c :: rest =>
    if before.any (fun other => other.name == c.name) then some c
    else firstDuplicate? (c :: before) rest

/-- What is wrong with the level of a class, if its parent starts later.  The parent need not be
among the classes to be ordered. -/
def lateParent? (levels : LevelAssignment) (c : ClassNode) : Option StartupError :=
  match c.parent? with
  | none => none
  | some parent =>
    if levels.levelOf c.name < levels.levelOf parent then
      some (.parentInLaterLevel c.name (levels.levelOf c.name) parent (levels.levelOf parent))
    else none

/-- The block of one level; a level without classes has none. -/
def block? (levels : LevelAssignment) (classes : List ClassNode) (level : Level) :
    Except StartupError (Option LevelBlock) :=
  match classes.filter (fun c => levels.levelOf c.name == level) with
  | [] => .ok none
  | members =>
    match orderLevel members with
    | .ok ordered => .ok (some ⟨level, ordered.map ClassNode.name⟩)
    | .error error => .error error

/-- The blocks of some levels. -/
def blocksOf (levels : LevelAssignment) (classes : List ClassNode) :
    List Level → Except StartupError (List LevelBlock)
  | [] => .ok []
  | level :: rest =>
    match block? levels classes level with
    | .error error => .error error
    | .ok block =>
      match blocksOf levels classes rest with
      | .error error => .error error
      | .ok more => .ok (block.toList ++ more)

/-- Orders classes for registration. -/
def resolve (levels : LevelAssignment) (classes : List ClassNode) :
    Except StartupError StartupPlan :=
  match firstDuplicate? [] classes with
  | some c => .error (.duplicateClass c.name)
  | none =>
    match classes.findSome? (lateParent? levels) with
    | some error => .error error
    | none =>
      match blocksOf levels classes Level.all with
      | .ok blocks => .ok ⟨blocks⟩
      | .error error => .error error

end StartupPlan

end EngineBindings
