import EngineBindings.Variant.Value

/-!
# The object table

Every object of the engine has a place of its own, which no later object takes.  References are
counted by hand: whoever keeps a counted object retains it, and releases it afterwards.  An object
dies when it is freed, or when a release leaves its count at zero.
-/

namespace EngineBindings

/-- What the table holds of a living object; an object of a host class carries an instance. -/
structure ObjectEntry (ι : Type) where
  /-- The class that the object was created as. -/
  className : String
  isRefCounted : Bool
  count : Nat
  instance? : Option ι
  deriving Inhabited

/-- The objects in the order of their creation; a dead one leaves its place empty. -/
structure ObjectTable (ι : Type) where
  places : Array (Option (ObjectEntry ι))
  deriving Inhabited

namespace ObjectTable

variable {ι : Type}

/-- No objects. -/
def empty : ObjectTable ι :=
  ⟨#[]⟩

/-- The entry of a living object. -/
def get? (t : ObjectTable ι) (handle : ObjectHandle) : Option (ObjectEntry ι) :=
  t.places[handle.index]?.join

/-- Puts an entry, or nothing, into the place of an object. -/
def put (t : ObjectTable ι) (handle : ObjectHandle) (content? : Option (ObjectEntry ι)) :
    ObjectTable ι :=
  ⟨t.places.setIfInBounds handle.index content?⟩

/-- Creates an object, at first without references. -/
def create (t : ObjectTable ι) (className : String) (isRefCounted : Bool) (instance? : Option ι) :
    ObjectHandle × ObjectTable ι :=
  (⟨t.places.size⟩, ⟨t.places.push (some ⟨className, isRefCounted, 0, instance?⟩)⟩)

/-- Whether an object lives. -/
def isAlive (t : ObjectTable ι) (handle : ObjectHandle) : Bool :=
  (t.get? handle).isSome

/-- The class of a living object. -/
def classOf? (t : ObjectTable ι) (handle : ObjectHandle) : Option String :=
  (t.get? handle).map ObjectEntry.className

/-- Whether an object lives and is counted. -/
def isRefCounted (t : ObjectTable ι) (handle : ObjectHandle) : Bool :=
  (t.get? handle).any ObjectEntry.isRefCounted

/-- The number of references to a living object. -/
def count? (t : ObjectTable ι) (handle : ObjectHandle) : Option Nat :=
  (t.get? handle).map ObjectEntry.count

/-- Destroys an object, however many references there are. -/
def free (t : ObjectTable ι) (handle : ObjectHandle) : ObjectTable ι :=
  t.put handle none

/-- Adds a reference to a living object. -/
def retain (t : ObjectTable ι) (handle : ObjectHandle) : ObjectTable ι :=
  match t.get? handle with
  | some entry => t.put handle (some { entry with count := entry.count + 1 })
  | none => t

/-- Takes a reference from a living object, which dies if none is left. -/
def release (t : ObjectTable ι) (handle : ObjectHandle) : ObjectTable ι :=
  match t.get? handle with
  | some entry =>
    if entry.count ≤ 1 then t.put handle none
    else t.put handle (some { entry with count := entry.count - 1 })
  | none => t

/-- Adds a reference to an object that is counted. -/
def retainIfCounted (t : ObjectTable ι) (handle : ObjectHandle) : ObjectTable ι :=
  if t.isRefCounted handle then t.retain handle else t

/-- Takes a reference from an object that is counted. -/
def releaseIfCounted (t : ObjectTable ι) (handle : ObjectHandle) : ObjectTable ι :=
  if t.isRefCounted handle then t.release handle else t

/-- The instance of a living object. -/
def instance? (t : ObjectTable ι) (handle : ObjectHandle) : Option ι :=
  (t.get? handle).bind ObjectEntry.instance?

/-- Changes the instance of a living object. -/
def setInstance (t : ObjectTable ι) (handle : ObjectHandle) (content : ι) : ObjectTable ι :=
  match t.get? handle with
  | some entry => t.put handle (some { entry with instance? := some content })
  | none => t

end ObjectTable

end EngineBindings
