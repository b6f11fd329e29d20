import EngineBindings.World.Basic

/-!
# Acts on objects

What a program does to the objects of a world, one act after another: it creates them, calls setters
of their properties by name, and retains, releases and frees them by hand.
-/

namespace EngineBindings

/-- An act on the objects of a world. -/
inductive ObjectAct where
  /-- Creates an object of the engine. -/
  | create (className : String) (isRefCounted : Bool)
  /-- Creates an object of a class of the host, with its instance. -/
  | instantiate (c : UserClass) (fields : Fields)
  /-- Calls the setter of a name. -/
  | set (handle : ObjectHandle) (name : String) (args : List Variant)
  | retain (handle : ObjectHandle)
  | release (handle : ObjectHandle)
  | free (handle : ObjectHandle)
  deriving Inhabited

/-- The world after an act. -/
def World.perform (w : World) : ObjectAct → World
  | .create className isRefCounted =>
    { w with objects := (w.objects.create className isRefCounted none).2 }
  | .instantiate c fields =>
    { w with
      objects := (w.objects.create c.exported.name c.base.isRefCounted (some ⟨c, fields⟩)).2 }
  | .set handle name args => (w.call handle name args).1
  | .retain handle => { w with objects := w.objects.retain handle }
  | .release handle => { w with objects := w.objects.release handle }
  | .free handle => { w with objects := w.objects.free handle }

end EngineBindings
