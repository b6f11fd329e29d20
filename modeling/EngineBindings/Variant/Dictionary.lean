import EngineBindings.Variant.Value

/-!
# Dictionaries

Maps from values to values that keep the order in which keys were first put in.  Keys are found by
comparison with the keys in order, so a key that differs from itself is never found.
-/

namespace EngineBindings

/-- A map from values to values in the order of insertion. -/
structure Dictionary where
  entries : List (Variant × Variant)
  deriving Inhabited

namespace Dictionary

/-- The empty dictionary. -/
def empty : Dictionary :=
  ⟨[]⟩

/-- The value of a key. -/
def get? (d : Dictionary) (key : Variant) : Option Variant :=
  (d.entries.find? fun entry => entry.1.equals key).map Prod.snd

/-- Entries with a value put under a key: where the key stands already, or else at the end; and the
value that was under the key. -/
def exchangeEntry (key value : Variant) :
    List (Variant × Variant) → List (Variant × Variant) × Option Variant
  | [] => ([(key, value)], none)
  | entry :: rest =>
    if entry.1.equals key then ((entry.1, value) :: rest, some entry.2)
    else
      let (rest, previous) := exchangeEntry key value rest
      (entry :: rest, previous)

/-- Puts a value under a key, and gives the value that was there. -/
def exchange (d : Dictionary) (key value : Variant) : Dictionary × Option Variant :=
  let (entries, previous) := exchangeEntry key value d.entries
  (⟨entries⟩, previous)

/-- Puts a value under a key. -/
def insert (d : Dictionary) (key value : Variant) : Dictionary :=
  (d.exchange key value).1

/-- A dictionary as a value. -/
def toVariant (d : Dictionary) : Variant :=
  .dictionary d.entries

end Dictionary

end EngineBindings
