/-!
# Lists without repeats

The elements of a list in the order in which they first occur.
-/

namespace EngineBindings

/-- Keeps the first occurrence of every element. -/
def firstOccurrences {α : Type} [BEq α] (xs : List α) : List α :=
  xs.foldl (fun kept x => if kept.contains x then kept else kept ++ [x]) []

end EngineBindings
