import EngineBindings.Syntax.Text

/-!
# The argument of a block of methods

A block of exposed methods may name what other calls are handed to: `virtuals = path`, perhaps with
a comma after it.
-/

namespace EngineBindings

/-- Why the argument of a block cannot be read. -/
inductive MethodsArgumentError where
  /-- The text has no tokens. -/
  | lexical
  | grammar (error : SyntaxError)
  deriving DecidableEq, Inhabited

/-- The text of an error. -/
def MethodsArgumentError.message : MethodsArgumentError → String
  | lexical => "cannot parse string into token stream"
  | grammar error => error.message

namespace MethodsArgument

open CodeReader

/-- Reads what a block hands other calls to, if it says so. -/
def reader (g : Grammar) : CodeReader (Option Code) := do
  if ← atEnd then return none
  if (← ident) != "virtuals" then throw (.misplaced "expected `virtuals`")
  let _ ← marks "="
  let path ← g.path false
  let _ ← marks? ","
  return some path.code

/-- What the argument of a block hands other calls to, if it says so. -/
def read (s : String) : Except MethodsArgumentError (Option Code) :=
  match Lexeme.ofText? s with
  | none => .error .lexical
  | some c => (Lexeme.read reader c).mapError .grammar

end MethodsArgument

end EngineBindings
