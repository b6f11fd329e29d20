import EngineBindings.Startup.Plan
import EngineBindings.TypeCategory

/-!
# Failures of generation

Why a module's bindings cannot be generated, with the text of each reason.
-/

namespace EngineBindings

/-- Why a module's bindings cannot be generated. -/
inductive GenerationError where
  /-- A name that no identifier can spell. -/
  | unspellable (name : String)
  /-- A type of a member that has no category. -/
  | classify (owner member : String) (error : ClassifyError)
  | startup (module : String) (error : StartupError)
  | unknownClass (module className : String)
  | unknownBuiltin (module builtin : String)
  | parentUnavailable (className parent module : String)
  deriving Inhabited, BEq

/-- The text of an error. -/
def GenerationError.message : GenerationError → String
  | .unspellable name => "`" ++ name ++ "` is not an identifier"
  | .classify owner member error => "`" ++ owner ++ "." ++ member ++ "`: " ++ error.message
  | .startup module error => "module `" ++ module ++ "`: " ++ error.message
  | .unknownClass module className =>
    "module `" ++ module ++ "` lists class `" ++ className ++ "`, which the schema does not define"
  | .unknownBuiltin module builtin =>
    "module `" ++ module ++ "` lists builtin `" ++ builtin ++ "`, which the schema does not define"
  | .parentUnavailable className parent module =>
    "class `" ++ className ++ "` derives from `" ++ parent ++
      "`, which is not available to module `" ++ module ++ "`"

/-- A result of generation. -/
abbrev Emission := Except GenerationError

end EngineBindings
