import EngineBindings.Level
import EngineBindings.Text.Similarity
import EngineBindings.TypeCategory

/-!
# What is wrong with a declaration

The declaration of a class, an enumeration or of methods may have several faults.  All of them are
reported, in the order in which they stand in the declaration.
-/

namespace EngineBindings

/-- A fault of a declaration. -/
inductive DeclarationError where
  /-- An attribute has no such key; one of the keys that it has may be meant. -/
  | unknownKey (key : String) (keys : List String)
  /-- A key stands twice. -/
  | repeatedKey (key : String)
  | missingKey (key : String)
  /-- A value of another kind than the key takes. -/
  | unexpectedKind (kind : String)
  /-- A key alone, or an attribute alone, where a value is needed. -/
  | wordAlone
  | unknownValue (value : String)
  /-- A negative number where none may be. -/
  | invalidDigit
  | numberTooLarge
  /-- A declaration of another shape. -/
  | shape (found expected : String)
  | genericClass
  | secondBase
  | noBase
  /-- The attribute names another engine class than the field. -/
  | baseMismatch (stated actual : String)
  | unknownLevel (name : String)
  | enumWidth (bits : Nat)
  /-- A type whose values do not travel. -/
  | type (error : ClassifyError)
  | noCases
  /-- Methods of a trait. -/
  | notInherent
  | repeatedExposure
  | callableReceiver
  | signalReceiver
  | signalResult
  | signalBody
  | patternParameter
  deriving Inhabited, BEq

namespace DeclarationError

/-- The text of a fault. -/
def message : DeclarationError → String
  | unknownKey key keys =>
    "Unknown field: `" ++ key ++ "`" ++
      match Text.mostSimilar? key keys with
      | some meant => ". Did you mean `" ++ meant ++ "`?"
      | none => ""
  | repeatedKey key => "Duplicate field `" ++ key ++ "`"
  | missingKey key => "Missing field `" ++ key ++ "`"
  | unexpectedKind kind => "Unexpected type `" ++ kind ++ "`"
  | wordAlone => "Unexpected meta-item format `word`"
  | unknownValue value => "Unknown literal value `" ++ value ++ "`"
  | invalidDigit => "invalid digit found in string"
  | numberTooLarge => "number too large to fit in target type"
  | shape found expected =>
    "Unsupported shape `" ++ found ++ "`. Expected " ++ expected ++ "."
  | genericClass => "engine classes cannot be generic"
  | secondBase => "only one `Base<T>` field is allowed"
  | noBase => "a class needs a `base: Base<T>` field naming the engine class it extends"
  | baseMismatch stated actual =>
    "`base = " ++ stated ++ "` does not match the `Base<" ++ actual ++ ">` field"
  | unknownLevel name => Level.unknownMessage name
  | enumWidth bits => "`enum_width` must be 32 or 64, not " ++ toString bits
  | type error => error.message
  | noCases => "GodotEnum needs at least one case"
  | notInherent => "#[godot_api] goes on an inherent impl"
  | repeatedExposure => "a method is either `#[callable]` or `#[signal]`, once"
  | callableReceiver => "callables take `&self`, `&mut self` or no receiver"
  | signalReceiver => "signals take `&self`"
  | signalResult => "signals return nothing"
  | signalBody => "signal bodies are generated, leave the body empty"
  | patternParameter => "exposed parameters must be plain names"

end DeclarationError

/-- What a declaration gives, or all that is wrong with it. -/
abbrev Declared := Except (List DeclarationError)

end EngineBindings
