import EngineBindings.Bindings.Error
import EngineBindings.Config.Basic
import EngineBindings.File.Tree

/-!
# Failures of commands

Why a command fails: what it was doing, and the chain of reasons, each the cause of the one before.
-/

namespace EngineBindings

/-- Why a file that is read at once gives no value. -/
inductive LoadError (ε : Type) where
  | unreadable (error : FileError)
  /-- The text of the file is refused. -/
  | refused (error : ε)
  deriving DecidableEq, Inhabited

/-- Why a command fails. -/
inductive CommandError where
  | configuration (path : String) (error : LoadError ConfigurationError)
  | schema (path : String) (error : LoadError SchemaError)
  | partition (error : PartitionError)
  /-- A name list cannot be read. -/
  | nameList (path : String) (error : FileError)
  | preamble (path : String) (error : FileError)
  /-- The name lists of a module cannot be written. -/
  | moduleLists (module : String) (error : FileError)
  | generation (module : String) (error : GenerationError)
  /-- A generated file of a module cannot be written. -/
  | output (module path : String) (error : FileError)
  deriving Inhabited

namespace CommandError

/-- What is said of a text that is no document of its format. -/
def malformedText : String :=
  "the text is not well-formed"

/-- The reasons for which a configuration is refused. -/
def configurationCauses : LoadError ConfigurationError → List String
  | .unreadable e => ["IO error: " ++ e.message, e.message]
  | .refused .malformed =>
    [ConfigurationError.malformed.message ++ malformedText, malformedText]
  | .refused e => [e.message]

/-- The reasons for which a schema is refused. -/
def schemaCauses : LoadError SchemaError → List String
  | .unreadable e => ["Failed to read schema file: " ++ e.message, e.message]
  | .refused .malformed => [SchemaError.malformed.message ++ malformedText, malformedText]
  | .refused e => [e.message]

/-- The reasons for which a module cannot be generated. -/
def generationCauses : GenerationError → List String
  | e@(.classify _ _ cause) => [e.message, cause.message]
  | e@(.startup _ cause) => [e.message, cause.message]
  | e => [e.message]

/-- What a generation is called. -/
def generating (module : String) : String :=
  "generating module `" ++ module ++ "`"

/-- What the command was doing, and the reasons for its failure. -/
def chain : CommandError → String × List String
  | configuration path e => ("loading module configuration " ++ path, configurationCauses e)
  | schema path e => ("loading engine API " ++ path, schemaCauses e)
  | partition e => (e.message, [])
  | nameList path e => ("reading filter " ++ path, [e.message])
  | preamble path e => ("reading preamble " ++ path, [e.message])
  | moduleLists module e => ("writing filters of module `" ++ module ++ "`", [e.message])
  | generation module e => (generating module, generationCauses e)
  | output module path e =>
    (generating module, ["failed to write `" ++ path ++ "`: " ++ e.message, e.message])

/-- The lines of causes: each has a number if there is more than one. -/
def causeLines : List String → List String
  | [] => []
  | [cause] => ["    " ++ cause]
  | causes => causes.zipIdx.map fun (cause, n) => "    " ++ toString n ++ ": " ++ cause

/-- The text of an error. -/
def report (e : CommandError) : String :=
  let (context, causes) := e.chain
  let more := if causes.isEmpty then [] else "" :: "Caused by:" :: causeLines causes
  Text.join "\n" (("Error: " ++ context) :: more)

/-- The code with which the program ends.  A name that no identifier can spell stops it as a fault
of its own would. -/
def exitCode : CommandError → Nat
  | generation _ (.unspellable _) => 101
  | _ => 1

end CommandError

end EngineBindings
