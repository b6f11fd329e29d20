/-!
# The command line

A command is named first; its paths and options follow in any order.  An option that takes a value
takes the rest of its argument or the next one, which may not look like an option itself.  After
two bare hyphens everything is a path.  `Command.ofArguments` reads a command, or says that help
was asked for or that the arguments are no command.
-/

namespace EngineBindings

/-- What the generation of one module from name lists is told. -/
structure GenerateArguments where
  api : String
  outDirectory : String
  module : String
  classList : String
  availableClassList : String
  builtinList : String
  preamble? : Option String
  /-- One module for everything, with one file for every letter. -/
  combined : Bool
  /-- The configuration with the levels and the settings of generation. -/
  configuration? : Option String
  deriving DecidableEq, Inhabited

/-- What the program is told to do. -/
inductive Command where
  /-- Write one module from its name lists. -/
  | generate (arguments : GenerateArguments)
  /-- Plan the modules of a configuration and write their name lists. -/
  | plan (configuration workDirectory : String)
  /-- Plan and generate all modules, or just the umbrella. -/
  | build (configuration api workDirectory : String) (combined : Bool)
  deriving DecidableEq, Inhabited

/-- Why there is no command to run. -/
inductive NoCommand where
  /-- Help or the version was asked for. -/
  | helpAsked
  | misuse
  deriving DecidableEq, Inhabited

namespace CommandLine

/-! ## Options -/

/-- What goes with an option. -/
inductive OptionValue where
  | nothing
  | path
  | text
  deriving DecidableEq, Inhabited

/-- An option of a command. -/
structure OptionKind where
  name : String
  letter? : Option Char
  value : OptionValue
  deriving Inhabited

/-- The option that every command has: more is told of what is done. -/
def verbose : OptionKind :=
  ⟨"verbose", some 'v', .nothing⟩

/-- What was read of a command line. -/
structure Scanned where
  paths : List String
  options : List (String × String)
  deriving Inhabited

namespace Scanned

/-- Nothing. -/
def empty : Scanned :=
  ⟨[], []⟩

/-- Adds a path, of which there are only so many; a path is not empty. -/
def addPath (limit : Nat) (s : Scanned) (path : String) : Except NoCommand Scanned :=
  if path.isEmpty || limit ≤ s.paths.length then .error .misuse
  else .ok { s with paths := s.paths ++ [path] }

/-- Adds an option, which may stand only once. -/
def addOption (s : Scanned) (kind : OptionKind) (value : String) : Except NoCommand Scanned :=
  if (s.options.lookup kind.name).isSome || (kind.value = .path && value.isEmpty) then
    .error .misuse
  else .ok { s with options := s.options ++ [(kind.name, value)] }

/-- Whether an option stands. -/
def has (s : Scanned) (name : String) : Bool :=
  (s.options.lookup name).isSome

end Scanned

/-! ## Arguments -/

/-- What an argument adds, and the option that waits for its value. -/
abbrev Step := Except NoCommand (Scanned × Option OptionKind)

/-- Reads options of one letter that stand together. -/
def readLetters (kinds : List OptionKind) (s : Scanned) : List Char → Step
  | [] => .ok (s, none)
  | letter :: rest =>
    if letter = 'h' then .error .helpAsked
    else
      match kinds.find? (·.letter? == some letter) with
      | none => .error .misuse
      | some kind =>
        if kind.value = .nothing then do readLetters kinds (← s.addOption kind "") rest
        else
          match rest with
          | [] => .ok (s, some kind)
          | '=' :: value => do return (← s.addOption kind (String.ofList value), none)
          | value => do return (← s.addOption kind (String.ofList value), none)

/-- Reads an option by its name, with its value after an equals sign. -/
def readName (kinds : List OptionKind) (s : Scanned) (text : List Char) : Step :=
  let name := String.ofList (text.takeWhile (· != '='))
  let value? := (text.dropWhile (· != '=')).tail?.map String.ofList
  if name = "help" then .error (if value?.isSome then .misuse else .helpAsked)
  else
    match kinds.find? (·.name == name), value? with
    | none, _ => .error .misuse
    | some kind, none =>
      if kind.value = .nothing then do return (← s.addOption kind "", none)
      else .ok (s, some kind)
    | some kind, some value =>
      if kind.value = .nothing then .error .misuse
      else do return (← s.addOption kind value, none)

/-- Reads an argument. -/
def readArgument (kinds : List OptionKind) (limit : Nat) (s : Scanned) (argument : String) : Step :=
  match argument.toList with
  | '-' :: '-' :: text => readName kinds s text
  | '-' :: letter :: rest => readLetters kinds s (letter :: rest)
  | _ => do return (← s.addPath limit argument, none)

/-- Whether an argument may be the value of an option: it does not look like one. -/
def isValue (argument : String) : Bool :=
  match argument.toList with
  | '-' :: _ :: _ => false
  | _ => true

/-- Reads the arguments of a command; an option may wait for its value. -/
def scan (kinds : List OptionKind) (limit : Nat) :
    Scanned → Option OptionKind → List String → Except NoCommand Scanned
  | s, none, [] => .ok s
  | _, some _, [] => .error .misuse
  | s, some kind, value :: rest =>
    if isValue value then do scan kinds limit (← s.addOption kind value) none rest
    else .error .misuse
  | s, none, argument :: rest =>
    if argument = "--" then rest.foldlM (Scanned.addPath limit) s
    else do
      let (s, waiting?) ← readArgument kinds limit s argument
      scan kinds limit s waiting? rest

/-! ## Commands -/

/-- Reads the arguments of a command with so many paths. -/
def readPaths (kinds : List OptionKind) (count : Nat) (arguments : List String) :
    Except NoCommand Scanned := do
  let s ← scan (verbose :: kinds) count .empty none arguments
  if s.paths.length = count then return s else throw .misuse

/-- The value of an option that has to stand. -/
def required (s : Scanned) (name : String) : Except NoCommand String :=
  (s.options.lookup name).elim (.error .misuse) .ok

/-- The option for one module instead of many. -/
def combined : OptionKind :=
  ⟨"combined", none, .nothing⟩

/-- Reads the arguments of the generation of one module. -/
def readGenerate (arguments : List String) : Except NoCommand Command := do
  let kinds : List OptionKind :=
    [⟨"module", some 'm', .text⟩, ⟨"class-filter", none, .path⟩,
      ⟨"available-class-filter", none, .path⟩, ⟨"builtin-filter", none, .path⟩,
      ⟨"preamble-file", none, .path⟩, combined, ⟨"tiers", none, .path⟩]
  let s ← readPaths kinds 2 arguments
  match s.paths with
  | [api, outDirectory] =>
    return .generate
      { api, outDirectory
        module := (s.options.lookup "module").getD "godot"
        classList := ← required s "class-filter"
        availableClassList := ← required s "available-class-filter"
        builtinList := ← required s "builtin-filter"
        preamble? := s.options.lookup "preamble-file"
        combined := s.has "combined"
        configuration? := s.options.lookup "tiers" }
  | _ => throw .misuse

/-- Reads the arguments of planning. -/
def readPlan (arguments : List String) : Except NoCommand Command := do
  match (← readPaths [] 2 arguments).paths with
  | [configuration, workDirectory] => return .plan configuration workDirectory
  | _ => throw .misuse

/-- Reads the arguments of a build. -/
def readBuild (arguments : List String) : Except NoCommand Command := do
  let s ← readPaths [combined] 3 arguments
  match s.paths with
  | [configuration, api, workDirectory] =>
    return .build configuration api workDirectory (s.has "combined")
  | _ => throw .misuse

/-- The commands by name. -/
def readers : List (String × (List String → Except NoCommand Command)) :=
  [("generate", readGenerate), ("plan", readPlan), ("build", readBuild)]

/-- The answer to a request for help, which may name one command. -/
def readHelp : List String → NoCommand
  | [] => .helpAsked
  | [name] =>
    if name = "help" || (readers.lookup name).isSome then .helpAsked else .misuse
  | _ => .misuse

/-- Reads the letters of options before the command. -/
def readLeadingLetters : Bool → List Char → Except NoCommand Bool
  | isVerbose, [] => .ok isVerbose
  | isVerbose, letter :: rest =>
    if letter = 'h' || letter = 'V' then .error .helpAsked
    else if letter = 'v' && !isVerbose then readLeadingLetters true rest
    else .error .misuse

/-- Reads a command after options; whether `verbose` stood among them is known. -/
def readCommand : Bool → List String → Except NoCommand Command
  | _, [] => .error .misuse
  | isVerbose, argument :: rest =>
    if argument = "--help" || argument = "--version" then .error .helpAsked
    else if argument = "--verbose" then
      if isVerbose then .error .misuse else readCommand true rest
    else if argument = "help" then .error (readHelp rest)
    else
      match readers.lookup argument, argument.toList with
      | some read, _ => read rest
      | none, '-' :: '-' :: _ => .error .misuse
      | none, '-' :: letter :: letters => do
        readCommand (← readLeadingLetters isVerbose (letter :: letters)) rest
      | none, _ => .error .misuse

end CommandLine

/-- The command that some arguments are. -/
def Command.ofArguments (arguments : List String) : Except NoCommand Command :=
  CommandLine.readCommand false arguments

end EngineBindings
