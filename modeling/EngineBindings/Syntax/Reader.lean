import EngineBindings.Code.Lexer

/-!
# Readers of code

A reader takes lexemes from the front of a text and gives what they mean, or says what it needs
instead.  A group is read on its own; what its reader leaves of it is noted, and is an error once
everything else has been read.
-/

namespace EngineBindings

/-- Why code cannot be read. -/
inductive SyntaxError where
  /-- One of some things is needed, perhaps because the code ends. -/
  | expected (things : List String) (atEnd : Bool)
  /-- A keyword where an identifier is needed. -/
  | keyword (word : String)
  /-- More than can be read, perhaps between delimiters. -/
  | leftover (inside? : Option Delimiter)
  /-- Something that is not allowed where it stands. -/
  | misplaced (text : String)
  deriving DecidableEq, Inhabited

namespace SyntaxError

/-- What is said of things that are needed. -/
def needed : List String → String
  | [thing] => "expected " ++ thing
  | [thing, other] => "expected " ++ thing ++ " or " ++ other
  | things => "expected one of: " ++ Text.join ", " things

/-- The text of an error. -/
def message : SyntaxError → String
  | expected things atEnd => (if atEnd then "unexpected end of input, " else "") ++ needed things
  | keyword word => needed ["identifier"] ++ ", found keyword `" ++ word ++ "`"
  | leftover none => "unexpected token"
  | leftover (some delimiter) =>
    "unexpected token, expected `" ++ delimiter.closing.toString ++ "`"
  | misplaced text => text

end SyntaxError

/-- What is left to read. -/
structure Source where
  rest : List Lexeme
  /-- The delimiters of the first group that was not read to its end. -/
  leftover? : Option Delimiter
  deriving Inhabited

/-- A reader of code. -/
abbrev CodeReader := StateT Source (Except SyntaxError)

/-! ## What is ahead -/

namespace Lexeme

/-- Whether lexemes start with some characters of punctuation in a row. -/
def hasMarksFrom : List Char → List Lexeme → Bool
  | [], _ => true
  | [c], mark d _ :: _ => c == d
  | c :: more, mark d isJoint :: rest => c == d && isJoint && hasMarksFrom more rest
  | _, _ => false

/-- `hasMarksFrom` for a text. -/
def hasMarks (s : String) (c : List Lexeme) : Bool :=
  hasMarksFrom s.toList c

/-- Whether lexemes start with one of some operators. -/
def hasAnyMarks (operators : List String) (c : List Lexeme) : Bool :=
  operators.any fun s => hasMarks s c

/-- Whether lexemes start with a word. -/
def hasWord (w : String) : List Lexeme → Bool
  | ident name :: _ => name == w
  | _ => false

/-- Whether lexemes start with one of some words. -/
def hasAnyWord (words : List String) : List Lexeme → Bool
  | ident name :: _ => words.contains name
  | _ => false

/-- Whether lexemes start with any word. -/
def hasName : List Lexeme → Bool
  | ident _ :: _ => true
  | _ => false

/-- Whether a word is an identifier and no keyword. -/
def isFree (name : String) : Bool :=
  name != "_" && !Text.keywords.contains name

/-- Whether lexemes start with an identifier. -/
def hasIdent : List Lexeme → Bool
  | ident name :: _ => isFree name
  | _ => false

/-- Whether lexemes start with a lifetime. -/
def hasLifetime : List Lexeme → Bool
  | lifetime _ :: _ => true
  | _ => false

/-- Whether lexemes start with a group. -/
def hasGroup (delimiter : Delimiter) : List Lexeme → Bool
  | group d _ :: _ => d == delimiter
  | _ => false

/-- The number of lexemes of the literal that lexemes start with; none if there is no literal. -/
def literalLength : List Lexeme → Nat
  | literal _ :: _ => 1
  | text _ _ :: _ => 1
  | ident name :: _ => if name == "true" || name == "false" then 1 else 0
  | mark '-' _ :: literal _ :: _ => 2
  | _ => 0

/-- Whether lexemes start with a literal. -/
def hasLiteral (c : List Lexeme) : Bool :=
  literalLength c != 0

/-- Whether lexemes start with a string literal. -/
def hasText : List Lexeme → Bool
  | text _ _ :: _ => true
  | _ => false

end Lexeme

/-- The name of a pair of delimiters in messages. -/
def Delimiter.noun : Delimiter → String
  | paren => "parentheses"
  | bracket => "square brackets"
  | brace => "curly braces"

namespace CodeReader

open Lexeme

/-- The lexemes ahead. -/
def ahead : CodeReader (List Lexeme) :=
  return (← get).rest

/-- Whether what is ahead has a property. -/
def sees (p : List Lexeme → Bool) : CodeReader Bool :=
  return p (← ahead)

/-- Whether nothing is ahead. -/
def atEnd : CodeReader Bool :=
  sees List.isEmpty

/-- Says what is needed. -/
def need {α : Type} (things : List String) : CodeReader α := do
  throw (.expected things (← atEnd))

/-- Takes some lexemes. -/
def take (n : Nat) : CodeReader Code := do
  let c ← ahead
  modify fun s => { s with rest := c.drop n }
  return code (c.take n)

/-- Takes characters of punctuation that stand in a row. -/
def marks (s : String) : CodeReader Code := do
  if ← sees (hasMarks s) then take s.length
  else throw (.expected ["`" ++ s ++ "`"] false)

/-- Takes characters of punctuation if they are ahead. -/
def marks? (s : String) : CodeReader Code := do
  if ← sees (hasMarks s) then take s.length else return []

/-- Takes a keyword. -/
def word (w : String) : CodeReader Code := do
  if ← sees (hasWord w) then take 1 else need ["`" ++ w ++ "`"]

/-- Takes a keyword if it is ahead. -/
def word? (w : String) : CodeReader Code := do
  if ← sees (hasWord w) then take 1 else return []

/-- Takes any word. -/
def name : CodeReader String := do
  match ← ahead with
  | ident name :: _ =>
    let _ ← take 1
    return name
  | _ => need ["ident"]

/-- Takes an identifier. -/
def ident : CodeReader String := do
  match ← ahead with
  | .ident name :: _ =>
    if isFree name then
      let _ ← take 1
      return name
    else throw (.keyword name)
  | _ => need ["identifier"]

/-- Takes a lifetime. -/
def lifetime : CodeReader Code := do
  if ← sees hasLifetime then take 1 else need ["lifetime"]

/-- Takes a lifetime if one is ahead. -/
def lifetime? : CodeReader Code := do
  if ← sees hasLifetime then take 1 else return []

/-- Takes a literal. -/
def literal : CodeReader Code := do
  let length := literalLength (← ahead)
  if length == 0 then need ["literal"] else take length

/-- Takes a group whose inside another reader reads. -/
def within {α : Type} (delimiter : Delimiter) (inside : CodeReader α) : CodeReader α := do
  match ← ahead with
  | group d inner :: rest =>
    if d = delimiter then
      modify fun s => { s with rest := inner }
      let result ← inside
      modify fun s =>
        ⟨rest, s.leftover?.or (if s.rest.isEmpty then none else some delimiter)⟩
      return result
    else need [delimiter.noun]
  | _ => need [delimiter.noun]

/-- Takes a group as it stands. -/
def anyGroup : CodeReader Code := do
  match ← ahead with
  | group _ _ :: _ => take 1
  | _ => need ["delimiter"]

/-- What a reader that was at some lexemes has taken since then, as it stands. -/
def takenSince (start : List Lexeme) : CodeReader Code := do
  return code (start.take (start.length - (← ahead).length))

/-- What a reader gives without taking anything; nothing if it fails. -/
def peek? {α : Type} (reader : CodeReader α) : CodeReader (Option α) := do
  match reader.run (← get) with
  | .ok (result, _) => return some result
  | .error _ => return none

/-! ## Repetition -/

/-- What a reader gives as long as it gives something, at most some times. -/
def collect {α : Type} (step : CodeReader (Option α)) : Nat → CodeReader (List α)
  | 0 => return []
  | n + 1 => do
    match ← step with
    | some a => return a :: (← collect step n)
    | none => return []

/-- What a reader gives as long as it gives something; every time it takes a lexeme. -/
def many {α : Type} (step : CodeReader (Option α)) : CodeReader (List α) := do
  collect step ((← ahead).length + 1)

/-- The code of what a reader gives while something is ahead. -/
def whileSees (p : List Lexeme → Bool) (step : CodeReader Code) : CodeReader Code := do
  return (← many do if ← sees p then return some (← step) else return none).flatten

/-- Things with commas between them, each with whether a comma follows it. -/
def separated {α : Type} (isDone : List Lexeme → Bool) (item : CodeReader α) :
    CodeReader (List (α × Bool)) :=
  many do
    if ← sees isDone then return none
    let a ← item
    if ← sees isDone then return some (a, false)
    let _ ← marks ","
    return some (a, true)

/-- The code of things with the commas that follow them. -/
def withCommas {α : Type} (toCode : α → Code) (items : List (α × Bool)) : Code :=
  items.flatMap fun (a, hasComma) => toCode a ++ if hasComma then [.mark ','] else []

/-- Code with commas between its parts, up to the end. -/
def commaList (item : CodeReader Code) : CodeReader Code := do
  return withCommas id (← separated List.isEmpty item)

/-- Reads all lexemes. -/
def readAll {α : Type} (reader : CodeReader α) (c : List Lexeme) : Except SyntaxError α := do
  let (result, s) ← reader.run ⟨c, none⟩
  match s.leftover? with
  | some delimiter => throw (.leftover (some delimiter))
  | none => if s.rest.isEmpty then return result else throw (.leftover none)

end CodeReader

end EngineBindings
