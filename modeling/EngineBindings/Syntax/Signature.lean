import EngineBindings.Syntax.Expression

/-!
# Signatures

What stands before the body of a function: who sees it, how it is called, its parameters and its
inputs, its result and the conditions on its parameters.
-/

namespace EngineBindings

/-- How a method takes its object. -/
inductive ReceiverForm where
  /-- By a shared reference. -/
  | shared
  /-- By an exclusive reference. -/
  | exclusive
  /-- By value, or with a type of its own. -/
  | other
  deriving DecidableEq, Inhabited

/-- An input of a function. -/
inductive InputSyntax where
  /-- The object of a method. -/
  | receiver (form : ReceiverForm) (code : Code)
  | typed (attributes pattern : Code) (type : TypeSyntax)
  /-- Any number of further inputs. -/
  | variadic (code : Code)
  deriving Inhabited

namespace InputSyntax

/-- The code of an input. -/
def code : InputSyntax → Code
  | receiver _ code => code
  | typed attributes pattern type => attributes ++ pattern ++ .mark ':' :: type.code
  | variadic code => code

end InputSyntax

/-- What stands before the body of a function. -/
structure SignatureSyntax where
  /-- What stands before `fn`. -/
  qualifiers : Code
  ident : String
  params : ParamsSyntax
  inputs : List InputSyntax
  result? : Option TypeSyntax
  conditions : Code
  deriving Inhabited

namespace SignatureSyntax

/-- The code of a signature. -/
def code (s : SignatureSyntax) : Code :=
  s.qualifiers ++ Code.word "fn" ++ Code.word s.ident ++ s.params.code ++
    Code.paren (Code.commas (s.inputs.map InputSyntax.code)) ++
    (match s.result? with
      | none => []
      | some type => .mark '-' :: .mark '>' :: type.code) ++
    s.conditions

end SignatureSyntax

namespace Grammar

open CodeReader Lexeme

variable (g : Grammar)

/-! ## Who sees a declaration -/

/-- The number of lexemes that say who sees a declaration. -/
def visibilityLength : List Lexeme → Nat
  | .ident "pub" :: .group .paren [.ident name] :: _ =>
    if ["crate", "self", "super"].contains name then 2 else 1
  | .ident "pub" :: .group .paren (.ident "in" :: _) :: _ => 2
  | .ident "pub" :: _ => 1
  | _ => 0

/-- Reads who sees a declaration. -/
def visibility : CodeReader Code := do
  take (visibilityLength (← ahead))

/-! ## Conditions -/

/-- Whether no further condition follows. -/
def endsConditions (c : List Lexeme) : Bool :=
  c.isEmpty || hasGroup .brace c || hasAnyMarks [",", ";", "="] c ||
    (hasMarks ":" c && !hasMarks "::" c)

/-- Reads a condition on parameters. -/
def condition : CodeReader Code := do
  let c ← ahead
  if hasLifetime c && hasMarks ":" c.tail then
    let lead ← take 2
    let isDone (c : List Lexeme) := endsConditions c || hasMarks ":" c
    return lead ++ withPluses id (← plusSeparated isDone lifetime)
  let binder ← g.binder?
  let type ← g (.type true)
  let colon ← marks ":"
  return binder ++ type.code ++ colon ++
    withPluses id (← plusSeparated endsConditions g.paramBound)

/-- Reads the conditions on parameters if there are some. -/
def conditions : CodeReader Code := do
  if !(← sees (hasWord "where")) then return []
  let lead ← take 1
  let list ← whileSees (!endsConditions ·) do
    let condition ← g.condition
    return condition ++ (← marks? ",")
  return if list.isEmpty then [] else lead ++ list

/-! ## Inputs -/

/-- Reads the object of a method. -/
def receiver : CodeReader InputSyntax := do
  let mark ← marks? "&"
  let lifetime ← if mark.isEmpty then pure [] else lifetime?
  let isMutable ← word? "mut"
  let self ← word "self"
  let code := mark ++ lifetime ++ isMutable ++ self
  if mark.isEmpty then
    if ← sees (hasMarks ":") then
      let colon ← take 1
      return .receiver .other (code ++ colon ++ (← g (.type true)).code)
    return .receiver .other code
  return .receiver (if isMutable.isEmpty then .shared else .exclusive) code

/-- Reads an input of a function. -/
def input : CodeReader InputSyntax := do
  let attributes ← outer
  let c ← ahead
  if hasMarks "..." c then return .variadic (attributes ++ (← take 3))
  if (← peek? g.receiver).isSome then
    match ← g.receiver with
    | .receiver form code => return .receiver form (attributes ++ code)
    | other => return other
  if hasIdent c && hasMarks "<" c.tail then
    return .typed attributes (Code.word "_") (← g (.type true))
  let pattern ← g .pattern
  let colon ← marks ":"
  if ← sees (hasMarks "...") then
    return .variadic (attributes ++ pattern ++ colon ++ (← take 3))
  return .typed attributes pattern (← g (.type true))

/-! ## Signatures -/

/-- Lexemes without a word at their start. -/
def afterWord (w : String) (c : List Lexeme) : List Lexeme :=
  if hasWord w c then c.tail else c

/-- Whether a signature is ahead, the visibility aside. -/
def startsSignature (c : List Lexeme) : Bool :=
  let c := afterWord "unsafe" (afterWord "async" (afterWord "const" c))
  let c := if hasWord "extern" c && hasText c.tail then c.drop 2 else afterWord "extern" c
  hasWord "fn" c

/-- Reads a signature after what says who sees it. -/
def signature (visibility : Code) : CodeReader SignatureSyntax := do
  let constant ← word? "const"
  let async ← word? "async"
  let isUnchecked ← word? "unsafe"
  let convention ← convention
  let _ ← word "fn"
  let ident ← ident
  let params ← g.params
  let inputs ← within .paren (separated List.isEmpty g.input)
  let result? ←
    if ← sees (hasMarks "->") then do
      let _ ← take 2
      pure (some (← g (.type true)))
    else pure none
  return {
    qualifiers := visibility ++ constant ++ async ++ isUnchecked ++ convention
    ident, params, inputs := inputs.map Prod.fst, result?
    conditions := ← g.conditions }

end Grammar

end EngineBindings
