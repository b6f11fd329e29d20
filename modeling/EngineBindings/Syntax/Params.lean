import EngineBindings.Syntax.Path

/-!
# Parameters of declarations

The parameters in angle brackets of a declaration, and the conditions on them.
-/

namespace EngineBindings

/-- Parameters in angle brackets. -/
structure ParamsSyntax where
  code : Code
  isEmpty : Bool
  deriving Inhabited

namespace Grammar

open CodeReader Lexeme

variable (g : Grammar)

/-- What is asked of a parameter, after its name; nothing if no bounds follow the colon. -/
def asked (bounds : Code) : Code :=
  if bounds.isEmpty then [] else .mark ':' :: bounds

/-- Reads the bounds of a parameter with their colon. -/
def paramBounds (stops : List String) (bound : CodeReader Code) : CodeReader Code := do
  if ← sees (hasMarks ":") then
    let _ ← take 1
    let isDone (c : List Lexeme) := c.isEmpty || hasAnyMarks stops c
    return asked (withPluses id (← plusSeparated isDone bound))
  else return []

/-- Reads a parameter; a name that is left out may be allowed. -/
def paramWith (allowsUnnamed : Bool) : CodeReader ListedCode := do
  let attributes ← outer
  let c ← ahead
  if hasLifetime c then
    let name ← take 1
    return ⟨true, attributes ++ name ++ (← paramBounds [",", ">"] lifetime), false⟩
  else if hasIdent c then
    let name ← take 1
    let bounds ← paramBounds [",", ">", "="] g.paramBound
    let sign ← marks? "="
    let type ← if sign.isEmpty then pure [] else do pure (← g (.type true)).code
    return ⟨false, attributes ++ name ++ bounds ++ sign ++ type, false⟩
  else if hasWord "const" c then
    let lead ← take 1
    let name := Code.word (← ident)
    let colon ← marks ":"
    let type ← g (.type true)
    let sign ← marks? "="
    let value ← if sign.isEmpty then pure [] else g.constArgument
    return ⟨false, attributes ++ lead ++ name ++ colon ++ type.code ++ sign ++ value, false⟩
  else if allowsUnnamed && hasWord "_" c then return ⟨false, attributes ++ (← take 1), false⟩
  else if allowsUnnamed then need ["lifetime", "identifier", "`const`"]
  else need ["identifier", "lifetime", "`const`"]

/-- Reads a parameter of a binder. -/
def param : CodeReader ListedCode :=
  g.paramWith false

/-- Reads parameters in angle brackets if some are ahead. -/
def params : CodeReader ParamsSyntax := do
  if !(← sees (hasMarks "<")) then return ⟨[], true⟩
  let start ← take 1
  let items ← separated (hasMarks ">") (g.paramWith true)
  let stop ← marks ">"
  if items.isEmpty then return ⟨[], true⟩
  let listed := items.map fun (item, hasComma) => { item with hasComma }
  return ⟨start ++ ListedCode.ordered listed ++ stop, false⟩

end Grammar

end EngineBindings
