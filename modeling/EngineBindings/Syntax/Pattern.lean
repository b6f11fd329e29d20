import EngineBindings.Syntax.Type

/-!
# Patterns

Patterns of the host language.  A pattern is one of its cases; alternatives stand between bars.
-/

namespace EngineBindings.Grammar

open CodeReader Lexeme

variable (g : Grammar)

/-- Whether a bar that separates alternatives is ahead. -/
def hasBar (c : List Lexeme) : Bool :=
  hasMarks "|" c && !hasAnyMarks ["||", "|="] c

/-- Reads alternatives; a bar may stand before the first. -/
def alternatives : CodeReader Code := do
  let lead ← marks? "|"
  let first ← g .pattern
  return lead ++ first ++ (← whileSees hasBar do
    let bar ← take 1
    return bar ++ (← g .pattern))

/-- Reads the name of a macro's call or of a path, after what comes before the mark. -/
def macroRest : CodeReader Code := do
  let mark ← take 1
  return mark ++ (← anyGroup)

/-- Whether the mark of a macro's call is ahead. -/
def hasCallMark (c : List Lexeme) : Bool :=
  hasMarks "!" c && !hasMarks "!=" c

/-- Reads a constant block. -/
def constBlock : CodeReader Code := do
  let lead ← word "const"
  return lead ++ (← g.blockCode)

/-- Reads the end of a range, if it has one. -/
def rangeBound : CodeReader Code := do
  let c ← ahead
  if c.isEmpty || hasAnyMarks ["|", "=", ",", ";"] c || (hasMarks ":" c && !hasMarks "::" c) ||
      hasWord "if" c then
    return []
  else if hasLiteral c then literal
  else if hasIdent c || hasAnyMarks ["::", "<"] c || hasAnyWord Text.pathKeywords c then
    return (← g.qualifiedPath true).code
  else if hasWord "const" c then g.constBlock
  else
    need ["literal", "identifier", "`::`", "`<`", "`self`", "`Self`", "`super`", "`crate`",
      "`const`"]

/-- Reads the limits of a range. -/
def rangeLimits : CodeReader Code := do
  let c ← ahead
  if hasMarks "..=" c then take 3
  else if hasMarks "..." c || !hasMarks ".." c then need ["`..`", "`..=`"]
  else take 2

/-- Reads the rest of a range after its start. -/
def rangeRest : CodeReader Code := do
  let isClosed ← sees (hasMarks "..=")
  let limits ← rangeLimits
  let stop ← g.rangeBound
  if isClosed && stop.isEmpty then throw (.misplaced "expected range upper bound")
  return limits ++ stop

/-- Reads a name of a field or the number of one: whether it is a name, and its code. -/
def fieldName : CodeReader (Bool × Code) := do
  let c ← ahead
  match c with
  | .literal _ :: _ => return (false, ← take 1)
  | _ =>
    if hasIdent c then return (true, ← take 1) else need ["identifier", "integer literal"]

/-- Reads the pattern of a field. -/
def fieldPattern : CodeReader Code := do
  let attributes ← outer
  if ← sees (hasMarks "..") then return attributes ++ (← take 2)
  let boxed ← word? "box"
  let byRef ← word? "ref"
  let isMutable ← word? "mut"
  let lead := boxed ++ byRef ++ isMutable
  let (isNamed, field) ← fieldName
  if (lead.isEmpty && (← sees (hasMarks ":"))) || !isNamed then
    let colon ← marks ":"
    return attributes ++ lead ++ field ++ colon ++ (← g.alternatives)
  return attributes ++ lead ++ field

/-- Reads a pattern that starts with a path. -/
def pathPattern : CodeReader Code := do
  let path ← g.qualifiedPath true
  let c ← ahead
  if path.form ≠ .qualified && path.isPlain && hasCallMark c then
    return path.code ++ (← macroRest)
  else if hasGroup .brace c then
    return path.code ++ Code.brace (← within .brace (commaList g.fieldPattern))
  else if hasGroup .paren c then
    return path.code ++ Code.paren (← within .paren (commaList g.alternatives))
  else if hasMarks ".." c then return path.code ++ (← g.rangeRest)
  else return path.code

/-- Whether a path that is more than a name is ahead. -/
def startsPathPattern (c : List Lexeme) : Bool :=
  (hasIdent c &&
    (hasAnyMarks ["::", "!", ".."] c.tail || hasGroup .brace c.tail || hasGroup .paren c.tail)) ||
    (hasWord "self" c && hasMarks "::" c.tail) || hasAnyMarks ["::", "<"] c ||
    hasAnyWord ["Self", "super", "crate"] c

/-- Reads a name that a value gets. -/
def bindingPattern : CodeReader Code := do
  let byRef ← word? "ref"
  let isMutable ← word? "mut"
  let name ← if ← sees (hasWord "self") then name else ident
  let mark ← marks? "@"
  let pattern ← if mark.isEmpty then pure [] else g .pattern
  return byRef ++ isMutable ++ Code.word name ++ mark ++ pattern

/-- Reads a pattern without alternatives. -/
def singlePattern : CodeReader Code := do
  let c ← ahead
  if startsPathPattern c then g.pathPattern
  else if hasWord "_" c then take 1
  else if hasWord "box" c then
    let lead ← take 1
    return lead ++ (← g .pattern)
  else if hasMarks "-" c || hasLiteral c then
    let start ← if hasLiteral c then literal else do
      let sign ← take 1
      pure (sign ++ (← literal))
    if ← sees (hasMarks "..") then return start ++ (← g.rangeRest) else return start
  else if hasWord "const" c then
    let start ← g.constBlock
    if ← sees (hasMarks "..") then return start ++ (← g.rangeRest) else return start
  else if hasAnyWord ["ref", "mut", "self"] c || hasIdent c then g.bindingPattern
  else if hasMarks "&" c then
    let mark ← take 1
    let isMutable ← word? "mut"
    return mark ++ isMutable ++ (← g .pattern)
  else if hasGroup .paren c then
    return Code.paren (← within .paren (commaList g.alternatives))
  else if hasGroup .bracket c then
    return Code.bracket (← within .bracket (commaList g.alternatives))
  else if hasMarks ".." c && !hasMarks "..." c then g.rangeRest
  else
    need ["identifier", "`::`", "`<`", "`_`", "literal", "`const`", "`ref`", "`mut`", "`&`",
      "parentheses", "square brackets", "`..`"]

end EngineBindings.Grammar
