import EngineBindings.Syntax.Params

/-!
# Types and bounds

Types of the host language, and what may be asked of a type.
-/

namespace EngineBindings.Grammar

open CodeReader Lexeme

variable (g : Grammar)

/-! ## Bounds -/

/-- Whether a binder of lifetimes is ahead. -/
def hasBinder (c : List Lexeme) : Bool :=
  hasWord "for" c

/-- Reads what a function gives back. -/
def result (allowsPlus : Bool) : CodeReader Code := do
  if ← sees (hasMarks "->") then
    let arrow ← take 2
    return arrow ++ (← g (.type allowsPlus)).code
  else return []

/-- Whether arguments in parentheses are ahead. -/
def hasInputs (c : List Lexeme) : Bool :=
  hasGroup .paren c || (hasMarks "::" c && hasGroup .paren (c.drop 2))

/-- Reads arguments in parentheses and what comes of them. -/
def inputs : CodeReader Code := do
  let _ ← marks? "::"
  let inside ← within .paren (commaList do pure (← g (.type true)).code)
  return Code.paren inside ++ (← g.result false)

/-- The code of a path that arguments in parentheses follow; they take the place of empty angle
brackets. -/
def withInputs (p : PathSyntax) : CodeReader (Option Code) := do
  if (p.last.arguments?.map PathArguments.isEmpty).getD true && (← sees hasInputs) then
    return some (p.lead ++ Code.word p.last.name ++ (← g.inputs))
  else return none

/-- Reads a binder of lifetimes. -/
def binder : CodeReader Code := do
  let lead ← word "for"
  let start ← marks "<"
  let params ← separated (hasMarks ">") g.param
  return lead ++ start ++ withCommas ListedCode.code params ++ (← marks ">")

/-- Reads a binder of lifetimes if one is ahead. -/
def binder? : CodeReader Code := do
  if ← sees hasBinder then g.binder else return []

/-- Reads a bound that is a trait. -/
def trait (allowsConst : Bool) : CodeReader Code := do
  let binder ← g.binder?
  let c ← ahead
  let isConst := hasGroup .bracket c || hasWord "const" c
  let constant ←
    if hasGroup .bracket c then do
      pure (Code.bracket (← within .bracket (word "const")))
    else word? "const"
  if isConst && !allowsConst then
    throw (.misplaced ((if hasGroup .bracket c then "`[const]`" else "`const`") ++
      " is not allowed here"))
  let modifier ← marks? "?"
  let late ← if binder.isEmpty && !modifier.isEmpty then g.binder? else pure []
  let path ← g.path false
  let path := (← g.withInputs path).getD path.code
  if isConst then return binder ++ constant ++ modifier ++ late ++ path
  else return modifier ++ binder ++ late ++ path

/-- The list of what a type captures. -/
def captures : CodeReader Code := do
  let lead ← word "use"
  let start ← marks "<"
  let items ← separated (hasMarks ">") do
    let c ← ahead
    if hasLifetime c || hasIdent c || hasWord "Self" c then take 1
    else need ["lifetime", "identifier", "`Self`"]
  return lead ++ start ++ withCommas id items ++ (← marks ">")

/-- Reads a bound. -/
def boundWith (allowsCapture allowsConst : Bool) : CodeReader BoundSyntax := do
  let c ← ahead
  if hasLifetime c then return ⟨false, ← lifetime⟩
  if hasWord "use" c then
    let list ← captures
    if allowsCapture then return ⟨false, list⟩
    else throw (.misplaced "`use<...>` precise capturing syntax is not allowed here")
  if hasGroup .paren c then
    return ⟨true, Code.paren (← within .paren (g.trait allowsConst))⟩
  return ⟨true, ← g.trait allowsConst⟩

/-- Reads a path that may start at a qualified type. -/
def qualifiedPath (inExpression : Bool) : CodeReader PathSyntax := do
  if ← sees (hasMarks "<") then
    let start ← take 1
    let type ← g (.type true)
    let trait ← if ← sees (hasWord "as") then do
        let lead ← take 1
        pure (lead ++ (← g.path false).code)
      else pure []
    let stop ← marks ">"
    let colons ← marks "::"
    let first ← g.segment inExpression
    let more ← g.moreSegments inExpression (fun _ => true)
    return .ofSegments .qualified (start ++ type.code ++ trait ++ stop ++ colons) first more
  else g.path inExpression

/-! ## Types -/

/-- Whether a bound may follow a plus sign. -/
def startsBound (c : List Lexeme) : Bool :=
  hasName c || hasAnyMarks ["::", "?"] c || hasLifetime c || hasGroup .paren c ||
    hasGroup .bracket c

/-- Reads bounds, of which one has to be a trait. -/
def bounds (allowsPlus allowsCapture allowsConst : Bool) (otherwise : String) :
    CodeReader Code := do
  let first ← g (.bound allowsCapture allowsConst)
  let more ← if allowsPlus then many do
      if ← sees (hasMarks "+") then
        let plus ← take 1
        if ← sees startsBound then
          let next ← g (.bound allowsCapture allowsConst)
          return some { next with code := plus ++ next.code }
        else return some ⟨false, plus⟩
      else return none
    else pure []
  let all := first :: more
  if all.any (·.isTrait) then return all.flatMap (·.code) else throw (.misplaced otherwise)

/-- Reads bounds that make an object type. -/
def objectBounds (allowsPlus : Bool) : CodeReader Code :=
  g.bounds allowsPlus false false "at least one trait is required for an object type"

/-- Reads the bounds that follow a first one. -/
def furtherBounds : CodeReader Code :=
  whileSees (hasMarks "+") do
    let plus ← take 1
    if ← sees startsBound then return plus ++ (← g (.bound false false)).code else return plus

/-- Reads the inside of parentheses: a type, or several. -/
def parenInside : CodeReader (Option TypeSyntax × Code) := do
  let c ← ahead
  if hasLifetime c then
    let bounds ← g.objectBounds true
    return (some (.other bounds), bounds)
  let first ← g (.type true)
  if ← sees (hasMarks ",") then
    let comma ← take 1
    return (none, first.code ++ comma ++ (← commaList do pure (← g (.type true)).code))
  return (some first, first.code)

/-- Reads a type in parentheses, or several. -/
def parenType (allowsPlus : Bool) : CodeReader TypeSyntax := do
  match ← ahead with
  | .group _ [] :: _ => return .other (← take 1)
  | .group _ (.mark '?' _ :: _) :: _ =>
    let first ← g (.bound false false)
    return .other (first.code ++ (← g.furtherBounds))
  | _ =>
    let (first?, inside) ← within .paren g.parenInside
    let code := Code.paren inside
    match first? with
    | none => return .other code
    | some first =>
      if allowsPlus && (← sees (hasMarks "+")) then
        match first with
        | .path _ _ _ _ _ => return .other (code ++ (← g.furtherBounds))
        | .other _ => return .other (code ++ (← g.furtherBounds))
        | _ => return .enclosed code first
      else return .enclosed code first

/-- Reads the convention by which a function is called. -/
def convention : CodeReader Code := do
  let lead ← word? "extern"
  if !lead.isEmpty && (← sees hasText) then return lead ++ (← take 1) else return lead

/-- Reads an argument of a function type. -/
def functionInput : CodeReader Code := do
  let attributes ← outer
  let c ← ahead
  let isNamed (c : List Lexeme) := hasIdent c || hasAnyWord ["_", "self"] c
  if hasMarks "..." c then return attributes ++ (← take 3)
  if isNamed c && hasMarks ":" c.tail && hasMarks "..." (c.drop 2) then
    return attributes ++ (← take 5)
  let lead ← if hasWord "mut" c && hasWord "self" c.tail then take 1 else pure []
  let c ← ahead
  if isNamed c && hasMarks ":" c.tail && !hasMarks "::" c.tail then
    let named ← take 2
    return attributes ++ lead ++ named ++ (← g (.type true)).code
  if !lead.isEmpty then return attributes ++ lead ++ (← word "self")
  return attributes ++ (← g (.type true)).code

/-- Reads the type of a function. -/
def functionType : CodeReader Code := do
  let isUnchecked ← word? "unsafe"
  let convention ← convention
  let head ← word "fn"
  let inside ← within .paren (commaList g.functionInput)
  return isUnchecked ++ convention ++ head ++ Code.paren inside ++ (← g.result false)

/-- Reads a type that starts with a path. -/
def pathType (allowsPlus : Bool) (binder : Code) : CodeReader TypeSyntax := do
  let path ← g.qualifiedPath false
  let called? ← g.withInputs path
  let code := called?.getD path.code
  let type : TypeSyntax := match called?, path.last.arguments? with
    | some code, _ => .other code
    | none, some a => .path code path.form path.last.name a.types a.others
    | none, none => .path code path.form path.last.name [] 0
  if path.form = .qualified then return type
  if path.isPlain && called?.isNone && (← sees fun c => hasMarks "!" c && !hasMarks "!=" c) then
    let mark ← take 1
    return .other (code ++ mark ++ (← anyGroup))
  let further ← if allowsPlus then g.furtherBounds else pure []
  if binder.isEmpty && further.isEmpty then return type
  return .other (binder ++ code ++ further)

/-- Reads a type; bounds may be added to it, or not. -/
def typeWith (allowsPlus : Bool) : CodeReader TypeSyntax := do
  let isBound ← sees hasBinder
  let binder ← g.binder?
  let c ← ahead
  let roots := ["super", "self", "Self", "crate"]
  let functions := ["fn", "unsafe", "extern"]
  if isBound && !(hasIdent c || hasAnyWord (functions ++ roots) c) then
    need ["identifier", "`fn`", "`unsafe`", "`extern`", "`super`", "`self`", "`Self`", "`crate`"]
  if hasGroup .paren c then g.parenType allowsPlus
  else if hasAnyWord functions c then return .other (binder ++ (← g.functionType))
  else if hasIdent c || hasAnyWord roots c || hasAnyMarks ["::", "<"] c then
    g.pathType allowsPlus binder
  else if hasWord "dyn" c then
    let lead ← take 1
    let star ← marks? "*"
    return .other (lead ++ star ++ (← g.objectBounds allowsPlus))
  else if hasGroup .bracket c then
    let (element, length?) ← within .bracket do
      let element ← g (.type true)
      if ← sees (hasMarks ";") then
        let mark ← take 1
        return (element, some (mark ++ (← g (.expression true)).code))
      else return (element, none)
    match length? with
    | some length => return .array (Code.bracket (element.code ++ length)) element
    | none => return .slice (Code.bracket element.code) element
  else if hasMarks "*" c then
    let star ← take 1
    if !(← sees (hasAnyWord ["const", "mut"])) then need ["`const`", "`mut`"]
    let kind ← take 1
    return .other (star ++ kind ++ (← g (.type false)).code)
  else if hasMarks "&" c then
    let mark ← take 1
    let lifetime ← lifetime?
    let isMutable ← word? "mut"
    let referent ← g (.type false)
    return .reference (mark ++ lifetime ++ isMutable ++ referent.code) referent
  else if hasMarks "!" c then return .other (← take 1)
  else if hasWord "impl" c then
    let lead ← take 1
    return .other (lead ++
      (← g.bounds allowsPlus true true "at least one trait must be specified"))
  else if hasWord "_" c then return .other (← take 1)
  else if hasLifetime c then return .other (← g.objectBounds true)
  else
    need ["`for`", "parentheses", "`fn`", "`unsafe`", "`extern`", "identifier", "`::`", "`<`",
      "`dyn`", "square brackets", "`*`", "`&`", "`!`", "`impl`", "`_`", "lifetime"]

end EngineBindings.Grammar
