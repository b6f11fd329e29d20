import EngineBindings.Syntax.Grammar

/-!
# Paths and attributes

Paths of names, which may have arguments in angle brackets, and what stands before declarations.
-/

namespace EngineBindings

/-- Arguments in angle brackets: the types among them, and the number of the other ones. -/
structure PathArguments where
  code : Code
  types : List TypeSyntax
  others : Nat
  deriving Inhabited

namespace PathArguments

/-- Whether there is nothing between the angle brackets. -/
def isEmpty (a : PathArguments) : Bool :=
  a.types.isEmpty && a.others == 0

end PathArguments

/-- A name of a path, with its arguments. -/
structure PathSegment where
  name : String
  arguments? : Option PathArguments
  deriving Inhabited

namespace PathSegment

/-- The code of a name with its arguments. -/
def code (s : PathSegment) : Code :=
  Code.word s.name ++ (s.arguments?.map PathArguments.code).getD []

end PathSegment

/-- A path: what stands before its last name, and that name. -/
structure PathSyntax where
  lead : Code
  last : PathSegment
  form : PathForm
  /-- Whether no name has arguments. -/
  isPlain : Bool
  deriving Inhabited

namespace PathSyntax

/-- The code of a path. -/
def code (p : PathSyntax) : Code :=
  p.lead ++ p.last.code

/-- The path of a name and further ones, each after the code before it. -/
def ofSegments (form : PathForm) (lead : Code) (first : PathSegment) :
    List (Code × PathSegment) → PathSyntax
  | [] => ⟨lead, first, form, first.arguments?.isNone⟩
  | (colons, second) :: rest =>
    let more := ofSegments (if form = .single then .nested else form)
      (lead ++ first.code ++ colons) second rest
    { more with isPlain := more.isPlain && first.arguments?.isNone }

end PathSyntax

/-- Code in a list in which lifetimes come first. -/
structure ListedCode where
  isLifetime : Bool
  code : Code
  hasComma : Bool
  deriving Inhabited

namespace ListedCode

/-- The code of things that are no lifetimes, after something that needs a comma or does not. -/
def after (needsComma : Bool) : List ListedCode → Code
  | [] => []
  | item :: rest =>
    (if needsComma then [.mark ','] else []) ++ item.code ++
      (if item.hasComma then [.mark ','] else []) ++ after (!item.hasComma) rest

/-- The code of a list, its lifetimes first. -/
def ordered (items : List ListedCode) : Code :=
  let lifetimes := items.filter (·.isLifetime)
  (lifetimes.flatMap fun item => item.code ++ if item.hasComma then [.mark ','] else []) ++
    after ((lifetimes.getLast?.map fun item => !item.hasComma).getD false)
      (items.filter (!·.isLifetime))

end ListedCode

/-- An argument in angle brackets. -/
inductive GenericArgument where
  | lifetime (code : Code)
  | ofType (type : TypeSyntax)
  /-- A constant, or what is said of a name. -/
  | other (code : Code)
  deriving Inhabited

namespace GenericArgument

/-- The code of an argument. -/
def code : GenericArgument → Code
  | lifetime code => code
  | ofType type => type.code
  | other code => code

/-- An argument as a part of a list. -/
def listed (a : GenericArgument) (hasComma : Bool) : ListedCode :=
  ⟨match a with
    | lifetime _ => true
    | _ => false, a.code, hasComma⟩

/-- The type that an argument is. -/
def type? : GenericArgument → Option TypeSyntax
  | ofType type => some type
  | _ => none

end GenericArgument

/-- An attribute: what stands in its brackets. -/
abbrev AttributeSyntax := Code

namespace Grammar

open CodeReader Lexeme

variable (g : Grammar)

/-! ## Attributes -/

/-- The code of attributes. -/
def attributesCode (isInner : Bool) (attributes : List AttributeSyntax) : Code :=
  attributes.flatMap fun a =>
    .mark '#' :: (if isInner then [.mark '!'] else []) ++ Code.bracket a

/-- Reads what stands in the brackets of an attribute. -/
def attributeInside : CodeReader AttributeSyntax := do
  within .bracket do take (← ahead).length

/-- Reads the attributes of what follows. -/
def outerAttributes : CodeReader (List AttributeSyntax) :=
  many do
    if ← sees (hasMarks "#") then
      let _ ← take 1
      return some (← attributeInside)
    else return none

/-- Reads the attributes of what they stand in. -/
def innerAttributes : CodeReader (List AttributeSyntax) :=
  many do
    if ← sees fun c => hasMarks "#" c && hasMarks "!" c.tail then
      let _ ← take 2
      return some (← attributeInside)
    else return none

/-- Reads the attributes of what follows, as code. -/
def outer : CodeReader Code := do
  return attributesCode false (← outerAttributes)

/-- Reads the inside of braces with its attributes. -/
def blockInside : CodeReader BlockSyntax := do
  let attributes ← innerAttributes
  let block ← g .statements
  return ⟨attributesCode true attributes ++ block.code, attributes.isEmpty && block.isSingle⟩

/-- Reads a block. -/
def block : CodeReader BlockSyntax :=
  within .brace g.blockInside

/-- Reads a block as code. -/
def blockCode : CodeReader Code := do
  return Code.brace (← g.block).code

/-! ## Things between plus signs -/

/-- Reads things between plus signs, each with whether a plus sign follows it. -/
def plusSeparated {α : Type} (stops : List Lexeme → Bool) (item : CodeReader α) :
    CodeReader (List (α × Bool)) := do
  if ← sees stops then return []
  let first ← item
  let more ← many do
    if ← sees (hasMarks "+") then
      let _ ← take 1
      if ← sees stops then return some none else return some (some (← item))
    else return none
  let items := first :: more.filterMap id
  let signs := more.length
  return items.zip ((List.range items.length).map (· < signs))

/-- The code of things with the plus signs that follow them. -/
def withPluses {α : Type} (toCode : α → Code) (items : List (α × Bool)) : Code :=
  items.flatMap fun (a, hasPlus) => toCode a ++ if hasPlus then [.mark '+'] else []

/-! ## Paths -/

/-- Reads a path of names without arguments. -/
def plainPath : CodeReader Code := do
  let lead ← marks? "::"
  let isName (c : List Lexeme) := hasIdent c || hasAnyWord Text.pathKeywords c
  let names ← whileSees isName do
    return Code.word (← name) ++ (← marks? "::")
  match names.getLast? with
  | none =>
    let _ ← ident
    return []
  | some (.mark _) =>
    let isEnd ← atEnd
    throw (.misplaced
      ((if isEnd then "unexpected end of input, " else "") ++ "expected path segment after `::`"))
  | some _ => return lead ++ names

/-- Reads a constant among arguments. -/
def constArgument : CodeReader Code := do
  let c ← ahead
  if hasLiteral c then literal
  else if hasIdent c then take 1
  else if hasGroup .brace c then g.blockCode
  else throw (.misplaced (if c.isEmpty then "unexpected end of input" else "unexpected token"))

/-- Reads a bound of a parameter. -/
def paramBound : CodeReader Code := do
  return (← g (.bound false true)).code

/-- Reads an argument in angle brackets. -/
def genericArgument : CodeReader GenericArgument := do
  let c ← ahead
  if hasLifetime c && !hasMarks "+" c.tail then return .lifetime (← lifetime)
  if hasLiteral c || hasGroup .brace c then return .other (← g.constArgument)
  let type ← g (.type true)
  match type with
  | .path code .single _ _ _ =>
    if ← sees (hasMarks "=") then
      let sign ← take 1
      let c ← ahead
      let value ←
        if hasLiteral c || hasGroup .brace c then g.constArgument
        else do pure (← g (.type true)).code
      return .other (code ++ sign ++ value)
    if ← sees (hasMarks ":") then
      let colon ← take 1
      let bounds ← plusSeparated (hasAnyMarks [",", ">"]) g.paramBound
      return .other (code ++ colon ++ withPluses id bounds)
    return .ofType type
  | _ => return .ofType type

/-- Reads arguments in angle brackets. -/
def pathArguments : CodeReader PathArguments := do
  let colons ← marks? "::"
  let start ← marks "<"
  let items ← separated (hasMarks ">") g.genericArgument
  let stop ← marks ">"
  let types := items.filterMap fun (a, _) => a.type?
  let inside := ListedCode.ordered (items.map fun (a, hasComma) => a.listed hasComma)
  return ⟨colons ++ start ++ inside ++ stop, types, items.length - types.length⟩

/-- Whether angle brackets that start arguments are ahead; in an expression they need a double
colon. -/
def hasArguments (inExpression : Bool) (c : List Lexeme) : Bool :=
  (!inExpression && hasMarks "<" c && !hasAnyMarks ["<=", "<<="] c) ||
    (hasMarks "::" c && hasMarks "<" (c.drop 2))

/-- Reads a name of a path with its arguments. -/
def segment (inExpression : Bool) : CodeReader PathSegment := do
  let c ← ahead
  if hasAnyWord ["super", "self", "crate", "try"] c then return ⟨← name, none⟩
  let name ← if hasWord "Self" c then name else ident
  if ← sees (hasArguments inExpression) then return ⟨name, some (← g.pathArguments)⟩
  return ⟨name, none⟩

/-- Reads the names of a path after its first one. -/
def moreSegments (inExpression : Bool)
    (goesOn : List Lexeme → Bool) : CodeReader (List (Code × PathSegment)) :=
  many do
    if ← sees fun c => hasMarks "::" c && goesOn (c.drop 2) then
      let colons ← take 2
      return some (colons, ← g.segment inExpression)
    else return none

/-- Reads a path. -/
def path (inExpression : Bool) : CodeReader PathSyntax := do
  let lead ← marks? "::"
  let first ← g.segment inExpression
  let more ← g.moreSegments inExpression (fun c => !hasGroup .paren c)
  return .ofSegments (if lead.isEmpty then .single else .nested) lead first more

end Grammar

end EngineBindings
