import EngineBindings.Syntax.Signature

/-!
# Items and statements

The declarations of the host language, blocks of methods among them, and the statements of a block.
-/

namespace EngineBindings

/-- A method of a block, with its attributes. -/
structure MethodSyntax where
  attributes : List AttributeSyntax
  signature : SignatureSyntax
  /-- The attributes that stand in the body. -/
  innerAttributes : List AttributeSyntax
  body : Code
  deriving Inhabited

/-- An item of a block of methods. -/
inductive ImplItem where
  | method (m : MethodSyntax)
  | other (c : Code)
  deriving Inhabited

namespace MethodSyntax

/-- The code of a method. -/
def code (m : MethodSyntax) : Code :=
  Grammar.attributesCode false m.attributes ++ m.signature.code ++
    Code.brace (Grammar.attributesCode true m.innerAttributes ++ m.body)

end MethodSyntax

namespace ImplItem

/-- The code of an item. -/
def code : ImplItem → Code
  | method m => m.code
  | other c => c

end ImplItem

/-- A block of methods. -/
structure ImplSyntax where
  /-- What stands before `impl`. -/
  lead : Code
  params : ParamsSyntax
  /-- The trait whose methods these are, with what stands around it. -/
  trait? : Option Code
  type : TypeSyntax
  conditions : Code
  /-- The attributes that stand in the block. -/
  innerAttributes : List AttributeSyntax
  items : List ImplItem
  deriving Inhabited

namespace ImplSyntax

/-- The code of a block. -/
def code (b : ImplSyntax) : Code :=
  b.lead ++ Code.word "impl" ++ b.params.code ++ b.trait?.getD [] ++ b.type.code ++ b.conditions ++
    Code.brace
      (Grammar.attributesCode true b.innerAttributes ++ b.items.flatMap ImplItem.code)

end ImplSyntax

namespace Grammar

open CodeReader Lexeme

variable (g : Grammar)

/-- Reads lexemes up to a semicolon and the semicolon. -/
def throughSemicolon : CodeReader Code := do
  let lead ← take ((← ahead).takeWhile fun t => !hasMarks ";" [t]).length
  return lead ++ (← marks ";")

/-- Reads the call of a macro at the place of an item. -/
def macroItem : CodeReader Code := do
  let path ← plainPath
  let mark ← marks "!"
  let name ← if ← sees hasName then take 1 else pure []
  let isBlock ← sees (hasGroup .brace)
  let group ← anyGroup
  return path ++ mark ++ name ++ group ++ (← if isBlock then pure [] else marks ";")

/-- Reads the name of a constant, which may be left out. -/
def constantName : CodeReader Code := do
  if ← sees fun c => hasIdent c || hasWord "_" c then take 1 else need ["identifier", "`_`"]

/-- Reads a constant after what says who sees it; one that is not like others stays as it stands
since `start`. -/
def constant (start : List Lexeme) (lead : Code) : CodeReader Code := do
  let head ← word "const"
  let name ← constantName
  let params ← g.params
  let colon ← marks ":"
  let type ← g (.type true)
  let sign ← marks? "="
  let value ← if sign.isEmpty then pure [] else g.expressionCode
  let conditions ← g.conditions
  let stop ← marks ";"
  if sign.isEmpty || !params.isEmpty || !conditions.isEmpty then takenSince start
  else return lead ++ head ++ name ++ colon ++ type.code ++ sign ++ value ++ stop

/-- Reads bounds after a colon, if there is one. -/
def furtherTraits (stops : List Lexeme → Bool) : CodeReader Code := do
  if ← sees (hasMarks ":") then
    let _ ← take 1
    return asked (withPluses id (← plusSeparated stops g.paramBound))
  else return []

/-- Reads a named type after what says who sees it; one that is not like others stays as it stands
since `start`. -/
def namedType (start : List Lexeme) (lead : Code) (isOpen : Bool) : CodeReader Code := do
  let head ← word "type"
  let name := Code.word (← ident)
  let params ← g.params
  let isBounded ← sees (hasMarks ":")
  let bounds ← g.furtherTraits fun c => hasWord "where" c || hasAnyMarks ["=", ";"] c
  let early ← g.conditions
  let sign ← marks? "="
  let type ← if sign.isEmpty then pure [] else do pure (← g (.type true)).code
  let late ← g.conditions
  let stop ← marks ";"
  if !isOpen && (isBounded || sign.isEmpty) then takenSince start
  else return lead ++ head ++ name ++ params.code ++ bounds ++ early ++ sign ++ type ++ late ++ stop

/-! ## Blocks of methods -/

/-- Reads a method after its attributes, or what is no method for want of a body. -/
def method (start : List Lexeme) (attributes : List AttributeSyntax) : CodeReader ImplItem := do
  let visibility ← visibility
  let default ← word? "default"
  let signature ← g.signature (visibility ++ default)
  if ← sees (hasMarks ";") then
    let _ ← take 1
    return .other (← takenSince start)
  let (innerAttributes, body) ← within .brace do
    let innerAttributes ← innerAttributes
    return (innerAttributes, (← g .statements).code)
  return .method { attributes, signature, innerAttributes, body }

/-- Reads an item of a block of methods. -/
def implItem : CodeReader ImplItem := do
  let start ← ahead
  let attributes ← outerAttributes
  let c ← ahead
  let c := c.drop (visibilityLength c)
  let isDefault := hasWord "default" c && !hasMarks "!" c.tail
  let c := if isDefault then c.tail else c
  if startsSignature c then g.method start attributes
  else
    let lead := attributesCode false attributes
    if hasWord "const" c then
      let visibility ← visibility
      let default ← word? "default"
      return .other (← g.constant start (lead ++ visibility ++ default))
    else if hasWord "type" c then
      let visibility ← visibility
      let default ← word? "default"
      return .other (← g.namedType start (lead ++ visibility ++ default) false)
    else return .other (lead ++ (← macroItem))

/-- Whether the parameters of a block are ahead, and no qualified type. -/
def startsParams (c : List Lexeme) : Bool :=
  hasMarks "<" c &&
    (hasAnyMarks [">", "#"] c.tail || hasWord "const" c.tail ||
      ((hasLifetime c.tail || hasIdent c.tail) &&
        (hasAnyMarks [">", ",", "="] (c.drop 2) ||
          (hasMarks ":" (c.drop 2) && !hasMarks "::" (c.drop 2)))))

/-- Reads a block of methods after what stands before it. -/
def implBlock (lead : Code) : CodeReader ImplSyntax := do
  let _ ← word "impl"
  let params ← if ← sees startsParams then g.params else pure ⟨[], true⟩
  let maybe ← if ← sees fun c => hasMarks "?" c && hasWord "const" c.tail then take 1 else pure []
  let constant ← word? "const"
  let negation ←
    if ← sees fun c => hasMarks "!" c && !hasGroup .brace c.tail then take 1 else pure []
  let first ← g (.type true)
  let mark ← word? "for"
  let type ← if mark.isEmpty then pure first else g (.type true)
  let conditions ← g.conditions
  let (innerAttributes, items) ← within .brace do
    let innerAttributes ← innerAttributes
    let items ← many do
      if ← atEnd then return none else return some (← g.implItem)
    return (innerAttributes, items)
  let trait? :=
    if mark.isEmpty then none else some (maybe ++ constant ++ negation ++ first.code ++ mark)
  return { lead, params, trait?, type, conditions, innerAttributes, items }

/-! ## Structures and choices -/

/-- Reads a named field. -/
def namedField : CodeReader Code := do
  let attributes ← outer
  let visibility ← visibility
  let name ← if ← sees (hasWord "_") then name else ident
  let colon ← marks ":"
  return attributes ++ visibility ++ Code.word name ++ colon ++ (← g (.type true)).code

/-- Reads a field without a name. -/
def unnamedField : CodeReader Code := do
  let attributes ← outer
  let visibility ← visibility
  return attributes ++ visibility ++ (← g (.type true)).code

/-- Reads named fields. -/
def namedFields : CodeReader Code := do
  return Code.brace (← within .brace (commaList g.namedField))

/-- Reads fields without names. -/
def unnamedFields : CodeReader Code := do
  return Code.paren (← within .paren (commaList g.unnamedField))

/-- Reads a structure. -/
def structureDeclaration : CodeReader Code := do
  let head ← take 1
  let name := Code.word (← ident)
  let params ← g.params
  let early ← g.conditions
  let c ← ahead
  let fields ←
    if hasGroup .brace c then g.namedFields
    else if hasGroup .paren c && early.isEmpty then do
      let fields ← g.unnamedFields
      let late ← g.conditions
      pure (fields ++ late ++ (← marks ";"))
    else marks ";"
  return head ++ name ++ params.code ++ early ++ fields

/-- Reads a case of a choice. -/
def caseDeclaration : CodeReader Code := do
  let attributes ← outer
  let _ ← visibility
  let name := Code.word (← ident)
  let c ← ahead
  let fields ←
    if hasGroup .brace c then g.namedFields
    else if hasGroup .paren c then g.unnamedFields
    else pure []
  let sign ← marks? "="
  let number ← if sign.isEmpty then pure [] else g.expressionCode
  return attributes ++ name ++ fields ++ sign ++ number

/-- Reads a choice. -/
def choice : CodeReader Code := do
  let head ← take 1
  let name := Code.word (← ident)
  let params ← g.params
  let conditions ← g.conditions
  return head ++ name ++ params.code ++ conditions ++
    Code.brace (← within .brace (commaList g.caseDeclaration))

/-! ## Traits -/

/-- Reads an item of a trait. -/
def traitItem : CodeReader Code := do
  let start ← ahead
  let lead ← outer
  let c ← ahead
  let length := visibilityLength c
  let isPlain := length == 0 && !(hasWord "default" c && !hasMarks "!" c.tail)
  let c := afterWord "default" (c.drop length)
  if startsSignature c then
    let visibility ← visibility
    let default ← word? "default"
    let signature ← g.signature (visibility ++ default)
    let rest ←
      if ← sees (hasMarks ";") then take 1
      else do pure (Code.brace (← within .brace g.blockInside).code)
    if isPlain then return lead ++ signature.code ++ rest else takenSince start
  else if hasWord "const" c then
    let _ ← visibility
    let _ ← word? "default"
    let head ← word "const"
    let name ← constantName
    let params ← g.params
    let colon ← marks ":"
    let type ← g (.type true)
    let sign ← marks? "="
    let value ← if sign.isEmpty then pure [] else g.expressionCode
    let conditions ← g.conditions
    let stop ← marks ";"
    if isPlain && params.isEmpty && conditions.isEmpty then
      return lead ++ head ++ name ++ colon ++ type.code ++ sign ++ value ++ stop
    else takenSince start
  else if hasWord "type" c then
    let _ ← visibility
    let _ ← word? "default"
    let code ← g.namedType start lead true
    if isPlain then return code else takenSince start
  else return lead ++ (← macroItem)

/-- Reads a trait. -/
def traitDeclaration : CodeReader Code := do
  let isUnchecked ← word? "unsafe"
  let auto ← word? "auto"
  let head ← word "trait"
  let name := Code.word (← ident)
  let params ← g.params
  let lead := isUnchecked ++ auto ++ head ++ name ++ params.code
  if ← sees (hasMarks "=") then
    let sign ← take 1
    let stops (c : List Lexeme) := hasWord "where" c || hasMarks ";" c
    let bounds ← plusSeparated stops g.paramBound
    let conditions ← g.conditions
    return lead ++ sign ++ withPluses id bounds ++ conditions ++ (← marks ";")
  let bounds ← g.furtherTraits fun c => hasWord "where" c || hasGroup .brace c
  let conditions ← g.conditions
  let inside ← within .brace do
    let attributes ← innerAttributes
    let items ← many do
      if ← atEnd then return none else return some (← g.traitItem)
    return attributesCode true attributes ++ items.flatten
  return lead ++ bounds ++ conditions ++ Code.brace inside

/-! ## Items -/

/-- Reads a function after what says who sees it; one without a body stays as it stands since
`start`. -/
def function (start : List Lexeme) (lead visibility : Code) : CodeReader Code := do
  let signature ← g.signature visibility
  if ← sees (hasMarks ";") then
    let _ ← take 1
    takenSince start
  else return lead ++ signature.code ++ Code.brace (← within .brace g.blockInside).code

/-- Reads a static value; one that is not like others stays as it stands since `start`. -/
def static (start : List Lexeme) (lead : Code) : CodeReader Code := do
  let head ← word "static"
  let isMutable ← word? "mut"
  let name := Code.word (← ident)
  let colon ← marks? ":"
  let type ← if colon.isEmpty then pure [] else do pure (← g (.type true)).code
  let sign ← marks? "="
  let value ← if sign.isEmpty then pure [] else g.expressionCode
  let stop ← marks ";"
  if colon.isEmpty || sign.isEmpty then takenSince start
  else return lead ++ head ++ isMutable ++ name ++ colon ++ type ++ sign ++ value ++ stop

/-- Reads an item that another language declares. -/
def foreignItem : CodeReader Code := do
  let lead ← outer
  let visibility ← visibility
  let c ← ahead
  if startsSignature (afterWord "safe" c) then
    let safe ← word? "safe"
    let signature ← g.signature (visibility ++ safe)
    return lead ++ signature.code ++ (← marks ";")
  else if hasAnyWord ["static", "type", "unsafe", "safe"] c then
    return lead ++ visibility ++ (← throughSemicolon)
  else return lead ++ visibility ++ (← macroItem)

/-- Reads the declarations of another language. -/
def foreignItems : CodeReader Code := do
  let isUnchecked ← word? "unsafe"
  let convention ← convention
  let inside ← within .brace do
    let attributes ← innerAttributes
    let items ← many do
      if ← atEnd then return none else return some (← g.foreignItem)
    return attributesCode true attributes ++ items.flatten
  return isUnchecked ++ convention ++ Code.brace inside

/-- Reads the items of a module and its attributes. -/
def items : CodeReader Code := do
  let attributes ← innerAttributes
  let items ← many do
    if ← atEnd then return none else return some (← g .item)
  return attributesCode true attributes ++ items.flatten

/-- Reads a module. -/
def moduleDeclaration : CodeReader Code := do
  let isUnchecked ← word? "unsafe"
  let head ← word "mod"
  let name ← if ← sees (hasWord "try") then name else ident
  let lead := isUnchecked ++ head ++ Code.word name
  if ← sees (hasMarks ";") then return lead ++ (← take 1)
  return lead ++ Code.brace (← within .brace g.items)

/-- Reads an item. -/
def itemDeclaration : CodeReader Code := do
  let start ← ahead
  let lead ← outer
  let c ← ahead
  let c := c.drop (visibilityLength c)
  if startsSignature c then
    let visibility ← visibility
    g.function start lead visibility
  else
    let seen ← visibility
    let lead := lead ++ seen
    let afterUnchecked := afterWord "unsafe" c
    if hasWord "extern" c && hasWord "crate" c.tail then return lead ++ (← throughSemicolon)
    else if hasWord "extern" afterUnchecked then return lead ++ (← g.foreignItems)
    else if hasWord "use" c then return lead ++ (← throughSemicolon)
    else if hasWord "static" c then g.static start lead
    else if hasWord "const" c then g.constant start lead
    else if hasWord "mod" afterUnchecked then return lead ++ (← g.moduleDeclaration)
    else if hasWord "type" c then g.namedType start lead false
    else if hasWord "struct" c || (hasWord "union" c && hasIdent c.tail) then
      return lead ++ (← g.structureDeclaration)
    else if hasWord "enum" c then return lead ++ (← g.choice)
    else if hasWord "trait" (afterWord "auto" afterUnchecked) then
      return lead ++ (← g.traitDeclaration)
    else if hasWord "impl" afterUnchecked || (hasWord "default" c && !hasMarks "!" c.tail) then
      let default ← word? "default"
      let isUnchecked ← word? "unsafe"
      return (← g.implBlock (lead ++ default ++ isUnchecked)).code
    else if hasWord "macro" c then
      let head ← take 1
      let name := Code.word (← ident)
      let inputs ← if ← sees (hasGroup .paren) then take 1 else pure []
      if !(← sees (hasGroup .brace)) then need ["curly braces"]
      return lead ++ head ++ name ++ inputs ++ (← take 1)
    else return lead ++ (← macroItem)

/-! ## Statements -/

/-- Reads a declaration of local names. -/
def localNames : CodeReader Code := do
  let lead ← word "let"
  let pattern ← g .pattern
  let colon ← marks? ":"
  let type ← if colon.isEmpty then pure [] else do pure (← g (.type true)).code
  let sign ← marks? "="
  let value ← if sign.isEmpty then pure [] else g.expressionCode
  let otherwise ← if sign.isEmpty then pure [] else word? "else"
  let block ← if otherwise.isEmpty then pure [] else g.blockCode
  return lead ++ pattern ++ colon ++ type ++ sign ++ value ++ otherwise ++ block ++ (← marks ";")

/-- Whether the call of a macro is ahead that is an item. -/
def startsMacroItem (c : List Lexeme) : Bool :=
  hasMarks "!" c && (hasIdent c.tail || hasWord "try" c.tail)

/-- Whether the call of a macro in braces is ahead that is a statement. -/
def startsMacroStatement (c : List Lexeme) : Bool :=
  hasMarks "!" c && hasGroup .brace c.tail && !hasPoint (c.drop 2) && !hasMarks "?" (c.drop 2)

/-- Whether an item is ahead. -/
def startsItem (c : List Lexeme) : Bool :=
  let second := c.tail
  let third := c.drop 2
  hasAnyWord ["pub", "extern", "use", "fn", "mod", "type", "struct", "enum", "trait", "impl",
    "macro"] c ||
    (hasWord "crate" c && !hasMarks "::" second) ||
    (hasWord "static" c &&
      (hasWord "mut" second ||
        (hasIdent second &&
          !(hasWord "async" second && (hasWord "move" third || hasMarks "|" third))))) ||
    (hasWord "const" c &&
      !(hasGroup .brace second || hasAnyWord ["static", "move"] second || hasMarks "|" second ||
        (hasWord "async" second && !hasAnyWord ["unsafe", "extern", "fn"] third))) ||
    (hasWord "unsafe" c && !hasGroup .brace second) ||
    (hasWord "async" c && hasAnyWord ["unsafe", "extern", "fn"] second) ||
    (hasWord "union" c && hasIdent second) || (hasWord "auto" c && hasWord "trait" second) ||
    (hasWord "default" c && hasAnyWord ["unsafe", "impl"] second)

/-- A statement, with whether it is an expression without a semicolon, and whether another
statement may follow it at once. -/
structure StatementSyntax where
  code : Code
  isExpression : Bool
  isComplete : Bool
  deriving Inhabited

/-- Reads the call of a macro in braces as a statement. -/
def macroStatement : CodeReader StatementSyntax := do
  let attributes ← outer
  let path ← plainPath
  let call ← macroRest
  return ⟨attributes ++ path ++ call ++ (← marks? ";"), false, true⟩

/-- Whether another statement may follow an expression without a semicolon. -/
def endsStatement : ExpressionForm → Bool
  | .macroCall inBraces => inBraces
  | form => endsArm form

/-- Reads an expression as a statement. -/
def expressionStatement : CodeReader StatementSyntax := do
  let e ← g .body
  let stop ← marks? ";"
  let isCall := match e.form with
    | .macroCall inBraces => inBraces
    | _ => false
  return ⟨e.code ++ stop, stop.isEmpty && !isCall, !stop.isEmpty || endsStatement e.form⟩

/-- Reads a statement. -/
def statement : CodeReader StatementSyntax := do
  if ← sees (hasMarks ";") then return ⟨← take 1, false, true⟩
  let c := (← peek? do let _ ← outerAttributes; ahead).getD []
  let afterPath := (← peek? do let _ ← outerAttributes; let _ ← plainPath; ahead).getD []
  if startsMacroStatement afterPath then macroStatement
  else if hasWord "let" c then
    let attributes ← outer
    return ⟨attributes ++ (← g.localNames), false, true⟩
  else if startsItem c || startsMacroItem afterPath then return ⟨← g .item, false, true⟩
  else g.expressionStatement

/-- Reads the inside of a block. -/
def statementList : CodeReader BlockSyntax := do
  let statements ← many do
    if ← atEnd then return none
    let s ← g.statement
    if !s.isComplete && !(← atEnd) then throw (.misplaced "unexpected token, expected `;`")
    return some s
  let isSingle := match statements with
    | [s] => s.isExpression
    | _ => false
  return ⟨statements.flatMap (·.code), isSingle⟩

end Grammar

end EngineBindings
