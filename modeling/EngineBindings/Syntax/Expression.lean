import EngineBindings.Syntax.Pattern

/-!
# Expressions

Expressions of the host language.  An operand is an expression up to its first binary operator; an
expression is a row of operands, and its form is that of the operator that binds least.
-/

namespace EngineBindings.Grammar

open CodeReader Lexeme

variable (g : Grammar)

/-- Reads an expression as code; braces after a path are the fields of a structure. -/
def expressionCode : CodeReader Code := do
  return (← g (.expression true)).code

/-! ## What is ahead -/

/-- Whether an expression may start with what is ahead. -/
def startsExpression (c : List Lexeme) : Bool :=
  (hasName c && !hasWord "as" c) || hasGroup .paren c || hasGroup .bracket c ||
    hasGroup .brace c || hasLiteral c || (hasMarks "!" c && !hasMarks "!=" c) ||
    (hasMarks "-" c && !hasMarks "-=" c) || (hasMarks "*" c && !hasMarks "*=" c) ||
    (hasMarks "|" c && !hasMarks "|=" c) || (hasMarks "&" c && !hasMarks "&=" c) ||
    hasAnyMarks ["..", "::", "#"] c || (hasMarks "<" c && !hasAnyMarks ["<=", "<<="] c) ||
    hasLifetime c

/-- Whether a point of a trailing part is ahead, and no range. -/
def hasPoint (c : List Lexeme) : Bool :=
  hasMarks "." c && !hasMarks ".." c

/-- Whether the binder of a closure is ahead. -/
def hasClosureBinder (c : List Lexeme) : Bool :=
  hasWord "for" c && hasMarks "<" c.tail &&
    (hasLifetime (c.drop 2) || hasMarks ">" (c.drop 2))

/-- Whether a closure is ahead. -/
def startsClosure (c : List Lexeme) : Bool :=
  hasMarks "|" c || hasAnyWord ["move", "static"] c || hasClosureBinder c ||
    (hasWord "const" c && !hasGroup .brace c.tail) ||
    (hasWord "async" c && (hasMarks "|" c.tail || hasWord "move" c.tail))

/-- Whether an asynchronous block is ahead. -/
def startsAsyncBlock (c : List Lexeme) : Bool :=
  hasWord "async" c &&
    (hasGroup .brace c.tail || (hasWord "move" c.tail && hasGroup .brace (c.drop 2)))

/-- Whether a path is ahead that starts an expression. -/
def startsPath (c : List Lexeme) : Bool :=
  hasIdent c || hasAnyMarks ["::", "<"] c || hasAnyWord Text.pathKeywords c ||
    (hasWord "try" c && hasAnyMarks ["!", "::"] c.tail)

/-- Whether a range has no end before what is ahead. -/
def endsRange (allowsStruct : Bool) (c : List Lexeme) : Bool :=
  c.isEmpty || hasPoint c || (!allowsStruct && hasGroup .brace c) || hasWord "as" c ||
    hasAnyMarks [",", ";", "?", "=>", "=", "+", "/", "%", "^", ">", "<=", "!=", "-=", "*=", "&=",
      "|=", "<<="] c

/-! ## Parts of expressions -/

/-- Reads an expression if one is ahead. -/
def expression? (allowed : Bool) : CodeReader Code := do
  if allowed && (← sees startsExpression) then g.expressionCode else return []

/-- Reads the rest of a range after its start. -/
def openRange (allowsStruct : Bool) : CodeReader Code := do
  let isOpen ← sees fun c => !hasMarks "..=" c
  let limits ← rangeLimits
  if isOpen && (← sees (endsRange allowsStruct)) then return limits
  return limits ++ (← g (.operand allowsStruct)).code

/-- Reads the value of a field. -/
def fieldValue : CodeReader Code := do
  let attributes ← outer
  if ← sees (hasMarks "..") then
    let dots ← take 2
    if ← atEnd then return attributes ++ dots
    return attributes ++ dots ++ (← g.expressionCode)
  let (isNamed, field) ← fieldName
  if !isNamed || (← sees (hasMarks ":")) then
    let colon ← marks ":"
    return attributes ++ field ++ colon ++ (← g.expressionCode)
  return attributes ++ field

/-- Reads a path, a macro's call or the value of a structure. -/
def pathExpression (allowsStruct : Bool) : CodeReader ExpressionSyntax := do
  let path ← g.qualifiedPath true
  let c ← ahead
  if path.form ≠ .qualified && path.isPlain && hasCallMark c then
    let inBraces := hasGroup .brace c.tail
    return ⟨path.code ++ (← macroRest), .macroCall inBraces⟩
  if allowsStruct && hasGroup .brace c then
    return ⟨path.code ++ Code.brace (← within .brace (commaList g.fieldValue)), .structureValue⟩
  return ⟨path.code, .path⟩

/-- Reads an expression in parentheses, or several. -/
def parenExpression : CodeReader ExpressionSyntax :=
  within .paren do
    if ← atEnd then return ⟨Code.paren [], .tuple⟩
    let first ← g.expressionCode
    if ← atEnd then return ⟨Code.paren first, .paren⟩
    let comma ← marks ","
    return ⟨Code.paren (first ++ comma ++ (← commaList g.expressionCode)), .tuple⟩

/-- Reads a list in brackets, or a value with the number of its repetitions. -/
def bracketExpression : CodeReader ExpressionSyntax :=
  within .bracket do
    if ← atEnd then return ⟨Code.bracket [], .array⟩
    let first ← g.expressionCode
    if ← sees (hasMarks ";") then
      let mark ← take 1
      return ⟨Code.bracket (first ++ mark ++ (← g.expressionCode)), .repetition⟩
    if ← sees fun c => !c.isEmpty && !hasMarks "," c then
      throw (.misplaced "expected `,` or `;`")
    let comma ← marks? ","
    return ⟨Code.bracket (first ++ comma ++ (← commaList g.expressionCode)), .array⟩

/-- Reads an input of a closure. -/
def closureInput : CodeReader Code := do
  let attributes ← outer
  let pattern ← g .pattern
  if ← sees (hasMarks ":") then
    let colon ← take 1
    return attributes ++ pattern ++ colon ++ (← g (.type true)).code
  return attributes ++ pattern

/-- Reads a closure. -/
def closure (allowsStruct : Bool) : CodeReader Code := do
  let binder ← g.binder?
  let constant ← word? "const"
  let static ← word? "static"
  let async ← word? "async"
  let move ← word? "move"
  let start ← marks "|"
  let inputs ← separated (hasMarks "|") g.closureInput
  let stop ← marks "|"
  let lead := binder ++ constant ++ static ++ async ++ move ++ start ++ withCommas id inputs ++ stop
  if ← sees (hasMarks "->") then
    let arrow ← take 2
    let type ← g (.type true)
    return lead ++ arrow ++ type.code ++ (← g.blockCode)
  return lead ++ (← g (.expression allowsStruct)).code

/-- Reads at most some clauses of a conditional expression. -/
def clauses : Nat → CodeReader Code
  | 0 => return []
  | n + 1 => do
    let lead ← word "if"
    let condition ← g (.expression false)
    let clause := lead ++ condition.code ++ (← g.blockCode)
    if !(← sees (hasWord "else")) then return clause
    let otherwise ← take 1
    if ← sees (hasWord "if") then return clause ++ otherwise ++ (← clauses n)
    if ← sees (hasGroup .brace) then return clause ++ otherwise ++ (← g.blockCode)
    need ["`if`", "curly braces"]

/-- Reads a conditional expression. -/
def conditional : CodeReader Code := do
  g.clauses ((← ahead).length + 1)

/-- Whether an arm may do without a comma after it. -/
def endsArm : ExpressionForm → Bool
  | .conditional => true
  | .matching => true
  | .block _ => true
  | .unsafeBlock => true
  | .whileLoop => true
  | .loop => true
  | .forLoop => true
  | .tryBlock => true
  | .constBlock => true
  | _ => false

/-- The arm of a pattern with a body. -/
def armOf (pattern : Code) (body : ExpressionSyntax) (hasComma : Bool) : Token :=
  match body.form, body.code with
  | .block isSingle, [.group .brace inside] =>
    .arm pattern (if isSingle then .braced else .block) inside hasComma
  | _, code => .arm pattern .bare code hasComma

/-- Reads an arm of a match. -/
def arm : CodeReader Token := do
  let attributes ← outer
  let pattern ← g.alternatives
  let condition ← word? "if"
  let guarding ← if condition.isEmpty then pure [] else g.expressionCode
  let _ ← marks "=>"
  let body ← g .body
  let isFree := endsArm body.form || (← atEnd)
  let comma ← if isFree then marks? "," else marks ","
  return armOf (attributes ++ pattern ++ condition ++ guarding) body !comma.isEmpty

/-- Reads the arms of a match. -/
def arms : CodeReader Code := do
  let attributes ← innerAttributes
  let arms ← many do
    if ← atEnd then return none else return some (← g.arm)
  return attributesCode true attributes ++ arms

/-- Reads a match. -/
def matching : CodeReader Code := do
  let lead ← word "match"
  let head ← g (.expression false)
  return lead ++ head.code ++ Code.brace (← within .brace g.arms)

/-- Reads a loop. -/
def looping : CodeReader ExpressionSyntax := do
  let c ← ahead
  if hasWord "while" c then
    let lead ← take 1
    let condition ← g (.expression false)
    return ⟨lead ++ condition.code ++ (← g.blockCode), .whileLoop⟩
  else if hasWord "for" c then
    let lead ← take 1
    let pattern ← g.alternatives
    let mark ← word "in"
    let range ← g (.expression false)
    return ⟨lead ++ pattern ++ mark ++ range.code ++ (← g.blockCode), .forLoop⟩
  else
    let lead ← word "loop"
    return ⟨lead ++ (← g.blockCode), .loop⟩

/-- Reads a block as an expression. -/
def blockExpression : CodeReader ExpressionSyntax := do
  let block ← g.block
  return ⟨Code.brace block.code, .block block.isSingle⟩

/-- Reads a loop or a block with its label. -/
def labelled : CodeReader ExpressionSyntax := do
  let label ← lifetime
  let colon ← marks ":"
  let c ← ahead
  let e ←
    if hasAnyWord ["while", "for", "loop"] c then g.looping
    else if hasGroup .brace c then g.blockExpression
    else throw (.misplaced "expected loop or block expression")
  return { e with code := label ++ colon ++ e.code }

/-- Reads what follows `let` in a condition. -/
def letMatch : CodeReader Code := do
  let lead ← word "let"
  let pattern ← g.alternatives
  let sign ← marks "="
  return lead ++ pattern ++ sign ++ (← g (.operand false)).code

/-- Reads an expression without anything that may follow it. -/
def atom (allowsStruct : Bool) : CodeReader ExpressionSyntax := do
  let c ← ahead
  if hasLiteral c then return ⟨← literal, .literal⟩
  else if startsAsyncBlock c then
    let lead ← take 1
    let move ← word? "move"
    return ⟨lead ++ move ++ (← g.blockCode), .asyncBlock⟩
  else if hasWord "try" c && hasGroup .brace c.tail then
    let lead ← take 1
    return ⟨lead ++ (← g.blockCode), .tryBlock⟩
  else if startsClosure c then return ⟨← g.closure allowsStruct, .closure⟩
  else if startsPath c then g.pathExpression allowsStruct
  else if hasGroup .paren c then g.parenExpression
  else if hasWord "break" c then
    let lead ← take 1
    let label ← lifetime?
    let isAllowed ← sees fun c => allowsStruct || !hasGroup .brace c
    return ⟨lead ++ label ++ (← g.expression? isAllowed), .breaking⟩
  else if hasWord "continue" c then
    let lead ← take 1
    return ⟨lead ++ (← lifetime?), .continuing⟩
  else if hasWord "return" c then
    let lead ← take 1
    return ⟨lead ++ (← g.expression? true), .returning⟩
  else if hasWord "become" c then
    let start ← ahead
    let _ ← take 1
    let _ ← g.expressionCode
    return ⟨← takenSince start, .verbatim⟩
  else if hasGroup .bracket c then g.bracketExpression
  else if hasWord "let" c then return ⟨← g.letMatch, .letMatch⟩
  else if hasWord "if" c then return ⟨← g.conditional, .conditional⟩
  else if hasAnyWord ["while", "for", "loop"] c then g.looping
  else if hasWord "match" c then return ⟨← g.matching, .matching⟩
  else if hasWord "yield" c then
    let lead ← take 1
    return ⟨lead ++ (← g.expression? true), .yielding⟩
  else if hasWord "unsafe" c then
    let lead ← take 1
    return ⟨lead ++ (← g.blockCode), .unsafeBlock⟩
  else if hasWord "const" c then return ⟨← g.constBlock, .constBlock⟩
  else if hasGroup .brace c then g.blockExpression
  else if hasMarks ".." c then return ⟨← g.openRange allowsStruct, .range⟩
  else if hasWord "_" c then return ⟨← take 1, .infer⟩
  else if hasLifetime c then g.labelled
  else need ["an expression"]

/-! ## What follows an expression -/

/-- Reads what follows a point. -/
def member : CodeReader ExpressionSyntax := do
  let point ← marks "."
  if ← sees (hasWord "await") then return ⟨point ++ (← take 1), .awaiting⟩
  let (isNamed, name) ← fieldName
  let arguments ←
    if isNamed && (← sees (hasMarks "::")) then do pure (← g.pathArguments).code else pure []
  if isNamed && (!arguments.isEmpty || (← sees (hasGroup .paren))) then
    let inside ← within .paren (commaList g.expressionCode)
    return ⟨point ++ name ++ arguments ++ Code.paren inside, .methodCall⟩
  return ⟨point ++ name, .field⟩

/-- Reads what may follow an expression that is no range. -/
def trailing? : CodeReader (Option ExpressionSyntax) := do
  let c ← ahead
  if hasGroup .paren c then
    return some ⟨Code.paren (← within .paren (commaList g.expressionCode)), .call⟩
  else if hasPoint c then return some (← g.member)
  else if hasGroup .bracket c then
    return some ⟨Code.bracket (← within .bracket g.expressionCode), .index⟩
  else if hasMarks "?" c then return some ⟨← take 1, .question⟩
  else return none

/-- Reads what follows an expression up to a binary operator. -/
def withTrailing (e : ExpressionSyntax) : CodeReader ExpressionSyntax := do
  if e.form = .range then return e
  let parts ← many g.trailing?
  return ⟨e.code ++ parts.flatMap (·.code), (parts.getLast?.map (·.form)).getD e.form⟩

/-- Reads an operand. -/
def operandWith (allowsStruct : Bool) : CodeReader ExpressionSyntax := do
  let attributes ← outer
  let c ← ahead
  if hasMarks "&" c then
    let mark ← take 1
    let raw ←
      if ← sees fun c => hasWord "raw" c && hasAnyWord ["mut", "const"] c.tail then take 1
      else pure []
    let isMutable ← word? "mut"
    let constant ← if !raw.isEmpty && isMutable.isEmpty then word "const" else pure []
    let e ← g (.operand allowsStruct)
    return ⟨attributes ++ mark ++ raw ++ isMutable ++ constant ++ e.code, .reference⟩
  else if hasAnyMarks ["*", "!", "-"] c then
    let mark ← take 1
    let e ← g (.operand allowsStruct)
    return ⟨attributes ++ mark ++ e.code, .unary⟩
  else
    let e ← g.withTrailing (← g.atom allowsStruct)
    return { e with code := attributes ++ e.code }

/-! ## Operators -/

/-- The operators that change what is on their left. -/
def changingOperators : List String :=
  ["<<=", ">>=", "+=", "-=", "*=", "/=", "%=", "^=", "&=", "|="]

/-- The other operators with how tightly they bind, longer ones before their starts. -/
def binaryOperators : List (String × Nat) :=
  [("&&", 3), ("||", 2), ("<<", 5), (">>", 5), ("==", 4), ("<=", 4), ("!=", 4), (">=", 4),
    ("+", 5), ("-", 5), ("*", 5), ("/", 5), ("%", 5), ("^", 5), ("&", 5), ("|", 5), ("<", 4),
    (">", 4)]

/-- How tightly comparisons bind. -/
def comparisonRank : Nat := 4

/-- An operator and what follows it, with how tightly it binds. -/
structure OperatorPart where
  rank : Nat
  form : ExpressionForm
  code : Code
  deriving Inhabited

/-- Whether a comparison compares what another one gives, when one has been read since the last
operator that binds less or not. -/
def hasComparisonChain : Bool → List Nat → Bool
  | _, [] => false
  | isCompared, rank :: rest =>
    if rank = comparisonRank then isCompared || hasComparisonChain true rest
    else hasComparisonChain (isCompared && comparisonRank < rank) rest

/-- Reads an operator and what follows it. -/
def operator? (allowsStruct : Bool) : CodeReader (Option OperatorPart) := do
  let c ← ahead
  let withOperand (rank : Nat) (form : ExpressionForm) (s : String) :
      CodeReader (Option OperatorPart) := do
    let mark ← take s.length
    return some ⟨rank, form, mark ++ (← g (.operand allowsStruct)).code⟩
  if let some s := changingOperators.find? (fun s => hasMarks s c) then withOperand 0 .binary s
  else if let some (s, rank) := binaryOperators.find? (fun (s, _) => hasMarks s c) then
    withOperand rank .binary s
  else if hasMarks "=" c && !hasMarks "=>" c then withOperand 0 .assignment "="
  else if hasMarks ".." c then return some ⟨1, .range, ← g.openRange allowsStruct⟩
  else if hasWord "as" c then
    let lead ← take 1
    return some ⟨6, .cast, lead ++ (← g (.type false)).code⟩
  else return none

/-- Reads the operators that follow an expression. -/
def withOperators (allowsStruct : Bool) (e : ExpressionSyntax) : CodeReader ExpressionSyntax := do
  let parts ← many (g.operator? allowsStruct)
  if hasComparisonChain false (parts.map (·.rank)) then
    throw (.misplaced "comparison operators cannot be chained")
  let loosest := parts.foldl (fun (rank, form) part =>
    if part.rank < rank then (part.rank, part.form) else (rank, form)) (7, e.form)
  return ⟨e.code ++ parts.flatMap (·.code), loosest.2⟩

/-- Reads an expression. -/
def expressionWith (allowsStruct : Bool) : CodeReader ExpressionSyntax := do
  g.withOperators allowsStruct (← g (.operand allowsStruct))

/-- Whether an expression is ahead that may end after a block. -/
def startsBlockLike (c : List Lexeme) : Bool :=
  hasAnyWord ["if", "while", "loop", "match", "unsafe"] c ||
    (hasWord "for" c && !hasClosureBinder c) ||
    (hasAnyWord ["try", "const"] c && hasGroup .brace c.tail) || hasGroup .brace c || hasLifetime c

/-- Reads an expression that ends after a block if it starts as one and does not go on with a
point or a question mark. -/
def bodyExpression : CodeReader ExpressionSyntax := do
  let attributes ← outer
  if ← sees startsBlockLike then
    let e ← g.atom true
    let e := { e with code := attributes ++ e.code }
    if ← sees fun c => hasPoint c || hasMarks "?" c then
      g.withOperators true (← g.withTrailing e)
    else return e
  else
    let e ← g (.operand true)
    g.withOperators true { e with code := attributes ++ e.code }

end EngineBindings.Grammar
