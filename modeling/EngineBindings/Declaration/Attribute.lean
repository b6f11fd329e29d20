import EngineBindings.Declaration.Error
import EngineBindings.Syntax.Text

/-!
# Attributes of declarations

An attribute holds keys with values.  Every key has its kind of value and stands once; what is wrong
with the values is reported in their order, and what is missing after it.
-/

namespace EngineBindings

/-- The value of a key. -/
inductive AttributeValue where
  | text (content : String)
  /-- An expression that is neither a text nor a number nor a truth value. -/
  | expression (e : ExpressionSyntax)
  | integer (value : Int)
  | truth (value : Bool)
  | decimal (isNegative : Bool)
  /-- An expression that is no literal: a negative number that something follows. -/
  | negation
  /-- A key alone. -/
  | word
  deriving Inhabited

/-- A key with its value. -/
structure AttributeItem where
  key : String
  value : AttributeValue
  deriving Inhabited

/-- An attribute, which stands alone or holds items. -/
structure Attribute where
  name : String
  content? : Option (List AttributeItem)
  deriving Inhabited

/-- How the value of a key is read. -/
abbrev ValueReader (α : Type) := AttributeValue → Except DeclarationError α

namespace AttributeValue

/-- The value that an expression is. -/
def ofExpression (e : ExpressionSyntax) : AttributeValue :=
  match e.form, e.code with
  | .literal, [.text content _] => text content
  | .literal, [.word "true"] => truth true
  | .literal, [.word "false"] => truth false
  | _, _ => expression e

/-- The kind of a literal other than a text or a truth value, by its first characters. -/
def literalKind : List Char → String
  | '\'' :: _ => "char"
  | 'b' :: '\'' :: _ => "byte"
  | 'b' :: _ => "byte string"
  | 'c' :: _ => "unknown"
  | cs => if (Lexeme.afterDecimal? cs).isSome then "float" else "int"

/-- The kind of an expression. -/
def expressionKind (e : ExpressionSyntax) : String :=
  match e.form with
  | .array => "array"
  | .assignment => "assign"
  | .asyncBlock => "async"
  | .awaiting => "await"
  | .binary => "binary"
  | .block _ => "block"
  | .breaking => "break"
  | .call => "call"
  | .cast => "cast"
  | .closure => "closure"
  | .conditional => "if"
  | .constBlock => "const"
  | .continuing => "continue"
  | .field => "field"
  | .forLoop => "for_loop"
  | .index => "index"
  | .infer => "infer"
  | .letMatch => "let"
  | .literal => literalKind (Code.compact e.code).toList
  | .loop => "loop"
  | .macroCall _ => "macro"
  | .matching => "match"
  | .methodCall => "method_call"
  | .paren => "paren"
  | .path => "path"
  | .question => "try"
  | .range => "range"
  | .reference => "reference"
  | .repetition => "repeat"
  | .returning => "return"
  | .structureValue => "struct"
  | .tryBlock => "try_block"
  | .tuple => "tuple"
  | .unary => "unary"
  | .unsafeBlock => "unsafe"
  | .verbatim => "verbatim"
  | .whileLoop => "while"
  | .yielding => "yield"

/-- What is said of a value of the wrong kind. -/
def refuse : AttributeValue → DeclarationError
  | text _ => .unexpectedKind "string"
  | expression e => .unexpectedKind (expressionKind e)
  | integer _ => .unexpectedKind "int"
  | truth _ => .unexpectedKind "bool"
  | decimal _ => .unexpectedKind "float"
  | negation => .unexpectedKind "unary"
  | word => .wordAlone

/-- A text. -/
def readText : ValueReader String
  | text content => .ok content
  | v => .error v.refuse

/-- A path, bare or in a text. -/
def readPath : ValueReader Code
  | text content =>
    match PathSyntax.ofText? content with
    | some path => .ok path.code
    | none => .error (.unknownValue content)
  | v@(expression e) => if e.form = .path then .ok e.code else .error v.refuse
  | v => .error v.refuse

/-- A truth value; a key alone is true. -/
def readTruth : ValueReader Bool
  | truth value => .ok value
  | word => .ok true
  | text "true" => .ok true
  | text "false" => .ok false
  | text content => .error (.unknownValue content)
  | v => .error v.refuse

/-- The number that the digits of a text give, if it has 32 bits. -/
def natural32? (digits : List Char) : Option Nat :=
  if digits.isEmpty || !digits.all Char.isDigit then none
  else
    let n := digits.foldl (fun n c => n * 10 + (c.toNat - '0'.toNat)) 0
    if n < Nat.pow 2 32 then some n else none

/-- A number of 32 bits, bare or in a text. -/
def readNatural : ValueReader Nat
  | integer value =>
    if value < 0 then .error .invalidDigit
    else if value < Nat.pow 2 32 then .ok value.toNat
    else .error .numberTooLarge
  | text content =>
    let digits := match content.toList with
      | '+' :: rest => rest
      | cs => cs
    match natural32? digits with
    | some n => .ok n
    | none => .error (.unknownValue content)
  | v => .error v.refuse

end AttributeValue

namespace AttributeItem

/-- The items with each negative number that something follows as what it is there. -/
def settle : List AttributeItem → List AttributeItem
  | [] => []
  | [item] => [item]
  | item :: rest =>
    (match item.value with
      | .integer n => if n < 0 then { item with value := .negation } else item
      | .decimal true => { item with value := .negation }
      | _ => item) :: settle rest

/-- The keys of an attribute, each with the check of its value. -/
abbrev Keys := List (String × (AttributeValue → Option DeclarationError))

/-- A key whose value has to be readable. -/
def keyed {α : Type} (name : String) (read : ValueReader α) :
    String × (AttributeValue → Option DeclarationError) :=
  (name, fun v =>
    match read v with
    | .ok _ => none
    | .error e => some e)

/-- What is wrong with items, when some keys have been seen. -/
def errorsFrom (keys : Keys) : List String → List AttributeItem → List DeclarationError
  | _, [] => []
  | seen, item :: rest =>
    match keys.lookup item.key with
    | none => .unknownKey item.key (keys.map Prod.fst) :: errorsFrom keys seen rest
    | some check =>
      if seen.contains item.key then .repeatedKey item.key :: errorsFrom keys seen rest
      else (check item.value).toList ++ errorsFrom keys (item.key :: seen) rest

/-- What is wrong with items. -/
def errors (keys : Keys) (items : List AttributeItem) : List DeclarationError :=
  errorsFrom keys [] items

/-- The value of a key. -/
def value? {α : Type} (name : String) (read : ValueReader α) (items : List AttributeItem) :
    Option α :=
  (items.find? (·.key == name)).bind fun item => (read item.value).toOption

/-- What is said if a key does not stand among items. -/
def required (name : String) (items : List AttributeItem) : List DeclarationError :=
  if items.any (·.key == name) then [] else [.missingKey name]

end AttributeItem

namespace Attribute

/-- The items of an attribute; one that stands alone has none. -/
def items (a : Attribute) : List AttributeItem :=
  AttributeItem.settle (a.content?.getD [])

/-- The items of all attributes of a name. -/
def itemsOf (name : String) (attributes : List Attribute) : List AttributeItem :=
  (attributes.filter (·.name == name)).flatMap items

end Attribute

end EngineBindings
