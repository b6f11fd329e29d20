import EngineBindings.Syntax.Reader

/-!
# Phrases of the host language

The parts of the host language that may hold one another, and what their readers give.  A `Grammar`
reads every phrase; the readers of the single phrases are written over one, and `Syntax.Text` closes
the circle.  Code that was read is the code as it is printed again: the lifetimes of a list come
before its other parts, and lists without anything in them are gone.
-/

namespace EngineBindings

/-- How a path reaches its last name. -/
inductive PathForm where
  /-- It is that name. -/
  | single
  /-- Through other names. -/
  | nested
  /-- From a type in angle brackets on. -/
  | qualified
  deriving DecidableEq, Inhabited

/-- A type, with its code. -/
inductive TypeSyntax where
  /-- A path that ends in a name, perhaps with arguments in angle brackets: the types among them,
  and the number of the other ones. -/
  | path (code : Code) (form : PathForm) (name : String) (types : List TypeSyntax) (others : Nat)
  /-- A type in parentheses. -/
  | enclosed (code : Code) (inner : TypeSyntax)
  | slice (code : Code) (element : TypeSyntax)
  | array (code : Code) (element : TypeSyntax)
  | reference (code : Code) (referent : TypeSyntax)
  | other (code : Code)
  deriving Inhabited

/-- The code of a type. -/
def TypeSyntax.code : TypeSyntax → Code
  | path code _ _ _ _ => code
  | enclosed code _ => code
  | slice code _ => code
  | array code _ => code
  | reference code _ => code
  | other code => code

/-- The forms of expressions. -/
inductive ExpressionForm where
  | array
  | assignment
  | asyncBlock
  | awaiting
  | binary
  /-- A block; it may hold a single expression and nothing else. -/
  | block (isSingle : Bool)
  | breaking
  | call
  | cast
  | closure
  | conditional
  | constBlock
  | continuing
  | field
  | forLoop
  | index
  | infer
  | letMatch
  | literal
  | loop
  /-- A call of a macro, perhaps in braces. -/
  | macroCall (inBraces : Bool)
  | matching
  | methodCall
  | paren
  | path
  | question
  | range
  | reference
  | repetition
  | returning
  | structureValue
  | tryBlock
  | tuple
  | unary
  | unsafeBlock
  | verbatim
  | whileLoop
  | yielding
  deriving DecidableEq, Inhabited

/-- An expression, with its code. -/
structure ExpressionSyntax where
  code : Code
  form : ExpressionForm
  deriving Inhabited

/-- The inside of a block. -/
structure BlockSyntax where
  code : Code
  /-- Whether it is a single expression without a semicolon. -/
  isSingle : Bool
  deriving Inhabited

/-- What may be asked of a type: a trait, or that it outlives something. -/
structure BoundSyntax where
  isTrait : Bool
  code : Code
  deriving Inhabited

/-- What may be read. -/
inductive Phrase where
  /-- A type; bounds may be added to it, or not. -/
  | type (allowsPlus : Bool)
  /-- A bound; lists of captured names and constant traits may be allowed. -/
  | bound (allowsCapture allowsConst : Bool)
  /-- An expression; braces after a path may be the fields of a structure, or not. -/
  | expression (allowsStruct : Bool)
  /-- An expression up to its first binary operator. -/
  | operand (allowsStruct : Bool)
  /-- An expression that ends after a block if it starts as one. -/
  | body
  /-- A pattern without alternatives. -/
  | pattern
  /-- The inside of a block. -/
  | statements
  | item
  deriving DecidableEq, Inhabited

/-- What the reader of a phrase gives. -/
abbrev Phrase.Result : Phrase → Type
  | type _ => TypeSyntax
  | bound _ _ => BoundSyntax
  | expression _ => ExpressionSyntax
  | operand _ => ExpressionSyntax
  | body => ExpressionSyntax
  | pattern => Code
  | statements => BlockSyntax
  | item => Code

/-- Readers of all phrases. -/
abbrev Grammar := (p : Phrase) → CodeReader p.Result

end EngineBindings
