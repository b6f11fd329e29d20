import EngineBindings.Syntax.Item

/-!
# Texts of the host language

Reads types, paths, blocks of methods and whole files from texts.  A grammar that reads every phrase
down to some depth is enough for a text if the depth exceeds its length a few times over.
-/

namespace EngineBindings

namespace Grammar

/-- The reader of a phrase whose parts another grammar reads. -/
def phrase (g : Grammar) : Grammar
  | .type allowsPlus => g.typeWith allowsPlus
  | .bound allowsCapture allowsConst => g.boundWith allowsCapture allowsConst
  | .expression allowsStruct => g.expressionWith allowsStruct
  | .operand allowsStruct => g.operandWith allowsStruct
  | .body => g.bodyExpression
  | .pattern => g.singlePattern
  | .statements => g.statementList
  | .item => g.itemDeclaration

/-- The grammar that reads phrases down to some depth. -/
def upTo : Nat → Grammar
  | 0, _ => CodeReader.need []
  | depth + 1, p => phrase (upTo depth) p

end Grammar

namespace Lexeme

mutual

/-- The number of lexemes that a lexeme is made of. -/
def size : Lexeme → Nat
  | group _ inner => 2 + sizes inner
  | _ => 1

/-- The number of lexemes that lexemes are made of. -/
def sizes : List Lexeme → Nat
  | [] => 0
  | lexeme :: rest => lexeme.size + sizes rest

end

/-- The grammar that is enough for some lexemes. -/
def grammar (c : List Lexeme) : Grammar :=
  .upTo (8 * (sizes c + 2))

/-- What a reader makes of lexemes. -/
def read {α : Type} (reader : Grammar → CodeReader α) (c : List Lexeme) : Except SyntaxError α :=
  CodeReader.readAll (reader (grammar c)) c

/-- What a reader makes of a text. -/
def readText? {α : Type} (reader : Grammar → CodeReader α) (s : String) : Option α := do
  (read reader (← ofText? s)).toOption

end Lexeme

/-- The type that a text is. -/
def TypeSyntax.ofText? : String → Option TypeSyntax :=
  Lexeme.readText? fun g => g (.type true)

/-- The path that a text is. -/
def PathSyntax.ofText? : String → Option PathSyntax :=
  Lexeme.readText? fun g => g.path false

/-- The expression that a text is. -/
def ExpressionSyntax.ofText? : String → Option ExpressionSyntax :=
  Lexeme.readText? fun g => g (.expression true)

/-- The block of methods that a text is. -/
def ImplSyntax.ofText? : String → Option ImplSyntax :=
  Lexeme.readText? fun g => g.implBlock []

/-- The code of a whole file; a text that is no file is its tokens. -/
def Code.ofFileText? (s : String) : Option Code := do
  let c ← Lexeme.ofText? s
  return (Lexeme.read Grammar.items c).toOption.getD (Lexeme.code c)

/-- The text of code that is to be a whole file; code that is no file stays as it stands. -/
def Code.renderAsFile (c : Code) : String :=
  let lexemes := (Lexeme.ofText? (c.renderSource .fragment)).getD []
  match Lexeme.read Grammar.items lexemes with
  | .ok _ => c.renderFile
  | .error _ => c.render

end EngineBindings
