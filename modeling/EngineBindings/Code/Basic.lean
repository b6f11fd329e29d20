import EngineBindings.Text.Pieces

/-!
# Generated code

Code of the host language as trees of tokens, and its text.  Spacing is no part of code: the text
has one space between neighbouring words and none elsewhere, and no comma before a closing
delimiter.
-/

namespace EngineBindings

/-- A pair of delimiters. -/
inductive Delimiter where
  | paren
  | bracket
  | brace
  deriving DecidableEq, Inhabited

namespace Delimiter

/-- The opening delimiter. -/
def opening : Delimiter → Char
  | paren => '('
  | bracket => '['
  | brace => '\x7b'

/-- The closing delimiter. -/
def closing : Delimiter → Char
  | paren => ')'
  | bracket => ']'
  | brace => '\x7d'

end Delimiter

/-- How the body of an arm is written. -/
inductive ArmForm where
  /-- As it is. -/
  | bare
  /-- As the only expression of a block. -/
  | braced
  /-- As the inside of a block that is more than one expression. -/
  | block
  deriving DecidableEq, Inhabited

/-- A token, a group of tokens between delimiters, or an arm of a match. -/
inductive Token where
  /-- An identifier, a keyword, a lifetime, or a literal as it is spelled. -/
  | word (spelling : String)
  /-- A character of punctuation. -/
  | mark (c : Char)
  /-- A string literal with its text, and with its spelling if it was read. -/
  | text (content : String) (spelling? : Option String)
  | group (delimiter : Delimiter) (inner : List Token)
  /-- An arm of a match; a comma may follow it. -/
  | arm (pattern : List Token) (form : ArmForm) (body : List Token) (hasComma : Bool)
  deriving Inhabited, BEq

/-- A sequence of tokens. -/
abbrev Code := List Token

namespace Code

/-- A single word. -/
def word (spelling : String) : Code :=
  [.word spelling]

/-- A string literal. -/
def text (content : String) : Code :=
  [.text content none]

/-- Code in parentheses. -/
def paren (inner : Code) : Code :=
  [.group .paren inner]

/-- Code in brackets. -/
def bracket (inner : Code) : Code :=
  [.group .bracket inner]

/-- Code in braces. -/
def brace (inner : Code) : Code :=
  [.group .brace inner]

/-- An arm of a match. -/
def arm (pattern body : Code) : Code :=
  [.arm pattern .bare body true]

/-- An arm of a match with an expression in a block. -/
def armBraced (pattern body : Code) : Code :=
  [.arm pattern .braced body false]

/-- An arm of a match with a block of statements. -/
def armBlock (pattern statements : Code) : Code :=
  [.arm pattern .block statements false]

/-- Pieces of code with a comma between neighbours. -/
def commas : List Code → Code
  | [] => []
  | [c] => c
  | c :: rest => c ++ .mark ',' :: commas rest

/-- Pieces of code one after another. -/
def concat (pieces : List Code) : Code :=
  pieces.flatten

/-! ## Text -/

/-- A token of a text without groups. -/
inductive Atom where
  | word (spelling : String)
  | mark (c : Char)
  | text (content : String) (spelling? : Option String)

/-- How arms are written. -/
inductive Style where
  /-- As they stand. -/
  | fragment
  /-- As in a whole file: a body that is a block around a single expression is that expression, a
  comma separates arms unless the first of two ends in a block, and none follows the last. -/
  | file
  deriving DecidableEq, Inhabited

/-- Whether code is one block. -/
def isBlock : Code → Bool
  | [.group .brace _] => true
  | _ => false

namespace Style

/-- Whether braces stand around the body of an arm. -/
def hasBraces : Style → ArmForm → Bool
  | _, .bare => false
  | fragment, .braced => true
  | file, .braced => false
  | _, .block => true

/-- Whether a comma follows an arm, which may be the last one. -/
def hasComma (style : Style) (form : ArmForm) (body : Code) (written isLast : Bool) : Bool :=
  match style with
  | fragment => written
  | file => !isLast && !(style.hasBraces form || isBlock body)

end Style

/-- A character of a string literal. -/
def quoteChar (c : Char) : List Char :=
  if c = '"' then ['\\', '"']
  else if c = '\\' then ['\\', '\\']
  else if c = '\n' then ['\\', 'n']
  else if c = '\r' then ['\\', 'r']
  else if c = '\t' then ['\\', 't']
  else if c = '\x00' then ['\\', '0']
  else [c]

/-- A string literal between quotes. -/
def quote (content : String) : String :=
  String.ofList ('"' :: content.toList.flatMap quoteChar ++ ['"'])

mutual

/-- The atoms of a token, with the ones that follow it; the token may be the last one. -/
def atomsOfToken (style : Style) (isLast : Bool) : Token → List Atom → List Atom
  | .word spelling, after => .word spelling :: after
  | .mark c, after => .mark c :: after
  | .text content spelling?, after => .text content spelling? :: after
  | .group delimiter inner, after =>
    .mark delimiter.opening :: atomsBefore style inner (.mark delimiter.closing :: after)
  | .arm pattern form body written, after =>
    let after := if style.hasComma form body written isLast then .mark ',' :: after else after
    let braces := style.hasBraces form
    let after := if braces then .mark '\x7d' :: after else after
    let body := atomsBefore style body after
    atomsBefore style pattern
      (.mark '=' :: .mark '>' :: if braces then .mark '\x7b' :: body else body)

/-- The atoms of a sequence of tokens, with the ones that follow it. -/
def atomsBefore (style : Style) : List Token → List Atom → List Atom
  | [], after => after
  | token :: rest, after =>
    atomsOfToken style rest.isEmpty token (atomsBefore style rest after)

end

/-- Whether a comma before a character is dropped. -/
def swallowsComma (c : Char) : Bool :=
  c == ')' || c == ']' || c == '\x7d' || c == '>'

/-- Adds a word to a text, which ends in a word or does not. -/
def addWord (done : String) (afterWord : Bool) (spelling : String) : String :=
  (if afterWord then done.push ' ' else done) ++ spelling

/-- Whether a single colon stands before a double one; nothing else has three colons in a row. -/
def startsSingleColon : List Atom → Bool
  | .mark ':' :: .mark ':' :: .mark ':' :: _ => true
  | _ => false

/-- Adds the text of atoms to a text, which ends in a word or does not.  A legible text keeps a
single colon apart from a double one that follows it. -/
def renderAtoms (isLegible : Bool) (done : String) : Bool → List Atom → String
  | _, [] => done
  | afterWord, .mark ',' :: rest =>
    match rest with
    | .mark c :: _ =>
      if swallowsComma c then renderAtoms isLegible done afterWord rest
      else renderAtoms isLegible (done.push ',') false rest
    | _ => renderAtoms isLegible (done.push ',') false rest
  | _, .mark c :: rest =>
    let done := done.push c
    let isApart := isLegible && startsSingleColon (.mark c :: rest)
    renderAtoms isLegible (if isApart then done.push ' ' else done) false rest
  | afterWord, .word spelling :: rest =>
    renderAtoms isLegible (addWord done afterWord spelling) true rest
  | afterWord, .text content _ :: rest =>
    renderAtoms isLegible (addWord done afterWord (quote content)) true rest

/-- The text of a piece of code. -/
def render (c : Code) : String :=
  renderAtoms false "" false (atomsBefore .fragment c [])

/-- The text of a whole file. -/
def renderFile (c : Code) : String :=
  renderAtoms false "" false (atomsBefore .file c [])

/-- A text from which code can be read again. -/
def renderSource (style : Style) (c : Code) : String :=
  renderAtoms true "" false (atomsBefore style c [])

/-- An atom as it is spelled. -/
def Atom.spelling : Atom → String
  | .word spelling => spelling
  | .mark c => c.toString
  | .text content spelling? => spelling?.getD (quote content)

/-- The tokens of code as they are spelled, without any space. -/
def compact (c : Code) : String :=
  String.ofList
    ((String.join ((atomsBefore .fragment c []).map Atom.spelling)).toList.filter (· != ' '))

end Code

end EngineBindings
