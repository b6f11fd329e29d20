import EngineBindings.Code.Basic
import EngineBindings.Text.Blank
import EngineBindings.Text.Identifier

/-!
# Reading code

The lexemes of a text, and the code they make.  Comments vanish, except that those written as
documentation become `doc` attributes.  Literals keep their spelling, and string literals have their
text beside it.  `Code.fixed` is for texts that the library itself holds.
-/

namespace EngineBindings

/-- A token as it stands in a text, or a group of them between delimiters. -/
inductive Lexeme where
  /-- An identifier or a keyword. -/
  | ident (name : String)
  /-- A lifetime with its quote. -/
  | lifetime (name : String)
  /-- A literal other than a string. -/
  | literal (spelling : String)
  /-- A string literal with its text. -/
  | text (content spelling : String)
  /-- A character of punctuation; one is joint if another follows it at once. -/
  | mark (c : Char) (isJoint : Bool)
  | group (delimiter : Delimiter) (inner : List Lexeme)
  deriving Inhabited

namespace Lexeme

mutual

/-- The token that a lexeme is in code. -/
def token : Lexeme → Token
  | ident name => .word name
  | lifetime name => .word name
  | literal spelling => .word spelling
  | text content spelling => .text content (some spelling)
  | mark c _ => .mark c
  | group delimiter inner => .group delimiter (code inner)

/-- The code that lexemes make. -/
def code : List Lexeme → Code
  | [] => []
  | lexeme :: rest => lexeme.token :: code rest

end

/-! ## Blanks and comments -/

/-- The text after the end of a comment in which others may be nested, and the comment. -/
def blockComment? : Nat → Nat → List Char → List Char → Option (List Char × List Char)
  | 0, _, _, _ => none
  | fuel + 1, depth, done, '/' :: '*' :: rest =>
    blockComment? fuel (depth + 1) ('*' :: '/' :: done) rest
  | fuel + 1, depth, done, '*' :: '/' :: rest =>
    match depth with
    | 0 => some (done.reverse, rest)
    | depth + 1 => blockComment? fuel depth ('/' :: '*' :: done) rest
  | fuel + 1, depth, done, c :: rest => blockComment? fuel depth (c :: done) rest
  | _ + 1, _, _, [] => none

/-- The attribute that stands for a comment. -/
def docAttribute (isInner : Bool) (content : List Char) : List Lexeme :=
  let doc := String.ofList content
  mark '#' false :: (if isInner then [mark '!' false] else []) ++
    [group .bracket [ident "doc", mark '=' false, text doc (Code.quote doc)]]

/-- Whether every carriage return belongs to the end of a line. -/
def hasNoBareReturn : List Char → Bool
  | '\r' :: '\n' :: rest => hasNoBareReturn rest
  | '\r' :: _ => false
  | _ :: rest => hasNoBareReturn rest
  | [] => true

/-- The attribute that stands for a comment without a bare carriage return. -/
def docComment? (isInner : Bool) (content after : List Char) :
    Option (List Lexeme × List Char) :=
  if hasNoBareReturn content then some (docAttribute isInner content, after) else none

/-- A line without its ending, and what follows it. -/
def line (cs : List Char) : List Char × List Char :=
  let content := cs.takeWhile (· != '\n')
  (match content.reverse with
    | '\r' :: before => if content.length < cs.length then before.reverse else content
    | _ => content, cs.drop content.length)

/-- A comment at the start of a text: the lexemes it stands for and what follows it. -/
def comment? (cs : List Char) : Option (List Lexeme × List Char) :=
  match cs with
  | '/' :: '/' :: rest =>
    let (content, after) := line rest
    match content with
    | '/' :: '/' :: _ => some ([], after)
    | '/' :: doc => docComment? false doc after
    | '!' :: doc => docComment? true doc after
    | _ => some ([], after)
  | '/' :: '*' :: rest => do
    let (content, after) ← blockComment? (rest.length + 1) 0 [] rest
    match rest with
    | '*' :: '*' :: _ => some ([], after)
    | '*' :: '/' :: _ => some ([], after)
    | '*' :: _ => docComment? false content.tail after
    | '!' :: _ => docComment? true content.tail after
    | _ => some ([], after)
  | _ => none

/-- Whether a character only separates lexemes; two marks of direction do. -/
def isSpace (c : Char) : Bool :=
  Text.isBlank c || c == '\u200e' || c == '\u200f'

/-! ## Escapes -/

/-- The value of a hexadecimal digit. -/
def hexDigit? (c : Char) : Option Nat :=
  if c.isDigit then some (c.toNat - '0'.toNat)
  else if 'a' ≤ c ∧ c ≤ 'f' then some (c.toNat - 'a'.toNat + 10)
  else if 'A' ≤ c ∧ c ≤ 'F' then some (c.toNat - 'A'.toNat + 10)
  else none

/-- The character with a number. -/
def charOfNumber? (n : Nat) : Option Char :=
  if n < 0xD800 || (0xE000 ≤ n && n < 0x110000) then some (Char.ofNat n) else none

/-- The character named by up to six hexadecimal digits, which underscores may follow. -/
def charOfDigits? (cs : List Char) : Option Char := do
  let digits := cs.filter (· != '_')
  guard (cs.head? != some '_' && 0 < digits.length && digits.length ≤ 6)
  charOfNumber? (← digits.foldlM (fun n c => (hexDigit? c).map (n * 16 + ·)) 0)

/-- What may stand in a literal. -/
inductive Alphabet where
  /-- Any characters. -/
  | text
  /-- The characters of one byte. -/
  | bytes
  /-- Any characters but the one with the number zero. -/
  | terminated
  deriving DecidableEq, Inhabited

/-- Whether a character may be escaped by its number of two digits. -/
def Alphabet.hasEscape : Alphabet → Nat → Bool
  | text, n => n < 128
  | bytes, _ => true
  | terminated, n => n != 0

/-- An escaped character after the backslash. -/
def escape? (alphabet : Alphabet) : List Char → Option (Char × List Char)
  | 'n' :: rest => some ('\n', rest)
  | 'r' :: rest => some ('\r', rest)
  | 't' :: rest => some ('\t', rest)
  | '\\' :: rest => some ('\\', rest)
  | '\'' :: rest => some ('\'', rest)
  | '"' :: rest => some ('"', rest)
  | '0' :: rest => if alphabet = .terminated then none else some ('\x00', rest)
  | 'x' :: a :: b :: rest => do
    let n := (← hexDigit? a) * 16 + (← hexDigit? b)
    if alphabet.hasEscape n then some (Char.ofNat n, rest) else none
  | 'u' :: '\x7b' :: rest => do
    guard (alphabet ≠ .bytes)
    let digits := rest.takeWhile (· != '\x7d')
    let c ← charOfDigits? digits
    guard (alphabet ≠ .terminated || c != '\x00')
    match rest.drop digits.length with
    | _ :: rest => some (c, rest)
    | [] => none
  | _ => none

/-! ## Literals -/

/-- What follows the blanks after an escaped end of a line; a carriage return may have to be
completed. -/
def afterLineEnd? : Bool → List Char → Option (List Char)
  | true, '\n' :: rest => afterLineEnd? false rest
  | true, _ => none
  | false, [] => none
  | false, c :: rest =>
    if c == ' ' || c == '\t' || c == '\n' then afterLineEnd? false rest
    else if c == '\r' then afterLineEnd? true rest
    else some (c :: rest)

/-- What follows a name at the start of a text. -/
def afterName? : List Char → Option (List Char)
  | [] => none
  | c :: rest =>
    if Text.startsIdentifier c then some (rest.dropWhile Text.extendsIdentifier) else none

/-- What follows the suffix of a literal. -/
def afterSuffix (cs : List Char) : List Char :=
  (afterName? cs).getD cs

/-- Whether a character may stand in a literal by itself. -/
def Alphabet.allows : Alphabet → Char → Bool
  | text, _ => true
  | bytes, c => c.toNat < 128
  | terminated, c => c != '\x00'

/-- What follows the closing quote of a string literal. -/
def afterString? (alphabet : Alphabet) : Nat → List Char → Option (List Char)
  | 0, _ => none
  | _ + 1, [] => none
  | _ + 1, '"' :: rest => some rest
  | fuel + 1, '\r' :: rest =>
    match rest with
    | '\n' :: rest => afterString? alphabet fuel rest
    | _ => none
  | fuel + 1, '\\' :: '\n' :: rest => do afterString? alphabet fuel (← afterLineEnd? false rest)
  | fuel + 1, '\\' :: '\r' :: rest => do afterString? alphabet fuel (← afterLineEnd? true rest)
  | fuel + 1, '\\' :: rest => do afterString? alphabet fuel (← escape? alphabet rest).2
  | fuel + 1, c :: rest => if alphabet.allows c then afterString? alphabet fuel rest else none

/-- The text of the inside of a string literal. -/
def stringText : Nat → List Char → List Char
  | 0, _ => []
  | _ + 1, [] => []
  | fuel + 1, '\r' :: '\n' :: rest => '\n' :: stringText fuel rest
  | fuel + 1, '\\' :: '\n' :: rest => stringText fuel (rest.dropWhile Text.isBlank)
  | fuel + 1, '\\' :: '\r' :: rest => stringText fuel (rest.dropWhile Text.isBlank)
  | fuel + 1, '\\' :: rest =>
    match escape? .text rest with
    | some (c, rest) => c :: stringText fuel rest
    | none => stringText fuel rest
  | fuel + 1, c :: rest => c :: stringText fuel rest

/-- The inside of a raw string literal, whose end is given, and what follows it. -/
def rawInside? (alphabet : Alphabet) (closing : List Char) :
    List Char → Option (List Char × List Char)
  | [] => none
  | c :: rest =>
    match Text.dropLead? closing (c :: rest) with
    | some after => some ([], after)
    | none =>
      if !alphabet.allows c || (c == '\r' && rest.head? != some '\n') then none
      else (rawInside? alphabet closing rest).map fun (inside, after) => (c :: inside, after)

/-- The inside of a raw string literal after its letters, and what follows it. -/
def rawString? (alphabet : Alphabet) (cs : List Char) : Option (List Char × List Char) :=
  let hashes := cs.takeWhile (· == '#')
  match cs.drop hashes.length with
  | '"' :: rest =>
    if hashes.length ≤ 255 then rawInside? alphabet ('"' :: hashes) rest else none
  | _ => none

/-- What follows the closing quote of a literal of one character. -/
def afterCharacter? (alphabet : Alphabet) (cs : List Char) : Option (List Char) := do
  let rest ← match cs with
    | '\\' :: rest => (escape? alphabet rest).map Prod.snd
    | c :: rest => if alphabet.allows c then some rest else none
    | [] => none
  match rest with
  | '\'' :: rest => some rest
  | _ => none

/-- A digit of a number or an underscore between digits. -/
def isNumberChar (c : Char) : Bool :=
  c.isDigit || c == '_'

/-- What follows an exponent after its letter, if there is one. -/
def afterExponent? (cs : List Char) : Option (List Char) :=
  let rest := cs.dropWhile (· == '_')
  let rest := match rest with
    | '+' :: rest => rest
    | '-' :: rest => rest
    | rest => rest
  if (rest.takeWhile isNumberChar).any Char.isDigit then some (rest.dropWhile isNumberChar)
  else none

/-- What follows a number with a fraction or an exponent, its suffix aside. -/
def afterDecimal? (cs : List Char) : Option (List Char) := do
  guard (cs.head?.any Char.isDigit)
  let rest := cs.dropWhile isNumberChar
  let (hasPoint, rest) ← match rest with
    | '.' :: after =>
      if after.head?.any fun c => c == '.' || Text.startsIdentifier c then none
      else some (true, after.dropWhile isNumberChar)
    | _ => some (false, rest)
  let unscaled := if hasPoint then some rest else none
  match rest with
  | e :: after => if e == 'e' || e == 'E' then (afterExponent? after).or unscaled else unscaled
  | [] => unscaled

/-- What follows a whole number, its suffix aside. -/
def afterWhole? (cs : List Char) : Option (List Char) :=
  let digits (isDigit : Char → Bool) (cs : List Char) : Option (List Char) :=
    let isPart (c : Char) := isDigit c || c == '_'
    if (cs.takeWhile isPart).any isDigit then some (cs.dropWhile isPart) else none
  let noneOf (isOther : Char → Bool) (cs : List Char) : Option (List Char) :=
    if cs.head?.any isOther then none else some cs
  match cs with
  | '0' :: 'x' :: rest => digits (fun c => (hexDigit? c).isSome) rest
  | '0' :: 'o' :: rest => do noneOf Char.isDigit (← digits (fun c => '0' ≤ c && c ≤ '7') rest)
  | '0' :: 'b' :: rest => do noneOf Char.isDigit (← digits (fun c => c == '0' || c == '1') rest)
  | c :: rest => if c.isDigit then some (rest.dropWhile isNumberChar) else none
  | [] => none

/-- What follows the suffix of a number, unless the number runs into a name. -/
def afterNumber? (cs : List Char) : Option (List Char) :=
  let rest := afterSuffix cs
  if rest.head?.any Text.extendsIdentifier then none else some rest

/-- What stands before a rest. -/
def spellingBefore (cs after : List Char) : String :=
  String.ofList (cs.take (cs.length - after.length))

/-- A string literal with its inside, if a text starts with one. -/
def stringLiteral? (cs : List Char) : Option (Lexeme × List Char) :=
  match cs with
  | '"' :: rest => do
    let after ← afterString? .text (rest.length + 1) rest
    let inside := rest.take (rest.length - after.length - 1)
    let content := String.ofList (stringText (inside.length + 1) inside)
    let after := afterSuffix after
    some (text content (spellingBefore cs after), after)
  | 'r' :: rest => do
    let (inside, after) ← rawString? .text rest
    let after := afterSuffix after
    some (text (String.ofList inside) (spellingBefore cs after), after)
  | _ => none

/-- What follows a literal other than a string, if a text starts with one. -/
def afterLiteral? (cs : List Char) : Option (List Char) :=
  let quoted (alphabet : Alphabet) (rest : List Char) :=
    (afterString? alphabet (rest.length + 1) rest).map afterSuffix
  let raw (alphabet : Alphabet) (rest : List Char) :=
    (rawString? alphabet rest).map fun (_, after) => afterSuffix after
  match cs with
  | 'b' :: '"' :: rest => quoted .bytes rest
  | 'b' :: 'r' :: rest => raw .bytes rest
  | 'b' :: '\'' :: rest => (afterCharacter? .bytes rest).map afterSuffix
  | 'c' :: '"' :: rest => quoted .terminated rest
  | 'c' :: 'r' :: rest => raw .terminated rest
  | '\'' :: rest => (afterCharacter? .text rest).map afterSuffix
  | cs => ((afterDecimal? cs).bind afterNumber?).or ((afterWhole? cs).bind afterNumber?)

/-! ## Names and punctuation -/

/-- The starts of literals, which are no identifiers if the literal is broken. -/
def literalStarts : List String :=
  ["r\"", "r#\"", "r##", "b\"", "b'", "br\"", "br#", "c\"", "cr\"", "cr#"]

/-- What follows an identifier, which may be escaped, if a text starts with one. -/
def afterIdent? (cs : List Char) : Option (List Char) :=
  match cs with
  | 'r' :: '#' :: rest => do
    let after ← afterName? rest
    let name := spellingBefore rest after
    if name == "_" || Text.pathKeywords.contains name then none else some after
  | cs => afterName? cs

/-- An identifier, if a text starts with one. -/
def ident? (cs : List Char) : Option (Lexeme × List Char) :=
  if literalStarts.any fun start => (Text.dropLead? start.toList cs).isSome then none
  else (afterIdent? cs).map fun after => (ident (spellingBefore cs after), after)

/-- A lifetime after its quote. -/
def lifetime? (cs : List Char) : Option (Lexeme × List Char) := do
  let after ← afterIdent? cs
  guard (after.head? != some '\'')
  guard (after.head? != some '#' || (Text.dropLead? ['r', '#'] cs).isSome)
  match ident? cs with
  | some _ => some (lifetime ("'" ++ spellingBefore cs after), after)
  | none => some (mark '\'' true, cs)

/-- Whether a text starts with a character of punctuation and no comment. -/
def startsPunctuation (cs : List Char) : Bool :=
  match cs with
  | '/' :: '/' :: _ => false
  | '/' :: '*' :: _ => false
  | c :: _ => "~!@#$%^&*-=+|;:,<.>/?'".toList.contains c
  | [] => false

/-- The lexeme that a text starts with, if it is no group. -/
def leaf? (cs : List Char) : Option (Lexeme × List Char) :=
  match stringLiteral? cs with
  | some found => some found
  | none =>
    match afterLiteral? cs with
    | some after => some (literal (spellingBefore cs after), after)
    | none =>
      match cs with
      | '\'' :: rest => lifetime? rest
      | c :: rest =>
        if startsPunctuation cs then some (mark c (startsPunctuation rest), rest) else ident? cs
      | [] => none

/-! ## Texts -/

/-- The delimiters that a character opens. -/
def opened? (c : Char) : Option Delimiter :=
  [Delimiter.paren, .bracket, .brace].find? (fun d => d.opening == c)

/-- Whether a character closes a group. -/
def isClosing (c : Char) : Bool :=
  [Delimiter.paren, .bracket, .brace].any fun d => d.closing == c

/-- The lexemes up to a closing delimiter or the end of the text. -/
def upToClosing? : Nat → List Char → Option (List Lexeme × List Char)
  | 0, _ => none
  | fuel + 1, cs => do
    let after (found : List Lexeme) (rest : List Char) : Option (List Lexeme × List Char) := do
      let (more, rest) ← upToClosing? fuel rest
      some (found ++ more, rest)
    match cs with
    | [] => some ([], [])
    | c :: rest =>
      if isSpace c then upToClosing? fuel rest
      else if isClosing c then some ([], cs)
      else if let some (doc, rest) := comment? cs then after doc rest
      else if let some delimiter := opened? c then do
        let (inner, rest) ← upToClosing? fuel rest
        match rest with
        | d :: rest =>
          if d == delimiter.closing then after [group delimiter inner] rest else none
        | [] => none
      else do
        let (lexeme, rest) ← leaf? cs
        after [lexeme] rest

/-- A text without the mark of its byte order at its start. -/
def dropByteOrderMark (cs : List Char) : List Char :=
  match cs with
  | '\uFEFF' :: rest => rest
  | cs => cs

/-- The lexemes of a text. -/
def ofText? (s : String) : Option (List Lexeme) :=
  match upToClosing? (s.length + 1) (dropByteOrderMark s.toList) with
  | some (lexemes, []) => some lexemes
  | _ => none

end Lexeme

namespace Code

/-- The code of a text. -/
def ofText? (s : String) : Option Code :=
  (Lexeme.ofText? s).map Lexeme.code

/-- The code of a text that is known to have it. -/
def fixed (s : String) : Code :=
  (ofText? s).getD []

end Code

end EngineBindings
