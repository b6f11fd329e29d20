import EngineBindings.Text.IdentifierTable

/-!
# Identifiers

Which texts are identifiers, and which identifiers are words of the host language.  ASCII letters
and digits are decided without a table.
-/

namespace EngineBindings.Text

/-- Whether a code point lies in one of some ranges. -/
def inRanges (ranges : List (Nat × Nat)) (n : Nat) : Bool :=
  ranges.any fun (low, high) => low ≤ n && n ≤ high

/-- Whether an identifier may start with a character. -/
def startsIdentifier (c : Char) : Bool :=
  if c.toNat < 128 then c.isAlpha || c == '_' else inRanges identifierStarts c.toNat

/-- Whether an identifier may go on with a character. -/
def extendsIdentifier (c : Char) : Bool :=
  if c.toNat < 128 then c.isAlphanum || c == '_'
  else inRanges identifierStarts c.toNat || inRanges identifierExtenders c.toNat

/-- Whether a text is an identifier. -/
def isIdentifierChars : List Char → Bool
  | [] => false
  | c :: rest => startsIdentifier c && rest.all extendsIdentifier

/-- `isIdentifierChars` on strings. -/
def isIdentifier (s : String) : Bool :=
  isIdentifierChars s.toList

/-- The words that have a meaning of their own, or are kept for one. -/
def keywords : List String :=
  ["abstract", "as", "async", "await", "become", "box", "break", "const", "continue", "crate", "do",
    "dyn", "else", "enum", "extern", "false", "final", "fn", "for", "if", "impl", "in", "let",
    "loop", "macro", "match", "mod", "move", "mut", "override", "priv", "pub", "ref", "return",
    "Self", "self", "static", "struct", "super", "trait", "true", "try", "type", "typeof", "unsafe",
    "unsized", "use", "virtual", "where", "while", "yield"]

/-- The keywords that name a place in a path and cannot be escaped. -/
def pathKeywords : List String :=
  ["self", "super", "crate", "Self"]

end EngineBindings.Text
