import EngineBindings.Text.Identifier
import EngineBindings.Text.LetterCaseTable

/-!
# Letter case

The full case mappings of Unicode.  A capital dotted i has two characters in lower case, and a
capital sigma at the end of a word becomes the final one.
-/

namespace EngineBindings.Text

/-- The image of a code point in a table of rows. -/
def mapped? (rows : List (Nat × Nat × Nat × Int)) (n : Nat) : Option Char :=
  rows.findSome? fun (first, last, step, distance) =>
    if first ≤ n && n ≤ last && (n - first) % step == 0 then
      some (Char.ofNat (Int.toNat (n + distance)))
    else none

/-- The lower case of a character by itself. -/
def lowerChar (c : Char) : List Char :=
  if c.toNat < 128 then [c.toLower]
  else if c = 'İ' then ['i', '\u0307']
  else [(mapped? lowerRows c.toNat).getD c]

/-- The upper case of a character. -/
def upperChar (c : Char) : List Char :=
  if c.toNat < 128 then [c.toUpper]
  else
    match upperExpansions.lookup c.toNat with
    | some codes => codes.map Char.ofNat
    | none => [(mapped? upperRows c.toNat).getD c]

/-- Whether a character is skipped when the context of a sigma is looked at. -/
def isCaseIgnorable (c : Char) : Bool :=
  if c.toNat < 128 then ['\'', '.', ':', '^', '\x60'].contains c
  else inRanges caseIgnorableRanges c.toNat

/-- Whether a character that is not skipped has a case. -/
def isCased (c : Char) : Bool :=
  if c.toNat < 128 then c.isAlpha else inRanges casedRanges c.toNat

/-- Whether the first character that counts has a case. -/
def startsCased (cs : List Char) : Bool :=
  ((cs.dropWhile isCaseIgnorable).head?.map isCased).getD false

/-- The lower case of a text that follows `before`, its characters last first. -/
def lowerAfter (before : List Char) : List Char → List Char
  | [] => []
  | c :: rest =>
    (if c = 'Σ' then
      if startsCased before && !startsCased rest then ['ς'] else ['σ']
    else lowerChar c) ++ lowerAfter (c :: before) rest

/-- The lower case of a text. -/
def lowerChars (cs : List Char) : List Char :=
  lowerAfter [] cs

/-- The upper case of a text. -/
def upperChars (cs : List Char) : List Char :=
  cs.flatMap upperChar

/-- `lowerChars` on strings. -/
def lower (s : String) : String :=
  String.ofList (lowerChars s.toList)

/-- `upperChars` on strings. -/
def upper (s : String) : String :=
  String.ofList (upperChars s.toList)

end EngineBindings.Text
