/-!
# Blank characters

The white space of Unicode, and texts without it at their ends.  `trim` drops white space at both
ends, `trimEnd` at the end alone.
-/

namespace EngineBindings.Text

/-- The characters with the Unicode property `White_Space`. -/
def isBlank (c : Char) : Bool :=
  let n := c.toNat
  (9 ≤ n && n ≤ 13) || n == 0x20 || n == 0x85 || n == 0xA0 || n == 0x1680 ||
    (0x2000 ≤ n && n ≤ 0x200A) || n == 0x2028 || n == 0x2029 || n == 0x202F || n == 0x205F ||
    n == 0x3000

/-- A text without the white space at its start. -/
def trimStartChars (cs : List Char) : List Char :=
  cs.dropWhile isBlank

/-- A text without the white space at its end. -/
def trimEndChars (cs : List Char) : List Char :=
  (cs.reverse.dropWhile isBlank).reverse

/-- A text without the white space at either end. -/
def trimChars (cs : List Char) : List Char :=
  trimEndChars (trimStartChars cs)

/-- `trimChars` on strings. -/
def trim (s : String) : String :=
  String.ofList (trimChars s.toList)

/-- `trimEndChars` on strings. -/
def trimEnd (s : String) : String :=
  String.ofList (trimEndChars s.toList)

end EngineBindings.Text
