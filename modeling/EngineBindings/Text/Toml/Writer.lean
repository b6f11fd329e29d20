import EngineBindings.Text.Pieces

/-!
# Writing TOML

The spelling of texts, of lists of texts, and of the lines of a document.  A text is written
between plain quotes if nothing in it has to be escaped, as a literal if that spares escapes, and
over several lines if it has line feeds.  A list of two or more texts has one line for each.
-/

namespace EngineBindings.Toml

/-- The length of the longest run of a character. -/
def longestRun (mark : Char) (cs : List Char) : Nat :=
  (cs.foldl (fun (longest, run) c =>
    if c = mark then (max longest (run + 1), run + 1) else (longest, 0)) (0, 0)).1

/-- A control character that cannot stand in a text as it is. -/
def needsCode (c : Char) : Bool :=
  (c.toNat < 0x20 && c != '\t' && c != '\n') || c.toNat == 0x7F

/-- Four hexadecimal digits. -/
def hex4 (n : Nat) : List Char :=
  let digits := (Nat.toDigits 16 n).map Char.toUpper
  List.replicate (4 - digits.length) '0' ++ digits

/-- A character as it is escaped. -/
def escaped (c : Char) : List Char :=
  if c = '\x08' then ['\\', 'b']
  else if c = '\t' then ['\\', 't']
  else if c = '\n' then ['\\', 'n']
  else if c = '\x0c' then ['\\', 'f']
  else if c = '\r' then ['\\', 'r']
  else if c = '"' then ['\\', '"']
  else if c = '\\' then ['\\', '\\']
  else if needsCode c then ['\\', 'u'] ++ hex4 c.toNat
  else [c]

/-- The characters of a text over several lines: line feeds stand for themselves, and so do up to
two quotes in a row. -/
def longBody : Nat → List Char → List Char
  | _, [] => []
  | quotes, c :: rest =>
    if c = '\n' then '\n' :: longBody 0 rest
    else if c = '"' then
      if quotes < 2 then '"' :: longBody (quotes + 1) rest else '\\' :: '"' :: longBody 0 rest
    else escaped c ++ longBody 0 rest

/-- The spelling of a text. -/
def spellText (s : String) : String :=
  let cs := s.toList
  let code := cs.any needsCode
  let escape := cs.contains '\\'
  let newline := cs.contains '\n'
  let double := longestRun '"' cs
  let single := longestRun '\'' cs
  let lead := if newline then ['\n'] else []
  let basic := '"' :: cs.flatMap escaped ++ ['"']
  let long := ['"', '"', '"'] ++ lead ++ longBody 0 cs ++ ['"', '"', '"']
  String.ofList <|
    if !code && !escape && double == 0 && !newline then basic
    else if !code && single == 0 && !newline then '\'' :: cs ++ ['\'']
    else if !code && !escape && double ≤ 2 then long
    else if !code && single ≤ 2 then ['\'', '\'', '\''] ++ lead ++ cs ++ ['\'', '\'', '\'']
    else if newline then long
    else basic

/-- The spelling of a list of texts. -/
def spellTexts : List String → String
  | [] => "[]"
  | [s] => "[" ++ spellText s ++ "]"
  | ss => "[\n" ++ String.join (ss.map fun s => "    " ++ spellText s ++ ",\n") ++ "]"

/-- A line that gives a key its value. -/
def spellPair (key value : String) : String :=
  key ++ " = " ++ value ++ "\n"

end EngineBindings.Toml
