import EngineBindings.Number.Decimal
import EngineBindings.Text.Toml.Basic

/-!
# Reading TOML

A document is a sequence of lines: headers, key-value pairs, comments and blank lines.  The lexical
part reads one value, key or line end at the start of a text and gives what follows.  The tree is
built as the lines come; a table is defined once, whether by a header, by dotted keys or inline.
-/

namespace EngineBindings.Toml

/-! ## Blanks, comments and line ends -/

/-- White space within a line. -/
def isSpace (c : Char) : Bool :=
  c == ' ' || c == '\t'

/-- The text after the white space at its start. -/
def skipSpace (cs : List Char) : List Char :=
  cs.dropWhile isSpace

/-- A character that may stand in a comment: no control character but the tab. -/
def isCommentChar (c : Char) : Bool :=
  c == '\t' || (0x20 ≤ c.toNat && c.toNat != 0x7F)

/-- The text after a line feed, alone or after a carriage return. -/
def newline? : List Char → Option (List Char)
  | '\n' :: rest => some rest
  | '\r' :: '\n' :: rest => some rest
  | _ => none

/-- The text after a line feed or at the end of the document. -/
def lineEnd? : List Char → Option (List Char)
  | [] => some []
  | cs => newline? cs

/-- The text after a comment, if one starts here. -/
def skipComment : List Char → List Char
  | '#' :: rest => rest.dropWhile isCommentChar
  | cs => cs

/-- The text after the rest of a line that holds nothing more than a comment. -/
def restOfLine? (cs : List Char) : Option (List Char) :=
  lineEnd? (skipComment (skipSpace cs))

/-- The text after white space, line ends and comments; a comment has to end in a line feed. -/
def skipLines? : Nat → List Char → Option (List Char)
  | 0, _ => none
  | fuel + 1, cs =>
    match skipSpace cs with
    | '#' :: rest => do skipLines? fuel (← newline? (rest.dropWhile isCommentChar))
    | '\n' :: rest => skipLines? fuel rest
    | '\r' :: rest => do skipLines? fuel (← newline? ('\r' :: rest))
    | rest => some rest

/-! ## Strings -/

/-- The value of a hexadecimal digit. -/
def hexValue? (c : Char) : Option Nat :=
  if c.isDigit then some (c.toNat - '0'.toNat)
  else if 'a' ≤ c ∧ c ≤ 'f' then some (c.toNat - 'a'.toNat + 10)
  else if 'A' ≤ c ∧ c ≤ 'F' then some (c.toNat - 'A'.toNat + 10)
  else none

/-- A character named by `count` hexadecimal digits. -/
def namedChar? (count : Nat) (cs : List Char) : Option (Char × List Char) := do
  let digits := cs.take count
  if digits.length < count then none
  else
    let n ← digits.foldlM (fun n c => (hexValue? c).map (n * 16 + ·)) 0
    if (n < 0xD800) || (0xE000 ≤ n && n < 0x110000) then some (Char.ofNat n, cs.drop count)
    else none

/-- An escaped character after the backslash. -/
def escape? : List Char → Option (Char × List Char)
  | 'b' :: rest => some ('\x08', rest)
  | 'f' :: rest => some ('\x0c', rest)
  | 'n' :: rest => some ('\n', rest)
  | 'r' :: rest => some ('\r', rest)
  | 't' :: rest => some ('\t', rest)
  | '"' :: rest => some ('"', rest)
  | '\\' :: rest => some ('\\', rest)
  | 'u' :: rest => namedChar? 4 rest
  | 'U' :: rest => namedChar? 8 rest
  | _ => none

/-- A string on one line after its opening quote. -/
def basicBody? : Nat → List Char → List Char → Option (List Char × List Char)
  | 0, _, _ => none
  | _ + 1, _, [] => none
  | _ + 1, done, '"' :: rest => some (done.reverse, rest)
  | fuel + 1, done, '\\' :: rest => do
    let (c, rest) ← escape? rest
    basicBody? fuel (c :: done) rest
  | fuel + 1, done, c :: rest => if isCommentChar c then basicBody? fuel (c :: done) rest else none

/-- A literal string on one line after its opening quote. -/
def literalBody? (cs : List Char) : Option (List Char × List Char) :=
  let body := cs.takeWhile fun c => isCommentChar c && c != '\''
  match cs.drop body.length with
  | '\'' :: rest => some (body, rest)
  | _ => none

/-- The text after the blanks and line ends at its start. -/
def skipBlankLines : List Char → List Char
  | '\r' :: '\n' :: rest => skipBlankLines rest
  | c :: rest => if isSpace c || c == '\n' then skipBlankLines rest else c :: rest
  | [] => []

/-- The text after a backslash at the end of a line: the rest of the line has to be blank, and the
blanks and line ends after it are dropped too. -/
def continuation? (cs : List Char) : Option (List Char) := do
  let rest ← newline? (skipSpace cs)
  some (skipBlankLines rest)

/-- The end of a string of several lines: three quotes, of which up to two more before them belong
to the string. -/
def closing? (quote : Char) (cs : List Char) : Option (List Char × List Char) :=
  let run := (cs.takeWhile (· == quote)).length
  if run < 3 then none
  else
    let extra := min 2 (run - 3)
    some (List.replicate extra quote, cs.drop (extra + 3))

/-- A string of several lines after its opening quotes. -/
def longBasicBody? : Nat → List Char → List Char → Option (List Char × List Char)
  | 0, _, _ => none
  | _ + 1, _, [] => none
  | fuel + 1, done, '"' :: rest =>
    match closing? '"' ('"' :: rest) with
    | some (extra, rest) => some (done.reverse ++ extra, rest)
    | none => longBasicBody? fuel ('"' :: done) rest
  | fuel + 1, done, '\\' :: rest =>
    match continuation? rest with
    | some rest => longBasicBody? fuel done rest
    | none => do
      let (c, rest) ← escape? rest
      longBasicBody? fuel (c :: done) rest
  | fuel + 1, done, c :: rest =>
    match newline? (c :: rest) with
    | some rest => longBasicBody? fuel ('\n' :: done) rest
    | none => if isCommentChar c then longBasicBody? fuel (c :: done) rest else none

/-- A literal string of several lines after its opening quotes. -/
def longLiteralBody? : Nat → List Char → List Char → Option (List Char × List Char)
  | 0, _, _ => none
  | _ + 1, _, [] => none
  | fuel + 1, done, '\'' :: rest =>
    match closing? '\'' ('\'' :: rest) with
    | some (extra, rest) => some (done.reverse ++ extra, rest)
    | none => longLiteralBody? fuel ('\'' :: done) rest
  | fuel + 1, done, c :: rest =>
    match newline? (c :: rest) with
    | some rest => longLiteralBody? fuel ('\n' :: done) rest
    | none => if isCommentChar c then longLiteralBody? fuel (c :: done) rest else none

/-- A string of any form. -/
def string? (cs : List Char) : Option (List Char × List Char) :=
  match cs with
  | '"' :: '"' :: '"' :: rest =>
    longBasicBody? (rest.length + 1) [] ((newline? rest).getD rest)
  | '\'' :: '\'' :: '\'' :: rest =>
    longLiteralBody? (rest.length + 1) [] ((newline? rest).getD rest)
  | '"' :: rest => basicBody? (rest.length + 1) [] rest
  | '\'' :: rest => literalBody? rest
  | _ => none

/-! ## Numbers, dates and times -/

/-- Digits of a kind, single underscores between them. -/
def digitRun? (isDigit : Char → Bool) : Nat → List Char → Option (List Char × List Char)
  | 0, _ => none
  | _ + 1, [] => none
  | fuel + 1, c :: rest =>
    if !isDigit c then none
    else
      match rest with
      | '_' :: more => do
        let (digits, rest) ← digitRun? isDigit fuel more
        some (c :: digits, rest)
      | next :: _ =>
        if isDigit next then do
          let (digits, rest) ← digitRun? isDigit fuel rest
          some (c :: digits, rest)
        else some ([c], rest)
      | [] => some ([c], [])

/-- A sign and what follows it. -/
def sign : List Char → List Char × List Char
  | '+' :: rest => (['+'], rest)
  | '-' :: rest => (['-'], rest)
  | cs => ([], cs)

/-- A decimal number without a zero in front. -/
def decimalRun? : List Char → Option (List Char × List Char)
  | '0' :: rest => some (['0'], rest)
  | cs => digitRun? Char.isDigit (cs.length + 1) cs

/-- The number spelled by digits of a base. -/
def valueOf (base : Nat) (digits : List Char) : Nat :=
  digits.foldl (fun n c => n * base + (hexValue? c).getD 0) 0

/-- An integer of 64 bits, decimal or in base 16, 8 or 2. -/
def integer? (cs : List Char) : Option (List Char × List Char) :=
  let based (base : Nat) (rest : List Char) : Option (List Char × List Char) := do
    let isDigit (c : Char) : Bool := ((hexValue? c).map fun n => decide (n < base)).getD false
    let (digits, rest) ← digitRun? isDigit (rest.length + 1) rest
    if valueOf base digits < Nat.pow 2 63 then some (digits, rest) else none
  match cs with
  | '0' :: 'x' :: rest => based 16 rest
  | '0' :: 'o' :: rest => based 8 rest
  | '0' :: 'b' :: rest => based 2 rest
  | _ => do
    let (sign, rest) := sign cs
    let (digits, rest) ← decimalRun? rest
    let limit := if sign == ['-'] then Nat.pow 2 63 else Nat.pow 2 63 - 1
    if valueOf 10 digits ≤ limit then some (sign ++ digits, rest) else none

/-- The exponent of a number. -/
def exponent? : List Char → Option (List Char × List Char)
  | e :: rest =>
    if e = 'e' ∨ e = 'E' then do
      let (sign, rest) := sign rest
      let (digits, rest) ← digitRun? Char.isDigit (rest.length + 1) rest
      some (e :: sign ++ digits, rest)
    else none
  | [] => none

/-- Whether a number that is spelled without a word is too great for 64 bits. -/
def overflows (spelling : List Char) : Bool :=
  (Decimal.ofText? (String.ofList spelling)).any fun d =>
    d.toBits .binary64 == BinaryFormat.binary64.infinity

/-- A number with a fraction or an exponent, or one of the special ones. -/
def float? (cs : List Char) : Option (List Char × List Char) := do
  let (sign, rest) := sign cs
  match rest with
  | 'i' :: 'n' :: 'f' :: rest => some (sign ++ ['i', 'n', 'f'], rest)
  | 'n' :: 'a' :: 'n' :: rest => some (sign ++ ['n', 'a', 'n'], rest)
  | _ =>
    let (whole, rest) ← decimalRun? rest
    match rest with
    | '.' :: rest =>
      let (fraction, rest) ← digitRun? Char.isDigit (rest.length + 1) rest
      let (exponent, rest) := (exponent? rest).getD ([], rest)
      some (sign ++ whole ++ '.' :: fraction ++ exponent, rest)
    | rest =>
      let (exponent, rest) ← exponent? rest
      some (sign ++ whole ++ exponent, rest)

/-- Exactly `count` decimal digits and the number they spell, from `low` to `high`. -/
def digitsWithin? (count low high : Nat) (cs : List Char) : Option (Nat × List Char) :=
  let digits := cs.take count
  let n := valueOf 10 digits
  if digits.length = count ∧ digits.all Char.isDigit ∧ low ≤ n ∧ n ≤ high then
    some (n, cs.drop count)
  else none

/-- The text after one character. -/
def expect? (c : Char) : List Char → Option (List Char)
  | d :: rest => if c = d then some rest else none
  | [] => none

/-- Whether a year has a 29th of February. -/
def isLeapYear (year : Nat) : Bool :=
  (year % 4 == 0 && year % 100 != 0) || year % 400 == 0

/-- The number of days of a month. -/
def daysIn (year month : Nat) : Nat :=
  if month == 2 then (if isLeapYear year then 29 else 28)
  else if [4, 6, 9, 11].contains month then 30
  else 31

/-- The text after a date. -/
def date? (cs : List Char) : Option (List Char) := do
  let (year, cs) ← digitsWithin? 4 0 9999 cs
  let (month, cs) ← digitsWithin? 2 1 12 (← expect? '-' cs)
  let (_, cs) ← digitsWithin? 2 1 (daysIn year month) (← expect? '-' cs)
  some cs

/-- The text after a time of day. -/
def time? (cs : List Char) : Option (List Char) := do
  let (_, cs) ← digitsWithin? 2 0 23 cs
  let (_, cs) ← digitsWithin? 2 0 59 (← expect? ':' cs)
  let (_, cs) ← digitsWithin? 2 0 60 (← expect? ':' cs)
  match cs with
  | '.' :: d :: rest => if d.isDigit then some (rest.dropWhile Char.isDigit) else none
  | '.' :: [] => none
  | _ => some cs

/-- The text after the distance of a time from the universal one. -/
def offset? : List Char → Option (List Char)
  | 'Z' :: rest => some rest
  | 'z' :: rest => some rest
  | c :: rest =>
    if c = '+' ∨ c = '-' then do
      let (_, cs) ← digitsWithin? 2 0 23 rest
      let (_, cs) ← digitsWithin? 2 0 59 (← expect? ':' cs)
      some cs
    else none
  | [] => none

/-- The text after a date, a time, or both. -/
def moment? (cs : List Char) : Option (List Char) :=
  match date? cs with
  | some rest =>
    let timed := match rest with
      | c :: more => if c = 'T' ∨ c = 't' ∨ c = ' ' then time? more else none
      | [] => none
    match timed with
    | some rest => some ((offset? rest).getD rest)
    | none => some rest
  | none => time? cs

/-- A number, a date or a time.  A number may be too small for 64 bits, but not too great. -/
def numberOrMoment? (cs : List Char) : Option (Toml × List Char) :=
  match moment? cs with
  | some rest => some (.moment (String.ofList (cs.take (cs.length - rest.length))), rest)
  | none =>
    match float? cs with
    | some (spelling, rest) =>
      if overflows spelling then none else some (.number (String.ofList spelling), rest)
    | none => (integer? cs).map fun (spelling, rest) => (.number (String.ofList spelling), rest)

/-! ## Keys -/

/-- A character of a key without quotes. -/
def isBareKeyChar (c : Char) : Bool :=
  c.isAlphanum || c == '-' || c == '_'

/-- One component of a key. -/
def simpleKey? (cs : List Char) : Option (String × List Char) :=
  match cs with
  | '"' :: rest =>
    (basicBody? (rest.length + 1) [] rest).map fun (k, rest) => (String.ofList k, rest)
  | '\'' :: rest => (literalBody? rest).map fun (k, rest) => (String.ofList k, rest)
  | _ =>
    let key := cs.takeWhile isBareKeyChar
    if key.isEmpty then none else some (String.ofList key, cs.drop key.length)

/-- How deep arrays and inline tables may be nested, and how many components a key may have. -/
def maxDepth : Nat := 79

/-- The components of a key, separated by dots. -/
def components? : Nat → List Char → Option (List String × List Char)
  | 0, _ => none
  | fuel + 1, cs => do
    let (component, rest) ← simpleKey? (skipSpace cs)
    match skipSpace rest with
    | '.' :: rest => do
      let (more, rest) ← components? fuel rest
      some (component :: more, rest)
    | rest => some ([component], rest)

/-- A key. -/
def key? (cs : List Char) : Option (List String × List Char) :=
  (components? (cs.length + 1) cs).filter fun (path, _) => path.length ≤ maxDepth

/-! ## The tree while it is built -/

/-- How a table came about. -/
inductive Origin where
  /-- By its own header. -/
  | header
  /-- As part of a longer header. -/
  | implied
  /-- By a dotted key. -/
  | dotted
  deriving DecidableEq

/-- A node of the tree while it is built. -/
inductive Node where
  | value (v : Toml)
  | table (origin : Origin) (entries : List (String × Node))
  | tables (items : List (List (String × Node)))

/-- The nodes of a table by their keys. -/
abbrev Nodes := List (String × Node)

/-- Puts a node under a key, in its old place if it has one. -/
def setNode (nodes : Nodes) (key : String) (node : Node) : Nodes :=
  if (nodes.lookup key).isSome then
    nodes.map fun entry => if entry.1 == key then (key, node) else entry
  else nodes ++ [(key, node)]

/-- Changes the table at a path, of which the last one counts if there are several.  Tables on the
way are made as needed; dotted keys do not enter tables that have a header. -/
def changeAt (byDots : Bool) (change : Origin → Nodes → Option Nodes) :
    List String → Origin → Nodes → Option Nodes
  | [], origin, nodes => change origin nodes
  | key :: path, _, nodes =>
    match nodes.lookup key with
    | none => do
      let origin := if byDots then .dotted else .implied
      let inner ← changeAt byDots change path origin []
      some (setNode nodes key (.table origin inner))
    | some (.value _) => none
    | some (.tables items) => do
      let inner ← changeAt byDots change path .header (items.getLastD [])
      some (setNode nodes key (.tables (items.dropLast ++ [inner])))
    | some (.table origin entries) =>
      if byDots && origin == .header then none
      else do
        let inner ← changeAt byDots change path origin entries
        some (setNode nodes key (.table origin inner))

/-- Puts a value under the last component of a key.  A key with dots reaches only tables made by
dotted keys. -/
def assign (path : List String) (value : Toml) (origin : Origin) (nodes : Nodes) :
    Option Nodes :=
  changeAt true (fun origin nodes =>
    if (origin == .dotted) == path.dropLast.isEmpty then none
    else
      let key := path.getLastD ""
      if (nodes.lookup key).isSome then none else some (nodes ++ [(key, .value value)]))
    path.dropLast origin nodes

/-- Opens the table of a header. -/
def openTable (path : List String) (root : Nodes) : Option Nodes :=
  changeAt false (fun _ nodes =>
    let key := path.getLastD ""
    match nodes.lookup key with
    | none => some (nodes ++ [(key, .table .header [])])
    | some (.table .implied inner) => some (setNode nodes key (.table .header inner))
    | some _ => none)
    path.dropLast .header root

/-- Opens one more table of an array of tables. -/
def openItem (path : List String) (root : Nodes) : Option Nodes :=
  changeAt false (fun _ nodes =>
    let key := path.getLastD ""
    match nodes.lookup key with
    | none => some (nodes ++ [(key, .tables [[]])])
    | some (.tables items) => some (setNode nodes key (.tables (items ++ [[]])))
    | some _ => none)
    path.dropLast .header root

mutual

/-- The value of a node. -/
def Node.toToml : Node → Toml
  | .value v => v
  | .table _ entries => .table (entriesToToml entries)
  | .tables items => .array (itemsToToml items)

/-- The values of the nodes of a table. -/
def entriesToToml : List (String × Node) → List (String × Toml)
  | [] => []
  | (key, node) :: rest => (key, node.toToml) :: entriesToToml rest

/-- The tables of an array of tables. -/
def itemsToToml : List (List (String × Node)) → List Toml
  | [] => []
  | entries :: rest => .table (entriesToToml entries) :: itemsToToml rest

end

/-! ## Values -/

mutual

/-- One value; `depth` levels of nesting are left. -/
def value? : Nat → Nat → List Char → Option (Toml × List Char)
  | 0, _, _ => none
  | fuel + 1, depth, cs =>
    match cs with
    | '"' :: _ => (string? cs).map fun (text, rest) => (.string (String.ofList text), rest)
    | '\'' :: _ => (string? cs).map fun (text, rest) => (.string (String.ofList text), rest)
    | 't' :: 'r' :: 'u' :: 'e' :: rest => some (.boolean true, rest)
    | 'f' :: 'a' :: 'l' :: 's' :: 'e' :: rest => some (.boolean false, rest)
    | '[' :: rest =>
      match depth with
      | 0 => none
      | depth + 1 => do
        let (items, rest) ← items? fuel depth rest
        some (.array items, rest)
    | '\x7b' :: rest =>
      match depth with
      | 0 => none
      | depth + 1 =>
        match skipSpace rest with
        | '\x7d' :: rest => some (.table [], rest)
        | rest => do
          let (nodes, rest) ← pairs? fuel depth [] rest
          some (.table (entriesToToml nodes), rest)
    | _ => numberOrMoment? cs

/-- The items of an array up to its closing bracket; a comma may follow the last one. -/
def items? : Nat → Nat → List Char → Option (List Toml × List Char)
  | 0, _, _ => none
  | fuel + 1, depth, cs => do
    match ← skipLines? (cs.length + 1) cs with
    | ']' :: rest => some ([], rest)
    | rest => do
      let (item, rest) ← value? fuel depth rest
      match ← skipLines? (rest.length + 1) rest with
      | ',' :: rest => do
        let (items, rest) ← items? fuel depth rest
        some (item :: items, rest)
      | ']' :: rest => some ([item], rest)
      | _ => none

/-- The pairs of an inline table up to its closing brace. -/
def pairs? : Nat → Nat → Nodes → List Char → Option (Nodes × List Char)
  | 0, _, _, _ => none
  | fuel + 1, depth, nodes, cs => do
    let (path, rest) ← key? cs
    let rest ← expect? '=' rest
    let (value, rest) ← value? fuel depth (skipSpace rest)
    let nodes ← assign path value .header nodes
    match skipSpace rest with
    | ',' :: rest => pairs? fuel depth nodes rest
    | '\x7d' :: rest => some (nodes, rest)
    | _ => none

end

/-! ## Documents -/

/-- The tree so far and the path of the table that pairs go to. -/
structure Building where
  root : Nodes
  here : List String

/-- Puts a pair into the table that pairs go to. -/
def Building.assign (b : Building) (path : List String) (value : Toml) : Option Building := do
  let root ← changeAt false (Toml.assign path value) b.here .header b.root
  some { b with root }

/-- Reads a line that is not blank. -/
def line? (b : Building) (cs : List Char) : Option (Building × List Char) :=
  match cs with
  | '[' :: '[' :: rest => do
    let (path, rest) ← key? rest
    let rest ← expect? ']' (← expect? ']' rest)
    some (⟨← openItem path b.root, path⟩, ← restOfLine? rest)
  | '[' :: rest => do
    let (path, rest) ← key? rest
    let rest ← expect? ']' rest
    some (⟨← openTable path b.root, path⟩, ← restOfLine? rest)
  | _ => do
    let (path, rest) ← key? cs
    let rest ← expect? '=' rest
    let (value, rest) ← value? (2 * rest.length + 2) maxDepth (skipSpace rest)
    some (← b.assign path value, ← restOfLine? rest)

/-- Reads the lines of a document. -/
def lines? : Nat → Building → List Char → Option Building
  | 0, _, _ => none
  | fuel + 1, b, cs =>
    match skipSpace cs with
    | [] => some b
    | '#' :: rest => do lines? fuel b (← lineEnd? (rest.dropWhile isCommentChar))
    | '\n' :: rest => lines? fuel b rest
    | '\r' :: rest => do lines? fuel b (← newline? ('\r' :: rest))
    | rest => do
      let (b, rest) ← line? b rest
      lines? fuel b rest

/-- The document spelled by a text; a byte order mark may come first. -/
def ofText? (s : String) : Option Toml := do
  let cs := match s.toList with
    | '\uFEFF' :: rest => rest
    | cs => cs
  let b ← lines? (cs.length + 1) ⟨[], []⟩ cs
  some (.table (entriesToToml b.root))

end EngineBindings.Toml
