/-!
# JSON documents

A document as a tree, its reader, and the reading of records.  Numbers keep their spelling, so
that an integer is told from a fraction.  A string whose escapes name half of a surrogate pair has
no text: it may stand where nobody reads it, so it is a value of its own (`none`).

A record is written as an object by names or as a list by positions.  `Json.fields?` reads both
forms; a known name that occurs twice, or a list longer than the record, is refused, and unknown
names are skipped.
-/

namespace EngineBindings

/-- A JSON document. -/
inductive Json where
  | null
  | bool (value : Bool)
  | number (spelling : List Char)
  | string (text : Option String)
  | array (items : List Json)
  | object (members : List (Option String × Json))

namespace Json

/-! ## Reader -/

/-- The white space of the grammar. -/
def isSpace (c : Char) : Bool :=
  c == ' ' || c == '\n' || c == '\t' || c == '\r'

/-- The text from the first character that is not white space. -/
def skipSpace (cs : List Char) : List Char :=
  cs.dropWhile isSpace

/-- The value of a hexadecimal digit. -/
def hexDigit? (c : Char) : Option Nat :=
  if '0' ≤ c ∧ c ≤ '9' then some (c.toNat - '0'.toNat)
  else if 'a' ≤ c ∧ c ≤ 'f' then some (c.toNat - 'a'.toNat + 10)
  else if 'A' ≤ c ∧ c ≤ 'F' then some (c.toNat - 'A'.toNat + 10)
  else none

/-- Four hexadecimal digits and what follows them. -/
def hexUnit? : List Char → Option (Nat × List Char)
  | a :: b :: c :: d :: rest => do
    let a ← hexDigit? a
    let b ← hexDigit? b
    let c ← hexDigit? c
    let d ← hexDigit? d
    some (((a * 16 + b) * 16 + c) * 16 + d, rest)
  | _ => none

/-- A piece of a string: a character, or half of a surrogate pair. -/
inductive Unit16 where
  | char (c : Char)
  | half (unit : Nat)

/-- One escaped character after the backslash. -/
def escape? : List Char → Option (Unit16 × List Char)
  | '"' :: rest => some (.char '"', rest)
  | '\\' :: rest => some (.char '\\', rest)
  | '/' :: rest => some (.char '/', rest)
  | 'b' :: rest => some (.char '\x08', rest)
  | 'f' :: rest => some (.char '\x0c', rest)
  | 'n' :: rest => some (.char '\n', rest)
  | 'r' :: rest => some (.char '\r', rest)
  | 't' :: rest => some (.char '\t', rest)
  | 'u' :: rest => do
    let (unit, rest) ← hexUnit? rest
    if 0xD800 ≤ unit ∧ unit < 0xE000 then some (.half unit, rest)
    else some (.char (Char.ofNat unit), rest)
  | _ => none

/-- The units of a string after its opening quote, the last first, and what follows the closing
quote.  Control characters have to be escaped. -/
def units? : Nat → List Unit16 → List Char → Option (List Unit16 × List Char)
  | 0, _, _ => none
  | _ + 1, _, [] => none
  | fuel + 1, done, c :: rest =>
    if c = '"' then some (done, rest)
    else if c = '\\' then do
      let (unit, rest) ← escape? rest
      units? fuel (unit :: done) rest
    else if c.toNat < 0x20 then none
    else units? fuel (.char c :: done) rest

/-- Joins the halves of surrogate pairs; units come last first. -/
def textOfUnits? : List Char → List Unit16 → Option (List Char)
  | done, [] => some done
  | done, .char c :: rest => textOfUnits? (c :: done) rest
  | done, .half low :: .half high :: rest =>
    if high < 0xDC00 ∧ 0xDC00 ≤ low then
      textOfUnits? (Char.ofNat (0x10000 + (high - 0xD800) * 0x400 + (low - 0xDC00)) :: done) rest
    else none
  | _, [.half _] => none
  | _, .half _ :: .char _ :: _ => none

/-- A string after its opening quote. -/
def string? (cs : List Char) : Option (Option String × List Char) := do
  let (units, rest) ← units? (cs.length + 1) [] cs
  some ((textOfUnits? [] units).map String.ofList, rest)

/-- The digits at the start of a text, at least one. -/
def digits? (cs : List Char) : Option (List Char × List Char) :=
  let digits := cs.takeWhile Char.isDigit
  if digits.isEmpty then none else some (digits, cs.dropWhile Char.isDigit)

/-- The exponent of a number, if there is one. -/
def exponent? : List Char → Option (List Char × List Char)
  | e :: rest =>
    if e = 'e' ∨ e = 'E' then
      match rest with
      | sign :: more =>
        if sign = '+' ∨ sign = '-' then do
          let (digits, rest) ← digits? more
          some (e :: sign :: digits, rest)
        else do
          let (digits, rest) ← digits? rest
          some (e :: digits, rest)
      | [] => none
    else some ([], e :: rest)
  | [] => some ([], [])

/-- The fraction of a number, if there is one. -/
def fraction? : List Char → Option (List Char × List Char)
  | '.' :: rest => do
    let (digits, rest) ← digits? rest
    some ('.' :: digits, rest)
  | rest => some ([], rest)

/-- The whole part of a number: a zero stands alone. -/
def whole? : List Char → Option (List Char × List Char)
  | '0' :: rest => if (rest.head?.map Char.isDigit).getD false then none else some (['0'], rest)
  | rest => digits? rest

/-- The spelling of a number. -/
def number? (cs : List Char) : Option (List Char × List Char) := do
  let (sign, cs) := match cs with
    | '-' :: rest => (['-'], rest)
    | _ => ([], cs)
  let (whole, cs) ← whole? cs
  let (fraction, cs) ← fraction? cs
  let (exponent, cs) ← exponent? cs
  some (sign ++ whole ++ fraction ++ exponent, cs)

mutual

/-- One value at the start of a text. -/
def value? : Nat → List Char → Option (Json × List Char)
  | 0, _ => none
  | fuel + 1, cs =>
    match skipSpace cs with
    | 'n' :: 'u' :: 'l' :: 'l' :: rest => some (.null, rest)
    | 't' :: 'r' :: 'u' :: 'e' :: rest => some (.bool true, rest)
    | 'f' :: 'a' :: 'l' :: 's' :: 'e' :: rest => some (.bool false, rest)
    | '"' :: rest => do
      let (text, rest) ← string? rest
      some (.string text, rest)
    | '[' :: rest =>
      match skipSpace rest with
      | ']' :: rest => some (.array [], rest)
      | rest => do
        let (items, rest) ← items? fuel rest
        some (.array items, rest)
    | '\x7b' :: rest =>
      match skipSpace rest with
      | '\x7d' :: rest => some (.object [], rest)
      | rest => do
        let (members, rest) ← members? fuel rest
        some (.object members, rest)
    | rest => do
      let (spelling, rest) ← number? rest
      some (.number spelling, rest)

/-- The items of a list up to its closing bracket, at least one. -/
def items? : Nat → List Char → Option (List Json × List Char)
  | 0, _ => none
  | fuel + 1, cs => do
    let (item, rest) ← value? fuel cs
    match skipSpace rest with
    | ',' :: rest => do
      let (items, rest) ← items? fuel rest
      some (item :: items, rest)
    | ']' :: rest => some ([item], rest)
    | _ => none

/-- The members of an object up to its closing brace, at least one. -/
def members? : Nat → List Char → Option (List (Option String × Json) × List Char)
  | 0, _ => none
  | fuel + 1, cs =>
    match skipSpace cs with
    | '"' :: rest => do
      let (name, rest) ← string? rest
      match skipSpace rest with
      | ':' :: rest => do
        let (value, rest) ← value? fuel rest
        match skipSpace rest with
        | ',' :: rest => do
          let (members, rest) ← members? fuel rest
          some ((name, value) :: members, rest)
        | '\x7d' :: rest => some ([(name, value)], rest)
        | _ => none
      | _ => none
    | _ => none

end

/-- The document spelled by a whole text. -/
def ofText? (s : String) : Option Json :=
  let cs := s.toList
  match value? (2 * cs.length + 2) cs with
  | some (value, rest) => if (skipSpace rest).isEmpty then some value else none
  | none => none

/-! ## Readers of values -/

/-- A text. -/
def text? : Json → Option String
  | .string text => text
  | _ => none

/-- A truth value. -/
def bool? : Json → Option Bool
  | .bool value => some value
  | _ => none

/-- The items of a list. -/
def array? : Json → Option (List Json)
  | .array items => some items
  | _ => none

/-- The number spelled by decimal digits. -/
def decimal (digits : List Char) : Nat :=
  digits.foldl (fun n c => n * 10 + (c.toNat - '0'.toNat)) 0

/-- A whole number: neither fraction nor exponent, and zero has no sign. -/
def int? : Json → Option Int
  | .number ('-' :: digits) =>
    if digits.all Char.isDigit && decimal digits != 0 then some (-(decimal digits : Int)) else none
  | .number digits => if digits.all Char.isDigit then some (decimal digits) else none
  | _ => none

/-- A whole number from `low` to `high`. -/
def intWithin? (low high : Int) (j : Json) : Option Int := do
  let n ← j.int?
  if low ≤ n ∧ n ≤ high then some n else none

/-- A signed number of 64 bits. -/
def int64? : Json → Option Int :=
  intWithin? (-9223372036854775808) 9223372036854775807

/-- An unsigned number of 32 bits. -/
def nat32? (j : Json) : Option Nat :=
  (intWithin? 0 4294967295 j).map Int.toNat

/-- A list of values, each read by `read`. -/
def list? {α : Type} (read : Json → Option α) (j : Json) : Option (List α) := do
  (← j.array?).mapM read

/-- A value that may be null. -/
def nullable? {α : Type} (read : Json → Option α) : Json → Option (Option α)
  | .null => some none
  | j => (read j).map some

/-! ## Records -/

/-- The known fields of a record, each at most once. -/
structure Fields where
  entries : List (String × Json)

/-- Reads the known members of an object. -/
def knownMembers? (names : List String) :
    List (Option String × Json) → Option (List (String × Json))
  | [] => some []
  | (none, _) :: _ => none
  | (some name, value) :: rest => do
    let entries ← knownMembers? names rest
    if !names.contains name then some entries
    else if entries.any (fun entry => entry.1 == name) then none
    else some ((name, value) :: entries)

/-- Reads a record with the given field names, in either form. -/
def fields? (names : List String) : Json → Option Fields
  | .object members => (knownMembers? names members).map Fields.mk
  | .array items => if items.length ≤ names.length then some ⟨names.zip items⟩ else none
  | _ => none

namespace Fields

/-- The value of a field. -/
def get? (f : Fields) (name : String) : Option Json :=
  f.entries.lookup name

/-- A field that has to be there. -/
def required {α : Type} (f : Fields) (name : String) (read : Json → Option α) : Option α := do
  read (← f.get? name)

/-- A field that may be left out. -/
def withDefault {α : Type} (f : Fields) (name : String) (fallback : α) (read : Json → Option α) :
    Option α :=
  match f.get? name with
  | none => some fallback
  | some value => read value

/-- A field that may be left out or null. -/
def optional {α : Type} (f : Fields) (name : String) (read : Json → Option α) :
    Option (Option α) :=
  f.withDefault name none (nullable? read)

end Fields

/-! ## Printer -/

/-- The digits of a number below 16. -/
def hexChar (n : Nat) : Char :=
  if n < 10 then Char.ofNat ('0'.toNat + n) else Char.ofNat ('a'.toNat + (n - 10))

/-- A character as it stands between quotes. -/
def quoteChar (c : Char) : List Char :=
  if c = '"' then ['\\', '"']
  else if c = '\\' then ['\\', '\\']
  else if c = '\n' then ['\\', 'n']
  else if c = '\r' then ['\\', 'r']
  else if c = '\t' then ['\\', 't']
  else if c = '\x08' then ['\\', 'b']
  else if c = '\x0c' then ['\\', 'f']
  else if c.toNat < 0x20 then
    ['\\', 'u', '0', '0', hexChar (c.toNat / 16), hexChar (c.toNat % 16)]
  else [c]

/-- A text between quotes. -/
def quote (s : String) : List Char :=
  '"' :: s.toList.flatMap quoteChar ++ ['"']

mutual

/-- The compact spelling of a document. -/
def spell : Json → List Char
  | .null => ['n', 'u', 'l', 'l']
  | .bool true => ['t', 'r', 'u', 'e']
  | .bool false => ['f', 'a', 'l', 's', 'e']
  | .number spelling => spelling
  | .string text => quote (text.getD "")
  | .array [] => ['[', ']']
  | .array (item :: items) => '[' :: spell item ++ spellItems items
  | .object [] => ['\x7b', '\x7d']
  | .object ((name, value) :: members) =>
    '\x7b' :: quote (name.getD "") ++ ':' :: spell value ++ spellMembers members

/-- The items after the first one, with the closing bracket. -/
def spellItems : List Json → List Char
  | [] => [']']
  | item :: items => ',' :: spell item ++ spellItems items

/-- The members after the first one, with the closing brace. -/
def spellMembers : List (Option String × Json) → List Char
  | [] => ['\x7d']
  | (name, value) :: members =>
    ',' :: quote (name.getD "") ++ ':' :: spell value ++ spellMembers members

end

/-- `spell` as a string. -/
def render (j : Json) : String :=
  String.ofList j.spell

/-- A text as a document. -/
def ofText (s : String) : Json :=
  .string (some s)

/-- A whole number as a document. -/
def ofInt (n : Int) : Json :=
  .number (if n < 0 then '-' :: Nat.toDigits 10 n.natAbs else Nat.toDigits 10 n.natAbs)

/-- A record as a document. -/
def ofFields (fields : List (String × Json)) : Json :=
  .object (fields.map fun (name, value) => (some name, value))

/-- A value that may be absent, null when it is. -/
def ofOption {α : Type} (write : α → Json) : Option α → Json
  | none => .null
  | some a => write a

end Json

end EngineBindings
