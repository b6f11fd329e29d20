/-!
# Pieces of texts

Texts cut at a mark, into lines, or after a known start; and texts joined with a separator.
-/

namespace EngineBindings.Text

/-- Cuts a text at every `mark`; a text without one is its own only piece. -/
def splitChars (mark : Char) : List Char → List (List Char)
  | [] => [[]]
  | c :: rest =>
    if c = mark then [] :: splitChars mark rest
    else match splitChars mark rest with
      | [] => [[c]]
      | piece :: pieces => (c :: piece) :: pieces

/-- The pieces of a text between the marks. -/
def splitAt (mark : Char) (s : String) : List String :=
  (splitChars mark s.toList).map String.ofList

/-- Drops one carriage return at the end of a line. -/
def dropReturn (line : List Char) : List Char :=
  match line.reverse with
  | '\r' :: rest => rest.reverse
  | _ => line

/-- The lines of a text: a line feed ends a line, a carriage return before it belongs to the
ending, and nothing after the last line feed is no line. -/
def linesChars (cs : List Char) : List (List Char) :=
  match (splitChars '\n' cs).reverse with
  | [] => []
  | last :: ended =>
    (ended.map dropReturn).reverse ++ (if last.isEmpty then [] else [last])

/-- `linesChars` on strings. -/
def lines (s : String) : List String :=
  (linesChars s.toList).map String.ofList

/-- The text after `lead`, if it starts with it. -/
def dropLead? (lead cs : List Char) : Option (List Char) :=
  match lead, cs with
  | [], cs => some cs
  | _ :: _, [] => none
  | l :: lead, c :: cs => if l = c then dropLead? lead cs else none

/-- The text before `tail`, if it ends with it. -/
def dropTail? (tail cs : List Char) : Option (List Char) :=
  (dropLead? tail.reverse cs.reverse).map List.reverse

/-- `dropLead?` on strings. -/
def stripLead? (lead s : String) : Option String :=
  (dropLead? lead.toList s.toList).map String.ofList

/-- `dropTail?` on strings. -/
def stripTail? (tail s : String) : Option String :=
  (dropTail? tail.toList s.toList).map String.ofList

/-- Texts one after another with a separator between neighbours. -/
def join (separator : String) : List String → String
  | [] => ""
  | [s] => s
  | s :: rest => s ++ separator ++ join separator rest

/-- Whether two texts agree up to the case of ASCII letters. -/
def eqIgnoreAsciiCase (s t : String) : Bool :=
  s.toList.map Char.toLower == t.toList.map Char.toLower

end EngineBindings.Text
