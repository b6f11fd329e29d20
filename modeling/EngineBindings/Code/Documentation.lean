import EngineBindings.Code.Basic

/-!
# Documentation in files

A file holds documentation as comments where a comment can hold it: a line in a line comment, and
several lines in a block comment.  A comment keeps no spaces at the ends of lines, so the
documentation of a file is what its comments say.
-/

namespace EngineBindings

namespace Documentation

/-- A line without the spaces at its end. -/
def trimLine (line : List Char) : List Char :=
  (line.reverse.dropWhile (· == ' ')).reverse

/-- Lines without the spaces at their ends, except for the last one, which no line feed ends. -/
def trimLines : List (List Char) → List Char
  | [] => []
  | [last] => last
  | line :: rest => trimLine line ++ '\n' :: trimLines rest

/-- Whether the comments that are opened in a text, of which some are open, are closed in it. -/
def isBalanced : Nat → List Char → Bool
  | depth, '/' :: '*' :: rest => isBalanced (depth + 1) rest
  | 0, '*' :: '/' :: _ => false
  | depth + 1, '*' :: '/' :: rest => isBalanced depth rest
  | depth, _ :: rest => isBalanced depth rest
  | depth, [] => depth == 0

/-- Whether a block comment can hold a text. -/
def fitsBlock (cs : List Char) : Bool :=
  cs.head? != some '*' && cs.head? != some '/' && cs.getLast? != some '/' && isBalanced 0 cs

/-- A text as a comment keeps it, or the text itself if no comment can hold it. -/
def kept (s : String) : String :=
  let cs := s.toList
  if cs.contains '\n' then
    if fitsBlock cs then String.ofList (trimLines (Text.splitChars '\n' cs)) else s
  else if cs.head? == some '/' then s
  else String.ofList (Text.dropReturn (trimLine cs))

mutual

/-- A token of a file with the documentation in it as comments keep it. -/
def settleToken : Token → Token
  | .group .bracket [.word "doc", .mark '=', .text content _] =>
    .group .bracket [.word "doc", .mark '=', .text (kept content) none]
  | .group delimiter inner => .group delimiter (settle inner)
  | .arm pattern form body hasComma => .arm (settle pattern) form (settle body) hasComma
  | .word spelling => .word spelling
  | .mark c => .mark c
  | .text content spelling? => .text content spelling?

/-- The code of a file with its documentation as comments keep it. -/
def settle : Code → Code
  | [] => []
  | token :: rest => settleToken token :: settle rest

end

end Documentation

end EngineBindings
