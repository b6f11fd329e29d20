import EngineBindings.Text.Clusters
import EngineBindings.Text.LetterCase
import EngineBindings.Text.Pieces

/-!
# Words of a name

Cuts a name into its words and joins them in another style.  Words end at underscores, hyphens and
spaces, between a small letter and a capital, between a letter and a digit, and before the last
capital of a row of capitals that a small letter follows.  A letter counts with its accents; words
between neighbouring separators are empty.
-/

namespace EngineBindings.Text

/-- A letter that is its own lower case, but not its own upper case. -/
def isSmall (letter : List Char) : Bool :=
  lowerChars letter == letter && upperChars letter != letter

/-- A letter that is its own upper case, but not its own lower case. -/
def isCapital (letter : List Char) : Bool :=
  upperChars letter == letter && lowerChars letter != letter

/-- A digit without accents. -/
def isDigitLetter (letter : List Char) : Bool :=
  letter.all Char.isDigit

/-- Whether a word ends between two neighbours; `after` is what follows the second one. -/
def endsBetween (c d : List Char) (after : List (List Char)) : Bool :=
  (isSmall c && isCapital d) ||
    (isCapital c && isCapital d && (after.head?.map isSmall).getD false) ||
    ((isSmall c || isCapital c) && isDigitLetter d) ||
    (isDigitLetter c && (isSmall d || isCapital d))

/-- Whether a letter only separates words. -/
def separatesWords (letter : List Char) : Bool :=
  letter == ['_'] || letter == ['-'] || letter == [' ']

/-- Puts a letter at the start of the first word. -/
def extendFirst (letter : List Char) : List (List (List Char)) → List (List (List Char))
  | [] => [[letter]]
  | word :: words => (letter :: word) :: words

/-- The words of a name that is given by its letters. -/
def cutWords : List (List Char) → List (List (List Char))
  | [] => [[]]
  | [c] => if separatesWords c then [[], []] else [[c]]
  | c :: d :: rest =>
    let words := cutWords (d :: rest)
    if separatesWords c then [] :: words
    else if endsBetween c d rest then [c] :: words
    else extendFirst c words

/-- The words of a name, each as its letters. -/
def words (s : String) : List (List (List Char)) :=
  cutWords (clusters s.toList)

/-- A name in capitals, its words joined by underscores. -/
def upperSnake (s : String) : String :=
  join "_" ((words s).map fun word => String.ofList (upperChars word.flatten))

/-- A word with a capital at its start and small letters after it. -/
def capitalized : List (List Char) → List Char
  | [] => []
  | letter :: rest => upperChars letter ++ lowerChars rest.flatten

/-- A name of capitalized words without separators. -/
def pascal (s : String) : String :=
  String.join ((words s).map fun word => String.ofList (capitalized word))

end EngineBindings.Text
