import EngineBindings.Text.Pieces

/-!
# Paths

A path is a text of pieces with slashes between them.  Empty pieces and single dots say nothing of
where a path leads, two dots lead to the directory above, and any other piece is a name.
-/

namespace EngineBindings.FilePath

/-- Whether a path starts at the root of all directories. -/
def isAbsolute (path : String) : Bool :=
  path.toList.head? == some '/'

/-- A path as seen from another one: below it, unless it starts at the root. -/
def join (base name : String) : String :=
  if base.isEmpty || isAbsolute name then name
  else if base.toList.getLast? = some '/' then base ++ name
  else base ++ "/" ++ name

/-- Whether a piece leads nowhere else. -/
def isHere (piece : String) : Bool :=
  piece.isEmpty || piece == "."

/-- Whether a piece leads to the directory above. -/
def isAbove (piece : String) : Bool :=
  piece == ".."

/-- The pieces of a path, the slash of an absolute one aside. -/
def pieces (path : String) : List String :=
  let all := Text.splitAt '/' path
  if isAbsolute path then all.tail else all

/-- The path of some pieces, which may start at the root. -/
def ofPieces (fromRoot : Bool) (pieces : List String) : String :=
  (if fromRoot then "/" else "") ++ Text.join "/" pieces

/-- The pieces of the paths above one, the nearest first.  The pieces of a path come last first; a
path above another one ends in neither an empty piece nor a single dot. -/
def piecesAbove : List String → List (List String)
  | [] => []
  | piece :: rest =>
    if isHere piece then piecesAbove rest else rest.dropWhile isHere :: piecesAbove rest

/-- A path and the ones above it, the nearest first.  Nothing is looked up: what stands before two
dots is above them. -/
def ancestors (path : String) : List String :=
  path :: (piecesAbove (pieces path).reverse).map fun above =>
    ofPieces (isAbsolute path) above.reverse

/-- A path without the pieces at its start that say nothing. -/
def withoutLead (path : String) : String :=
  if isAbsolute path then path else ofPieces false ((pieces path).dropWhile isHere)

/-- The pieces of a path before its last one, the last one, and whether a slash follows it. -/
def splitLast (path : String) : List String × String × Bool :=
  let reversed := (pieces path).reverse
  match reversed.dropWhile String.isEmpty with
  | [] => ([], ".", false)
  | last :: before => (before.reverse, last, reversed.head? == some "")

end EngineBindings.FilePath
