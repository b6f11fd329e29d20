import EngineBindings.File.Path

/-!
# File trees

A directory with the files and directories below it, and the operations of a file system on it.
Every directory on the way of a path has to be there, even where two dots lead out of it again.  The
operations that take one step change nothing when they fail; those that take several keep what was
done before a failure.
-/

namespace EngineBindings

/-- What a path names. -/
inductive FileEntry where
  | file (contents : String)
  | directory
  deriving DecidableEq, Inhabited

/-- Why a file operation fails. -/
inductive FileError where
  | notFound
  | notADirectory
  | isADirectory
  | alreadyExists
  /-- A name that is too long. -/
  | invalidFilename
  /-- A path with a character that no path can have. -/
  | invalidInput
  deriving DecidableEq, Inhabited

namespace FileError

/-- The text of a failure. -/
def message : FileError → String
  | notFound => "No such file or directory (os error 2)"
  | notADirectory => "Not a directory (os error 20)"
  | isADirectory => "Is a directory (os error 21)"
  | alreadyExists => "File exists (os error 17)"
  | invalidFilename => "File name too long (os error 36)"
  | invalidInput => "file name contained an unexpected NUL byte"

/-- The name of the kind of a failure. -/
def kind : FileError → String
  | notFound => "NotFound"
  | notADirectory => "NotADirectory"
  | isADirectory => "IsADirectory"
  | alreadyExists => "AlreadyExists"
  | invalidFilename => "InvalidFilename"
  | invalidInput => "InvalidInput"

end FileError

/-- Where something is: the names from the directory of a tree down to it.  Two dots come first for
what is above that directory, and a slash for what is found from the root of all directories. -/
abbrev Location := List String

namespace Location

/-- Whether a place is a directory whatever a tree holds. -/
def isGiven (l : Location) : Bool :=
  l.all (· == "..") || l == ["/"]

/-- The directory above a place; nothing is above the root. -/
def above (l : Location) : Location :=
  if l == ["/"] then l
  else if l.all (· == "..") then l ++ [".."]
  else l.dropLast

/-- The path of a place. -/
def path : Location → String
  | "/" :: names => FilePath.ofPieces true names
  | names => FilePath.ofPieces false names

/-- Whether a place is in the directory of the tree. -/
def isInside : Location → Bool
  | ".." :: _ => false
  | "/" :: _ => false
  | _ => true

end Location

/-- What a directory and others around it hold, by places. -/
structure FileTree where
  entries : List (Location × FileEntry)
  deriving Inhabited

namespace FileTree

/-- An empty directory. -/
def empty : FileTree :=
  ⟨[]⟩

/-- What is at a place. -/
def entry? (t : FileTree) (l : Location) : Option FileEntry :=
  if l.isGiven then some .directory else t.entries.lookup l

/-- Puts an entry at a place. -/
def put (t : FileTree) (l : Location) (entry : FileEntry) : FileTree :=
  if (t.entries.lookup l).isSome then
    ⟨t.entries.map fun old => if old.1 == l then (l, entry) else old⟩
  else ⟨t.entries ++ [(l, entry)]⟩

/-! ## Finding -/

/-- The greatest number of bytes of a name. -/
def nameLimit : Nat := 255

/-- The greatest number of bytes of a path. -/
def pathLimit : Nat := 4095

/-- A place if it is a directory. -/
def directory (t : FileTree) (l : Location) : Except FileError Location :=
  match t.entry? l with
  | some .directory => .ok l
  | some (.file _) => .error .notADirectory
  | none => .error .notFound

/-- Where a piece of a path leads from a place. -/
def step (t : FileTree) (l : Location) (piece : String) : Except FileError Location := do
  let l ← t.directory l
  if FilePath.isHere piece then return l
  else if FilePath.isAbove piece then return l.above
  else if nameLimit < piece.utf8ByteSize then throw .invalidFilename
  else return l ++ [piece]

/-- Where a path starts, if it can be one. -/
def start (path : String) : Except FileError Location :=
  if path.toList.contains '\x00' then .error .invalidInput
  else if pathLimit < path.utf8ByteSize then .error .invalidFilename
  else .ok (if FilePath.isAbsolute path then ["/"] else [])

/-- Where a path leads; nothing has to be there. -/
def locate (t : FileTree) (path : String) : Except FileError Location := do
  (FilePath.pieces path).foldlM t.step (← start path)

/-- What a path names. -/
def find (t : FileTree) (path : String) : Except FileError FileEntry := do
  match t.entry? (← t.locate path) with
  | some entry => return entry
  | none => throw .notFound

/-- Whether a path names a file. -/
def isFile (t : FileTree) (path : String) : Bool :=
  match t.find path with
  | .ok (.file _) => true
  | _ => false

/-- Whether a path names a directory. -/
def isDirectory (t : FileTree) (path : String) : Bool :=
  match t.find path with
  | .ok .directory => true
  | _ => false

/-- The contents of a file. -/
def read (t : FileTree) (path : String) : Except FileError String := do
  match ← t.find path with
  | .file contents => return contents
  | .directory => throw .isADirectory

/-- The paths of all files in the directory of the tree, in their order as texts. -/
def files (t : FileTree) : List String :=
  let paths := t.entries.filterMap fun (l, entry) =>
    match entry with
    | .file _ => if l.isInside then some l.path else none
    | .directory => none
  paths.mergeSort fun a b => !decide (b < a)

/-! ## Changing -/

/-- Where the last piece of a path is looked up: the directory and the piece. -/
def approach (t : FileTree) (path : String) : Except FileError (Location × String) := do
  let (before, last, _) := FilePath.splitLast path
  return (← t.directory (← before.foldlM t.step (← start path)), last)

/-- Makes a directory. -/
def makeDirectory (t : FileTree) (path : String) : Except FileError FileTree := do
  let (above, last) ← t.approach path
  if FilePath.isHere last || FilePath.isAbove last then throw .alreadyExists
  let l ← t.step above last
  if (t.entry? l).isSome then throw .alreadyExists
  return t.put l .directory

/-- Writes a file into a directory that is there. -/
def write (t : FileTree) (path contents : String) : Except FileError FileTree := do
  let (above, last) ← t.approach path
  let (_, _, endsInSlash) := FilePath.splitLast path
  if FilePath.isHere last || FilePath.isAbove last || endsInSlash then throw .isADirectory
  let l ← t.step above last
  if t.entry? l = some .directory then throw .isADirectory
  return t.put l (.file contents)

/-- Removes a file. -/
def remove (t : FileTree) (path : String) : Except FileError FileTree := do
  let (above, last) ← t.approach path
  let (_, _, endsInSlash) := FilePath.splitLast path
  if FilePath.isHere last || FilePath.isAbove last then throw .isADirectory
  let l ← t.step above last
  match t.entry? l with
  | none => throw .notFound
  | some .directory => throw .isADirectory
  | some (.file _) =>
    if endsInSlash then throw .notADirectory
    return ⟨t.entries.filter fun old => old.1 != l⟩

/-- Makes the first of some directories, each of which is below the next one, after the others if
they are missing. -/
def makeDirectoriesFrom (t : FileTree) : List String → FileTree × Except FileError Unit
  | [] => (t, .ok ())
  | path :: above =>
    let again (t : FileTree) : FileTree × Except FileError Unit :=
      match t.makeDirectory path with
      | .ok t => (t, .ok ())
      | .error e => (t, if t.isDirectory path then .ok () else .error e)
    if path.isEmpty then (t, .ok ())
    else
      match t.makeDirectory path with
      | .error .notFound =>
        match t.makeDirectoriesFrom above with
        | (t, .ok ()) => again t
        | failed => failed
      | _ => again t

/-- Makes a directory and those above it as needed. -/
def makeDirectories (t : FileTree) (path : String) : FileTree × Except FileError Unit :=
  t.makeDirectoriesFrom (FilePath.ancestors path)

/-- Writes a file and makes the directories above it as needed. -/
def writeBelow (t : FileTree) (path contents : String) : FileTree × Except FileError Unit :=
  match t.makeDirectoriesFrom (FilePath.ancestors path).tail with
  | (t, .error e) => (t, .error e)
  | (t, .ok ()) =>
    match t.write path contents with
    | .ok t => (t, .ok ())
    | .error e => (t, .error e)

/-- Writes a file unless it has these contents already, and says whether it did.  Directories above
it are made as needed. -/
def writeIfChanged (t : FileTree) (path contents : String) : FileTree × Except FileError Bool :=
  let written :=
    let (t, result) := t.writeBelow path contents
    (t, result.map fun () => true)
  match t.read path with
  | .ok old => if old = contents then (t, .ok false) else written
  | .error .notFound => written
  | .error e => (t, .error e)

end FileTree

end EngineBindings
