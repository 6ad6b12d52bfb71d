import EnvLoader.Text.Lines
import EnvLoader.Text.CharClass

/-! Paths. A path is a text whose parts stand between slashes. Taking a path apart and
comparing paths asks nothing of the files; where a path leads is said elsewhere. -/
namespace EnvLoader.Files
open Text

/-- A part of a path. -/
inductive PathPart where
  /-- The root, from which absolute paths start. -/
  | root
  /-- The directory itself. -/
  | here
  /-- The directory above. -/
  | up
  | name (name : String)
  deriving DecidableEq, Repr, Inhabited

/-- The part that a piece between slashes stands for. What is empty stands for nothing. -/
def PathPart.ofPiece? (piece : List Char) : Option PathPart :=
  if piece = [] then none
  else if piece = ['.'] then some .here
  else if piece = ['.', '.'] then some .up
  else some (.name (String.ofList piece))

/-- Whether a path starts at the root. -/
def isAbsolute (path : String) : Bool := path.toList.head? = some '/'

/-- Whether a path ends in a slash, so that it can only lead to a directory. -/
def endsInSlash (path : String) : Bool := path.toList.getLast? = some '/'

/-- The parts of a path, one after the other. A slash at the end asks for the directory
itself. -/
def pathParts (path : String) : List PathPart :=
  (if isAbsolute path then [.root] else []) ++
    (splitAt '/' path.toList).filterMap PathPart.ofPiece? ++
    (if endsInSlash path then [.here] else [])

/-- The parts that tell paths apart: a part that stays where it is counts only at the start. -/
def components (path : String) : List PathPart :=
  match pathParts path with
  | [] => []
  | first :: rest => first :: rest.filter (· ≠ .here)

/-- Whether two paths have the same components. -/
def samePath (first second : String) : Bool := components first = components second

/-- The name a path ends with, if it ends with a name. -/
def fileName? (path : String) : Option String :=
  match (components path).getLast? with
  | some (.name name) => some name
  | _ => none

/-- Puts a relative path below a directory. -/
def joinPath (directory path : String) : String :=
  if directory.isEmpty || endsInSlash directory then directory ++ path
  else directory ++ "/" ++ path

/-- Whether a piece between slashes has no effect behind another one. -/
def isIdle (piece : List Char) : Bool := piece = [] || piece = ['.']

/-- The pieces of a path without the last one that has an effect, and without those around
it that have none. The first piece always stays. -/
def dropLastPiece : List (List Char) → List (List Char)
  | [] => []
  | first :: rest =>
    match rest.reverse.dropWhile isIdle with
    | [] => []
    | _ :: before => first :: (before.dropWhile isIdle).reverse

/-- The directory that holds what a path leads to. Only the root and the empty path have none. -/
def parent? (path : String) : Option String :=
  match components path with
  | [] | [.root] => none
  | _ =>
    match dropLastPiece (splitAt '/' path.toList) with
    | [[]] => some "/"
    | pieces => some (String.ofList (['/'].intercalate pieces))

/-- A path with another name at its end. -/
def withFileName (path name : String) : String := joinPath ((parent? path).getD path) name

/-- A file name without its ending. A name with no dot but one at the start has no ending. -/
def nameStem (name : String) : String :=
  let reversed := name.toList.reverse
  match reversed.dropWhile (· ≠ '.') with
  | [] | ['.'] => name
  | _ :: stem => String.ofList stem.reverse

/-- The name a path ends with, without its ending. -/
def fileStem? (path : String) : Option String := (fileName? path).map nameStem

end EnvLoader.Files
