import EnvLoader.Bindings
import EnvLoader.Bytes
import EnvLoader.Files.Fault
import EnvLoader.Files.Path

/-! Trees of files as values: every location holds at most one entry, and paths lead to
locations by way of directories and links. -/
namespace EnvLoader.Files

/-- A place in a tree: the names on the way from the root. -/
abbrev Location := List Bytes

/-- What is at a location. -/
inductive Entry where
  | directory
  | file (content : Bytes)
  /-- A link, which stands for what its target leads to. -/
  | link (target : String)
  deriving DecidableEq, Inhabited

/-- A tree of files with a current directory, where relative paths start. -/
structure Tree where
  entries : Bindings Location Entry := {}
  current : Location := []
  deriving DecidableEq, Inhabited

namespace Tree

/-- What is at a location. The root is always a directory. -/
def entry? (tree : Tree) (location : Location) : Option Entry :=
  if location = [] then some .directory else tree.entries.get? location

/-- The content of the file at a location. -/
def contentAt? (tree : Tree) (location : Location) : Option Bytes :=
  match tree.entry? location with
  | some (.file content) => some content
  | _ => none

/-- Puts an entry at a location. -/
def put (tree : Tree) (location : Location) (entry : Entry) : Tree :=
  { tree with entries := tree.entries.put location entry }

/-- Removes the entry at a location. -/
def erase (tree : Tree) (location : Location) : Tree :=
  { tree with entries := tree.entries.erase location }

/-- Makes a directory, with those on the way to it. What is there already stays. -/
def makeDirectory (tree : Tree) (location : Location) : Tree :=
  (List.range (location.length + 1)).foldl (fun tree depth =>
    let inner := location.take depth
    if (tree.entry? inner).isSome then tree else tree.put inner .directory) tree

/-- Puts an entry at a location, within a directory that is made if need be. -/
def plant (tree : Tree) (location : Location) (entry : Entry) : Tree :=
  (tree.makeDirectory location.dropLast).put location entry

/-- The files directly within a directory, with their names. Links are no files. -/
def filesIn (tree : Tree) (directory : Location) : List (Bytes × Bytes) :=
  tree.entries.entries.filterMap fun (location, entry) =>
    match entry, location.getLast? with
    | .file content, some name =>
      if location.dropLast = directory then some (name, content) else none
    | _, _ => none

/-- The files anywhere below a directory that differ from what they were in an earlier tree. -/
def changedSince (tree earlier : Tree) (directory : Location) : List (Location × Bytes) :=
  tree.entries.entries.filterMap fun (location, entry) =>
    match entry with
    | .file content =>
      if directory <+: location && earlier.entry? location ≠ some entry then
        some (location.drop directory.length, content)
      else none
    | _ => none

end Tree

/-- Where a path leads. -/
inductive Place where
  | directory (location : Location)
  | file (location : Location) (content : Bytes)
  /-- Nothing is there, but the directory that would hold it is. -/
  | vacant (location : Location)
  deriving DecidableEq, Inhabited

/-- The number of links that a path may lead through. -/
def maxLinks : Nat := 40

/-- The number of bytes that a name may have. -/
def maxNameSize : Nat := 255

/-- The number of bytes that a path may have. -/
def maxPathSize : Nat := 4095

/-- Follows the parts of a path from a directory on. With a floor, the path has to stay
below that directory. -/
def Tree.walk (tree : Tree) (floor : Option Location) (links : Nat) (location : Location) :
    List PathPart → Except Fault Place
  | [] => return .directory location
  | .root :: rest =>
    if floor.isSome then throw .outside else tree.walk floor links [] rest
  | .here :: rest => tree.walk floor links location rest
  | .up :: rest =>
    if floor = some location then throw .outside
    else tree.walk floor links location.dropLast rest
  | .name name :: rest =>
    if name.utf8ByteSize > maxNameSize then throw .nameTooLong
    else
      let inner := location ++ [.text name]
      match tree.entry? inner with
      | none => if rest.isEmpty then return .vacant inner else throw .notFound
      | some .directory => tree.walk floor links inner rest
      | some (.file content) =>
        if rest.isEmpty then return .file inner content else throw .notDirectory
      | some (.link target) =>
        match links with
        | 0 => throw .linkLoop
        | links + 1 =>
          if target.isEmpty then throw .notFound
          else tree.walk floor links location (pathParts target ++ rest)
termination_by parts => (links, parts.length)

/-- The parts of a path that can be followed. -/
def usableParts (path : String) : Except Fault (List PathPart) :=
  if path.isEmpty then throw .notFound
  else if path.toList.contains '\x00' then throw .hasNul
  else if path.utf8ByteSize > maxPathSize then throw .nameTooLong
  else return pathParts path

/-- Where parts lead from the current directory. -/
def Tree.follow (tree : Tree) (parts : List PathPart) : Except Fault Place :=
  tree.walk none maxLinks tree.current parts

/-- Where a path leads from the current directory. -/
def Tree.find (tree : Tree) (path : String) : Except Fault Place := do
  tree.follow (← usableParts path)

/-- The directory that a place is. -/
def Place.asDirectory : Place → Except Fault Location
  | .directory location => return location
  | .file _ _ => throw .notDirectory
  | .vacant _ => throw .notFound

end EnvLoader.Files
