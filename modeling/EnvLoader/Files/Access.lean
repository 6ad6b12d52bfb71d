import EnvLoader.Files.Tree

/-! Reading and writing files of a tree. An operation that fails leaves the tree as it is. -/
namespace EnvLoader.Files
namespace Tree

/-- The location of a directory. -/
def openDirectory (tree : Tree) (path : String) : Except Fault Location := do
  (← tree.find path).asDirectory

/-- The text in a file. -/
def readText (tree : Tree) (path : String) : Except Fault String := do
  match ← tree.find path with
  | .directory _ => throw .isDirectory
  | .vacant _ => throw .notFound
  | .file _ (.text content) => return content
  | .file _ (.raw _) => throw .notText

/-- Makes an empty file unless there is one. A slash at the end asks for a directory, which
is not made. -/
def ensureFile (tree : Tree) (path : String) : Except Fault Tree := do
  let parts ← usableParts path
  if endsInSlash path then
    let outer :=
      match parts.dropLast.getLast? with
      | some (.name _) => parts.dropLast.dropLast
      | _ => parts
    let _ ← (← tree.follow outer).asDirectory
    throw .isDirectory
  else
    match ← tree.follow parts with
    | .directory _ => throw .isDirectory
    | .file _ _ => return tree
    | .vacant location => return tree.put location (.file (.text ""))

/-- Adds text at the end of a file that is there. -/
def appendText (tree : Tree) (path text : String) : Except Fault Tree := do
  match ← tree.find path with
  | .directory _ => throw .isDirectory
  | .vacant _ => throw .notFound
  | .file location content => return tree.put location (.file (content.append text))

/-- Replaces what a name within a directory leads to. A link may lead to another file, but
only to one below the directory. -/
def writeWithin (tree : Tree) (directory : Location) (name text : String) : Except Fault Tree := do
  if name.toList.contains '\x00' then throw .hasNul
  match ← tree.walk (some directory) maxLinks directory [.name name] with
  | .directory _ => throw .isDirectory
  | .file location _ | .vacant location => return tree.put location (.file (.text text))

/-- Removes a file or a link. A link is not followed, and a directory stays. -/
def removeFile (tree : Tree) (path : String) : Except Fault Tree := do
  let parts ← usableParts path
  match parts.getLast? with
  | some (.name name) =>
    let location := (← (← tree.follow parts.dropLast).asDirectory) ++ [.text name]
    match tree.entry? location with
    | none => throw .notFound
    | some .directory => throw .isDirectory
    | some (.file _) | some (.link _) => return tree.erase location
  | _ => throw .isDirectory

end Tree
end EnvLoader.Files
