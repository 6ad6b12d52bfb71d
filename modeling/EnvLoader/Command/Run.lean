import EnvLoader.Command.Arguments
import EnvLoader.Files.Access
import EnvLoader.Generate
import EnvLoader.Schema.Extract

/-! A run of the command: it reads the sources of a directory, generates the loader and
writes it, and the example environment if that is asked for. Everything is generated before
anything is written. -/
namespace EnvLoader.Command
open Files

/-- Why a run fails. -/
inductive RunError where
  | generation (error : GenerationError)
  | noSources (directory : String)
  | missingRootSource (root : String)
  | file (path : String) (fault : Fault)
  deriving DecidableEq, Repr, Inhabited

/-- The message of an error, given how faults of files are told. -/
def RunError.messageWith (tell : Fault → String) : RunError → String
  | .generation error => error.message
  | .noSources directory => s!"no Rust source files found in {directory}"
  | .missingRootSource root => s!"cannot derive an output path for '{root}'; pass --file"
  | .file path fault => s!"I/O error at {path}: {tell fault}"

/-- The message of an error. -/
def RunError.message : RunError → String := messageWith Fault.message

/-- What the names of sources end with. -/
def sourceSuffix : String := ".rs"

/-- What the names of generated files end with. They are not read as sources. -/
def generatedSuffix : String := "_gen.rs"

/-- Whether a file of a directory is a source: not a generated one, and not the one that the
loader is to be written to. -/
def isSource (directory : String) (output : Option String) (name : String) : Bool :=
  name.endsWith sourceSuffix && !name.endsWith generatedSuffix &&
    !output.any (samePath (joinPath directory name))

/-- The names among those of a directory's files that are sources, in order. -/
def sourceNames (directory : String) (output : Option String) (names : List Bytes) :
    Except RunError (List String) := do
  let names ← names.mapM fun name =>
    match name.text? with
    | some name => .ok name
    | none => .error (.file directory .nameNotText)
  match (names.filter (isSource directory output)).mergeSort (· ≤ ·) with
  | [] => throw (.noSources directory)
  | names => return names

/-- Adds a source file to a schema. -/
def addSourceFile (schema : Schema) (path : String) (content : Bytes) : Except RunError Schema := do
  let some text := content.text? | throw (.file path .notText)
  match schema.addSource path text with
  | (schema, none) => return schema
  | (_, some error) => throw (.generation error)

/-- The file for the loader beside the source that declares the root. -/
def defaultOutput (schema : Schema) (root : String) : Except RunError String :=
  match (schema.origin? root).bind fun origin => (fileStem? origin).map (origin, ·) with
  | some (origin, stem) => return withFileName origin (stem ++ generatedSuffix)
  | none => throw (.missingRootSource root)

/-- What a run is going to write. -/
structure Plan where
  output : String
  generated : Generated
  deriving DecidableEq, Repr, Inhabited

/-- Generates a loader from sources, which are given with their paths. -/
def planRun (arguments : Arguments) (sources : List (String × Bytes)) : Except RunError Plan := do
  let schema ← sources.foldlM (fun schema (path, content) => addSourceFile schema path content) {}
  if !schema.contains arguments.config then
    throw (.generation (.rootNotFound arguments.config))
  let output ←
    match arguments.file with
    | some file => pure file
    | none => defaultOutput schema arguments.config
  let config := arguments.toConfig (schema.origin? arguments.config)
  match generate schema config .builtin with
  | .ok generated => return ⟨output, generated⟩
  | .error error => throw (.generation error)

/-- The sources of a run, with their paths. -/
def findSources (arguments : Arguments) (tree : Tree) :
    Except RunError (List (String × Bytes)) := do
  let directory := arguments.directory
  let location ← (tree.openDirectory directory).mapError (.file directory)
  let names ← sourceNames directory arguments.file ((tree.filesIn location).map (·.1))
  names.mapM fun name =>
    let path := joinPath directory name
    match tree.contentAt? (location ++ [.text name]) with
    | some content => .ok (path, content)
    | none => .error (.file path .notFound)

/-- The directory that a file is written to. -/
def outputDirectory (path : String) : String :=
  match parent? path with
  | some "" | none => "."
  | some parent => parent

/-- Writes a file, in place of what was there. -/
def writeFile (tree : Tree) (path text : String) : Except RunError Tree := do
  let some name := fileName? path | throw (.file path .noFileName)
  let parent := outputDirectory path
  let directory ← (tree.openDirectory parent).mapError (.file parent)
  (tree.writeWithin directory name text).mapError (.file path)

/-- What a run has written. -/
structure Outcome where
  output : String
  exampleFile : Option String
  records : List String
  deriving DecidableEq, Repr, Inhabited

/-- Writes what was planned. What is written stays even if the next file fails. -/
def Plan.write (plan : Plan) (exampleFile : Option String) (tree : Tree) :
    Except RunError Outcome × Tree :=
  let outcome : Outcome := ⟨plan.output, exampleFile, plan.generated.records⟩
  match writeFile tree plan.output plan.generated.source with
  | .error error => (.error error, tree)
  | .ok tree =>
    match exampleFile with
    | none => (.ok outcome, tree)
    | some path =>
      match writeFile tree path plan.generated.exampleText with
      | .error error => (.error error, tree)
      | .ok tree => (.ok outcome, tree)

/-- Runs the command on a tree. -/
def run (arguments : Arguments) (tree : Tree) : Except RunError Outcome × Tree :=
  match findSources arguments tree >>= planRun arguments with
  | .error error => (.error error, tree)
  | .ok plan => plan.write arguments.exampleFile tree

end EnvLoader.Command
