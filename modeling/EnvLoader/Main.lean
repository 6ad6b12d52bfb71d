import EnvLoader.Command.Run

/-! The command line: reads the arguments and the sources, and writes what was planned. -/
namespace EnvLoader.Command

/-- The variables that stand for options, as the process has them. -/
def processEnvironment : IO Environment := do
  let names := CommandOption.all.filterMap CommandOption.environmentName?
  let settings ← names.filterMapM fun name => do
    return (← IO.getEnv name).map fun value => (name, Bytes.text value)
  return .ofList settings

/-- Says at which path an action failed. -/
def atPath {α : Type} (path : String) (action : IO α) : IO α :=
  try action catch error => throw (IO.userError s!"I/O error at {path}: {error}")

/-- Goes on with a result, or fails with its error. -/
def orFail {α : Type} : Except RunError α → IO α
  | .ok value => pure value
  | .error error => throw (IO.userError error.message)

/-- The names of the files directly within a directory. -/
def fileNames (directory : String) : IO (List Bytes) := do
  let entries ← (← IO.FS.realPath directory).readDir
  let files ← entries.toList.filterM fun entry => do
    return (← entry.path.symlinkMetadata).type == .file
  return files.map fun file => .text file.fileName

/-- Reads the sources of a run. -/
def readSources (arguments : Arguments) : IO (List (String × Bytes)) := do
  let directory := arguments.directory
  let names ← atPath directory (fileNames directory)
  let sources ← orFail (sourceNames directory arguments.file names)
  sources.mapM fun name => do
    let path := Files.joinPath directory name
    return (path, Bytes.ofList (← atPath path (IO.FS.readBinFile path)).toList)

/-- Writes a file. -/
def writeText (path text : String) : IO Unit := do
  if (Files.fileName? path).isNone then orFail (.error (.file path .noFileName))
  atPath path (IO.FS.writeFile path text)

/-- Runs the command on the files of the process. -/
def runProcess (arguments : Arguments) : IO Unit := do
  let plan ← orFail (planRun arguments (← readSources arguments))
  writeText plan.output plan.generated.source
  if let some path := arguments.exampleFile then writeText path plan.generated.exampleText

end EnvLoader.Command

open EnvLoader.Command in
/-- The command. -/
def main (arguments : List String) : IO UInt32 := do
  let commandLine := EnvLoader.Bytes.text "cargo-envgen" :: arguments.map EnvLoader.Bytes.text
  match readArguments (dropSubcommand commandLine) (← processEnvironment) with
  | .error .help =>
    IO.println UsageError.help.message
    return 0
  | .error .version =>
    IO.println UsageError.version.message
    return 0
  | .error error =>
    IO.eprintln error.message
    return 2
  | .ok arguments =>
    try
      runProcess arguments
      return 0
    catch error =>
      IO.eprintln error
      return 1
