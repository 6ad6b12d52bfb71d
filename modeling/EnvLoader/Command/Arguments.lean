import EnvLoader.Environment
import EnvLoader.Session

/-! The arguments of the command. Options come from the command line, then from variables
of the environment, then from their defaults. -/
namespace EnvLoader.Command

/-- What a run of the command is asked to do. -/
structure Arguments where
  /-- The directory with the sources. -/
  directory : String := "."
  /-- The root record. -/
  config : String
  /-- The file for the loader; without it, one beside the source of the root. -/
  file : Option String := none
  /-- The file for the example environment. -/
  exampleFile : Option String := none
  scope : String := "super::*"
  errorType : String := "EnvError"
  isVerbose : Bool := false
  deriving DecidableEq, Repr, Inhabited

/-- What a loader is generated from, given where its root is declared. -/
def Arguments.toConfig (arguments : Arguments) (origin : Option String) : Config where
  root := arguments.config
  scope := arguments.scope
  errorType := arguments.errorType
  sourceLabel := origin

/-- Why a command line is not accepted, or what it asks for instead of a run. -/
inductive UsageError where
  | missingRequired
  | unknownArgument
  /-- An option lacks its value, or a variable holds none that is possible. -/
  | invalidValue
  /-- An option is given twice. -/
  | conflict
  /-- A flag is given a value. -/
  | tooManyValues
  | notUnicode
  | help
  | version
  deriving DecidableEq, Repr, Inhabited

/-- What is said about a command line that is not accepted. -/
def UsageError.message : UsageError → String
  | .missingRequired => "the option --config is required"
  | .unknownArgument => "there is an argument that is not known"
  | .invalidValue => "an option has no value, or one that is not possible"
  | .conflict => "an option is given twice"
  | .tooManyValues => "a flag is given a value"
  | .notUnicode => "a value is no text"
  | .help =>
    "Usage: cargo envgen [--dir path] --config Type [--file path] [--env path] " ++
      "[--scope path] [--error-type Name] [--verbose]"
  | .version => "cargo-envgen 0.1.0"

/-- The options of the command. -/
inductive CommandOption where
  | directory
  | config
  | file
  | exampleFile
  | scope
  | errorType
  | verbose
  | help
  | version
  deriving DecidableEq, Repr, Inhabited

namespace CommandOption

/-- The options in the order in which variables are looked up for them. -/
def all : List CommandOption :=
  [directory, config, file, exampleFile, scope, errorType, verbose, help, version]

/-- The letter of an option. -/
def letter? : CommandOption → Option Char
  | directory => some 'd'
  | config => some 'c'
  | file => some 'f'
  | exampleFile => some 'e'
  | verbose => some 'v'
  | help => some 'h'
  | version => some 'V'
  | scope | errorType => none

/-- The word of an option. -/
def word : CommandOption → String
  | directory => "dir"
  | config => "config"
  | file => "file"
  | exampleFile => "env"
  | scope => "scope"
  | errorType => "error-type"
  | verbose => "verbose"
  | help => "help"
  | version => "version"

/-- The variable that stands for an option that is not given. -/
def environmentName? : CommandOption → Option String
  | directory => some "ENVGEN_DIR"
  | config => some "ENVGEN_CONFIG"
  | file => some "ENVGEN_FILE"
  | exampleFile => some "ENVGEN_ENV"
  | scope => some "ENVGEN_SCOPE"
  | errorType => some "ENVGEN_ERROR_TYPE"
  | verbose => some "ENVGEN_VERBOSE"
  | help | version => none

/-- Whether an option stands alone. -/
def isFlag : CommandOption → Bool
  | verbose | help | version => true
  | _ => false

/-- The option of a letter. -/
def ofLetter? (letter : UInt8) : Option CommandOption :=
  all.find? fun option => option.letter?.map Char.toUInt8 = some letter

/-- The option of a word. -/
def ofWord? (word : List UInt8) : Option CommandOption :=
  all.find? fun option => option.word.toUTF8.toList = word

end CommandOption

/-- What was read of a command line so far. -/
structure Reading where
  /-- The options that were given, with their values. A flag that was given is true. -/
  given : List (CommandOption × String) := []
  /-- The option given last, with its value once there is one. It counts as given when the
  next option comes, or at the end. -/
  pending : Option (CommandOption × Option Bytes) := none
  /-- Whether the options are over. -/
  isOver : Bool := false
  deriving Inhabited

namespace Reading

/-- The value of an option that was given. -/
def value? (reading : Reading) (option : CommandOption) : Option String :=
  (reading.given.find? (·.1 = option)).map (·.2)

/-- Gives an option a value. -/
def give (reading : Reading) (option : CommandOption) (value : Bytes) :
    Except UsageError Reading :=
  if (reading.value? option).isSome then throw .conflict
  else
    match value.text? with
    | some value => return { reading with given := reading.given ++ [(option, value)] }
    | none => throw .notUnicode

/-- Gives the pending option the value it has got. -/
def settle (reading : Reading) : Except UsageError Reading :=
  match reading.pending with
  | none => return reading
  | some (_, none) => throw .invalidValue
  | some (option, some value) => { reading with pending := none }.give option value

/-- Gives a flag. -/
def giveFlag (reading : Reading) (option : CommandOption) : Except UsageError Reading := do
  let reading ← reading.settle
  match option with
  | .help => throw .help
  | .version => throw .version
  | option => reading.give option (.text "true")

/-- Gives an option the value that it comes with, or waits for one. -/
def giveOption (reading : Reading) (option : CommandOption) (value : Option Bytes) :
    Except UsageError Reading := do
  let reading ← reading.settle
  match value with
  | some value => reading.give option value
  | none => return { reading with pending := some (option, none) }

/-- Reads the letters of an argument. An option that takes a value takes all that follows
it, without an equals sign between them. -/
def readLetters (reading : Reading) : List UInt8 → Except UsageError Reading
  | [] => return reading
  | letter :: rest =>
    match CommandOption.ofLetter? letter with
    | none => throw .unknownArgument
    | some option => do
      if option.isFlag then (← reading.giveFlag option).readLetters rest
      else if rest.isEmpty then reading.giveOption option none
      else
        let value := if rest.head? = some '='.toUInt8 then rest.tail else rest
        reading.giveOption option (some (.ofList value))

/-- Reads an argument that is a word, with or without a value behind an equals sign. -/
def readWord (reading : Reading) (argument : List UInt8) : Except UsageError Reading :=
  let word := argument.takeWhile (· ≠ '='.toUInt8)
  let value :=
    match argument.dropWhile (· ≠ '='.toUInt8) with
    | [] => none
    | _ :: value => some (Bytes.ofList value)
  match CommandOption.ofWord? word with
  | none => throw .unknownArgument
  | some option =>
    if option.isFlag then
      if value.isSome then throw .tooManyValues else reading.giveFlag option
    else reading.giveOption option value

/-- Reads an argument that is no option: the value that the pending option waits for. -/
def readValue (reading : Reading) (argument : Bytes) : Except UsageError Reading :=
  match reading.pending with
  | some (option, none) => return { reading with pending := some (option, some argument) }
  | _ => throw .unknownArgument

/-- Reads an argument. A lone hyphen is a value, and two hyphens end the options. -/
def readArgument (reading : Reading) (argument : Bytes) : Except UsageError Reading :=
  let hyphen := '-'.toUInt8
  if reading.isOver then throw .unknownArgument
  else
    match argument.toList with
    | first :: second :: rest =>
      if first = hyphen then
        if second = hyphen then
          if rest.isEmpty then return { reading with isOver := true } else reading.readWord rest
        else reading.readLetters (second :: rest)
      else reading.readValue argument
    | _ => reading.readValue argument

/-- Looks up an option that was not given in the environment. -/
def consult (environment : Environment) (reading : Reading) (option : CommandOption) :
    Except UsageError Reading :=
  if (reading.value? option).isSome then return reading
  else
    match option.environmentName?.bind environment.get? with
    | none => return reading
    | some value =>
      if option.isFlag && value ≠ .text "true" && value ≠ .text "false" then throw .invalidValue
      else reading.give option value

/-- The arguments that were read. -/
def arguments (reading : Reading) : Except UsageError Arguments :=
  match reading.value? .config with
  | none => throw .missingRequired
  | some config =>
    let defaults : Arguments := { config }
    return {
      config
      directory := (reading.value? .directory).getD defaults.directory
      file := reading.value? .file
      exampleFile := reading.value? .exampleFile
      scope := (reading.value? .scope).getD defaults.scope
      errorType := (reading.value? .errorType).getD defaults.errorType
      isVerbose := reading.value? .verbose = some "true" }

end Reading

/-- The name under which the build tool calls the command. -/
def subcommand : String := "envgen"

/-- The command line without the name that the build tool puts behind that of the program. -/
def dropSubcommand : List Bytes → List Bytes
  | program :: argument :: rest =>
    if argument = .text subcommand then program :: rest else program :: argument :: rest
  | arguments => arguments

/-- The arguments of a command line, which starts with the name of the program. -/
def readArguments (commandLine : List Bytes) (environment : Environment) :
    Except UsageError Arguments := do
  let reading ← commandLine.tail.foldlM Reading.readArgument {}
  let reading ← reading.settle
  let reading ← CommandOption.all.foldlM (Reading.consult environment) reading
  reading.arguments

end EnvLoader.Command
