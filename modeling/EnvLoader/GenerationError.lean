import EnvLoader.Schema.Options

/-! The reasons why no loader can be generated, and how they are told. -/
namespace EnvLoader
open Source

/-- What is wrong with the selector of a record. -/
inductive SelectorFault where
  | notString
  | noCandidates
  deriving DecidableEq, Repr, Inhabited

/-- How a fault of a selector is told after its name. -/
def SelectorFault.reason : SelectorFault → String
  | .notString => "must be declared as String"
  | .noCandidates => "has no nested record fields to choose from"

/-- The parts of generated code that come from the caller as text. -/
inductive CodePart where
  | errorType
  | importPath
  | errorVariant
  | errorSourceType
  | parserName
  | converterType
  | recordName
  | fieldName
  | buildType
  | buildMethod
  deriving DecidableEq, Repr, Inhabited

/-- What messages call a part of the code. -/
def CodePart.description : CodePart → String
  | .errorType => "error type"
  | .importPath => "import path"
  | .errorVariant => "error variant"
  | .errorSourceType => "error source type"
  | .parserName => "parser name"
  | .converterType => "converter type"
  | .recordName => "record name"
  | .fieldName => "field name"
  | .buildType => "build type"
  | .buildMethod => "build_with method"

/-- Why generation failed. -/
inductive GenerationError where
  | rootNotFound (name : String)
  | recordNotFound (name : String)
  | duplicateRecord (name : String)
  | unrecognizedShape (record field type : String)
  | unknownType (record field type : String)
  | cyclic (cycle : List String)
  | duplicateSelector (record first second : String)
  | invalidSelector (record field : String) (fault : SelectorFault)
  | choiceNotOptional (record field type : String)
  | invalidCode (part : CodePart) (text : String)
  | unreadable (origin : String) (fault : OptionFault)
  /-- The generated tokens, given as text, do not make up a file. -/
  | unformattable (tokens : String)
  deriving DecidableEq, Repr, Inhabited

/-- The message of an error. -/
def GenerationError.message : GenerationError → String
  | .rootNotFound name => s!"config type '{name}' not found"
  | .recordNotFound name => s!"record type '{name}' not found"
  | .duplicateRecord name => s!"record type '{name}' is declared more than once"
  | .unrecognizedShape record field type =>
    s!"unrecognized type `{type}` for field '{field}' in '{record}'"
  | .unknownType record field type => s!"unknown type '{type}' for field '{field}' in '{record}'"
  | .cyclic cycle => "cyclic type graph: " ++ " -> ".intercalate cycle
  | .duplicateSelector record first second =>
    s!"record '{record}' declares selectors '{first}' and '{second}'; only one is allowed"
  | .invalidSelector record field fault => s!"selector '{field}' in '{record}' {fault.reason}"
  | .choiceNotOptional record field type =>
    s!"choice field '{field}' in '{record}' must be declared as Option<{type}>"
  | .invalidCode part text => s!"invalid {part.description} `{text}`"
  | .unreadable origin fault =>
    match fault.message? with
    | some message => s!"failed to parse {origin}: {message}"
    | none => s!"failed to parse {origin}"
  | .unformattable _ => "error formatting generated code"

/-- The name a text spells, or the error that names the part it was meant for. -/
def nameFor (part : CodePart) (text : String) : Except GenerationError String :=
  match nameOfText? text with
  | some name => return name
  | none => throw (.invalidCode part text)

/-- The type a text spells, or the error that names the part it was meant for. -/
def typeFor (part : CodePart) (text : String) : Except GenerationError TypeExpr :=
  match typeOfText? text with
  | some type => return type
  | none => throw (.invalidCode part text)

end EnvLoader
