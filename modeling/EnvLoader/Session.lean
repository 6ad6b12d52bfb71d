import EnvLoader.Discovery
import EnvLoader.Setting

/-! The state of one run: what the generated code needs beside its constructors, in the
order in which the need arose. -/
namespace EnvLoader
open Source Loader

/-- What to generate. -/
structure Config where
  /-- The record to load. -/
  root : String
  /-- The import that brings the records into scope. -/
  scope : String := "super::*"
  /-- The name of the error enumeration. -/
  errorType : String := "EnvError"
  /-- Where the root is declared, for the header. -/
  sourceLabel : Option String := none
  deriving DecidableEq, Repr, Inhabited

/-- A parser function by its traits, with the converter it uses. -/
structure ParserRequest where
  converter : Converter
  isList : Bool
  isRequired : Bool
  deriving DecidableEq, Repr, Inhabited

/-- The name of a parser function, which tells its traits. -/
def ParserRequest.name (request : ParserRequest) : String :=
  "parse_" ++ request.converter.name ++ (if request.isList then "_slice" else "") ++
    (if request.isRequired then "_required" else "_optional")

/-- The parser function that a request asks for, under a given name. -/
def ParserRequest.function (request : ParserRequest) (name : String) :
    Except GenerationError ParserFn := do
  let name ← nameFor .parserName name
  let type ← typeFor .converterType request.converter.typeText
  return ⟨name, type, request.isList, request.isRequired, request.converter.conversion⟩

/-- The case of the error enumeration that a variant asks for. -/
def ErrorVariant.case (variant : ErrorVariant) : Except GenerationError ErrorCase := do
  let name ← nameFor .errorVariant variant.name
  let source ← variant.source.mapM (typeFor .errorSourceType)
  return ⟨name, variant.message, source⟩

/-- The imports asked for, each once. -/
abbrev Imports := Registry Unit

/-- Asks for an import. -/
def Imports.require (imports : Imports) (path : String) : Imports := imports.add path ()

/-- The imports as trees. -/
def Imports.trees (imports : Imports) : Except GenerationError (List UseTree) :=
  imports.names.mapM fun path =>
    match useTreeOfText? path with
    | some tree => return tree
    | none => throw (.invalidCode .importPath path)

/-- The error variants asked for, by name. -/
abbrev ErrorVariants := Registry ErrorVariant

/-- Asks for a variant. -/
def ErrorVariants.require (variants : ErrorVariants) (variant : ErrorVariant) : ErrorVariants :=
  variants.add variant.name variant

/-- The error enumeration of the variants. -/
def ErrorVariants.enumeration (variants : ErrorVariants) (name : String) :
    Except GenerationError ErrorEnum := do
  return ⟨name, ← variants.values.mapM (·.case)⟩

/-- The parser functions asked for, by name. -/
abbrev Parsers := Registry ParserRequest

/-- Asks for a parser function. -/
def Parsers.require (parsers : Parsers) (request : ParserRequest) : Parsers :=
  parsers.add request.name request

/-- The parser functions. -/
def Parsers.functions (parsers : Parsers) : Except GenerationError (List ParserFn) :=
  parsers.entries.mapM fun (name, request) => request.function name

/-- The state of a run. -/
structure Session where
  config : Config
  /-- The name of the error enumeration. -/
  error : String
  converters : Converters
  queue : Discovery := {}
  imports : Imports := {}
  errors : ErrorVariants := {}
  parsers : Parsers := {}

/-- Starts a run: the records' scope is the first import. -/
def Session.start (config : Config) (converters : Converters) : Except GenerationError Session := do
  let error ← nameFor .errorType config.errorType
  return { config, error, converters, imports := Imports.require {} config.scope }

/-- A step of a run, which may fail; what it asked for before that stays asked for. -/
abbrev Step := ExceptT GenerationError (StateM Session)

/-- Fails as a computation without state does. -/
def Step.lift {α : Type} (result : Except GenerationError α) : Step α := liftM result

/-- Asks for all that reading a setting takes, and gives the name of its parser function. -/
def Session.parserFor (setting : Setting) (record : String) : Step String := do
  let some converter := (← get).converters.find? setting.type
    | throw (.unknownType record setting.name setting.type)
  let request : ParserRequest := ⟨converter, setting.isList, setting.isRequired⟩
  modify fun session =>
    let errors := converter.errors.foldl ErrorVariants.require session.errors
    let errors := errors.require .notUnicode
    { session with
      imports :=
        Imports.require (converter.imports.foldl Imports.require session.imports) "std::env"
      errors := if setting.isRequired then errors.require .keyNotFound else errors
      parsers := session.parsers.require request }
  Step.lift (nameFor .parserName request.name)

end EnvLoader
