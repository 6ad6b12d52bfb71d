import EnvLoader.Example
import EnvLoader.Layout.File
import EnvLoader.Nesting

/-! Generating a loader: from the root on, every record that is reached is analysed and
implemented, in the order in which it is reached; what the implementations need is put
around them, and the whole is laid out as a file. -/
namespace EnvLoader
open Source Loader

/-- What a run gives. -/
structure Generated where
  /-- The loader. -/
  source : String
  /-- The example environment. -/
  exampleText : String
  /-- The records in the order in which they were implemented. -/
  records : List String
  /-- Options that have no effect. -/
  warnings : List Warning
  deriving DecidableEq, Repr, Inhabited

/-- The comment above a generated file. -/
def fileHeader (root : String) (sourceLabel : Option String) : String :=
  let source :=
    match sourceLabel with
    | some label => " in " ++ label
    | none => ""
  "// Code generated by envgen from `" ++ root ++ "`" ++ source ++ ". DO NOT EDIT.\n\n"

/-- The text of a file with its header, for tokens that make up a file. -/
def fileText (header : String) (tokens : List Token) : Except GenerationError String :=
  match Layout.formatted? tokens with
  | some text => return header ++ text
  | none => throw (.unformattable (textOf tokens))

/-- What was made of the records so far. -/
structure Expansion where
  plans : List RecordPlan := []
  implementations : List Implementation := []
  nesting : Nesting := {}

/-- Notes that a record nests the records of its settings. -/
def Nesting.addPlan (nesting : Nesting) (plan : RecordPlan) : Nesting :=
  plan.nested.foldl (fun nesting inner => nesting.add plan.name inner) (nesting.touch plan.name)

/-- Analyses and implements a record. -/
def Expansion.addRecord (schema : Schema) (expansion : Expansion) (name : String) :
    Step Expansion := do
  let some record := schema.get? name | throw (.recordNotFound name)
  let plan ← Session.analyze record (name == (← get).config.root) schema
  let implementation ← Session.implement plan
  return {
    plans := expansion.plans ++ [plan]
    implementations := expansion.implementations ++ [implementation]
    nesting := expansion.nesting.addPlan plan }

/-- Takes out one record after the other until none waits. A record waits once only and
all that wait are in the schema, so its size bounds the number of rounds. -/
def expand (schema : Schema) : Nat → Expansion → Step Expansion
  | 0, expansion => return expansion
  | rounds + 1, expansion => do
    match (← get).queue.pop? with
    | none => return expansion
    | some (name, queue) =>
      modify fun session => { session with queue }
      expand schema rounds (← expansion.addRecord schema name)

/-- The records reached from the root, expanded. -/
def expandAll (schema : Schema) (root : String) : Step Expansion := do
  modify fun session => { session with queue := session.queue.add root }
  expand schema (schema.size + 1) {}

/-- The loader of a run. -/
def Session.program (session : Session) (implementations : List Implementation) :
    Except GenerationError Program := do
  let imports ← session.imports.trees
  let error ← session.errors.enumeration session.error
  return ⟨imports, error, implementations, ← session.parsers.functions⟩

/-- A loader before it is written down, with the plans of its records. -/
structure Assembly where
  program : Program
  plans : List RecordPlan

/-- Assembles the loader of a schema. -/
def assemble (schema : Schema) (config : Config) (converters : Converters) :
    Except GenerationError Assembly := do
  if !schema.contains config.root then throw (.rootNotFound config.root)
  let session ← Session.start config converters
  let (expansion, session) := (expandAll schema config.root).run session
  let expansion ← expansion
  if let some cycle := expansion.nesting.findCycle then throw (.cyclic cycle)
  return ⟨← session.program expansion.implementations, expansion.plans⟩

/-- Generates the loader of a schema. Nothing is given out before all of it is made. -/
def generate (schema : Schema) (config : Config) (converters : Converters) :
    Except GenerationError Generated := do
  let assembly ← assemble schema config converters
  let source ← fileText (fileHeader config.root config.sourceLabel) assembly.program.tokens
  return {
    source
    exampleText := renderExample config.root assembly.plans converters
    records := assembly.plans.map (·.name)
    warnings := assembly.plans.flatMap (·.warnings) }

end EnvLoader
