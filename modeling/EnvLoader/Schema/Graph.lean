import EnvLoader.GenerationError

/-! Schemas: the records known to a run, in the order in which they came, each under its
own name and at most once. -/
namespace EnvLoader

/-- A record together with the source it was read from, if it was. -/
structure Declaration where
  record : Record
  origin : Option String
  deriving DecidableEq, Repr, Inhabited

/-- The known records in the order of their arrival. -/
structure Schema where
  declarations : List Declaration := []
  deriving DecidableEq, Repr, Inhabited

namespace Schema

/-- The declaration of a name. -/
def find? (schema : Schema) (name : String) : Option Declaration :=
  schema.declarations.find? (·.record.name = name)

/-- The record of a name. -/
def get? (schema : Schema) (name : String) : Option Record := (schema.find? name).map (·.record)

/-- Whether a name is a known record. -/
def contains (schema : Schema) (name : String) : Bool := (schema.find? name).isSome

/-- The source a record was read from. -/
def origin? (schema : Schema) (name : String) : Option String := (schema.find? name).bind (·.origin)

/-- The records in order. -/
def records (schema : Schema) : List Record := schema.declarations.map (·.record)

/-- The number of records. -/
def size (schema : Schema) : Nat := schema.declarations.length

/-- Adds a record at the end; a name that is already there is refused. -/
def insert (schema : Schema) (record : Record) (origin : Option String) :
    Except GenerationError Schema :=
  if schema.contains record.name then throw (.duplicateRecord record.name)
  else return ⟨schema.declarations ++ [⟨record, origin⟩]⟩

/-- The schema of a list of records. -/
def ofRecords (records : List Record) : Except GenerationError Schema :=
  records.foldlM (fun schema record => schema.insert record none) {}

end Schema
end EnvLoader
