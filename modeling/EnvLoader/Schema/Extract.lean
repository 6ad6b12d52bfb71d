import EnvLoader.Schema.Graph

/-! Extracting records from source text. Every record declared at the top of a file that
takes no parameters becomes a record of the schema. -/
namespace EnvLoader
open Source

/-- A record declaration as it is read from a file. -/
structure RecordItem where
  attributes : List Attribute
  name : String
  generics : Generics
  fields : Fields

/-- The record that an item declares. -/
def RecordItem.ofItem? : Item → Option RecordItem
  | .record attributes _ name generics fields => some ⟨attributes, name, generics, fields⟩
  | _ => none

/-- The field at a position. -/
def Field.ofDecl (index : Nat) (field : FieldDecl) : Except OptionFault Field := do
  return {
    name := field.name
    index
    shape := classify field.type
    options := ← fieldOptions field.attributes
    docs := docText field.attributes }

/-- The fields from a position on. -/
def fieldsFrom : Nat → List FieldDecl → Except OptionFault (List Field)
  | _, [] => return []
  | index, field :: rest => return (← Field.ofDecl index field) :: (← fieldsFrom (index + 1) rest)

/-- The record that a declaration stands for. Parameters and options of the record itself
are refused before its fields are looked at. -/
def Record.ofItem (item : RecordItem) : Except OptionFault Record := do
  if !item.generics.params.isEmpty then throw .generic
  if item.attributes.any (·.isNamed optionAttribute) then throw .onRecord
  return {
    name := item.name
    docs := docText item.attributes
    fields := ← fieldsFrom 0 item.fields.toList }

/-- Adds the records of a file in order and stops at the first that is refused. What was
added before it stays. -/
def Schema.addItems (schema : Schema) (origin : String) :
    List Item → Schema × Option GenerationError
  | [] => (schema, none)
  | item :: rest =>
    match RecordItem.ofItem? item with
    | none => schema.addItems origin rest
    | some item =>
      if !item.generics.params.isEmpty then schema.addItems origin rest
      else
        match Record.ofItem item with
        | .error fault => (schema, some (.unreadable origin fault))
        | .ok record =>
          match schema.insert record (some origin) with
          | .error error => (schema, some error)
          | .ok schema => schema.addItems origin rest

/-- Adds the records of a source text. Text that is no file adds nothing. -/
def Schema.addSource (schema : Schema) (origin text : String) : Schema × Option GenerationError :=
  match fileOfText? text with
  | none => (schema, some (.unreadable origin .malformed))
  | some file => schema.addItems origin file.items

/-- The origin of a text that was given directly. -/
def directOrigin : String := "<source>"

/-- The schema of a single source text. -/
def Schema.ofText (text : String) : Except GenerationError Schema :=
  match ({} : Schema).addSource directOrigin text with
  | (schema, none) => return schema
  | (_, some error) => throw error

end EnvLoader
