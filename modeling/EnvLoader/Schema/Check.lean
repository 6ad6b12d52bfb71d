import EnvLoader.Schema.Extract

/-! Checking a single declaration for everything that can be told without knowing the
other records: its options, the shapes of its fields, and the code in its options. -/
namespace EnvLoader
open Source

/-- What is wrong with a declaration. -/
inductive DeclarationFault where
  | notARecord
  | options (fault : OptionFault)
  | unsupportedType (type : String)
  | buildType (text : String)
  | buildMethod (text : String)
  deriving DecidableEq, Repr, Inhabited

/-- The text of a fault; faults of grammar have none of their own. -/
def DeclarationFault.message? : DeclarationFault → Option String
  | .notARecord => some "EnvSchema can only be derived for structs"
  | .options fault => fault.message?
  | .unsupportedType type =>
    some s!"unsupported field type `{type}`; expected a named type, Option<T> or Vec<T>"
  | .buildType text => some s!"invalid build type `{text}`"
  | .buildMethod text => some s!"invalid build_with method `{text}`"

/-- A declaration of a record or of a type with choices. -/
inductive DataItem where
  | record (item : RecordItem)
  | other

/-- Reads a declaration of a record, an enumeration or a union. -/
def dataItem (grammar : CodeGrammar) : Reader DataItem := do
  let attributes ← grammar.attributes
  let visibility ← PatternGrammar.visibility
  if ← ahead (atWord "struct") then
    match RecordItem.ofItem? (← grammar.recordItem attributes visibility) with
    | some item => return .record item
    | none => return .other
  else if ← ahead (atWord "enum") then
    let _ ← grammar.enumerationItem attributes visibility
    return .other
  else
    let _ ← grammar.unionItem attributes visibility
    return .other

/-- The declaration that a text is. -/
def dataItemOfText? (text : String) : Option DataItem := parseText? dataItem text

/-- The first fault of a field on its own. -/
def Field.fault? (field : Field) : Option DeclarationFault :=
  match field.shape with
  | .unrecognized type => some (.unsupportedType type)
  | _ =>
    match field.options.build.filter fun text => (typeOfText? text).isNone with
    | some text => some (.buildType text)
    | none =>
      (field.options.buildWith.filter fun text => (nameOfText? text).isNone).map .buildMethod

/-- The faults of a declaration: the first that keeps it from being read, or else one for
each field that has any. -/
def DataItem.faults : DataItem → List DeclarationFault
  | .other => [.notARecord]
  | .record item =>
    match Record.ofItem item with
    | .error fault => [.options fault]
    | .ok declared => declared.fields.filterMap (·.fault?)

end EnvLoader
