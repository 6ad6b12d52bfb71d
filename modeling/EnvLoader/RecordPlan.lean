import EnvLoader.Session

/-! Plans: analysed records. A plan knows the settings of a record and which of them is the
selector, and from it the code for the record is made. -/
namespace EnvLoader
open Source Loader

/-- An analysed record. -/
structure RecordPlan where
  name : String
  docs : String
  isRoot : Bool
  settings : List Setting
  /-- The position of the selector. -/
  selectorIndex : Option Nat
  warnings : List Warning
  deriving DecidableEq, Repr, Inhabited

namespace RecordPlan

/-- The selector. -/
def selector? (plan : RecordPlan) : Option Setting :=
  plan.selectorIndex.bind fun index => plan.settings[index]?

/-- The settings the selector chooses between. -/
def candidates (plan : RecordPlan) : List Setting := plan.settings.filter (·.isGuarded)

/-- The records that the record nests, in declared order. -/
def nested (plan : RecordPlan) : List String := (plan.settings.filter (·.isNested)).map (·.type)

end RecordPlan

/-- Whether a shape is text, which a selector has to be. -/
def Shape.isText : Shape → Bool
  | .named name | .qualified name => name = "String" || name = "std::string::String"
  | _ => false

/-- The analysis of the fields so far: their settings in order, and the selector. -/
structure Analysis where
  settings : List Setting := []
  selector : Option (Nat × Setting) := none
  warnings : List Warning := []
  deriving DecidableEq, Repr, Inhabited

/-- Analyses the next field. A second selector is refused, and one that is no text. -/
def Analysis.addField (schema : Schema) (converters : Converters) (record : String)
    (analysis : Analysis) (field : Field) : Except GenerationError Analysis := do
  let setting ← Setting.ofField field record schema converters
  let warnings := analysis.warnings ++ setting.warnings record field.options
  let settings := analysis.settings ++ [setting]
  if setting.isSelector then
    if let some (_, first) := analysis.selector then
      throw (.duplicateSelector record first.name setting.name)
    if !field.shape.isText then throw (.invalidSelector record setting.name .notString)
    return ⟨settings, some (analysis.settings.length, setting), warnings⟩
  else return ⟨settings, analysis.selector, warnings⟩

/-- Guards the nested records of a selector, which have to be optional, and of which there
has to be one. -/
def guardCandidates (record : String) (selector : Setting) (settings : List Setting) :
    Except GenerationError (List Setting) := do
  if let some setting := settings.find? fun setting => setting.isNested && !setting.isOptional then
    throw (.choiceNotOptional record setting.name setting.type)
  if settings.all (!·.isNested) then
    throw (.invalidSelector record selector.name .noCandidates)
  return settings.map fun setting => { setting with isGuarded := setting.isNested }

/-- Analyses a record. -/
def RecordPlan.ofRecord (record : Record) (isRoot : Bool) (schema : Schema)
    (converters : Converters) : Except GenerationError RecordPlan := do
  let analysis ← record.fields.foldlM (Analysis.addField schema converters record.name) {}
  let settings ←
    match analysis.selector with
    | some (_, selector) => guardCandidates record.name selector analysis.settings
    | none => pure analysis.settings
  return ⟨record.name, record.docs, isRoot, settings, analysis.selector.map (·.1),
    analysis.warnings⟩

/-- Analyses a record within a run, which learns of the records it nests. -/
def Session.analyze (record : Record) (isRoot : Bool) (schema : Schema) : Step RecordPlan := do
  let plan ← Step.lift (RecordPlan.ofRecord record isRoot schema (← get).converters)
  modify fun session => { session with queue := session.queue.addAll plan.nested }
  return plan

/-- The member of a setting, its name checked. -/
def Setting.memberName (setting : Setting) : Except GenerationError MemberName :=
  match setting.member with
  | .name name => return .name (← nameFor .fieldName name)
  | .position index => return .position index

/-- The key of a setting as the constructor writes it. -/
def Setting.keyExpr (setting : Setting) (isRoot : Bool) : KeyExpr :=
  if isRoot then .literal setting.key else .formatted (prefixedFormat setting.key)

/-- The value of a setting. What it needs is asked for. -/
def Session.valueOf (setting : Setting) (record : String) (isRoot : Bool) : Step ValueExpr := do
  let key := setting.keyExpr isRoot
  if setting.isNested then
    let nested := ValueExpr.nested (← Step.lift (nameFor .recordName setting.type)) key
    return if setting.isGuarded then .guarded setting.key nested
      else if setting.isOptional then .some nested
      else nested
  else
    let parser ← Session.parserFor setting record
    return if setting.isRequired then .required parser key
      else if setting.isOptional then .optional parser setting.default key
      else .orDefault parser setting.default key

/-- The dispatcher of a record with a selector. -/
def Session.dispatcherOf (plan : RecordPlan) : Step (Option Dispatcher) := do
  let some selector := plan.selector? | return none
  let some target := selector.selects | return none
  let type ← Step.lift (typeFor .buildType target)
  modify fun session =>
    { session with errors := (session.errors.require .invalidChoice).require .build }
  let selectorMember ← Step.lift selector.memberName
  let choices ← Step.lift (plan.candidates.mapM fun candidate => do
    let member ← candidate.memberName
    return ⟨candidate.key, member, ← nameFor .buildMethod candidate.buildMethod⟩)
  return some ⟨target, type, selector.name, selectorMember, choices⟩

/-- A member with its value. -/
def Session.memberOf (plan : RecordPlan) (setting : Setting) : Step (MemberName × ValueExpr) := do
  let name ← Step.lift setting.memberName
  return (name, ← Session.valueOf setting plan.name plan.isRoot)

/-- The code of a record. -/
def Session.implement (plan : RecordPlan) : Step Implementation := do
  let name ← Step.lift (nameFor .recordName plan.name)
  let members ← plan.settings.mapM (Session.memberOf plan)
  let constructor : Constructor :=
    { record := plan.name
      docs := plan.docs
      isRoot := plan.isRoot
      members :=
        match plan.selectorIndex with
        | some index => members.eraseIdx index
        | none => members
      selector := plan.selectorIndex.bind fun index => members[index]? }
  return ⟨name, constructor, ← Session.dispatcherOf plan⟩

end EnvLoader
