import EnvLoader.Example
import EnvLoader.Proofs.LoaderRuns

/-! What an example lists, compared with what its loader reads. Both go down the nesting of the
records, the example along the plans and with the whole key at hand, the loader along its
constructors and with a prefix. The keys that a loader reads are told from its constructors alone,
without an environment: every call of a parser function counts, also one that hangs on a choice. -/
namespace EnvLoader.ExampleEntries
open Outcomes RecordWriting SchemaNesting ExpansionRun AssembledRun WrittenRecords ClosedOutput
open KeyNames LoaderRuns Loader Source

/-! ### What a loader reads -/

/-- A choice: the key that the selector is read from, and the label that it has to have. -/
abbrev Selection := String × String

/-- A call of a parser function. -/
structure KeyRead where
  key : String
  /-- The record whose constructor makes the call. -/
  record : String
  /-- The member that takes the value. -/
  member : MemberName
  /-- The innermost choice that the call hangs on. -/
  choice : Option Selection
  deriving DecidableEq, Repr

/-- The parts of the example of a root. -/
def exampleContent (root : String) (plans : List RecordPlan) (converters : Converters) :
    List ExamplePart :=
  match planOf? plans root with
  | some plan => exampleParts plans converters plans.length plan none none
  | none => []

/-- The entry that a part is. -/
def entryOf? : ExamplePart → Option ExampleEntry
  | .setting content => some content
  | .heading _ => none

/-- A choice as an assignment. -/
def assignment : Selection → String
  | (selector, label) => selector ++ "=" ++ label

/-- An entry describes a call: it has its key, it is a comment if the field that takes the value is
an option without a default, and it names the choice that the call hangs on. -/
def Describes (schema : Schema) (entry : ExampleEntry) (read : KeyRead) : Prop :=
  entry.key = read.key ∧ entry.guard = read.choice.map assignment ∧
    ∃ record field, schema.get? read.record = some record ∧ field ∈ record.fields ∧
      fieldMember? field = some read.member ∧
      (entry.isComment = true ↔
        (∃ type, field.shape = .optional type) ∧ field.options.default = none)

/-- The entries among parts describe calls one by one, in some order of the calls. -/
def Lists (schema : Schema) (parts : List ExamplePart) (reads : List KeyRead) : Prop :=
  ∃ ordered : List KeyRead, ordered.Perm reads ∧
    List.Forall₂ (Describes schema) (parts.filterMap entryOf?) ordered

variable {schema : Schema} {config : Config} {converters : Converters} {plans : List RecordPlan}
  {plan : RecordPlan} {record : Record} {field : Field} {setting : Setting} {traits : ShapeTraits}
  {implementation : Implementation} {members : List (MemberName × ValueExpr)}
  {entry : MemberName × ValueExpr} {keyPrefix guard : Option String} {choice : Option Selection}
  {parts more : List ExamplePart} {reads others : List KeyRead} {guards isRoot : Bool} {site : Site}
  {below : String → String → Option Selection → Option (List KeyRead)} {ident name docs : String}

variable {start after : Session} {expansion : Expansion} {program : Program}

end EnvLoader.ExampleEntries
