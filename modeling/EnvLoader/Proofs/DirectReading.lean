import EnvLoader.Loader.Evaluation
import EnvLoader.Proofs.BuiltinConverters
import EnvLoader.Proofs.CyclicSchemas
import EnvLoader.Proofs.KeyNames
import EnvLoader.Proofs.WrittenRecords

/-! Reading a schema directly: what a loader is to find in an environment, said of the declared
records alone, without any generated code. The reading goes down the nesting, so a depth stands
for the rest of the way; where no record nests itself, the number of records is enough. -/
namespace EnvLoader.DirectReading
open Relation SchemaNesting BuiltinConverters WrittenRecords KeyNames Loader

/-- The key of a field: the one it was given, or what its name gives rise to, or its type. -/
def fieldKey (field : Field) (type : String) : String :=
  field.options.key.getD (deriveKey (field.name.getD type))

/-- The key of a field whose shape is recognised. -/
def KeyOf (field : Field) (key : String) : Prop :=
  ∃ traits, field.shape.traits = .ok traits ∧ key = fieldKey field traits.type

/-- A value as a field holds it. -/
def held (isOptional : Bool) (value : Value) : Value :=
  if isOptional then .present value else value

theorem held_plain : held false = id := rfl

/-- Converts the text of a variable, item by item for a list. -/
def convertText (converter : Converter) (isList : Bool) (key raw : String) : Evaluation Value :=
  let convert := converter.conversion.apply converter.typeText key
  if isList then .list <$> (listItems raw.toList).mapM fun item => convert (String.ofList item)
  else convert raw

/-- Reads a field from a single variable: what it is set to, or else the default, or else nothing
for an option. -/
def readLeaf (environment : Environment) (converter : Converter) (traits : ShapeTraits)
    (default : Option String) (key : String) : Evaluation Value :=
  let convert := fun raw => held traits.isOptional <$> convertText converter traits.isList key raw
  match environment.get? key, default with
  | some (.text raw), _ => convert raw
  | some (.raw _), _ => throw (.notUnicode key)
  | none, some default => convert default
  | none, none => if traits.isOptional then pure .absent else throw (.keyNotFound key)

/-- Reads a field of the record that a path leads to. Where a selector has made a choice, a nested
record is read only if it is chosen. -/
def readField (schema : Schema) (environment : Environment)
    (nested : List String → String → Evaluation Value) (path : List String)
    (choice : Option String) (field : Field) : Evaluation Value :=
  match field.shape.traits with
  | .error _ => Evaluation.stuck
  | .ok traits =>
    let key := fieldKey field traits.type
    match nestedName? schema field, choice with
    | some name, some choice =>
      if choice = key then .present <$> nested (path ++ [key]) name else pure .absent
    | some name, none => held traits.isOptional <$> nested (path ++ [key]) name
    | none, _ =>
      match Converters.builtin.find? traits.type with
      | some converter =>
        readLeaf environment converter traits field.options.default (pathKey (path ++ [key]))
      | none => Evaluation.stuck

/-- Reads fields in order into the members of a record. -/
def readFields (readField : Field → Evaluation Value) :
    List Field → Evaluation (List (MemberName × Value))
  | [] => pure []
  | field :: rest => do
    let name ← Evaluation.ofOption (fieldMember? field)
    let value ← readField field
    return (name, value) :: (← readFields readField rest)

/-- Reads the fields of a record, its selector first. The selector's member comes last. -/
def readBody (schema : Schema) (environment : Environment)
    (nested : List String → String → Evaluation Value) (path : List String) (record : Record) :
    Evaluation Value := do
  let read := readField schema environment nested path
  let others := record.fields.filter (!isSelecting ·)
  match record.fields.find? isSelecting with
  | none => return .record record.name (← readFields (read none) others)
  | some selector =>
    let member ← Evaluation.ofOption (fieldMember? selector)
    match ← read none selector with
    | .text choice =>
      let members ← readFields (read (some choice)) others
      return .record record.name (members ++ [(member, .text choice)])
    | _ => Evaluation.stuck

/-- Reads the record of a name, which a path leads to. -/
def readRecord (schema : Schema) (environment : Environment) :
    Nat → List String → String → Evaluation Value
  | 0, _, _ => Evaluation.stuck
  | depth + 1, path, name => do
    let record ← Evaluation.ofOption (schema.get? name)
    readBody schema environment (readRecord schema environment depth) path record

/-- What reading a schema from its root comes to, with any depth that covers all records. -/
def ReadsTo (schema : Schema) (environment : Environment) (root : String)
    (outcome : Except LoadError Value) : Prop :=
  ∀ depth, schema.size ≤ depth →
    readRecord schema environment depth [] root = ExceptT.mk (some outcome)

/-- A computation comes to an error, or to a value with a certain property. -/
def Answers {α : Type} (Holds : α → Prop) (computation : Evaluation α) : Prop :=
  ∃ outcome : Except LoadError α, computation = ExceptT.mk (some outcome) ∧
    ∀ value, outcome = .ok value → Holds value

section Answering
variable {α β : Type} {Holds : α → Prop} {Then : β → Prop} {computation : Evaluation α}

theorem answers_pure {value : α} (holds : Holds value) : Answers Holds (pure value) :=
  ⟨.ok value, rfl, fun _ same => Except.ok.inj same ▸ holds⟩

theorem answers_throw (error : LoadError) : Answers Holds (throw error) :=
  ⟨.error error, rfl, nofun⟩

theorem answers_bind {next : α → Evaluation β} (first : Answers Holds computation)
    (rest : ∀ value, Holds value → Answers Then (next value)) :
    Answers Then (computation >>= next) := by
  obtain ⟨outcome, rfl, holds⟩ := first
  cases outcome with
  | error error => exact answers_throw error
  | ok value => exact rest value (holds value rfl)

theorem answers_map {change : α → β} (first : Answers Holds computation)
    (changes : ∀ value, Holds value → Then (change value)) :
    Answers Then (change <$> computation) := by
  obtain ⟨outcome, rfl, holds⟩ := first
  cases outcome with
  | error error => exact answers_throw error
  | ok value => exact answers_pure (changes value (holds value rfl))

theorem answers_mapM {ι : Type} {items : List ι} {step : ι → Evaluation α}
    (each : ∀ item, Answers (fun _ => True) (step item)) :
    Answers (fun _ => True) (items.mapM step) := by
  induction items with
  | nil => exact answers_pure trivial
  | cons item items ih =>
    rw [List.mapM_cons]
    exact answers_bind (each item) fun _ _ => answers_bind ih fun _ _ => answers_pure trivial

end Answering

variable {schema : Schema} {environment : Environment} {field : Field} {record : Record}
  {nested other : List String → String → Evaluation Value} {path : List String}
  {choice : Option String} {key raw name root : String} {converter : Converter}
  {traits : ShapeTraits}

/-! ### The reading goes by what is nested -/

theorem readField_congr
    (agree : ∀ name, NestedBy schema field name → ∀ path, nested path name = other path name) :
    readField schema environment nested path choice field =
      readField schema environment other path choice field := by
  unfold readField
  cases field.shape.traits with
  | error type => rfl
  | ok traits =>
    cases named : nestedName? schema field with
    | none => rfl
    | some name =>
      have same := agree name (nestedName?_eq_some.mp named)
      cases choice <;> simp only [same]

theorem readFields_congr {fields : List Field} {first second : Field → Evaluation Value}
    (agree : ∀ field ∈ fields, first field = second field) :
    readFields first fields = readFields second fields := by
  induction fields with
  | nil => rfl
  | cons field fields ih =>
    unfold readFields
    rw [agree field (by simp), ih fun field member => agree field (List.mem_cons_of_mem _ member)]

/-- Reading a record depends on how the records that it nests are read, and on no others. -/
theorem readBody_congr
    (agree : ∀ field ∈ record.fields, ∀ name, NestedBy schema field name →
      ∀ path, nested path name = other path name) :
    readBody schema environment nested path record =
      readBody schema environment other path record := by
  have fields : ∀ choice, ∀ field ∈ record.fields,
      readField schema environment nested path choice field =
        readField schema environment other path choice field :=
    fun choice field member => readField_congr (agree field member)
  have others : ∀ choice, readFields (readField schema environment nested path choice)
      (record.fields.filter (!isSelecting ·)) =
        readFields (readField schema environment other path choice)
          (record.fields.filter (!isSelecting ·)) :=
    fun choice => readFields_congr fun field member => fields choice field (List.mem_of_mem_filter member)
  unfold readBody
  cases selects : record.fields.find? isSelecting with
  | none => simp only [others]
  | some selector => simp only [fields none selector (List.mem_of_find?_eq_some selects), others]

/-! ### The reading comes to an end -/

theorem conversion_answers (builtin : converter ∈ Converter.builtin) :
    Answers (fun _ => True) (converter.conversion.apply converter.typeText key raw) := by
  unfold Conversion.apply
  cases conversion : converter.conversion with
  | text | path => exact answers_pure trivial
  | bool =>
    dsimp only
    split
    · exact answers_pure trivial
    · exact answers_throw _
  | int =>
    obtain ⟨type, known⟩ := integer_known builtin conversion
    rw [known]
    refine answers_bind (answers_pure trivial) fun type (_ : True) => ?_
    split
    · exact answers_pure trivial
    · exact answers_throw _
  | float | duration =>
    dsimp only
    split
    · exact answers_pure trivial
    · exact answers_throw _

private theorem convertText_answers {isList : Bool} (builtin : converter ∈ Converter.builtin) :
    Answers (fun _ => True) (convertText converter isList key raw) := by
  unfold convertText
  cases isList with
  | false => exact conversion_answers builtin
  | true =>
    exact answers_map (answers_mapM fun item => conversion_answers builtin) fun _ _ => trivial

/-- A leaf whose text can be converted comes to something. -/
private theorem readLeaf_answers {Holds : Value → Prop} {default : Option String}
    (absent : traits.isOptional = true → Holds .absent)
    (converts : ∀ raw, Answers (fun value => Holds (held traits.isOptional value))
      (convertText converter traits.isList key raw)) :
    Answers Holds (readLeaf environment converter traits default key) := by
  have texts : ∀ raw, Answers Holds
      (held traits.isOptional <$> convertText converter traits.isList key raw) :=
    fun raw => answers_map (converts raw) fun _ holds => holds
  unfold readLeaf
  dsimp only
  split
  · exact texts _
  · exact answers_throw _
  · exact texts _
  · split
    · rename_i isOptional
      exact answers_pure (absent isOptional)
    · exact answers_throw _

/-- A field that can be read: its type is a record or has a converter, and it has a member. -/
structure Readable (schema : Schema) (field : Field) : Prop where
  typed : ∃ traits, field.shape.traits = .ok traits ∧
    (nestedName? schema field = none →
      ∃ converter, Converters.builtin.find? traits.type = some converter)
  member : ∃ member, fieldMember? field = some member

theorem readField_answers (readable : Readable schema field)
    (below : ∀ name, NestedBy schema field name → ∀ path, Answers (fun _ => True) (nested path name)) :
    Answers (fun _ => True) (readField schema environment nested path choice field) := by
  obtain ⟨⟨traits, shape, converted⟩, -⟩ := readable
  unfold readField
  rw [shape]
  dsimp only
  cases named : nestedName? schema field with
  | none =>
    obtain ⟨converter, found⟩ := converted named
    rw [found]
    exact readLeaf_answers (fun _ => trivial) fun raw => convertText_answers (find?_builtin found)
  | some name =>
    have answers := below name (nestedName?_eq_some.mp named)
    cases choice with
    | none => exact answers_map (answers _) fun _ _ => trivial
    | some choice =>
      dsimp only
      split
      · exact answers_map (answers _) fun _ _ => trivial
      · exact answers_pure trivial

/-- A selector comes to a text. -/
theorem selector_answers (isText : field.shape.isText = true)
    (flat : nestedName? schema field = none) :
    Answers (fun value => ∃ content, value = .text content)
      (readField schema environment nested path choice field) := by
  obtain ⟨traits, shape, single, plain, found⟩ := text_converter isText
  unfold readField
  rw [shape, flat]
  dsimp only
  rw [found]
  refine readLeaf_answers (fun isOptional => nomatch plain.symm.trans isOptional) fun raw => ?_
  rw [single, plain]
  exact answers_pure ⟨raw, rfl⟩

theorem readFields_answers {fields : List Field} {readField : Field → Evaluation Value}
    (readable : ∀ field ∈ fields, Readable schema field)
    (each : ∀ field ∈ fields, Answers (fun _ => True) (readField field)) :
    Answers (fun _ => True) (readFields readField fields) := by
  induction fields with
  | nil => exact answers_pure trivial
  | cons field fields ih =>
    obtain ⟨member, isMember⟩ := (readable field (by simp)).member
    unfold readFields
    rw [isMember]
    refine answers_bind (answers_pure trivial) fun _ (_ : True) => ?_
    refine answers_bind (each field (by simp)) fun _ _ => ?_
    refine answers_bind (ih (fun other listed => readable other (List.mem_cons_of_mem _ listed))
      fun other listed => each other (List.mem_cons_of_mem _ listed)) fun _ _ => ?_
    exact answers_pure trivial

/-- A record that can be read: all of its fields can, and its selectors are texts. -/
structure ReadableRecord (schema : Schema) (record : Record) : Prop where
  fields : ∀ field ∈ record.fields, Readable schema field
  selectors : ∀ field ∈ record.fields, isSelecting field = true →
    field.shape.isText = true ∧ nestedName? schema field = none

theorem readBody_answers (readable : ReadableRecord schema record)
    (below : ∀ field ∈ record.fields, ∀ name, NestedBy schema field name →
      ∀ path, Answers (fun _ => True) (nested path name)) :
    Answers (fun _ => True) (readBody schema environment nested path record) := by
  have others : ∀ choice, Answers (fun _ => True)
      (readFields (readField schema environment nested path choice)
        (record.fields.filter (!isSelecting ·))) := by
    intro choice
    refine readFields_answers (fun field listed => readable.fields field (List.mem_of_mem_filter listed))
      fun field listed => ?_
    have declared := List.mem_of_mem_filter listed
    exact readField_answers (readable.fields field declared) (below field declared)
  unfold readBody
  cases selects : record.fields.find? isSelecting with
  | none => exact answers_bind (others none) fun _ _ => answers_pure trivial
  | some selector =>
    have declared := List.mem_of_find?_eq_some selects
    obtain ⟨isText, flat⟩ := readable.selectors selector declared (List.find?_some selects)
    obtain ⟨member, isMember⟩ := (readable.fields selector declared).member
    dsimp only
    rw [isMember]
    refine answers_bind (answers_pure trivial) fun _ (_ : True) => ?_
    refine answers_bind (selector_answers isText flat) ?_
    rintro _ ⟨content, rfl⟩
    exact answers_bind (others _) fun _ _ => answers_pure trivial

theorem readRecord_known {depth : Nat} (known : schema.get? name = some record) :
    readRecord schema environment (depth + 1) path name =
      readBody schema environment (readRecord schema environment depth) path record := by
  rw [readRecord, known]
  rfl

/-- Where no reachable record nests itself, every way down is short. So with some depth the reading
comes to an end, and more depth changes nothing. -/
theorem readRecord_ends {size depth : Nat}
    (acyclic : ∀ name, Reachable schema root name → ¬ TransGen (Nests schema) name name)
    (bound : ∀ names : List String, names.Nodup → (∀ name ∈ names, Reachable schema root name) →
      names.length ≤ size)
    (readable : ∀ name, Reachable schema root name →
      ∃ record, schema.get? name = some record ∧ ReadableRecord schema record)
    (enough : size ≤ depth) :
    ∀ path, Answers (fun _ => True) (readRecord schema environment depth path root) ∧
      ∀ deeper, depth ≤ deeper → readRecord schema environment deeper path root =
        readRecord schema environment depth path root := by
  refine nesting_induction (fun depth name => ∀ path,
    Answers (fun _ => True) (readRecord schema environment depth path name) ∧
      ∀ deeper, depth ≤ deeper → readRecord schema environment deeper path name =
        readRecord schema environment depth path name) acyclic bound ?_ enough
  intro depth name reachable below path
  obtain ⟨record, known, isReadable⟩ := readable name reachable
  have nests : ∀ field ∈ record.fields, ∀ inner, NestedBy schema field inner →
      Nests schema name inner :=
    fun field declared inner nested => ⟨record, field, known, declared, nested⟩
  rw [readRecord_known known]
  refine ⟨readBody_answers isReadable fun field declared inner nested path =>
    (below inner (nests field declared inner nested) path).1, fun deeper deep => ?_⟩
  obtain ⟨rest, rfl⟩ := Nat.exists_eq_add_of_le' deep
  rw [show rest + (depth + 1) = (rest + depth) + 1 from rfl, readRecord_known known]
  exact readBody_congr fun field declared inner nested path =>
    (below inner (nests field declared inner nested) path).2 _ (Nat.le_add_left _ _)

end EnvLoader.DirectReading
