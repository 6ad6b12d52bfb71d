import EnvLoader.Proofs.AssembledRun
import EnvLoader.Schema.Check

/-! Checking each declaration on its own is as strict as generating a loader from all of them. A
file whose records pass the check is read, and no run over its records finds fault with what was
checked: a shape, a type to build or a method to build it with. What carries this is that a schema
read from such a file has none but checked fields, and that such an error of a run tells of a field
that has the fault. -/
namespace EnvLoader.DeclarationChecks
open Source (nameOfText? typeOfText? fileOfText? Item)
open Outcomes SchemaNesting ExpansionRun RecordFaults AssembledRun

/-- The fields of a record have no fault of their own. -/
def CheckedRecord (record : Record) : Prop := ∀ field ∈ record.fields, field.fault? = none

/-- The records of a schema were checked. -/
def CheckedSchema (schema : Schema) : Prop := ∀ record ∈ schema.records, CheckedRecord record

/-- Checking accepts the records that items declare. -/
def Accepted (items : List Item) : Prop :=
  ∀ item ∈ items, ∀ declared, RecordItem.ofItem? item = some declared →
    (DataItem.record declared).faults = []

/-- An error that the check of declarations does not rule out. -/
def LeftOpen (error : GenerationError) : Prop :=
  (∀ origin fault, error ≠ .unreadable origin fault) ∧
    (∀ record field type, error ≠ .unrecognizedShape record field type) ∧
    ∀ text, error ≠ .invalidCode .buildType text ∧ error ≠ .invalidCode .buildMethod text

/-- What a run can fail with: that its root is unknown, a fault of a record that nesting leads to, a
cycle, or code that comes from no record or does not make up a file. -/
inductive RunFault (schema : Schema) (root : String) : GenerationError → Prop
  | root : RunFault schema root (.rootNotFound root)
  | record {name : String} {record : Record} {error : GenerationError}
      (reachable : Reachable schema root name) (known : schema.get? name = some record)
      (fault : RecordFault record error) : RunFault schema root error
  | cyclic (cycle : List String) : RunFault schema root (.cyclic cycle)
  | code {error : GenerationError} (own : OwnCode error) : RunFault schema root error
  | format (tokens : String) : RunFault schema root (.unformattable tokens)

variable {schema : Schema} {config : Config} {converters : Converters} {record : Record}
  {field : Field} {declared : RecordItem} {items : List Item} {origin text : String}
  {error : GenerationError}

/-! ### What a run fails with -/

theorem assemble_faults :
    FailsWith (RunFault schema config.root) (assemble schema config converters) := by
  intro error fails
  obtain ⟨-, ran⟩ | ⟨other, stops, ran⟩ | ⟨other, name, known, reachable, stops, ran⟩ |
      ⟨start, expansion, after, completed, ran⟩ := assemble_cases schema config converters
  · cases fails.symm.trans ran
    exact .root
  · cases fails.symm.trans ran
    exact .code (start_faults _ stops)
  · cases fails.symm.trans ran
    obtain ⟨record, found⟩ := contains_iff.mp (reachable_known known reachable)
    exact .record reachable found (written_faults found _ stops)
  · rw [ran, finish] at fails
    cases search : expansion.nesting.findCycle with
    | some cycle =>
      rw [search] at fails
      cases fails
      exact .cyclic cycle
    | none =>
      rw [search] at fails
      refine failsWith_bind ?_ (fun _ _ => failsWith_ok _) error fails
      exact failsWith_weaken (fun _ => .code) (program_faults after expansion.implementations)

theorem generate_faults :
    FailsWith (RunFault schema config.root) (generate schema config converters) := by
  unfold generate
  refine failsWith_bind assemble_faults (fun assembly _ => ?_)
  refine failsWith_bind ?_ (fun source _ => failsWith_ok _)
  unfold fileText
  split
  · exact failsWith_ok _
  · exact failsWith_error (.format _)

/-! ### Checked fields -/

/-- A field without a fault has a shape, and the code in its options can be read. -/
theorem fault?_none (checked : field.fault? = none) :
    (∀ type, field.shape ≠ .unrecognized type) ∧
      (∀ text, field.options.build = some text → typeOfText? text ≠ none) ∧
      ∀ text, field.options.buildWith = some text → nameOfText? text ≠ none := by
  unfold Field.fault? at checked
  split at checked
  · exact nomatch checked
  · rename_i recognized
    cases unbuilt : field.options.build.filter fun text => (typeOfText? text).isNone with
    | some text =>
      rw [unbuilt] at checked
      exact nomatch checked
    | none =>
      rw [unbuilt] at checked
      have uncalled := Option.filter_eq_none_iff.mp (Option.map_eq_none_iff.mp checked)
      refine ⟨recognized, fun text given unread => ?_, fun text given unread => ?_⟩
      · exact Option.filter_eq_none_iff.mp unbuilt text given (by simp [unread])
      · exact uncalled text given (by simp [unread])

/-- A record of checked fields is not at fault for what was checked. -/
theorem checked_leftOpen (checked : CheckedRecord record) (fault : RecordFault record error) :
    LeftOpen error := by
  cases fault with
  | shape member unrecognized =>
    exact absurd unrecognized ((fault?_none (checked _ member)).1 _)
  | buildType member option unread =>
    exact absurd unread ((fault?_none (checked _ member)).2.1 _ option)
  | buildMethod member option unread =>
    exact absurd unread ((fault?_none (checked _ member)).2.2 _ option)
  | type | selectors | selector | choice | recordName | fieldName | parserName =>
    exact ⟨nofun, nofun, fun _ => ⟨nofun, nofun⟩⟩

theorem get?_checked (checked : CheckedSchema schema) {name : String}
    (known : schema.get? name = some record) : CheckedRecord record := by
  obtain ⟨declaration, found, rfl⟩ := Option.map_eq_some_iff.mp known
  exact checked _ (List.mem_map_of_mem (List.mem_of_find?_eq_some found))

/-- A run over checked records fails with nothing that was checked. -/
theorem generate_leftOpen (checked : CheckedSchema schema) :
    FailsWith LeftOpen (generate schema config converters) := by
  intro error fails
  cases generate_faults error fails with
  | record _ known fault => exact checked_leftOpen (get?_checked checked known) fault
  | code own =>
    obtain ⟨part, listed, text, rfl⟩ := own
    refine ⟨nofun, nofun, fun other => ⟨?_, ?_⟩⟩
    all_goals
      rintro ⟨⟩
      exact absurd listed (by decide)
  | root | cyclic | format => exact ⟨nofun, nofun, fun _ => ⟨nofun, nofun⟩⟩

/-! ### Reading accepted records -/

/-- A declaration that is accepted takes no parameters, and is read as a checked record. -/
theorem accepted_read (accepted : (DataItem.record declared).faults = []) :
    declared.generics.params.isEmpty = true ∧
      ∃ record, Record.ofItem declared = .ok record ∧ CheckedRecord record := by
  simp only [DataItem.faults] at accepted
  cases read : Record.ofItem declared with
  | error fault =>
    rw [read] at accepted
    exact nomatch accepted
  | ok record =>
    rw [read] at accepted
    refine ⟨?_, record, rfl, List.filterMap_eq_nil_iff.mp accepted⟩
    cases plain : declared.generics.params.isEmpty with
    | true => rfl
    | false =>
      simp only [Record.ofItem, plain, Bool.not_false, ↓reduceIte] at read
      exact nomatch read

theorem insert_checked {given : Option String} {after : Schema} (schemaChecked : CheckedSchema schema)
    (recordChecked : CheckedRecord record) (inserted : schema.insert record given = .ok after) :
    CheckedSchema after := by
  unfold Schema.insert at inserted
  split at inserted
  · exact nomatch inserted
  · cases pure_ok.mp inserted
    intro other listed
    simp only [Schema.records, List.map_append, List.mem_append, List.map_cons, List.map_nil,
      List.mem_singleton] at listed
    rcases listed with before | rfl
    · exact schemaChecked other before
    · exact recordChecked

/-- Adding accepted records ends with checked ones, and stops only where a name comes again. -/
theorem addItems_checked (checked : CheckedSchema schema) (accepted : Accepted items) :
    CheckedSchema (schema.addItems origin items).1 ∧
      ∀ error, (schema.addItems origin items).2 = some error →
        ∃ name, error = .duplicateRecord name := by
  induction items generalizing schema with
  | nil => exact ⟨checked, nofun⟩
  | cons item rest ih =>
    have others : Accepted rest := fun other listed => accepted other (List.mem_cons_of_mem _ listed)
    unfold Schema.addItems
    cases isRecord : RecordItem.ofItem? item with
    | none => exact ih checked others
    | some declared =>
      obtain ⟨plain, record, read, recordChecked⟩ :=
        accepted_read (accepted item List.mem_cons_self declared isRecord)
      simp only [plain, Bool.not_true, Bool.false_eq_true, ↓reduceIte, read]
      cases inserted : schema.insert record (some origin) with
      | ok after => exact ih (insert_checked checked recordChecked inserted) others
      | error error =>
        refine ⟨checked, ?_⟩
        rintro _ ⟨⟩
        unfold Schema.insert at inserted
        split at inserted
        · cases inserted
          exact ⟨record.name, rfl⟩
        · exact nomatch inserted

theorem addSource_parsed {file : Source.File} (parsed : fileOfText? text = some file) :
    schema.addSource origin text = schema.addItems origin file.items := by
  delta Schema.addSource
  rw [parsed]

/-- A file each of whose records is accepted by the check is read, unless a record comes twice, and no
run over the records that were read fails for what the check looks at. -/
theorem accepted_generates {file : Source.File} (parsed : fileOfText? text = some file)
    (accepted : Accepted file.items) (origin : String) :
    ∃ schema stopped, ({} : Schema).addSource origin text = (schema, stopped) ∧
      (∀ error, stopped = some error → ∃ name, error = .duplicateRecord name) ∧
      ∀ config converters, FailsWith LeftOpen (generate schema config converters) := by
  have empty : CheckedSchema {} := nofun
  obtain ⟨checked, stops⟩ := @addItems_checked {} file.items origin empty accepted
  exact ⟨_, _, addSource_parsed parsed, stops, fun config converters => generate_leftOpen checked⟩

/-- A record that chooses what to build, and the record it chooses. -/
def storeSource : String :=
  "struct Config \x7b #[env(build = \"Store\")] kind: String, " ++
    "#[env(build_with = \"open\")] file: Option<FileStore> \x7d struct FileStore(String);"

/-- Both pass the check and are read, so no run over them finds fault with a method. -/
theorem storeSource_generates :
    ∃ schema, ({} : Schema).addSource "store.rs" storeSource = (schema, none) ∧
      ∀ config converters text,
        generate schema config converters ≠ .error (.invalidCode .buildMethod text) := by
  have checks : (fileOfText? storeSource).any (fun file =>
      (file.items.all fun item => (RecordItem.ofItem? item).all fun declared =>
        (DataItem.record declared).faults = []) &&
      (({} : Schema).addItems "store.rs" file.items).2.isNone) = true := by
    decide +kernel
  cases parsed : fileOfText? storeSource with
  | none =>
    rw [parsed] at checks
    exact nomatch checks
  | some file =>
    rw [parsed, Option.any_some, Bool.and_eq_true, List.all_eq_true] at checks
    have accepted : Accepted file.items := by
      intro item listed declared isRecord
      simpa [isRecord] using checks.1 item listed
    obtain ⟨schema, stopped, read, -, fails⟩ := accepted_generates parsed accepted "store.rs"
    have whole : stopped = none := by
      rw [addSource_parsed parsed] at read
      rw [read] at checks
      exact Option.isNone_iff_eq_none.mp checks.2
    subst whole
    exact ⟨schema, read, fun config converters text stops =>
      ((fails config converters _ stops).2.2 text).2 rfl⟩

end EnvLoader.DeclarationChecks
