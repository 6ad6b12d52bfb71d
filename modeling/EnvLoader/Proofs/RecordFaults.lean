import EnvLoader.Proofs.ExpansionRun

/-! What a record can be refused for. Analysing and writing it stops at the first fault, and the
error tells which it is: something in the declaration of one of its fields, or a name that is none.
What the rest of a run can fail with has nothing to do with any record. -/
namespace EnvLoader.RecordFaults
open Source (nameOfText? typeOfText?)
open Outcomes RecordWriting SchemaNesting ExpansionRun Loader

/-- The errors that a record gives rise to, with the field that is at fault if a single one is. -/
inductive RecordFault (record : Record) : GenerationError → Prop
  | shape {field : Field} {type : String} (declared : field ∈ record.fields)
      (unrecognized : field.shape = .unrecognized type) :
      RecordFault record (.unrecognizedShape record.name field.display type)
  | type (field type : String) : RecordFault record (.unknownType record.name field type)
  | selectors (first second : String) :
      RecordFault record (.duplicateSelector record.name first second)
  | selector (field : String) (fault : SelectorFault) :
      RecordFault record (.invalidSelector record.name field fault)
  | choice (field type : String) : RecordFault record (.choiceNotOptional record.name field type)
  | recordName (text : String) : RecordFault record (.invalidCode .recordName text)
  | fieldName (text : String) : RecordFault record (.invalidCode .fieldName text)
  | parserName (text : String) : RecordFault record (.invalidCode .parserName text)
  | buildType {field : Field} {text : String} (declared : field ∈ record.fields)
      (option : field.options.build = some text) (unread : typeOfText? text = none) :
      RecordFault record (.invalidCode .buildType text)
  | buildMethod {field : Field} {text : String} (declared : field ∈ record.fields)
      (option : field.options.buildWith = some text) (unread : nameOfText? text = none) :
      RecordFault record (.invalidCode .buildMethod text)

/-- An error about code that comes from no record: from the configuration or the converters. -/
def OwnCode (error : GenerationError) : Prop :=
  ∃ part ∈ [CodePart.errorType, .importPath, .errorVariant, .errorSourceType, .parserName,
    .converterType], ∃ text, error = .invalidCode part text

variable {Allowed : GenerationError → Prop} {schema : Schema} {config : Config}
  {converters : Converters} {root name text : String} {part : CodePart} {declared : Record}
  {plan : RecordPlan} {field : Field} {setting : Setting}

theorem nameFor_fails (allowed : nameOfText? text = none → Allowed (.invalidCode part text)) :
    FailsWith Allowed (nameFor part text) := by
  unfold nameFor
  cases spelled : nameOfText? text with
  | none => exact failsWith_error (allowed spelled)
  | some name => exact failsWith_ok _

theorem typeFor_fails (allowed : typeOfText? text = none → Allowed (.invalidCode part text)) :
    FailsWith Allowed (typeFor part text) := by
  unfold typeFor
  cases spelled : typeOfText? text with
  | none => exact failsWith_error (allowed spelled)
  | some type => exact failsWith_ok _

/-! ### Analysing a record -/

theorem ofField_faults (member : field ∈ declared.fields) :
    FailsWith (RecordFault declared) (Setting.ofField field declared.name schema converters) := by
  unfold Setting.ofField
  cases shape : field.shape.traits with
  | error type =>
    refine failsWith_error (.shape member ?_)
    cases written : field.shape with
    | unrecognized text =>
      rw [written] at shape
      cases shape
      rfl
    | named | optional | sequence | qualified =>
      rw [written] at shape
      exact nomatch shape
  | ok traits =>
    dsimp only
    split
    · exact failsWith_error (.type _ _)
    · exact failsWith_ok _

theorem addField_faults (member : field ∈ declared.fields) (analysis : Analysis) :
    FailsWith (RecordFault declared) (analysis.addField schema converters declared.name field) := by
  unfold Analysis.addField
  refine failsWith_bind (ofField_faults member) (fun setting _ => ?_)
  dsimp only
  split
  · cases analysis.selector with
    | some first => exact failsWith_error (.selectors _ _)
    | none =>
      cases field.shape.isText with
      | false => exact failsWith_error (.selector _ _)
      | true => exact failsWith_ok _
  · exact failsWith_ok _

theorem guardCandidates_faults (selector : Setting) (settings : List Setting) :
    FailsWith (RecordFault declared) (guardCandidates declared.name selector settings) := by
  unfold guardCandidates
  cases settings.find? fun setting => setting.isNested && !setting.isOptional with
  | some setting => exact failsWith_error (.choice _ _)
  | none =>
    cases settings.all (!·.isNested) with
    | true => exact failsWith_error (.selector _ _)
    | false => exact failsWith_ok _

theorem ofRecord_faults (isRoot : Bool) :
    FailsWith (RecordFault declared) (RecordPlan.ofRecord declared isRoot schema converters) := by
  unfold RecordPlan.ofRecord
  refine failsWith_bind (failsWith_foldlM fun field => addField_faults) (fun analysis _ => ?_)
  cases analysis.selector with
  | none => exact failsWith_ok _
  | some selection =>
    exact failsWith_bind (guardCandidates_faults _ _) (fun _ _ => failsWith_ok _)

/-! ### Writing a record -/

theorem memberName_faults : FailsWith (RecordFault declared) setting.memberName := by
  unfold Setting.memberName
  split
  · exact failsWith_bind (nameFor_fails fun _ => .fieldName _) (fun _ _ => failsWith_ok _)
  · exact failsWith_ok _

theorem memberOf_faults (same : plan.name = declared.name) (setting : Setting) :
    FailsWith (RecordFault declared) (memberOf converters plan setting) := by
  unfold memberOf valueOf
  refine failsWith_bind memberName_faults (fun name _ => ?_)
  refine failsWith_bind ?_ (fun value _ => failsWith_ok _)
  split
  · exact failsWith_bind (nameFor_fails fun _ => .recordName _) (fun _ _ => failsWith_ok _)
  · split
    · exact failsWith_bind (nameFor_fails fun _ => .parserName _) (fun _ _ => failsWith_ok _)
    · exact failsWith_error (same ▸ .type _ _)

/-- A setting is that of a field with the same options. -/
theorem setting_declared {isRoot : Bool} (planned : PlanOf schema converters declared isRoot plan)
    (listed : setting ∈ plan.settings) : ∃ field ∈ declared.fields,
      setting.selects = field.options.build ∧
      setting.buildMethod = field.options.buildWith.getD defaultBuildMethod := by
  obtain ⟨field, member, traits, -, rfl, -⟩ := related_mem planned.settings.flip listed
  exact ⟨field, member, rfl, rfl⟩

theorem choiceOf_faults {isRoot : Bool} (planned : PlanOf schema converters declared isRoot plan)
    (listed : setting ∈ plan.settings) : FailsWith (RecordFault declared) (choiceOf setting) := by
  obtain ⟨field, member, -, method⟩ := setting_declared planned listed
  refine failsWith_bind memberName_faults (fun _ _ => ?_)
  refine failsWith_bind (nameFor_fails fun unread => ?_) (fun _ _ => failsWith_ok _)
  rw [method] at unread ⊢
  cases option : field.options.buildWith with
  | none =>
    rw [option] at unread
    exact absurd unread (by decide)
  | some text =>
    rw [option] at unread
    exact .buildMethod member option unread

theorem dispatcherOf_faults {isRoot : Bool}
    (planned : PlanOf schema converters declared isRoot plan) :
    FailsWith (RecordFault declared) (dispatcherOf plan) := by
  unfold dispatcherOf
  cases selection : selection? plan with
  | none => exact failsWith_ok _
  | some pair =>
    obtain ⟨selector, found, chosen⟩ := Option.bind_eq_some_iff.mp selection
    obtain ⟨target, selects, rfl⟩ := Option.map_eq_some_iff.mp chosen
    obtain ⟨index, -, listed⟩ := Option.bind_eq_some_iff.mp found
    obtain ⟨field, member, option, -⟩ := setting_declared planned (List.mem_of_getElem? listed)
    refine failsWith_bind ?_ (fun _ _ => failsWith_ok _)
    refine failsWith_bind (typeFor_fails fun unread => ?_) (fun _ _ => ?_)
    · exact .buildType member (option.symm.trans selects) unread
    refine failsWith_bind memberName_faults (fun _ _ => ?_)
    refine failsWith_bind (failsWith_mapM fun candidate listed => ?_) (fun _ _ => failsWith_ok _)
    exact choiceOf_faults planned (List.mem_filter.mp listed).1

/-- Analysing and writing a record fails with a fault of the record. -/
theorem written_faults (known : schema.get? name = some declared) :
    FailsWith (RecordFault declared) (written schema converters root name) := by
  simp only [written, known]
  refine failsWith_bind (ofRecord_faults _) (fun plan analysed => ?_)
  have planned := ofRecord_ok analysed
  refine failsWith_bind ?_ (fun _ _ => failsWith_ok _)
  refine failsWith_bind (nameFor_fails fun _ => .recordName _) (fun _ _ => ?_)
  refine failsWith_bind (failsWith_mapM fun setting _ => memberOf_faults planned.name setting)
    (fun _ _ => ?_)
  exact failsWith_bind (dispatcherOf_faults planned) (fun _ _ => failsWith_ok _)

/-! ### The rest of a run -/

theorem ownCode {text : String} (listed : part ∈ [CodePart.errorType, .importPath, .errorVariant,
    .errorSourceType, .parserName, .converterType]) : OwnCode (.invalidCode part text) :=
  ⟨part, listed, text, rfl⟩

/-- A run starts unless the name of its errors is none. -/
theorem start_faults : FailsWith OwnCode (Session.start config converters) :=
  failsWith_bind (nameFor_fails fun _ => ownCode (by decide)) (fun _ _ => failsWith_ok _)

/-- Putting the loader together fails with an error about code of its own. -/
theorem program_faults (session : Session) (implementations : List Implementation) :
    FailsWith OwnCode (session.program implementations) := by
  unfold Session.program
  refine failsWith_bind (failsWith_mapM fun path _ => ?_) (fun _ _ => ?_)
  · split
    · exact failsWith_ok _
    · exact failsWith_error (ownCode (by decide))
  refine failsWith_bind ?_ (fun _ _ => ?_)
  · refine failsWith_bind (failsWith_mapM fun variant _ => ?_) (fun _ _ => failsWith_ok _)
    refine failsWith_bind (nameFor_fails fun _ => ownCode (by decide)) (fun _ _ => ?_)
    refine failsWith_bind ?_ (fun _ _ => failsWith_ok _)
    cases variant.source with
    | none => exact failsWith_ok _
    | some source =>
      refine failsWith_bind (typeFor_fails fun _ => ownCode (by decide)) (fun _ _ => failsWith_ok _)
  refine failsWith_bind (failsWith_mapM fun entry _ => ?_) (fun _ _ => failsWith_ok _)
  refine failsWith_bind (nameFor_fails fun _ => ownCode (by decide)) (fun _ _ => ?_)
  exact failsWith_bind (typeFor_fails fun _ => ownCode (by decide)) (fun _ _ => failsWith_ok _)

end EnvLoader.RecordFaults
