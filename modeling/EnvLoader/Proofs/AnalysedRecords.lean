import EnvLoader.Proofs.ExpansionRun

/-! When a record is accepted, and what accepting it changes. The fields are looked at one after the
other, and then the selector together with all that is nested. What a record has to fulfil can be
read off its declaration alone. A run learns of nothing but the nested records, and of nothing at
all from a record that is refused. -/
namespace EnvLoader.AnalysedRecords
open Outcomes RecordWriting SchemaNesting DiscoveryOrder ExpansionRun

/-- A loader can be made for the type of a field: by itself or as an option it may be a record of
the schema, and in any recognised shape it may have a converter. -/
def Understood (schema : Schema) (converters : Converters) (field : Field) : Prop :=
  match field.shape with
  | .named type | .optional type => schema.contains type = true ∨ converters.contains type = true
  | .sequence type | .qualified type => converters.contains type = true
  | .unrecognized _ => False

/-- A field is declared as text. -/
def DeclaredText (field : Field) : Prop :=
  ∃ name ∈ ["String", "std::string::String"], field.shape = .named name ∨ field.shape = .qualified name

/-- What a record has to fulfil: its fields are understood, at most one of them selects, and a
selector is text and stands beside nested records, all of which are options. -/
structure Acceptable (schema : Schema) (converters : Converters) (record : Record) : Prop where
  understood : ∀ field ∈ record.fields, Understood schema converters field
  single : (record.fields.filter isSelecting).length ≤ 1
  text : ∀ selector ∈ record.fields, isSelecting selector = true → DeclaredText selector
  optional : record.fields.any isSelecting = true →
    ∀ field ∈ record.fields, ∀ name, NestedBy schema field name → field.shape = .optional name
  chooses : record.fields.any isSelecting = true →
    ∃ field ∈ record.fields, ∃ name, NestedBy schema field name

/-- The names that are not in a queue yet, each where it comes first. -/
def unseen (queue : Discovery) (names : List String) : List String :=
  (names.filter (!queue.seen ·)).eraseDups

variable {schema : Schema} {converters : Converters} {record : Record} {field : Field}
  {setting : Setting} {analysis : Analysis} {settings : List Setting} {plan : RecordPlan}
  {session after : Session} {queue : Discovery} {name : String} {isRoot guards : Bool}

/-! ### Fields -/

theorem isText_iff : field.shape.isText = true ↔ DeclaredText field := by
  unfold DeclaredText
  cases field.shape <;> simp [Shape.isText]

theorem understood_iff (name : String) : Understood schema converters field ↔
    ∃ setting, Setting.ofField field name schema converters = .ok setting := by
  simp only [ofField_ok]
  unfold Understood settingOf
  cases shape : field.shape with
  | named type | optional type | sequence type | qualified type => simp [Shape.traits]
  | unrecognized text => simp [Shape.traits]

/-- The setting of a nested record is optional exactly if the field is declared as an option. -/
theorem optional_iff (analysed : Analysed schema converters guards field setting) :
    (setting.isNested = true → setting.isOptional = true) ↔
      ∀ name, NestedBy schema field name → field.shape = .optional name := by
  obtain ⟨traits, shape, rfl, -⟩ := analysed
  simp only [← settingOf_nested shape]
  unfold settingOf
  cases declared : field.shape <;> rw [declared] at shape <;> cases shape <;> simp

theorem nested_iff (analysed : Analysed schema converters guards field setting) :
    setting.isNested = true ↔ ∃ name, NestedBy schema field name :=
  ⟨fun nested => ⟨_, (analysed_nested analysed).mp ⟨nested, rfl⟩⟩,
    fun ⟨_, nests⟩ => ((analysed_nested analysed).mpr nests).1⟩

/-! ### Records -/

/-- The number of selectors among fields. -/
def selectors (fields : List Field) : Nat := (fields.filter isSelecting).length

/-- The number of selectors found so far. -/
def found (analysis : Analysis) : Nat := analysis.selector.toList.length

theorem selectors_cons {fields : List Field} : selectors (field :: fields) =
    (if isSelecting field then 1 else 0) + selectors fields := by
  unfold selectors
  cases selecting : isSelecting field <;> simp [selecting, Nat.add_comm]

/-- A field is added if it is understood and, should it select, is text and the first to do so. -/
theorem addField_done (name : String) (understood : Understood schema converters field)
    (text : isSelecting field = true → DeclaredText field)
    (single : found analysis + (if isSelecting field then 1 else 0) ≤ 1) :
    ∃ next, analysis.addField schema converters name field = .ok next ∧
      found next = found analysis + if isSelecting field then 1 else 0 := by
  obtain ⟨setting, analysed⟩ := (understood_iff name).mp understood
  obtain ⟨traits, -, isSetting, -⟩ := ofField_ok.mp analysed
  have isSelector : setting.isSelector = isSelecting field := isSetting ▸ rfl
  unfold Analysis.addField
  cases selecting : isSelecting field with
  | false =>
    refine ⟨⟨analysis.settings ++ [setting], analysis.selector,
      analysis.warnings ++ setting.warnings name field.options⟩, ?_, rfl⟩
    refine bind_ok.mpr ⟨setting, analysed, ?_⟩
    simp only [isSelector, selecting]
    rfl
  | true =>
    have first : analysis.selector = none := by
      rw [found, if_pos selecting] at single
      cases free : analysis.selector with
      | none => rfl
      | some selection => simp [free] at single
    refine ⟨⟨analysis.settings ++ [setting], some (analysis.settings.length, setting),
      analysis.warnings ++ setting.warnings name field.options⟩, ?_, by simp [found, first]⟩
    refine bind_ok.mpr ⟨setting, analysed, ?_⟩
    simp only [isSelector, selecting, first, isText_iff.mpr (text selecting)]
    rfl

theorem addFields_done {fields : List Field} (name : String)
    (understood : ∀ field ∈ fields, Understood schema converters field)
    (text : ∀ field ∈ fields, isSelecting field = true → DeclaredText field)
    (single : found analysis + selectors fields ≤ 1) :
    ∃ final, fields.foldlM (Analysis.addField schema converters name) analysis = .ok final := by
  induction fields generalizing analysis with
  | nil => exact ⟨analysis, rfl⟩
  | cons field fields ih =>
    rw [selectors_cons] at single
    have first : found analysis + (if isSelecting field then 1 else 0) ≤ 1 := by omega
    obtain ⟨next, added, isFound⟩ :=
      addField_done name (understood field (by simp)) (text field (by simp)) first
    have others : found next + selectors fields ≤ 1 := by omega
    obtain ⟨final, folded⟩ := ih
      (fun other listed => understood other (List.mem_cons_of_mem _ listed))
      (fun other listed => text other (List.mem_cons_of_mem _ listed)) others
    refine ⟨final, ?_⟩
    rw [List.foldlM_cons]
    exact bind_ok.mpr ⟨next, added, folded⟩

/-- Guarding succeeds where something is nested and all that is nested is optional. -/
theorem guardCandidates_done (name : String) (selector : Setting)
    (optional : ∀ setting ∈ settings, setting.isNested = true → setting.isOptional = true)
    (chooses : ∃ setting ∈ settings, setting.isNested = true) :
    ∃ guarded, guardCandidates name selector settings = .ok guarded := by
  have none : settings.find? (fun setting => setting.isNested && !setting.isOptional) = none := by
    simpa using optional
  have some : settings.all (!·.isNested) = false := by simpa using chooses
  unfold guardCandidates
  rw [none, some]
  exact ⟨_, rfl⟩

/-- A record is analysed exactly if it is acceptable. -/
theorem ofRecord_iff : (∃ plan, RecordPlan.ofRecord record isRoot schema converters = .ok plan) ↔
    Acceptable schema converters record := by
  constructor
  · rintro ⟨plan, analysed⟩
    have planned := ofRecord_ok analysed
    refine ⟨fun field declared => ?_, planned.single, fun selector declared selecting =>
      isText_iff.mp (planned.text selector declared selecting), fun selects field declared => ?_,
      fun selects => ?_⟩
    · obtain ⟨setting, -, traits, shape, rfl, known⟩ := related_mem planned.settings declared
      exact (understood_iff record.name).mpr ⟨_, ofField_ok.mpr ⟨traits, shape, rfl, known⟩⟩
    · obtain ⟨setting, listed, analysed⟩ := related_mem planned.settings declared
      exact (optional_iff analysed).mp (planned.optional selects setting listed)
    · obtain ⟨setting, listed, nested⟩ := planned.chooses selects
      obtain ⟨field, declared, analysed⟩ := related_mem planned.settings.flip listed
      exact ⟨field, declared, (nested_iff analysed).mp nested⟩
  · intro acceptable
    have single : found {} + selectors record.fields ≤ 1 := by
      simpa [found, selectors] using acceptable.single
    obtain ⟨analysis, folded⟩ :=
      addFields_done record.name acceptable.understood acceptable.text single
    have fields : FieldsAnalysed schema converters record.name record.fields analysis :=
      foldlM_ok ⟨.nil, rfl, by simp, by simp⟩ (fun _ _ _ _ => addField_analysed) folded
    unfold RecordPlan.ofRecord
    cases selects : analysis.selector with
    | none => exact ⟨_, bind_ok.mpr ⟨analysis, folded, by simp only [selects]; rfl⟩⟩
    | some selection =>
      have isIndex := fields.selector
      rw [selects, Option.map_some, eq_comm, List.findIdx?_eq_some_iff_getElem] at isIndex
      obtain ⟨inside, selecting, -⟩ := isIndex
      have selected : record.fields.any isSelecting = true :=
        List.any_eq_true.mpr ⟨_, List.getElem_mem inside, selecting⟩
      have each : List.Forall₂ (Analysed schema converters false) record.fields analysis.settings :=
        fields.settings.imp fun field setting analysed => by
          obtain ⟨traits, shape, rfl, known⟩ := ofField_ok.mp analysed
          exact ⟨traits, shape, rfl, known⟩
      obtain ⟨guarded, guards⟩ := guardCandidates_done record.name selection.2
        (fun setting listed => by
          obtain ⟨field, declared, analysed⟩ := related_mem each.flip listed
          exact (optional_iff analysed).mpr (acceptable.optional selected field declared))
        (by
          obtain ⟨field, declared, nests⟩ := acceptable.chooses selected
          obtain ⟨setting, listed, analysed⟩ := related_mem each declared
          exact ⟨setting, listed, (nested_iff analysed).mpr nests⟩)
      refine ⟨⟨record.name, record.docs, isRoot, guarded, analysis.selector.map (·.1),
        analysis.warnings⟩, bind_ok.mpr ⟨analysis, folded, ?_⟩⟩
      simp only [selects]
      exact bind_ok.mpr ⟨guarded, guards, rfl⟩

/-! ### The run -/

/-- Adding names adds those that are unseen. -/
theorem addAll_unseen (names : List String) : queue.addAll names =
    { queue with discovered := queue.discovered ++ unseen queue names } := by
  induction names generalizing queue with
  | nil => simp [unseen, Discovery.addAll]
  | cons name names ih =>
    rw [addAll_cons, ih]
    unfold unseen Discovery.add
    cases known : queue.seen name with
    | true => simp [known]
    | false =>
      have seen : ∀ other, ({ queue with discovered := queue.discovered ++ [name] } : Discovery).seen
          other = (queue.seen other || other == name) := fun other => by
        simp [Discovery.seen, beq_eq_decide]
      simp only [Bool.false_eq_true, ↓reduceIte, seen, List.filter_cons, known, Bool.not_false,
        List.eraseDups_cons, List.append_assoc, List.singleton_append, Bool.not_or,
        List.filter_filter, Bool.and_comm]

theorem analyze_run : (Session.analyze record isRoot schema).run session =
    match RecordPlan.ofRecord record isRoot schema session.converters with
    | .ok plan => (.ok plan, { session with queue := session.queue.addAll plan.nested })
    | .error error => (.error error, session) := by
  unfold Session.analyze
  refine (run_get _ session).trans ?_
  cases RecordPlan.ofRecord record isRoot schema session.converters <;> rfl

/-- Analysing a record succeeds exactly if the record is acceptable. Its plan then guards what is
nested beside a selector and nothing else, not the selector, and the run has only learnt of the
nested records that it did not know, in declared order. A record that is refused leaves the run as
it was. -/
theorem analysis_settled (record : Record) (isRoot : Bool) (schema : Schema) (session : Session) :
    ((∃ plan after, (Session.analyze record isRoot schema).run session = (.ok plan, after)) ↔
      Acceptable schema session.converters record) ∧
    (∀ plan after, (Session.analyze record isRoot schema).run session = (.ok plan, after) →
      List.Forall₂ (fun field setting => setting.isGuarded = true ↔
          plan.selector?.isSome = true ∧ ∃ name, NestedBy schema field name)
        record.fields plan.settings ∧
      (∀ selector, plan.selector? = some selector →
        selector.isSelector = true ∧ selector.isGuarded = false) ∧
      after = { session with queue := { session.queue with
        discovered := session.queue.discovered ++
          unseen session.queue (record.fields.filterMap (nestedName? schema)) } }) ∧
    ∀ error after, (Session.analyze record isRoot schema).run session = (.error error, after) →
      after = session := by
  rw [analyze_run]
  cases analysed : RecordPlan.ofRecord record isRoot schema session.converters with
  | error error =>
    refine ⟨⟨nofun, fun acceptable => ?_⟩, nofun, fun _ _ ran => ?_⟩
    · obtain ⟨plan, same⟩ := (@ofRecord_iff schema session.converters record isRoot).mpr acceptable
      exact nomatch analysed.symm.trans same
    · exact (congrArg Prod.snd ran).symm
  | ok plan =>
    have planned := ofRecord_ok analysed
    refine ⟨⟨fun _ => ofRecord_iff.mp ⟨plan, analysed⟩, fun _ => ⟨plan, _, rfl⟩⟩, ?_, nofun⟩
    rintro _ _ ⟨⟩
    refine ⟨planned.settings.imp fun field setting analysed => ?_, fun selector isSelector => ?_, ?_⟩
    · rw [← nested_iff analysed, selector_isSome planned, ← Bool.and_eq_true]
      obtain ⟨traits, -, rfl, -⟩ := analysed
      rfl
    · have selects := selector_setting planned
      rw [isSelector] at selects
      cases search : record.fields.find? isSelecting with
      | none => exact nomatch search ▸ selects
      | some field =>
        rw [search] at selects
        obtain ⟨analysed⟩ := selects
        have selecting := List.find?_some search
        have flat := selector_flat planned (List.mem_of_find?_eq_some search) selecting
        rw [nestedName?_analysed analysed] at flat
        have plain : selector.isNested = false := by simpa using flat
        obtain ⟨traits, -, rfl, -⟩ := analysed
        exact ⟨selecting, Bool.and_eq_false_iff.mpr (.inr plain)⟩
    · rw [← planOf_nested planned, addAll_unseen]

end EnvLoader.AnalysedRecords
