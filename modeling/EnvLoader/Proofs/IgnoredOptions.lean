import EnvLoader.Proofs.StatelessRun

/-! Options that have no effect. A default is ignored where a record is nested, and a method to
build with where no dispatcher calls it. Taking such options away from a record takes from its plan
nothing but what is not looked at, by neither the constructor, nor the dispatcher, nor the example;
so schemas that differ in nothing else have the same loader, or fail with the same error. -/
namespace EnvLoader.IgnoredOptions
open Outcomes RecordWriting SchemaNesting ExpansionRun AssembledRun StatelessRun Loader

/-- A field is a candidate of a dispatcher: its record can be analysed, has a selector, and nests
another record in the field. -/
structure Candidate (schema : Schema) (converters : Converters) (record : Record) (field : Field) :
    Prop where
  analysed : ∃ isRoot plan, RecordPlan.ofRecord record isRoot schema converters = .ok plan
  selected : record.fields.any isSelecting = true
  nested : ∃ name, NestedBy schema field name

/-- Fields of a record that differ only in ignored options: in the default of a field that nests a
record, or in the method to build with of a field that is no candidate. -/
structure FieldsAlike (schema : Schema) (converters : Converters) (record : Record)
    (field other : Field) : Prop where
  same : other = { field with options := { field.options with
    default := other.options.default, buildWith := other.options.buildWith } }
  default : other.options.default ≠ field.options.default → ∃ name, NestedBy schema field name
  buildWith : other.options.buildWith ≠ field.options.buildWith →
    ¬ Candidate schema converters record field

/-- Records that differ only in ignored options. -/
structure RecordsAlike (schema : Schema) (converters : Converters) (record other : Record) : Prop where
  name : other.name = record.name
  docs : other.docs = record.docs
  fields : List.Forall₂ (FieldsAlike schema converters record) record.fields other.fields

/-- Schemas that differ only in ignored options. -/
def SchemasAlike (converters : Converters) (schema other : Schema) : Prop :=
  List.Forall₂ (fun one another => another.origin = one.origin ∧
    RecordsAlike schema converters one.record another.record) schema.declarations other.declarations

/-- A field without the options that are ignored. Whether the methods of nested records are called
is told. -/
def bareField (schema : Schema) (called : Bool) (field : Field) : Field :=
  let nested := (nestedName? schema field).isSome
  { field with options := { field.options with
      default := if nested then none else field.options.default
      buildWith := if called && nested then field.options.buildWith else none } }

/-- A setting without what is not looked at: whether it is required if it nests a record, and the
method to build with unless that is called. -/
def bareSetting (called : Bool) (setting : Setting) : Setting :=
  { setting with
    isRequired := if setting.isNested then !setting.isOptional else setting.isRequired
    buildMethod := if called then setting.buildMethod else defaultBuildMethod }

/-- A plan without what is not looked at. -/
def barePlan (plan : RecordPlan) : RecordPlan :=
  { plan with
    settings := plan.settings.map fun setting => bareSetting setting.isGuarded setting
    warnings := [] }

variable {schema other : Schema} {converters : Converters} {config : Config} {record : Record}
  {field : Field} {setting : Setting} {plan : RecordPlan} {traits : ShapeTraits} {called : Bool}
  {session : Session}

/-! ### Analysing without ignored options -/

/-- A setting as the analysis gives it where the ignored options are not there. -/
def settled (called : Bool) (setting : Setting) : Setting :=
  bareSetting (called && setting.isNested) setting

/-- What is known of the fields so far where the ignored options are not there. -/
def settledAnalysis (called : Bool) (analysis : Analysis) : Analysis where
  settings := analysis.settings.map (settled called)
  selector := analysis.selector.map fun (index, selector) => (index, settled called selector)

theorem nestedName?_isSome (shape : field.shape.traits = .ok traits) :
    (nestedName? schema field).isSome = (traits.mayNest && schema.contains traits.type) := by
  unfold nestedName?
  cases declared : field.shape with
  | named type | optional type =>
    rw [declared] at shape
    cases shape
    cases known : schema.contains type <;> simp [known]
  | sequence type | qualified type =>
    rw [declared] at shape
    cases shape
    rfl
  | unrecognized type =>
    rw [declared] at shape
    exact nomatch shape

theorem ofField_bare {name : String} :
    Setting.ofField (bareField schema called field) name schema converters =
      (Setting.ofField field name schema converters).map (settled called) := by
  have sameShape : (bareField schema called field).shape = field.shape := rfl
  unfold Setting.ofField
  rw [sameShape]
  cases shape : field.shape.traits with
  | error type => rfl
  | ok traits =>
    have nests := @nestedName?_isSome schema field traits shape
    dsimp only [bareField]
    rw [nests]
    cases nested : traits.mayNest && schema.contains traits.type with
    | true => cases called <;> simp [settled, bareSetting, Except.map, pure, Except.pure]
    | false =>
      cases converters.contains traits.type <;>
        simp [settled, bareSetting, Except.map, pure, Except.pure, throw, throwThe, MonadExceptOf.throw]

/-- Where the ignored options are not there, there is nothing to warn of. -/
theorem warnings_bare {name : String}
    (analysed : Setting.ofField field name schema converters = .ok setting) :
    (settled called setting).warnings name (bareField schema called field).options = [] := by
  obtain ⟨traits, shape, rfl, -⟩ := ofField_ok.mp analysed
  have nests := @nestedName?_isSome schema field traits shape
  have isNested : (settingOf schema field traits).isNested = (nestedName? schema field).isSome :=
    nests.symm
  simp only [Setting.warnings, settled, bareSetting, bareField, isNested]
  cases (nestedName? schema field).isSome <;> simp

theorem addField_bare {name : String} (analysis : Analysis) :
    (settledAnalysis called analysis).addField schema converters name (bareField schema called field) =
      (analysis.addField schema converters name field).map (settledAnalysis called) := by
  unfold Analysis.addField
  rw [ofField_bare]
  cases analysed : Setting.ofField field name schema converters with
  | error error => rfl
  | ok setting =>
    have silent := @warnings_bare schema converters field setting called name analysed
    change (if setting.isSelector then _ else _) = Except.map _ (if setting.isSelector then _ else _)
    simp only [silent]
    cases setting.isSelector with
    | false => simp [settledAnalysis, Except.map, pure, Except.pure]
    | true =>
      cases first : analysis.selector with
      | some first =>
        simp only [settledAnalysis, first, Option.map_some]
        rfl
      | none =>
        have isText : (bareField schema called field).shape.isText = field.shape.isText := rfl
        simp only [settledAnalysis, first, Option.map_none, isText]
        cases field.shape.isText with
        | false => rfl
        | true => simp [settledAnalysis, Except.map, pure, Except.pure]

/-- A record without the options that are ignored. -/
def bareRecord (schema : Schema) (called : Bool) (record : Record) : Record :=
  { record with fields := record.fields.map (bareField schema called) }

/-- A plan as the analysis gives it where the ignored options are not there. -/
def settledPlan (called : Bool) (plan : RecordPlan) : RecordPlan :=
  { plan with settings := plan.settings.map (settled called), warnings := [] }

theorem addFields_bare {name : String} (fields : List Field) (analysis : Analysis) :
    (fields.map (bareField schema called)).foldlM (Analysis.addField schema converters name)
        (settledAnalysis called analysis) =
      (fields.foldlM (Analysis.addField schema converters name) analysis).map
        (settledAnalysis called) := by
  induction fields generalizing analysis with
  | nil => rfl
  | cons field fields ih =>
    rw [List.map_cons, List.foldlM_cons, List.foldlM_cons, addField_bare]
    cases analysis.addField schema converters name field with
    | error error => rfl
    | ok next => exact ih next

theorem guardCandidates_bare {name : String} (selector : Setting) (settings : List Setting) :
    guardCandidates name (settled called selector) (settings.map (settled called)) =
      (guardCandidates name selector settings).map (List.map (settled called)) := by
  unfold guardCandidates
  have unfit : (settings.map (settled called)).find? (fun setting =>
        setting.isNested && !setting.isOptional) =
      (settings.find? fun setting => setting.isNested && !setting.isOptional).map (settled called) :=
    List.find?_map
  have flat : (settings.map (settled called)).all (!·.isNested) = settings.all (!·.isNested) :=
    List.all_map
  rw [unfit, flat]
  cases settings.find? fun setting => setting.isNested && !setting.isOptional with
  | some setting => rfl
  | none =>
    cases settings.all (!·.isNested) with
    | true => rfl
    | false =>
      change (.ok _ : Except GenerationError (List Setting)) = .ok _
      rw [List.map_map, List.map_map]
      rfl

/-- Analysing a record without its ignored options gives its plan without what is not looked at. -/
theorem ofRecord_bare (isRoot : Bool) :
    RecordPlan.ofRecord (bareRecord schema called record) isRoot schema converters =
      (RecordPlan.ofRecord record isRoot schema converters).map (settledPlan called) := by
  have folded := @addFields_bare schema converters called record.name record.fields {}
  unfold RecordPlan.ofRecord
  change (record.fields.map (bareField schema called)).foldlM
    (Analysis.addField schema converters record.name) (settledAnalysis called {}) >>= _ = _
  rw [folded]
  cases record.fields.foldlM (Analysis.addField schema converters record.name) {} with
  | error error => rfl
  | ok analysis =>
    cases selects : analysis.selector with
    | none =>
      simp only [Except.map, bind, Except.bind, settledAnalysis, selects]
      rfl
    | some selection =>
      have sameName : (bareRecord schema called record).name = record.name := rfl
      simp only [Except.map, bind, Except.bind, settledAnalysis, selects, Option.map_some, sameName,
        guardCandidates_bare]
      cases guardCandidates record.name selection.2 analysis.settings <;> rfl

/-- In a plan the settings that are guarded are those that a selector chooses between. So what is left
of its settings is what is looked at. -/
theorem settledPlan_bare {isRoot : Bool} (planned : PlanOf schema converters record isRoot plan) :
    settledPlan (record.fields.any isSelecting) plan = barePlan plan := by
  unfold settledPlan barePlan
  congr 1
  refine List.map_congr_left fun setting listed => ?_
  obtain ⟨field, -, traits, -, rfl, -⟩ := related_mem planned.settings.flip listed
  rfl

/-- Whether a dispatcher calls the methods of what a record nests. -/
def calls (schema : Schema) (converters : Converters) (record : Record) (isRoot : Bool) : Bool :=
  match RecordPlan.ofRecord record isRoot schema converters with
  | .ok _ => record.fields.any isSelecting
  | .error _ => false

theorem calls_candidate {isRoot : Bool} {name : String}
    (called : calls schema converters record isRoot = true) (nested : NestedBy schema field name) :
    Candidate schema converters record field := by
  unfold calls at called
  cases analysed : RecordPlan.ofRecord record isRoot schema converters with
  | error error =>
    rw [analysed] at called
    exact nomatch called
  | ok plan =>
    rw [analysed] at called
    exact ⟨⟨isRoot, plan, analysed⟩, called, name, nested⟩

theorem bareField_alike {isRoot : Bool} {another : Field}
    (alike : FieldsAlike schema converters record field another) :
    bareField schema (calls schema converters record isRoot) another =
      bareField schema (calls schema converters record isRoot) field := by
  obtain ⟨same, default, buildWith⟩ := alike
  have shape : nestedName? schema another = nestedName? schema field := by
    rw [same]
    rfl
  have defaults : (if (nestedName? schema field).isSome then none else another.options.default) =
      if (nestedName? schema field).isSome then none else field.options.default := by
    cases nested : nestedName? schema field with
    | some name => rfl
    | none =>
      by_contra differ
      obtain ⟨name, nests⟩ := default differ
      exact nomatch nested.symm.trans (nestedName?_eq_some.mpr nests)
  have methods : ∀ called, called = calls schema converters record isRoot →
      (if called && (nestedName? schema field).isSome then another.options.buildWith else none) =
        if called && (nestedName? schema field).isSome then field.options.buildWith else none := by
    intro called isCalls
    cases nested : nestedName? schema field with
    | none => simp
    | some name =>
      cases called with
      | false => rfl
      | true =>
        by_contra differ
        exact buildWith differ (calls_candidate isCalls.symm (nestedName?_eq_some.mp nested))
  simp only [bareField, shape, methods _ rfl, defaults]
  rw [same]

theorem bareRecord_alike {another : Record} (alike : RecordsAlike schema converters record another)
    (isRoot : Bool) :
    bareRecord schema (calls schema converters record isRoot) another =
      bareRecord schema (calls schema converters record isRoot) record := by
  have fields : record.fields.map (bareField schema (calls schema converters record isRoot)) =
      another.fields.map (bareField schema (calls schema converters record isRoot)) :=
    related_map alike.fields fun _ _ one => (bareField_alike one).symm
  unfold bareRecord
  rw [← fields, alike.name, alike.docs]

theorem selecting_alike {another : Record} (alike : RecordsAlike schema converters record another) :
    another.fields.any isSelecting = record.fields.any isSelecting := by
  have selecting : record.fields.map isSelecting = another.fields.map isSelecting :=
    related_map alike.fields fun field other one => by
      rw [one.same]
      rfl
  have either := congrArg (·.any id) selecting
  simpa [List.any_map] using either.symm

/-- Records that differ only in ignored options have plans that look alike, or the same fault. -/
theorem ofRecord_alike {another : Record} (alike : RecordsAlike schema converters record another)
    (isRoot : Bool) : (RecordPlan.ofRecord another isRoot schema converters).map barePlan =
      (RecordPlan.ofRecord record isRoot schema converters).map barePlan := by
  have bare : (RecordPlan.ofRecord another isRoot schema converters).map
        (settledPlan (calls schema converters record isRoot)) =
      (RecordPlan.ofRecord record isRoot schema converters).map
        (settledPlan (calls schema converters record isRoot)) := by
    rw [← ofRecord_bare, ← ofRecord_bare, bareRecord_alike alike]
  obtain ⟨error, fails', fails⟩ | ⟨plan', plan, analysed', analysed, looks⟩ := map_alike bare
  · rw [fails, fails']
  · have isCalls : calls schema converters record isRoot = record.fields.any isSelecting := by
      simp only [calls, analysed]
    rw [isCalls, settledPlan_bare (ofRecord_ok analysed), ← selecting_alike alike,
      settledPlan_bare (ofRecord_ok analysed')] at looks
    rw [analysed, analysed']
    exact congrArg Except.ok looks

/-! ### What is looked at -/

theorem barePlan_settings : (barePlan plan).settings =
    plan.settings.map fun setting => bareSetting setting.isGuarded setting := rfl

theorem barePlan_candidates : (barePlan plan).candidates =
    plan.candidates.map fun setting => bareSetting setting.isGuarded setting := by
  unfold RecordPlan.candidates
  rw [barePlan_settings, List.filter_map]
  rfl

theorem barePlan_nested : (barePlan plan).nested = plan.nested := by
  unfold RecordPlan.nested
  rw [barePlan_settings, List.filter_map, List.map_map]
  rfl

theorem barePlan_selector : (barePlan plan).selector? =
    plan.selector?.map fun setting => bareSetting setting.isGuarded setting := by
  unfold RecordPlan.selector?
  change plan.selectorIndex.bind (fun index => (barePlan plan).settings[index]?) = _
  rw [barePlan_settings]
  cases plan.selectorIndex with
  | none => rfl
  | some index => exact List.getElem?_map

/-- A setting asks for the same parser function, whether or not a nested one is required. -/
theorem request?_bare :
    request? converters (bareSetting called setting) = request? converters setting := by
  unfold request? requestOf
  cases nested : setting.isNested <;> simp [bareSetting, nested]

theorem memberOf_bare : memberOf converters (barePlan plan) (bareSetting called setting) =
    memberOf converters plan setting := by
  unfold memberOf valueOf requestOf calledValue
  cases nested : setting.isNested with
  | true => simp only [bareSetting, nested, ↓reduceIte]; rfl
  | false => simp only [bareSetting, nested, Bool.false_eq_true, ↓reduceIte]; rfl

/-- The methods of candidates are looked at. -/
theorem choices_bare : (barePlan plan).candidates.mapM choiceOf = plan.candidates.mapM choiceOf := by
  rw [barePlan_candidates, List.mapM_map]
  refine mapM_congr fun candidate listed => ?_
  have guarded : candidate.isGuarded = true := by simpa using (List.mem_filter.mp listed).2
  simp only [Function.comp, choiceOf, bareSetting, guarded, ↓reduceIte]
  rfl

theorem selection?_bare : selection? (barePlan plan) = (selection? plan).map fun (selector, target) =>
    (bareSetting selector.isGuarded selector, target) := by
  unfold selection?
  rw [barePlan_selector]
  cases plan.selector? with
  | none => rfl
  | some selector =>
    change selector.selects.map _ = (selector.selects.map _).map _
    rw [Option.map_map]
    rfl

theorem dispatcherOf_bare : dispatcherOf (barePlan plan) = dispatcherOf plan := by
  unfold dispatcherOf
  rw [selection?_bare]
  cases selection? plan with
  | none => rfl
  | some selection =>
    simp only [Option.map_some, dispatcherFor, choices_bare]
    rfl

theorem implementationOf_bare :
    implementationOf converters (barePlan plan) = implementationOf converters plan := by
  have members : (barePlan plan).settings.mapM (memberOf converters (barePlan plan)) =
      plan.settings.mapM (memberOf converters plan) := by
    rw [barePlan_settings, List.mapM_map]
    exact mapM_congr fun setting _ => memberOf_bare
  unfold implementationOf
  rw [members, dispatcherOf_bare]
  rfl

theorem askFor_bare : askFor converters session (bareSetting called setting) =
    askFor converters session setting := by
  unfold askFor
  rw [request?_bare]

theorem askForPlan_bare :
    askForPlan converters (barePlan plan) session = askForPlan converters plan session := by
  have settings : (barePlan plan).settings.foldl (askFor converters) session =
      plan.settings.foldl (askFor converters) session := by
    rw [barePlan_settings, List.foldl_map]
    simp only [askFor_bare]
  unfold askForPlan
  rw [settings, selection?_bare, Option.isSome_map]

theorem addPlan_bare (nesting : Nesting) : nesting.addPlan (barePlan plan) = nesting.addPlan plan := by
  unfold Nesting.addPlan
  rw [barePlan_nested]
  rfl

/-! ### What is shown in the example -/

theorem exampleEntry_bare {key : String} {guard : Option String} :
    exampleEntry converters (barePlan plan) key guard (bareSetting called setting) =
      exampleEntry converters plan key guard setting := by
  have labels : (barePlan plan).candidates.map (·.key) = plan.candidates.map (·.key) := by
    rw [barePlan_candidates, List.map_map]
    rfl
  unfold exampleEntry
  rw [labels]
  rfl

theorem planOf?_bare {plans : List RecordPlan} {name : String} :
    planOf? (plans.map barePlan) name = (planOf? plans name).map barePlan :=
  List.find?_map

theorem exampleParts_bare (plans : List RecordPlan) (fuel : Nat) (plan : RecordPlan)
    (keyPrefix guard : Option String) :
    exampleParts (plans.map barePlan) converters fuel (barePlan plan) keyPrefix guard =
      exampleParts plans converters fuel plan keyPrefix guard := by
  induction fuel generalizing plan keyPrefix guard with
  | zero => rfl
  | succ fuel ih =>
    have selectorKey : (barePlan plan).selector?.map (fun selector => fullKey keyPrefix selector.key) =
        plan.selector?.map fun selector => fullKey keyPrefix selector.key := by
      rw [barePlan_selector, Option.map_map]
      rfl
    unfold exampleParts
    rw [selectorKey, barePlan_settings, List.flatMap_map]
    refine List.flatMap_congr fun setting listed => ?_
    dsimp only
    have isNested : (bareSetting setting.isGuarded setting).isNested = setting.isNested := rfl
    rw [isNested]
    by_cases nested : setting.isNested = true
    · have sameType : (bareSetting setting.isGuarded setting).type = setting.type := rfl
      rw [if_pos nested, if_pos nested, sameType, planOf?_bare]
      cases planOf? plans setting.type with
      | none => rfl
      | some inner => simp only [Option.map_some, ih]; rfl
    · rw [if_neg nested, if_neg nested, exampleEntry_bare]
      rfl

theorem renderExample_bare {root : String} {plans : List RecordPlan} :
    renderExample root (plans.map barePlan) converters = renderExample root plans converters := by
  unfold renderExample
  rw [planOf?_bare, List.length_map]
  cases planOf? plans root with
  | none => rfl
  | some plan => simp only [Option.map_some, exampleParts_bare]

/-! ### Schemas -/

/-- Schemas that differ only in ignored options have records under the same names, which differ in
nothing else. -/
theorem get?_alike (alike : SchemasAlike converters schema other) (name : String) :
    (schema.get? name = none ∧ other.get? name = none) ∨
      ∃ record another, schema.get? name = some record ∧ other.get? name = some another ∧
        RecordsAlike schema converters record another := by
  have same : ∀ one another : Declaration, (another.origin = one.origin ∧
      RecordsAlike schema converters one.record another.record) →
      decide (one.record.name = name) = decide (another.record.name = name) :=
    fun one another both => by rw [both.2.name]
  obtain ⟨absent, absent'⟩ | ⟨one, another, found, found', -, records⟩ := related_find? alike same
  · exact .inl ⟨congrArg (Option.map Declaration.record) absent,
      congrArg (Option.map Declaration.record) absent'⟩
  · exact .inr ⟨one.record, another.record, congrArg (Option.map Declaration.record) found,
      congrArg (Option.map Declaration.record) found', records⟩

theorem contains_alike (alike : SchemasAlike converters schema other) (name : String) :
    other.contains name = schema.contains name := by
  rw [contains_get?, contains_get?]
  obtain ⟨unknown, unknown'⟩ | ⟨record, another, known, known', -⟩ := get?_alike alike name
  · rw [unknown, unknown']
  · rw [known, known']
    rfl

/-- A schema that knows the same names gives the same plans. -/
theorem ofRecord_known (same : ∀ name, other.contains name = schema.contains name) (isRoot : Bool) :
    RecordPlan.ofRecord record isRoot other converters =
      RecordPlan.ofRecord record isRoot schema converters := by
  have fields : Analysis.addField other converters record.name =
      Analysis.addField schema converters record.name := by
    funext analysis field
    unfold Analysis.addField Setting.ofField
    simp only [same]
  unfold RecordPlan.ofRecord
  rw [fields]

/-! ### Whole runs -/

/-- What is written for a record, without what is not looked at. -/
def bareWritten (made : Written) : Written := (barePlan made.1, made.2)

/-- An assembly without what is not looked at. -/
def bareAssembly (assembly : Assembly) : Assembly :=
  { assembly with plans := assembly.plans.map barePlan }

/-- What a run gives out beside its warnings. -/
def shown (generated : Generated) : String × String × List String :=
  (generated.source, generated.exampleText, generated.records)

/-- What is written for a record does not depend on ignored options, but for what is not looked at. -/
theorem written_alike (alike : SchemasAlike converters schema other) (root name : String) :
    (written other converters root name).map bareWritten =
      (written schema converters root name).map bareWritten := by
  have implemented : ∀ plan, (implementationOf converters plan >>= fun implementation =>
      pure (plan, implementation)).map bareWritten =
      implementationOf converters (barePlan plan) >>= fun implementation =>
        (.ok (barePlan plan, implementation) : Except GenerationError Written) := by
    intro plan
    rw [implementationOf_bare]
    cases implementationOf converters plan <;> rfl
  unfold written
  obtain ⟨unknown, unknown'⟩ | ⟨record, another, known, known', records⟩ := get?_alike alike name
  · rw [unknown, unknown']
  · rw [known, known']
    dsimp only
    rw [ofRecord_known (contains_alike alike)]
    obtain ⟨error, fails', fails⟩ | ⟨plan', plan, analysed', analysed, looks⟩ :=
      map_alike (ofRecord_alike records (name == root))
    · rw [fails, fails']
    · rw [analysed, analysed']
      exact (implemented plan').trans (looks ▸ (implemented plan).symm)

/-- A loader is finished from the bare plans as from the plans. -/
theorem finishWritten_bare {start : Session} (made : List Written) :
    (finishWritten start made).map bareAssembly = finishWritten start (made.map bareWritten) := by
  have plans : (made.map bareWritten).map (·.1) = (made.map (·.1)).map barePlan := by
    rw [List.map_map, List.map_map]
    rfl
  have nesting : (collected {} (made.map bareWritten)).nesting = (collected {} made).nesting := by
    rw [collected_nesting, collected_nesting, plans, List.foldl_map]
    simp only [addPlan_bare]
  have implementations : (collected {} (made.map bareWritten)).implementations =
      (collected {} made).implementations := by
    rw [collected_implementations, collected_implementations, List.map_map]
    rfl
  have asked : askAll start.converters ((made.map (·.1)).map barePlan) start =
      askAll start.converters (made.map (·.1)) start := by
    unfold askAll
    rw [List.foldl_map]
    simp only [askForPlan_bare]
  have given : (collected {} (made.map bareWritten)).plans = (collected {} made).plans.map barePlan := by
    rw [collected_plans, collected_plans, plans]
    rfl
  unfold finishWritten finish
  rw [nesting, implementations, plans, asked, given]
  cases (collected {} made).nesting.findCycle with
  | some cycle => rfl
  | none =>
    dsimp only
    cases (askAll start.converters (made.map (·.1)) start).program
      (collected {} made).implementations <;> rfl

/-- What is given out does not depend on more of the plans. -/
theorem generate_shown : (generate schema config converters).map shown =
    (assemble schema config converters).map bareAssembly >>= fun assembly =>
      (fileText (fileHeader config.root config.sourceLabel) assembly.program.tokens).map fun source =>
        (source, renderExample config.root assembly.plans converters, assembly.plans.map (·.name)) := by
  unfold generate
  cases assemble schema config converters with
  | error error => rfl
  | ok assembly =>
    have names : (assembly.plans.map barePlan).map (·.name) = assembly.plans.map (·.name) := by
      rw [List.map_map]
      rfl
    change Except.map shown (fileText _ _ >>= _) = Except.map _ (fileText _ _)
    simp only [bareAssembly, names, renderExample_bare]
    cases fileText (fileHeader config.root config.sourceLabel) assembly.program.tokens <;> rfl

theorem assemble_alike (alike : SchemasAlike converters schema other) :
    (assemble other config converters).map bareAssembly =
      (assemble schema config converters).map bareAssembly := by
  have sameSize : other.size = schema.size := alike.length_eq.symm
  cases known : schema.contains config.root with
  | false =>
    rw [assemble_unknown known, assemble_unknown ((contains_alike alike _).trans known)]
  | true =>
    have known' : other.contains config.root = true := (contains_alike alike _).trans known
    cases started : Session.start config converters with
    | error error => rw [assemble_unstarted known started, assemble_unstarted known' started]
    | ok start =>
      have nested : ∀ one another, bareWritten one = bareWritten another →
          one.1.nested = another.1.nested := by
        intro one another same
        rw [← barePlan_nested, ← @barePlan_nested another.1]
        exact congrArg (fun made => made.1.nested) same
      have rounds := @rounds_alike ⟨[config.root], 0⟩ (written other converters config.root)
        (written schema converters config.root) (schema.size + 1) (fun _ => True) Written bareWritten
        nested (fun name _ => written_alike alike config.root name) (fun _ _ _ _ _ _ => trivial)
        (fun _ _ => trivial)
      have finished : ∀ result : Except GenerationError (List Written),
          (result >>= finishWritten start).map bareAssembly =
            result.map (List.map bareWritten) >>= finishWritten start := by
        intro result
        cases result with
        | error error => rfl
        | ok made => exact finishWritten_bare made
      rw [assemble_rounds started known, assemble_rounds started known', sameSize, finished, finished,
        rounds]

/-- The ignored options are ignored: schemas that differ in nothing else have the same loader, the same
example and the same records, or fail with the same error. -/
theorem ignored_options (alike : SchemasAlike converters schema other) (config : Config) :
    (generate other config converters).map shown = (generate schema config converters).map shown := by
  rw [generate_shown, generate_shown, assemble_alike alike]

/-- The schema with a selector, with a default where a record is nested and methods that are no names
where no record is. -/
def overdoneStore : Schema where
  declarations := [
    ⟨⟨"Config", "", [⟨some "kind", 0, .named "String",
        { build := some "Store", buildWith := some "no name" }, ""⟩,
      ⟨some "file", 1, .optional "FileStore", { default := some "none" }, ""⟩]⟩, none⟩,
    ⟨⟨"FileStore", "", [⟨some "path", 0, .named "String", { buildWith := some "" }, ""⟩]⟩, none⟩]

/-- They are ignored. -/
theorem overdoneStore_shown :
    (generate overdoneStore { root := "Config" } .builtin).map shown =
      (generate chosenStore { root := "Config" } .builtin).map shown := by
  have unnested : ∀ {record} {field : Field}, nestedName? chosenStore field = none →
      ¬ Candidate chosenStore .builtin record field := by
    intro record field unnested candidate
    obtain ⟨name, nested⟩ := candidate.nested
    exact nomatch unnested.symm.trans (nestedName?_eq_some.mpr nested)
  have nested : NestedBy chosenStore ⟨some "file", 1, .optional "FileStore", {}, ""⟩ "FileStore" :=
    ⟨.inr rfl, by decide⟩
  refine ignored_options ?_ _
  refine .cons ⟨rfl, rfl, rfl, .cons ⟨rfl, ?_, ?_⟩ (.cons ⟨rfl, ?_, ?_⟩ .nil)⟩
    (.cons ⟨rfl, rfl, rfl, .cons ⟨rfl, ?_, ?_⟩ .nil⟩ .nil)
  · exact fun differ => absurd rfl differ
  · exact fun _ => unnested (by decide)
  · exact fun _ => ⟨"FileStore", nested⟩
  · exact fun differ => absurd rfl differ
  · exact fun differ => absurd rfl differ
  · exact fun _ => unnested (by decide)

end EnvLoader.IgnoredOptions
