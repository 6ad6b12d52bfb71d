import EnvLoader.Proofs.StatelessRun

/-! What a run depends on. It looks at the records that nesting leads to, at whether the names in
their fields are records, and at the converters of their types, and at nothing else of the schema
and the converters. Two runs that find the same there go through the same rounds, fail with the same
error, or give the same. -/
namespace EnvLoader.AlikeSchemas
open Outcomes RecordWriting SchemaNesting ExpansionRun AssembledRun StatelessRun Loader

/-- A field of a record that nesting leads to. -/
def Reached (schema : Schema) (root : String) (field : Field) : Prop :=
  ∃ name record, Reachable schema root name ∧ schema.get? name = some record ∧ field ∈ record.fields

/-- Two schemas with converters look the same from a root on: nesting leads to the same records, the
same of the names that could be records there are, and the types of their fields have the same
converters. -/
structure Alike (root : String) (schema other : Schema) (converters others : Converters) : Prop where
  records : ∀ name, Reachable schema root name → schema.get? name = other.get? name
  nested : ∀ field, Reached schema root field → ∀ type,
    field.shape = .named type ∨ field.shape = .optional type →
      schema.contains type = other.contains type
  converters : ∀ field, Reached schema root field → ∀ traits, field.shape.traits = .ok traits →
    converters.find? traits.type = others.find? traits.type

variable {schema other : Schema} {converters others : Converters} {config : Config}
  {root name record : String} {field : Field} {plan : RecordPlan} {plans : List RecordPlan}
  {session start start' after after' : Session} {expansion : Expansion} {traits : ShapeTraits}

theorem root_known (alike : Alike root schema other converters others) :
    schema.contains root = other.contains root := by
  rw [contains_get?, contains_get?, alike.records root .refl]

/-! ### The same plans -/

theorem mayNest_shape (shape : field.shape.traits = .ok traits) (nests : traits.mayNest = true) :
    field.shape = .named traits.type ∨ field.shape = .optional traits.type := by
  cases declared : field.shape with
  | named type =>
    rw [declared] at shape
    cases shape
    exact .inl rfl
  | optional type =>
    rw [declared] at shape
    cases shape
    exact .inr rfl
  | sequence type | qualified type =>
    rw [declared] at shape
    cases shape
    exact nomatch nests
  | unrecognized type =>
    rw [declared] at shape
    exact nomatch shape

/-- A reached field nests in both schemas, or in none. -/
theorem nests_alike (alike : Alike root schema other converters others)
    (reached : Reached schema root field) (shape : field.shape.traits = .ok traits) :
    (traits.mayNest && schema.contains traits.type) =
      (traits.mayNest && other.contains traits.type) := by
  cases nests : traits.mayNest with
  | false => rfl
  | true => rw [alike.nested field reached traits.type (mayNest_shape shape nests)]

theorem ofField_alike (alike : Alike root schema other converters others)
    (reached : Reached schema root field) :
    Setting.ofField field record schema converters = Setting.ofField field record other others := by
  unfold Setting.ofField
  cases shape : field.shape.traits with
  | error type => rfl
  | ok traits =>
    have nests := nests_alike alike reached shape
    have converts := alike.converters field reached traits shape
    dsimp only
    rw [nests, Converters.contains, Converters.contains, converts]

theorem addField_alike (alike : Alike root schema other converters others)
    (reached : Reached schema root field) (analysis : Analysis) :
    analysis.addField schema converters record field =
      analysis.addField other others record field := by
  unfold Analysis.addField
  rw [ofField_alike alike reached]

theorem ofRecord_alike (alike : Alike root schema other converters others) {declared : Record}
    (reached : ∀ field ∈ declared.fields, Reached schema root field) (isRoot : Bool) :
    RecordPlan.ofRecord declared isRoot schema converters =
      RecordPlan.ofRecord declared isRoot other others := by
  have folded : declared.fields.foldlM (Analysis.addField schema converters declared.name) {} =
      declared.fields.foldlM (Analysis.addField other others declared.name) {} :=
    foldlM_congr fun field member analysis => addField_alike alike (reached field member) analysis
  unfold RecordPlan.ofRecord
  rw [folded]

/-! ### The same code -/

/-- The types of a plan have the same converters. -/
def SameConverters (converters others : Converters) (plan : RecordPlan) : Prop :=
  ∀ setting ∈ plan.settings, converters.find? setting.type = others.find? setting.type

theorem sameConverters_analysed (alike : Alike root schema other converters others)
    {declared : Record} {isRoot : Bool} (reached : ∀ field ∈ declared.fields, Reached schema root field)
    (analysed : RecordPlan.ofRecord declared isRoot schema converters = .ok plan) :
    SameConverters converters others plan := by
  intro setting listed
  obtain ⟨field, member, traits, shape, rfl, -⟩ :=
    related_mem (ofRecord_ok analysed).settings.flip listed
  exact alike.converters field (reached field member) traits shape

theorem request?_alike {setting : Setting}
    (same : converters.find? setting.type = others.find? setting.type) :
    request? converters setting = request? others setting := by
  unfold request?
  rw [same]

theorem implementationOf_alike (same : SameConverters converters others plan) :
    implementationOf converters plan = implementationOf others plan := by
  have members : plan.settings.mapM (memberOf converters plan) =
      plan.settings.mapM (memberOf others plan) := by
    refine mapM_congr fun setting listed => ?_
    unfold memberOf valueOf
    rw [same setting listed]
  unfold implementationOf
  rw [members]

/-- A record that nesting leads to is analysed and written in the same way. -/
theorem written_alike (alike : Alike root schema other converters others)
    (reachable : Reachable schema root name) :
    written schema converters root name = written other others root name := by
  unfold written
  rw [← alike.records name reachable]
  cases known : schema.get? name with
  | none => rfl
  | some declared =>
    have reached : ∀ field ∈ declared.fields, Reached schema root field :=
      fun field member => ⟨name, declared, reachable, known, member⟩
    dsimp only
    rw [← ofRecord_alike alike reached]
    cases analysed : RecordPlan.ofRecord declared (name == root) schema converters with
    | error error => rfl
    | ok plan =>
      have same := implementationOf_alike (sameConverters_analysed alike reached analysed)
      change implementationOf converters plan >>= _ = implementationOf others plan >>= _
      rw [same]

theorem written_same (alike : Alike root schema other converters others)
    (reachable : Reachable schema root name) {implementation : Implementation}
    (ready : written schema converters root name = .ok (plan, implementation)) :
    SameConverters converters others plan := by
  obtain ⟨declared, known, analysed, -⟩ := written_ok.mp ready
  exact sameConverters_analysed alike
    (fun field member => ⟨name, declared, reachable, known, member⟩) analysed

/-! ### The same rounds -/

/-- What is written for a record nests only what nesting leads to. -/
theorem written_closed (name : String) (one : Written) (reachable : Reachable schema root name)
    (ready : written schema converters root name = .ok one) :
    ∀ inner ∈ one.1.nested, Reachable schema root inner := by
  obtain ⟨plan, implementation⟩ := one
  exact fun inner nested => reachable.tail ((mem_nested ready).mp nested)

/-- Schemas that look the same write the same in the same rounds, however large they are. -/
theorem rounds_same (alike : Alike root schema other converters others)
    (known : schema.contains root = true) :
    rounds (written schema converters root) (schema.size + 1) ⟨[root], 0⟩ =
      rounds (written other others root) (other.size + 1) ⟨[root], 0⟩ := by
  have waits : ∀ name ∈ [root], Reachable schema root name := by
    intro name member
    rw [List.mem_singleton.mp member]
    exact .refl
  have same : ∀ name, Reachable schema root name →
      written schema converters root name = written other others root name :=
    fun name => written_alike alike
  have bound : ∀ names : List String, names.Nodup → (∀ name ∈ names, Reachable schema root name) →
      names.length ≤ schema.size := fun names distinct reachable =>
    known_length_le distinct fun name member => reachable_known known (reachable name member)
  have bound' : ∀ names : List String, names.Nodup → (∀ name ∈ names, Reachable schema root name) →
      names.length ≤ other.size := by
    intro names distinct reachable
    refine known_length_le distinct fun name member => ?_
    rw [contains_get?, ← alike.records name (reachable name member), ← contains_get?]
    exact reachable_known known (reachable name member)
  have closed : ∀ name one, Reachable schema root name →
      written other others root name = .ok one → ∀ inner ∈ one.1.nested,
        Reachable schema root inner := fun name one reachable ready =>
    written_closed name one reachable ((same name reachable).trans ready)
  have first := @rounds_more ⟨[root], 0⟩ (written schema converters root) (schema.size + 1) _ _
    other.size bound written_closed waits (by simp) (by simp) (by simp)
  have second := @rounds_more ⟨[root], 0⟩ (written other others root) (other.size + 1) _ _
    schema.size bound' closed waits (by simp) (by simp) (by simp)
  have looks := @rounds_alike ⟨[root], 0⟩ (written schema converters root)
    (written other others root) (schema.size + 1 + other.size) _ Written id
    (fun one another looks => congrArg (fun made : Written => made.1.nested) looks)
    (fun name reachable => congrArg (Except.map id) (same name reachable)) written_closed waits
  have enough : other.size + 1 + schema.size = schema.size + 1 + other.size := by omega
  rw [enough] at second
  rw [← first, ← second]
  simpa using looks

/-! ### The same needs -/

theorem askForPlan_alike {kept : Converters} (same : SameConverters converters others plan) :
    askForPlan others plan { session with converters := kept } =
      { askForPlan converters plan session with converters := kept } := by
  have settings : ∀ (settings : List Setting) (session : Session),
      (∀ setting ∈ settings, converters.find? setting.type = others.find? setting.type) →
      settings.foldl (askFor others) { session with converters := kept } =
        { settings.foldl (askFor converters) session with converters := kept } := by
    intro settings
    induction settings with
    | nil => exact fun _ _ => rfl
    | cons setting settings ih =>
      intro session same
      have one : askFor others { session with converters := kept } setting =
          { askFor converters session setting with converters := kept } := by
        unfold askFor
        rw [request?_alike (same setting (by simp))]
        cases request? others setting <;> rfl
      rw [List.foldl_cons, one, ih _ fun other listed => same other (by simp [listed]),
        List.foldl_cons]
  unfold askForPlan
  rw [settings plan.settings session same]
  cases (selection? plan).isSome <;> rfl

theorem askAll_alike {kept : Converters}
    (same : ∀ plan ∈ plans, SameConverters converters others plan) :
    askAll others plans { session with converters := kept } =
      { askAll converters plans session with converters := kept } := by
  induction plans generalizing session with
  | nil => rfl
  | cons plan plans ih =>
    change askAll others plans (askForPlan others plan { session with converters := kept }) = _
    rw [askForPlan_alike (same plan (by simp)), ih fun other listed => same other (by simp [listed])]
    rfl

/-- The plans of a run have the same converters. -/
theorem grown_same (alike : Alike start.config.root schema other start.converters others)
    (grown : Grown schema start expansion after) :
    ∀ plan ∈ expansion.plans, SameConverters start.converters others plan := by
  intro plan listed
  obtain ⟨implementation, -, ready⟩ := plan_written grown listed
  have discovered : plan.name ∈ after.queue.discovered := by
    refine List.mem_of_mem_take (i := after.queue.expanded) ?_
    rw [← grown.names]
    exact List.mem_map_of_mem listed
  exact written_same alike (grown.reachable plan.name discovered) ready

/-- What the same plans need makes the same loader. -/
theorem finish_alike (alike : Alike start.config.root schema other start.converters others)
    (moved : start' = { start with converters := others })
    (grown : Grown schema start expansion after) (grown' : Grown other start' expansion after') :
    finish expansion after = finish expansion after' := by
  have same := @askAll_alike start.converters others expansion.plans start others
    (grown_same alike grown)
  have asked := grown.asked
  have asked' := grown'.asked
  rw [moved, same] at asked'
  rw [asked, asked']
  rfl

theorem start_alike : Session.start config others =
    (Session.start config converters).map fun start => { start with converters := others } := by
  unfold Session.start
  cases nameFor .errorType config.errorType <;> rfl

/-! ### The same result -/

theorem assemble_alike (alike : Alike config.root schema other converters others) :
    assemble schema config converters = assemble other config others := by
  have starts := @start_alike converters others config
  cases known : schema.contains config.root with
  | false =>
    have known' : other.contains config.root = false := (root_known alike).symm.trans known
    rw [assemble_unknown known, assemble_unknown known']
  | true =>
    have known' : other.contains config.root = true := (root_known alike).symm.trans known
    cases started : Session.start config converters with
    | error error =>
      rw [started] at starts
      rw [assemble_unstarted known started, assemble_unstarted known' starts]
    | ok start =>
      rw [started] at starts
      obtain ⟨start', moved⟩ : ∃ start', start' = { start with converters := others } := ⟨_, rfl⟩
      have started' : Session.start config others = .ok start' := moved ▸ starts
      have isOthers : start'.converters = others := by rw [moved]
      obtain ⟨isConfig, isConverters⟩ := start_kept started
      subst isConfig isConverters isOthers
      obtain ⟨outcome, after, ran, -, ends⟩ := expandAll_run started known
      obtain ⟨outcome', after', ran', -, ends'⟩ := expandAll_run started' known'
      have same : outcome = outcome' := by
        rw [expandAll_rounds started ran, expandAll_rounds started' ran']
        exact congrArg (Except.map (collected {})) (rounds_same alike known)
      subst same
      rw [assemble_run started known ran, assemble_run started' known' ran']
      cases outcome with
      | error error => rfl
      | ok expansion => exact finish_alike alike moved ends.1 ends'.1

theorem exampleParts_alike (same : ∀ plan ∈ plans, SameConverters converters others plan)
    (fuel : Nat) : ∀ plan ∈ plans, ∀ keyPrefix guard,
      exampleParts plans converters fuel plan keyPrefix guard =
        exampleParts plans others fuel plan keyPrefix guard := by
  induction fuel with
  | zero => exact fun _ _ _ _ => rfl
  | succ fuel ih =>
    intro plan listed keyPrefix guard
    unfold exampleParts
    refine List.flatMap_congr fun setting member => ?_
    dsimp only
    cases setting.isNested with
    | true =>
      simp only [↓reduceIte]
      cases found : planOf? plans setting.type with
      | none => rfl
      | some inner => simp only [ih inner (List.mem_of_find?_eq_some found)]
    | false =>
      simp only [Bool.false_eq_true, ↓reduceIte, exampleEntry, same plan listed setting member]

theorem renderExample_alike (same : ∀ plan ∈ plans, SameConverters converters others plan) :
    renderExample root plans converters = renderExample root plans others := by
  unfold renderExample
  cases found : planOf? plans root with
  | none => rfl
  | some plan =>
    simp only [exampleParts_alike same plans.length plan (List.mem_of_find?_eq_some found)]

/-- Schemas with converters that look the same from the root on give the same loader and example,
or fail with the same error. -/
theorem generate_alike (alike : Alike config.root schema other converters others) :
    generate schema config converters = generate other config others := by
  unfold generate
  rw [← assemble_alike alike]
  cases assembled : assemble schema config converters with
  | error error =>
    change (.error error : Except GenerationError Generated) = .error error
    rfl
  | ok assembly =>
    obtain ⟨start, expansion, after, completed, -, -, isPlans⟩ := assemble_ok assembled
    obtain ⟨isConfig, isConverters⟩ := start_kept completed.started
    subst isConfig isConverters
    have same := @renderExample_alike start.converters others start.config.root assembly.plans
      (isPlans ▸ grown_same alike completed.grown)
    change fileText _ _ >>= _ = fileText _ _ >>= _
    rw [same]

/-! ### Schemas that look the same -/

/-- A schema without repeated names has each of its records under the record's name. -/
theorem get?_iff {declared : Record} (distinct : (schema.records.map (·.name)).Nodup) :
    schema.get? name = some declared ↔ declared ∈ schema.records ∧ declared.name = name := by
  have listed : ∀ {record}, schema.get? name = some record → record ∈ schema.records := by
    intro record known
    obtain ⟨declaration, found, rfl⟩ := Option.map_eq_some_iff.mp known
    exact List.mem_map_of_mem (List.mem_of_find?_eq_some found)
  refine ⟨fun known => ⟨listed known, get?_name known⟩, ?_⟩
  rintro ⟨member, rfl⟩
  cases known : schema.get? declared.name with
  | none =>
    obtain ⟨declaration, declares, rfl⟩ := List.mem_map.mp member
    have absent := List.find?_eq_none.mp (Option.map_eq_none_iff.mp known) declaration declares
    exact absurd (decide_eq_true rfl) absent
  | some other =>
    have same := List.inj_on_of_nodup_map distinct (listed known) member (get?_name known)
    rw [same]

/-- The order in which records came does not show, nor does where they came from. -/
theorem alike_reordered (distinct : (schema.records.map (·.name)).Nodup)
    (reordered : schema.records.Perm other.records) :
    Alike root schema other converters converters := by
  have distinct' : (other.records.map (·.name)).Nodup :=
    (reordered.map (·.name)).nodup_iff.mp distinct
  have same : ∀ name, schema.get? name = other.get? name := by
    intro name
    ext declared
    rw [get?_iff distinct, get?_iff distinct', reordered.mem_iff]
  refine ⟨fun name _ => same name, fun _ _ type _ => ?_, fun _ _ _ _ => rfl⟩
  rw [contains_get?, contains_get?, same type]

/-- Records that nesting does not lead to do not show, whatever they are. -/
theorem alike_unreachable
    (same : ∀ name, Reachable schema root name → schema.get? name = other.get? name)
    (fewer : ∀ name, other.contains name = true → schema.contains name = true) :
    Alike root schema other converters converters := by
  refine ⟨same, ?_, fun _ _ _ _ => rfl⟩
  rintro field ⟨name, record, reachable, known, member⟩ type shape
  cases nests : schema.contains type with
  | false =>
    cases nests' : other.contains type with
    | false => rfl
    | true => exact nests.symm.trans (fewer type nests')
  | true =>
    have nested : NestedBy schema field type := ⟨shape, nests⟩
    have inner := same type (reachable.tail ⟨record, field, known, member, nested⟩)
    rw [← nests, contains_get?, contains_get?, inner]

/-- What a run gives is settled by the records that nesting leads to, by which names in their fields
are records, and by the converters of their types. The order of the records does not matter, and
neither does where they came from; records that nesting does not lead to can be taken out, or be
replaced by others of the same names. -/
theorem generate_settled (config : Config) :
    (∀ schema other converters others, Alike config.root schema other converters others →
      generate schema config converters = generate other config others) ∧
    (∀ schema other : Schema, ∀ converters, (schema.records.map (·.name)).Nodup →
      schema.records.Perm other.records →
      generate schema config converters = generate other config converters) ∧
    ∀ schema other converters,
      (∀ name, Reachable schema config.root name → schema.get? name = other.get? name) →
      (∀ name, other.contains name = true → schema.contains name = true) →
      generate schema config converters = generate other config converters := by
  refine ⟨fun schema other converters others => generate_alike, ?_, ?_⟩
  · intro schema other converters distinct reordered
    exact generate_alike (alike_reordered distinct reordered)
  · intro schema other converters same fewer
    exact generate_alike (alike_unreachable same fewer)

/-- The schema of two records with one more, which cannot be analysed, before them. -/
def brokenAside : Schema where
  declarations := [
    ⟨⟨"Broken", "", [⟨some "field", 0, .unrecognized "[u8; 4]", {}, ""⟩]⟩, some "broken.rs"⟩,
    ⟨⟨"Store", "", [⟨some "name", 0, .named "String", {}, ""⟩]⟩, some "store.rs"⟩,
    ⟨⟨"Config", "", [⟨some "store", 0, .named "Store", {}, ""⟩]⟩, none⟩]

/-- It has the loader of the two records, also with text alone. -/
theorem brokenAside_settled :
    generate twoRecords { root := "Config" } .builtin =
      generate brokenAside { root := "Config" } (Converters.insert {} .string) := by
  have listed : ∀ name, Reachable twoRecords "Config" name → name = "Config" ∨ name = "Store" := by
    intro name reachable
    simpa [twoRecords] using known_declared (reachable_known (by decide) reachable)
  have fields : ∀ field, Reached twoRecords "Config" field →
      field.shape = .named "Store" ∨ field.shape = .named "String" := by
    rintro field ⟨name, record, reachable, known, member⟩
    rcases listed name reachable with rfl | rfl
    · cases known
      cases List.mem_singleton.mp member
      exact .inl rfl
    · cases known
      cases List.mem_singleton.mp member
      exact .inr rfl
  refine (generate_settled _).1 twoRecords brokenAside .builtin (Converters.insert {} .string)
    ⟨?_, ?_, ?_⟩
  · intro name reachable
    rcases listed name reachable with rfl | rfl <;> decide
  · intro field reached type shape
    rcases fields field reached with isShape | isShape
    · rw [isShape] at shape
      rcases shape with shape | shape
      · cases shape
        decide
      · exact nomatch shape
    · rw [isShape] at shape
      rcases shape with shape | shape
      · cases shape
        decide
      · exact nomatch shape
  · intro field reached traits shape
    rcases fields field reached with isShape | isShape
    · rw [isShape] at shape
      cases shape
      decide
    · rw [isShape] at shape
      cases shape
      decide

end EnvLoader.AlikeSchemas
