import EnvLoader.Proofs.ClosedOutput
import EnvLoader.Proofs.DirectReading

/-! Running a loader is reading its schema. Each expression of a constructor does for its field
what the direct reading does, so each constructor does it for its record, and from one level of
nesting to the next this carries over to the whole loader. -/
namespace EnvLoader.LoaderRuns
open Outcomes RecordWriting SchemaNesting ExpansionRun AssembledRun WrittenRecords BuiltinConverters
open ClosedOutput CyclicSchemas NestingCycles KeyNames DirectReading Loader
open Source hiding readText?

variable {schema : Schema} {config : Config} {converters : Converters} {environment : Environment}
  {field : Field} {setting : Setting} {request : ParserRequest} {parser : ParserFn} {scope : Scope}
  {path : List String} {name key raw : String} {nested : List String → String → Evaluation Value}
  {plan : RecordPlan} {record : Record} {implementation : Implementation} {guards isRoot : Bool}
  {entry : MemberName × ValueExpr}

/-! ### Calls of parser functions -/

/-- A parser function has the conversion of its converter. -/
theorem parser_conversion (builtin : request.converter ∈ Converter.builtin)
    (made : request.function name = .ok parser) :
    parser.typeName = request.converter.typeText ∧
      parser.conversion = request.converter.conversion ∧ parser.isList = request.isList := by
  obtain ⟨ident, -, rest⟩ := bind_ok.mp made
  obtain ⟨type, typed, made⟩ := bind_ok.mp rest
  cases pure_ok.mp made
  refine ⟨?_, rfl, rfl⟩
  unfold typeFor at typed
  unfold ParserFn.typeName
  cases reads : typeOfText? request.converter.typeText with
  | none => simp only [reads] at typed; exact nomatch typed
  | some read =>
    simp only [reads, pure_ok] at typed
    exact typed ▸ type_written builtin reads

/-- A parser function converts as its converter says. -/
theorem parser_converts (builtin : request.converter ∈ Converter.builtin)
    (made : request.function name = .ok parser) :
    parser.apply key raw = convertText request.converter request.isList key raw := by
  obtain ⟨isType, isConversion, isList⟩ := parser_conversion builtin made
  unfold ParserFn.apply convertText
  simp only [isType, isConversion, isList, map_eq_pure_bind]

/-- A variable that has to be set is read as a leaf without a default. -/
theorem require_reads {traits : ShapeTraits} {converter : Converter}
    (plain : traits.isOptional = false)
    (converts : ∀ raw, parser.apply key raw = convertText converter traits.isList key raw) :
    parser.require environment key = readLeaf environment converter traits none key := by
  unfold ParserFn.require readText? readLeaf
  cases environment.get? key with
  | none => simp [plain]
  | some content =>
    cases content with
    | raw bytes => rfl
    | text raw =>
      rw [plain, held_plain]
      exact (converts raw).trans (id_map _).symm

/-- A variable that may be unset is read as a leaf: with a default it always has a value, and
without one it has none where it is unset. -/
theorem request_reads {traits : ShapeTraits} {converter : Converter} {default : Option String}
    {next : Option Value → Evaluation Value}
    (converts : ∀ raw, parser.apply key raw = convertText converter traits.isList key raw)
    (covered : traits.isOptional = true ∨ default.isSome = true)
    (present : ∀ value, next (some value) = pure (held traits.isOptional value))
    (absent : traits.isOptional = true → next none = pure .absent) :
    parser.request environment default key >>= next =
      readLeaf environment converter traits default key := by
  have applied : ∀ raw, (do return some (← parser.apply key raw)) >>= next =
      held traits.isOptional <$> convertText converter traits.isList key raw := by
    intro raw
    rw [bind_assoc, map_eq_pure_bind, converts]
    simp only [pure_bind, present]
  unfold ParserFn.request readText? readLeaf
  cases environment.get? key with
  | none =>
    cases default with
    | none =>
      have optional : traits.isOptional = true := by simpa using covered
      simp only [optional, ↓reduceIte]
      exact absent optional
    | some default => exact applied default
  | some content =>
    cases content with
    | raw bytes => rfl
    | text raw => exact applied raw

theorem key_asks {expr : KeyExpr} (isKey : expr.name? scope.keyPrefix = some key) :
    scope.key expr = pure key := by
  unfold Scope.key
  rw [isKey]
  rfl

/-- The call for a field reads it as a leaf. -/
theorem call_reads {traits : ShapeTraits} {default : Option String}
    (optional : setting.isOptional = traits.isOptional) (isDefault : setting.default = default)
    (required : setting.isRequired = (!traits.isOptional && default.isNone))
    (isRequest : request.isList = traits.isList ∧ request.isRequired = setting.isRequired)
    (builtin : request.converter ∈ Converter.builtin)
    (made : request.function name = .ok parser) (found : scope.parser? name = some parser)
    (isKey : (setting.keyExpr isRoot).name? scope.keyPrefix = some key) :
    (calledValue setting isRoot name).eval scope =
      readLeaf scope.environment request.converter traits default key := by
  obtain ⟨-, -, calls, -⟩ := function_ok made
  have converts : ∀ raw, parser.apply key raw = convertText request.converter traits.isList key raw :=
    fun raw => isRequest.1 ▸ parser_converts builtin made
  have called : scope.parser name setting.isRequired = pure parser := by
    unfold Scope.parser
    rw [found, Option.filter_some, calls, isRequest.2]
    simp [Evaluation.ofOption]
  have asks := key_asks isKey
  unfold calledValue
  cases isRequired : setting.isRequired with
  | true =>
    simp only [isRequired, Bool.true_eq, Bool.and_eq_true, Bool.not_eq_true'] at required called
    simp only [↓reduceIte, ValueExpr.eval, called, asks, pure_bind]
    rw [Option.isNone_iff_eq_none.mp required.2]
    exact require_reads required.1 converts
  | false =>
    rw [isRequired] at called required
    have covered : traits.isOptional = true ∨ default.isSome = true := by
      revert required
      cases traits.isOptional <;> cases default <;> simp
    unfold ValueExpr.eval
    cases isOptional : traits.isOptional with
    | true =>
      rw [isOptional] at optional
      simp only [Bool.false_eq_true, ↓reduceIte, optional, called, asks, isDefault, pure_bind]
      exact request_reads converts covered (fun _ => by rw [isOptional]; rfl) fun _ => rfl
    | false =>
      rw [isOptional] at optional
      simp only [Bool.false_eq_true, ↓reduceIte, optional, called, asks, isDefault, pure_bind]
      exact request_reads converts covered (fun _ => by rw [isOptional]; rfl)
        fun other => nomatch isOptional.symm.trans other

/-! ### Members and fields -/

/-- A scope in which the fields of the record that a path leads to can be read: it finds the parser
functions that they ask for, and calls the right constructors for what they nest. -/
structure Serves (schema : Schema) (environment : Environment)
    (nested : List String → String → Evaluation Value) (path : List String) (fields : List Field)
    (scope : Scope) : Prop where
  environment : scope.environment = environment
  keyPrefix : scope.keyPrefix = pathPrefix path
  parsers : ∀ field ∈ fields, ∀ request, leafRequest? schema .builtin field = some request →
    ∃ parser, scope.parser? request.name = some parser ∧ request.function request.name = .ok parser
  nested : ∀ field ∈ fields, ∀ name, NestedBy schema field name →
    ∀ ident, nameOfText? name = some ident →
      ∀ key, scope.nested ident (pathKey (path ++ [key])) = nested (path ++ [key]) name

/-- What a setting says about its field, whose type has the given traits. -/
structure SettingFor (field : Field) (guards : Bool) (traits : ShapeTraits) (setting : Setting) :
    Prop where
  shape : field.shape.traits = .ok traits
  type : setting.type = traits.type
  key : setting.key = fieldKey field traits.type
  isList : setting.isList = traits.isList
  isOptional : setting.isOptional = traits.isOptional
  isRequired : setting.isRequired = (!traits.isOptional && field.options.default.isNone)
  isGuarded : setting.isGuarded = (guards && setting.isNested)
  default : setting.isNested = false → setting.default = field.options.default

theorem setting_for (analysed : Analysed schema converters guards field setting) :
    ∃ traits, SettingFor field guards traits setting := by
  obtain ⟨traits, shape, rfl, -⟩ := analysed
  refine ⟨traits, shape, rfl, rfl, rfl, rfl, rfl, rfl, fun flat => ?_⟩
  simp only [settingOf] at flat ⊢
  rw [flat]
  rfl

/-- The constructor of a nested record is called below the key of the field, if it is called. -/
theorem nest_reads {traits : ShapeTraits} {ident : String} {value : Evaluation Value}
    (optional : setting.isOptional = traits.isOptional)
    (guarded : scope.selected.isSome = setting.isGuarded)
    (isKey : (setting.keyExpr isRoot).name? scope.keyPrefix = some key)
    (calls : scope.nested ident key = value) :
    (nestedValue setting isRoot ident).eval scope =
      match scope.selected with
      | some choice => if choice = setting.key then .present <$> value else pure .absent
      | none => held traits.isOptional <$> value := by
  have asks := key_asks isKey
  unfold nestedValue
  dsimp only
  rw [← guarded]
  cases selected : scope.selected with
  | some choice =>
    simp only [Option.isSome_some, ↓reduceIte, ValueExpr.eval, selected, asks, pure_bind, calls]
    rw [map_eq_pure_bind]
    rfl
  | none =>
    rw [← optional]
    cases setting.isOptional with
    | true =>
      simp only [Option.isSome_none, Bool.false_eq_true, ↓reduceIte, ValueExpr.eval, asks, pure_bind,
        calls]
      exact (map_eq_pure_bind _ _).symm
    | false =>
      simp only [Option.isSome_none, Bool.false_eq_true, ↓reduceIte, ValueExpr.eval, asks, pure_bind,
        calls]
      exact (id_map _).symm

/-- A member does what the direct reading of its field does. -/
theorem entry_reads {fields : List Field} (isEntry : EntryOf schema .builtin plan guards field entry)
    (declared : field ∈ fields) (serves : Serves schema environment nested path fields scope)
    (rooted : plan.isRoot = (pathPrefix path).isNone)
    (guarded : nestedName? schema field ≠ none → scope.selected.isSome = guards) :
    fieldMember? field = some entry.1 ∧
      entry.2.eval scope = readField schema environment nested path scope.selected field := by
  obtain ⟨setting, analysed, made⟩ := isEntry
  obtain ⟨isMember, valued⟩ := memberOf_ok.mp made
  refine ⟨memberName_analysed analysed isMember, ?_⟩
  have named := nestedName?_analysed analysed
  have isRequest := request?_analysed analysed
  obtain ⟨traits, isSetting⟩ := setting_for analysed
  have isKey : (setting.keyExpr plan.isRoot).name? scope.keyPrefix =
      some (pathKey (path ++ [fieldKey field traits.type])) := by
    rw [serves.keyPrefix, rooted, keyExpr_name, fullKey_path, isSetting.key]
  unfold readField
  rw [isSetting.shape]
  dsimp only
  rcases valueOf_ok valued with ⟨isNested, ident, isIdent, isValue⟩ |
      ⟨request, parser, asks, isParser, isValue⟩
  · rw [isNested, if_pos rfl] at named
    have nests := serves.nested field declared setting.type (nestedName?_eq_some.mp named) ident isIdent
    have isGuarded : scope.selected.isSome = setting.isGuarded := by
      rw [guarded (by simp [named]), isSetting.isGuarded, isNested, Bool.and_true]
    rw [isValue, nest_reads isSetting.isOptional isGuarded isKey (nests _), named, isSetting.key]
    cases scope.selected <;> rfl
  · rw [asks] at isRequest
    obtain ⟨flat, required⟩ := request?_required asks
    have leaf := isRequest.symm
    obtain ⟨function, found, made⟩ := serves.parsers field declared request leaf
    cases request_named (leafRequest?_converter leaf) isParser
    rw [flat, if_neg (by simp)] at named
    rw [request?, flat, if_neg (by simp), Option.map_eq_some_iff] at asks
    obtain ⟨converter, isConverter, rfl⟩ := asks
    rw [isValue, call_reads isSetting.isOptional (isSetting.default flat) isSetting.isRequired
      ⟨isSetting.isList, required⟩ (leafRequest?_converter leaf) made found isKey,
      serves.environment, named, ← isSetting.type, isConverter]
    rfl

theorem members_read {fields : List Field} {members : List (MemberName × ValueExpr)}
    {read : Field → Evaluation Value}
    (each : List.Forall₂ (fun field entry => fieldMember? field = some entry.1 ∧
      entry.2.eval scope = read field) fields members) :
    evalMembers scope members = readFields read fields := by
  induction each with
  | nil => rfl
  | @cons field entry fields members one _ ih =>
    obtain ⟨isMember, reads⟩ := one
    unfold evalMembers readFields
    rw [reads, isMember, ih]
    rfl

/-! ### Constructors and records -/

/-- The members beside the selector are the direct reading of the other fields. They see the
selector's value, which changes nothing about what they can call. -/
theorem others_read {members : List (MemberName × ValueExpr)} {selected : Option String}
    (wrote : WrittenFor schema .builtin record isRoot plan implementation members)
    (serves : Serves schema environment nested path record.fields scope)
    (rooted : isRoot = (pathPrefix path).isNone)
    (guards : selected.isSome = record.fields.any isSelecting) :
    evalMembers { scope with selected } implementation.constructor.members =
      readFields (readField schema environment nested path selected)
        (record.fields.filter (!isSelecting ·)) := by
  have same : Serves schema environment nested path record.fields { scope with selected } :=
    ⟨serves.environment, serves.keyPrefix, serves.parsers, serves.nested⟩
  refine members_read (((List.forall₂_and_left _ _).mpr
    ⟨fun field listed => List.mem_of_mem_filter listed, (constructor_fields wrote).2⟩).imp ?_)
  rintro field entry ⟨declared, isEntry⟩
  exact entry_reads isEntry declared same (wrote.planned.isRoot.trans rooted) fun _ => guards

/-- A constructor does what the direct reading of its record does. -/
theorem constructor_reads {members : List (MemberName × ValueExpr)}
    (wrote : WrittenFor schema .builtin record isRoot plan implementation members)
    (serves : Serves schema environment nested path record.fields scope)
    (rooted : isRoot = (pathPrefix path).isNone) (unselected : scope.selected = none) :
    implementation.constructor.eval scope = readBody schema environment nested path record := by
  obtain ⟨isSelector, -⟩ := constructor_fields wrote
  have isRecord := (constructor_record wrote).1
  unfold Constructor.eval readBody
  dsimp only
  cases selects : record.fields.find? isSelecting with
  | none =>
    rw [selects] at isSelector
    have unguarded : record.fields.any isSelecting = false := by
      simpa using List.find?_eq_none.mp selects
    cases chosen : implementation.constructor.selector with
    | some entry =>
      rw [chosen] at isSelector
      exact nomatch isSelector
    | none =>
      have all := others_read wrote serves rooted (show none.isSome = _ by rw [unguarded]; rfl)
      rw [← unselected] at all
      simp only [all, unselected, isRecord]
  | some selector =>
    rw [selects] at isSelector
    cases chosen : implementation.constructor.selector with
    | none =>
      rw [chosen] at isSelector
      exact nomatch isSelector
    | some entry =>
      rw [chosen] at isSelector
      obtain ⟨isEntry⟩ := isSelector
      have declared := List.mem_of_find?_eq_some selects
      have selecting := List.find?_some selects
      have guarded : record.fields.any isSelecting = true :=
        List.any_eq_true.mpr ⟨selector, declared, selecting⟩
      have flat := selector_flat wrote.planned declared selecting
      obtain ⟨isMember, first⟩ := entry_reads isEntry declared serves
        (wrote.planned.isRoot.trans rooted) fun nests => absurd flat nests
      rw [unselected] at first
      simp only [first, isMember, isRecord, Evaluation.ofOption, pure_bind]
      congr 1
      funext value
      cases value with
      | text choice =>
        have all := others_read wrote serves rooted (show (some choice).isSome = _ from guarded.symm)
        simp only [all]
      | _ => rfl

/-! ### Whole loaders -/

variable {start after : Session} {expansion : Expansion} {program : Program} {ident : String}

theorem find?_named {α κ : Type} [DecidableEq κ] {key : α → κ} {items : List α} {item : α}
    {wanted : κ} (listed : item ∈ items) (named : key item = wanted) :
    ∃ found ∈ items, items.find? (key · = wanted) = some found ∧ key found = wanted := by
  cases search : items.find? (key · = wanted) with
  | none => exact absurd (decide_eq_true named) (List.find?_eq_none.mp search item listed)
  | some found =>
    have holds := List.find?_some search
    exact ⟨found, List.mem_of_find?_eq_some search, rfl, of_decide_eq_true holds⟩

/-- Looking up a parser function that is asked for finds it. -/
theorem parser_found (completed : Completed schema config .builtin start expansion after)
    (functions : List.Forall₂ (fun entry parser => ParserRequest.function entry.2 entry.1 = .ok parser)
      after.parsers.entries program.parsers) (asked : AskedFor schema config.root request) :
    ∃ parser, program.parser? request.name = some parser ∧
      request.function request.name = .ok parser := by
  obtain ⟨known, made, distinct⟩ := parsers_made completed functions
  obtain ⟨parser, declared, isParser, isName⟩ := related_mem made ((known request).mpr asked)
  obtain ⟨other, listed, found, otherName⟩ := find?_named declared isName
  rw [← parser_names completed functions] at distinct
  cases List.inj_on_of_nodup_map distinct listed declared (otherName.trans isName.symm)
  exact ⟨parser, found, isParser⟩

/-- The names of different records that nesting leads to spell different identifiers. -/
def SpelledApart (schema : Schema) (root : String) : Prop :=
  ∀ first second, Reachable schema root first → Reachable schema root second →
    nameOfText? first = nameOfText? second → first = second

/-- Where names spell different identifiers, the implementation of an identifier is that of the
record. -/
theorem implementation_found (completed : Completed schema config converters start expansion after)
    (apart : SpelledApart schema config.root)
    (implementations : program.implementations = expansion.implementations)
    (reachable : Reachable schema config.root name) (named : nameOfText? name = some ident) :
    ∃ implementation plan record members, program.implementation? ident = some implementation ∧
      plan ∈ expansion.plans ∧ plan.name = name ∧ schema.get? name = some record ∧
      WrittenFor schema converters record (name == config.root) plan implementation members := by
  unfold Program.implementation?
  rw [implementations]
  obtain ⟨implementation, listed, isIdent⟩ : ∃ implementation ∈ expansion.implementations,
      implementation.record = ident := by
    obtain ⟨_, _, _, implementation, listed, -, -, known, wrote⟩ := record_written completed reachable
    have spelled := wrote.name
    rw [get?_name known] at spelled
    exact ⟨implementation, listed, Option.some.inj (spelled.symm.trans named)⟩
  obtain ⟨other, otherListed, found, otherIdent⟩ := find?_named listed isIdent
  obtain ⟨plan, record, members, planListed, known, isReached, wrote⟩ :=
    implementation_written completed otherListed
  have spelled := wrote.name
  rw [get?_name known, otherIdent] at spelled
  cases apart plan.name name isReached reachable (spelled.trans named.symm)
  exact ⟨other, plan, record, members, found, planListed, rfl, known, wrote⟩

/-- To call the constructor of a record below a prefix is to read the record below a path that makes
the prefix. -/
theorem construct_reads (completed : Completed schema config .builtin start expansion after)
    (acyclic : ∀ name, Reachable schema config.root name → ¬ Relation.TransGen (Nests schema) name name)
    (apart : SpelledApart schema config.root)
    (made : after.program expansion.implementations = .ok program)
    (reachable : Reachable schema config.root name) (named : nameOfText? name = some ident)
    (atRoot : path = [] ↔ name = config.root) (depth : Nat) :
    program.construct environment depth ident (pathPrefix path) =
      readRecord schema environment depth path name := by
  obtain ⟨implementations, -, functions⟩ := program_ok made
  induction depth generalizing name ident path with
  | zero => rfl
  | succ depth ih =>
    obtain ⟨implementation, plan, record, members, found, -, -, known, wrote⟩ :=
      implementation_found completed apart implementations reachable named
    have rooted := pathPrefix_root atRoot
    have serves : Serves schema environment (readRecord schema environment depth) path record.fields {
        environment
        keyPrefix := pathPrefix path
        selected := none
        parser? := program.parser?
        nested := fun record keyPrefix =>
          program.construct environment depth record (some keyPrefix) } := by
      refine ⟨rfl, rfl, fun field declared request leaf => ?_,
        fun field declared inner nested ident named key => ?_⟩
      · exact parser_found completed functions ⟨name, field, reachable, ⟨record, known, declared⟩, leaf⟩
      · have nests : Nests schema name inner := ⟨record, field, known, declared, nested⟩
        have notRoot := nested_ne_root acyclic reachable nests
        have below := @ih (path ++ [key]) inner ident (reachable.tail nests) named (by simp [notRoot])
        rw [pathPrefix, if_neg (by simp)] at below
        exact below
    rw [Program.construct, found, readRecord, known]
    have sameRoot := (constructor_record wrote).2.trans rooted
    simp only [Evaluation.ofOption, pure_bind, sameRoot, ↓reduceIte]
    exact constructor_reads wrote serves rooted rfl

/-- What has been written can be read. -/
theorem readable_record {members : List (MemberName × ValueExpr)}
    (wrote : WrittenFor schema .builtin record isRoot plan implementation members) :
    ReadableRecord schema record := by
  constructor
  · intro field declared
    obtain ⟨entry, -, setting, analysed, made⟩ := related_mem wrote.each declared
    obtain ⟨traits, isSetting⟩ := setting_for analysed
    obtain ⟨isMember, -⟩ := memberOf_ok.mp made
    have named := nestedName?_analysed analysed
    have isMember := memberName_analysed analysed isMember
    obtain ⟨-, -, -, nested | converted⟩ := analysed
    · rw [nested, if_pos rfl] at named
      exact ⟨⟨traits, isSetting.shape, fun flat => nomatch named.symm.trans flat⟩, _, isMember⟩
    · rw [isSetting.type] at converted
      exact ⟨⟨traits, isSetting.shape, fun _ => Option.isSome_iff_exists.mp converted⟩, _, isMember⟩
  · exact fun field declared selecting => ⟨wrote.planned.text field declared selecting,
      selector_flat wrote.planned declared selecting⟩

/-- Where the search for a cycle finds none, no reachable record nests itself. -/
theorem completed_acyclic (completed : Completed schema config converters start expansion after)
    (search : expansion.nesting.findCycle = none) (reachable : Reachable schema config.root name) :
    ¬ Relation.TransGen (Nests schema) name name := fun round =>
  (findCycle_spec _).1.mp search name ((round_completed completed).mpr ⟨reachable, round⟩)

/-- There are as many implementations as reachable records, and no more than records at all. -/
theorem implementations_bound (completed : Completed schema config converters start expansion after) :
    (∀ names : List String, names.Nodup → (∀ name ∈ names, Reachable schema config.root name) →
      names.length ≤ expansion.implementations.length) ∧
      expansion.implementations.length ≤ schema.size := by
  obtain ⟨isConfig, -⟩ := start_kept completed.started
  have size : (expansion.plans.map (·.name)).length = expansion.implementations.length := by
    rw [List.length_map]
    exact completed.grown.written.length_eq
  have names : ∀ name, name ∈ expansion.plans.map (·.name) ↔ Reachable schema config.root name := by
    intro name
    rw [mem_expanded completed.grown completed.empty, isConfig]
  rw [← size]
  constructor
  · exact fun listed distinct reached => distinct.length_le_of_subset fun name member =>
      (names name).mpr (reached name member)
  · refine known_length_le ?_ fun name member =>
      reachable_known completed.known ((names name).mp member)
    rw [expanded_names completed.grown completed.empty]
    exact grown_nodup completed.grown

/-- To load the root record is to read the schema. -/
theorem load_reads (completed : Completed schema config .builtin start expansion after)
    (search : expansion.nesting.findCycle = none)
    (apart : SpelledApart schema config.root)
    (made : after.program expansion.implementations = .ok program)
    (named : nameOfText? config.root = some ident) (environment : Environment) :
    ∃ outcome, program.load ident environment = ExceptT.mk (some outcome) ∧
      ReadsTo schema environment config.root outcome := by
  have acyclic : ∀ name, Reachable schema config.root name →
      ¬ Relation.TransGen (Nests schema) name name := fun _ => completed_acyclic completed search
  obtain ⟨implementations, -, -⟩ := program_ok made
  obtain ⟨bound, covered⟩ := implementations_bound completed
  rw [← implementations] at bound covered
  have readable : ∀ name, Reachable schema config.root name →
      ∃ record, schema.get? name = some record ∧ ReadableRecord schema record := by
    intro name reachable
    obtain ⟨_, record, _, _, -, -, -, known, wrote⟩ := record_written completed reachable
    exact ⟨record, known, readable_record wrote⟩
  obtain ⟨⟨outcome, ends, -⟩, deeper⟩ :=
    @readRecord_ends schema environment config.root _ _ acyclic bound readable (Nat.le_refl _) []
  refine ⟨outcome, ?_, fun depth enough => ?_⟩
  · rw [← ends]
    change program.construct environment _ ident (pathPrefix []) = _
    exact construct_reads completed acyclic apart made .refl named ⟨fun _ => rfl, fun _ => rfl⟩ _
  · rw [deeper depth (covered.trans enough), ends]

end EnvLoader.LoaderRuns
