import EnvLoader.Proofs.BuiltinConverters
import EnvLoader.Proofs.CyclicSchemas
import EnvLoader.Proofs.Requests
import EnvLoader.Proofs.WrittenRecords

/-! With the builtin converters, a loader declares what it refers to, once each, and refers to
all that it declares. The registries of a run hold what its plans ask for. So each kind of
reference is led back to the fields of the reachable records. -/
namespace EnvLoader.ClosedOutput
open Outcomes RecordWriting SchemaNesting ExpansionRun AssembledRun Requests WrittenRecords
open BuiltinConverters VariantUse CyclicSchemas NestingCycles Loader Source

/-- The parser function that a value calls, and whether it is called for a variable that has to
be set: with its key alone, as a function that gives a plain value. -/
def calledParser? : ValueExpr → Option (String × Bool)
  | .required parser _ => some (parser, true)
  | .optional parser _ _ => some (parser, false)
  | .orDefault parser _ _ => some (parser, false)
  | .nested _ _ => none
  | .some value => calledParser? value
  | .guarded _ value => calledParser? value

/-- The record whose constructor below a prefix a value calls. -/
def nestedRecord? : ValueExpr → Option String
  | .nested record _ => some record
  | .some value => nestedRecord? value
  | .guarded _ value => nestedRecord? value
  | .required _ _ => none
  | .optional _ _ _ => none
  | .orDefault _ _ _ => none

/-- A field of a record of the schema. -/
def FieldOf (schema : Schema) (record : String) (field : Field) : Prop :=
  ∃ declared, schema.get? record = some declared ∧ field ∈ declared.fields

/-- A parser function is asked for by a field of a reachable record. -/
def AskedFor (schema : Schema) (root : String) (request : ParserRequest) : Prop :=
  ∃ record field, Reachable schema root record ∧ FieldOf schema record field ∧
    leafRequest? schema .builtin field = some request

/-- A loader declares what it refers to, once each, and refers to all that it declares. -/
structure Closed (schema : Schema) (root : String) (program : Program) : Prop where
  /-- A called parser function is declared once, as the field that it is called for takes it. -/
  called : ∀ implementation ∈ program.implementations, ∀ entry ∈ entries implementation.constructor,
    ∀ name isRequired, calledParser? entry.2 = some (name, isRequired) →
      ∃ field request parser, FieldOf schema implementation.constructor.record field ∧
        fieldMember? field = some entry.1 ∧ leafRequest? schema .builtin field = some request ∧
        request.function name = .ok parser ∧ parser.isRequired = isRequired ∧
        parser ∈ program.parsers ∧ (program.parsers.map (·.name)).count name = 1
  /-- A declared parser function is called, and as what it is. -/
  calling : ∀ parser ∈ program.parsers, ∃ implementation ∈ program.implementations,
    ∃ entry ∈ entries implementation.constructor,
      calledParser? entry.2 = some (parser.name, parser.isRequired)
  /-- There is one function for each of the different requests. -/
  requests : ∃ requests : List ParserRequest, requests.Nodup ∧
    (∀ request, request ∈ requests ↔ AskedFor schema root request) ∧
    List.Forall₂ (fun request parser => request.function request.name = .ok parser)
      requests program.parsers
  /-- The declared variants are those that some parser function or dispatcher constructs. -/
  declared : ∀ variant, variant ∈ program.error.cases.map (·.name) ↔
    (∃ parser ∈ program.parsers, Constructs parser.tokens variant) ∨
    ∃ implementation ∈ program.implementations, ∃ dispatcher,
      implementation.dispatcher = some dispatcher ∧ Constructs dispatcher.tokens variant
  /-- Each is declared once. -/
  once : (program.error.cases.map (·.name)).Nodup
  /-- A nested record is another than the root, and its implementation reads it below a prefix. -/
  nests : ∀ implementation ∈ program.implementations, ∀ entry ∈ entries implementation.constructor,
    ∀ ident, nestedRecord? entry.2 = some ident →
      ∃ name, name ≠ root ∧ Nests schema implementation.constructor.record name ∧
        nameOfText? name = some ident ∧ ∃ target ∈ program.implementations,
          target.record = ident ∧ target.constructor.record = name ∧
            target.constructor.isRoot = false

variable {schema : Schema} {config : Config} {converters : Converters} {root name : String}
  {start after : Session} {expansion : Expansion} {plan : RecordPlan} {record : Record}
  {implementation : Implementation} {request : ParserRequest} {setting : Setting}
  {program : Program} {parser : ParserFn}

/-! ### Values -/

theorem calledParser?_nested (isRoot : Bool) (ident : String) :
    calledParser? (nestedValue setting isRoot ident) = none := by
  unfold nestedValue
  dsimp only
  split
  · rfl
  · split <;> rfl

theorem calledParser?_called (isRoot : Bool) :
    calledParser? (calledValue setting isRoot name) = some (name, setting.isRequired) := by
  unfold calledValue
  dsimp only
  split
  · rename_i required
    rw [required]
    rfl
  · rename_i required
    rw [Bool.not_eq_true] at required
    rw [required]
    split <;> rfl

theorem nestedRecord?_nested (isRoot : Bool) (ident : String) :
    nestedRecord? (nestedValue setting isRoot ident) = some ident := by
  unfold nestedValue
  dsimp only
  split
  · rfl
  · split <;> rfl

theorem nestedRecord?_called (isRoot : Bool) :
    nestedRecord? (calledValue setting isRoot name) = none := by
  unfold calledValue
  dsimp only
  split
  · rfl
  · split <;> rfl

/-! ### Requests and fields -/

/-- A plan asks for what the fields of its record ask for. -/
theorem mem_requested {isRoot : Bool} (planned : PlanOf schema converters record isRoot plan) :
    request ∈ requested converters plan ↔
      ∃ field ∈ record.fields, leafRequest? schema converters field = some request := by
  rw [requested, List.mem_filterMap]
  constructor
  · rintro ⟨setting, listed, asks⟩
    obtain ⟨field, declared, analysed⟩ := related_mem planned.settings.flip listed
    exact ⟨field, declared, request?_analysed analysed ▸ asks⟩
  · rintro ⟨field, declared, asks⟩
    obtain ⟨setting, listed, analysed⟩ := related_mem planned.settings declared
    exact ⟨setting, listed, (request?_analysed analysed).symm ▸ asks⟩

theorem leafRequest?_converter {field : Field}
    (asks : leafRequest? schema .builtin field = some request) :
    request.converter ∈ Converter.builtin := by
  unfold leafRequest? at asks
  split at asks
  · split at asks
    · exact nomatch asks
    · obtain ⟨converter, found, rfl⟩ := Option.map_eq_some_iff.mp asks
      exact find?_builtin found
  · exact nomatch asks

/-- The plans of a run ask for what is asked for by the fields of reachable records. -/
theorem mem_asked (completed : Completed schema config .builtin start expansion after) :
    request ∈ expansion.plans.flatMap (requested .builtin) ↔
      AskedFor schema config.root request := by
  obtain ⟨isConfig, isConverters⟩ := start_kept completed.started
  rw [List.mem_flatMap]
  constructor
  · rintro ⟨plan, listed, asks⟩
    obtain ⟨implementation, -, ready⟩ := plan_written completed.grown listed
    rw [isConfig, isConverters] at ready
    obtain ⟨record, members, known, wrote⟩ := written_for ready
    obtain ⟨field, declared, asks⟩ := (mem_requested wrote.planned).mp asks
    refine ⟨plan.name, field, ?_, ⟨record, known, declared⟩, asks⟩
    rw [← isConfig, ← mem_expanded completed.grown completed.empty]
    exact List.mem_map_of_mem listed
  · rintro ⟨name, field, reachable, ⟨record, known, declared⟩, asks⟩
    rw [← isConfig, ← mem_expanded completed.grown completed.empty] at reachable
    obtain ⟨plan, listed, rfl⟩ := List.mem_map.mp reachable
    obtain ⟨implementation, -, ready⟩ := plan_written completed.grown listed
    rw [isConfig, isConverters] at ready
    obtain ⟨same, members, isKnown, wrote⟩ := written_for ready
    cases known.symm.trans isKnown
    exact ⟨plan, listed, (mem_requested wrote.planned).mpr ⟨field, declared, asks⟩⟩

/-! ### The registries of a run -/

theorem parsers_registered (completed : Completed schema config converters start expansion after) :
    Registered ((expansion.plans.flatMap (requested converters)).map
      fun request => (request.name, request)) after.parsers := by
  obtain ⟨error, -, rfl⟩ := start_ok completed.started
  have parsers : after.parsers =
      (expansion.plans.flatMap (requested converters)).foldl Parsers.require {} := by
    rw [completed.grown.asked]
    exact askAll_parsers expansion.plans
  have folded := @registered_fold ParserRequest {} [] ((expansion.plans.flatMap
    (requested converters)).map fun request => (request.name, request)) registered_empty
  rw [List.foldl_map, List.nil_append] at folded
  rw [parsers]
  exact folded

theorem errors_registered (completed : Completed schema config converters start expansion after) :
    Registered ((expansion.plans.flatMap (neededBy converters)).map
      fun variant => (variant.name, variant)) after.errors := by
  obtain ⟨error, -, rfl⟩ := start_ok completed.started
  have errors : after.errors =
      (expansion.plans.flatMap (neededBy converters)).foldl ErrorVariants.require {} := by
    rw [completed.grown.asked]
    exact askAll_errors expansion.plans
  have folded := @registered_fold ErrorVariant {} [] ((expansion.plans.flatMap
    (neededBy converters)).map fun variant => (variant.name, variant)) registered_empty
  rw [List.foldl_map, List.nil_append] at folded
  rw [errors]
  exact folded

/-- What a loader is put together from. -/
theorem program_ok {implementations : List Implementation}
    (made : after.program implementations = .ok program) :
    program.implementations = implementations ∧
      List.Forall₂ (fun variant case => ErrorVariant.case variant = .ok case) after.errors.values
        program.error.cases ∧
      List.Forall₂ (fun entry parser => ParserRequest.function entry.2 entry.1 = .ok parser)
        after.parsers.entries program.parsers := by
  obtain ⟨imports, -, rest⟩ := bind_ok.mp made
  obtain ⟨error, enumerated, rest⟩ := bind_ok.mp rest
  obtain ⟨parsers, functions, made⟩ := bind_ok.mp rest
  obtain ⟨cases, declared, isError⟩ := bind_ok.mp enumerated
  cases pure_ok.mp made
  cases pure_ok.mp isError
  exact ⟨rfl, mapM_ok.mp declared, mapM_ok.mp functions⟩

theorem function_ok (made : request.function name = .ok parser) :
    nameOfText? name = some parser.name ∧ parser.isList = request.isList ∧
      parser.isRequired = request.isRequired ∧ parser.conversion = request.converter.conversion := by
  obtain ⟨ident, named, rest⟩ := bind_ok.mp made
  obtain ⟨type, typed, made⟩ := bind_ok.mp rest
  cases pure_ok.mp made
  exact ⟨nameFor_ok.mp named, rfl, rfl, rfl⟩

theorem case_ok {variant : ErrorVariant} {case : ErrorCase} (made : variant.case = .ok case) :
    nameOfText? variant.name = some case.name := by
  obtain ⟨ident, named, rest⟩ := bind_ok.mp made
  obtain ⟨source, sourced, made⟩ := bind_ok.mp rest
  cases pure_ok.mp made
  exact nameFor_ok.mp named

/-! ### Parser functions -/

/-- The parser functions of a run stand for the different requests of the reachable fields. -/
theorem parsers_made (completed : Completed schema config .builtin start expansion after)
    (functions : List.Forall₂ (fun entry parser => ParserRequest.function entry.2 entry.1 = .ok parser)
      after.parsers.entries program.parsers) :
    (∀ request, request ∈ after.parsers.values ↔ AskedFor schema config.root request) ∧
      List.Forall₂ (fun request parser => request.function request.name = .ok parser ∧
        parser.name = request.name) after.parsers.values program.parsers ∧
      (after.parsers.values.map (·.name)).Nodup := by
  have registered := parsers_registered completed
  have builtin : ∀ request ∈ expansion.plans.flatMap (requested .builtin),
      request.converter ∈ Converter.builtin := by
    intro request asked
    obtain ⟨_, _, -, -, asks⟩ := (mem_asked completed).mp asked
    exact leafRequest?_converter asks
  have keyed : ∀ entry ∈ after.parsers.entries,
      entry.1 = entry.2.name ∧ entry.2.converter ∈ Converter.builtin := by
    intro entry kept
    obtain ⟨isName, asked⟩ := registered_keyed registered entry kept
    exact ⟨isName, builtin entry.2 asked⟩
  refine ⟨fun request => ?_, ?_, ?_⟩
  · rw [mem_registered registered fun first one second other =>
      request_apart (builtin first one) (builtin second other)]
    exact mem_asked completed
  · rw [Registry.values, List.forall₂_map_left_iff]
    refine ((List.forall₂_and_left _ _).mpr ⟨keyed, functions⟩).imp ?_
    rintro entry parser ⟨⟨isName, known⟩, made⟩
    rw [isName] at made
    obtain ⟨named, -⟩ := function_ok made
    exact ⟨made, request_named known named⟩
  · have names : after.parsers.values.map (·.name) = after.parsers.names := by
      rw [Registry.values, List.map_map]
      exact List.map_congr_left fun entry kept => (keyed entry kept).1.symm
    rw [names]
    exact registered.distinct

theorem parser_names (completed : Completed schema config .builtin start expansion after)
    (functions : List.Forall₂ (fun entry parser => ParserRequest.function entry.2 entry.1 = .ok parser)
      after.parsers.entries program.parsers) :
    program.parsers.map (·.name) = after.parsers.values.map (·.name) := by
  obtain ⟨-, made, -⟩ := parsers_made completed functions
  have same : List.Forall₂ (· = ·) (program.parsers.map (·.name))
      (after.parsers.values.map (·.name)) := by
    rw [List.forall₂_map_left_iff, List.forall₂_map_right_iff]
    exact made.flip.imp fun _ _ one => one.2
  exact List.forall₂_eq_eq_eq ▸ same

/-- A parser function that is asked for is declared once under its name. -/
theorem parser_declared (completed : Completed schema config .builtin start expansion after)
    (functions : List.Forall₂ (fun entry parser => ParserRequest.function entry.2 entry.1 = .ok parser)
      after.parsers.entries program.parsers) (asked : AskedFor schema config.root request) :
    ∃ parser ∈ program.parsers, request.function request.name = .ok parser ∧
      (program.parsers.map (·.name)).count request.name = 1 := by
  obtain ⟨known, made, distinct⟩ := parsers_made completed functions
  have kept := (known request).mpr asked
  obtain ⟨parser, declared, isParser, -⟩ := related_mem made kept
  refine ⟨parser, declared, isParser, ?_⟩
  rw [parser_names completed functions]
  exact List.count_eq_one_of_mem distinct (List.mem_map_of_mem kept)

/-! ### Implementations -/

/-- An implementation of a run is written for a reachable record. -/
theorem implementation_written (completed : Completed schema config converters start expansion after)
    (listed : implementation ∈ expansion.implementations) :
    ∃ plan record members, plan ∈ expansion.plans ∧ schema.get? plan.name = some record ∧
      Reachable schema config.root plan.name ∧
      WrittenFor schema converters record (plan.name == config.root) plan implementation members := by
  obtain ⟨isConfig, isConverters⟩ := start_kept completed.started
  obtain ⟨plan, member, ready⟩ := related_mem completed.grown.written.flip listed
  rw [isConfig, isConverters] at ready
  obtain ⟨record, members, known, wrote⟩ := written_for ready
  refine ⟨plan, record, members, member, known, ?_, wrote⟩
  rw [← isConfig, ← mem_expanded completed.grown completed.empty]
  exact List.mem_map_of_mem member

/-- A reachable record has an implementation. -/
theorem record_written (completed : Completed schema config converters start expansion after)
    (reachable : Reachable schema config.root name) :
    ∃ plan record members, ∃ implementation ∈ expansion.implementations,
      plan ∈ expansion.plans ∧ plan.name = name ∧ schema.get? name = some record ∧
      WrittenFor schema converters record (name == config.root) plan implementation members := by
  obtain ⟨isConfig, isConverters⟩ := start_kept completed.started
  rw [← isConfig, ← mem_expanded completed.grown completed.empty] at reachable
  obtain ⟨plan, listed, rfl⟩ := List.mem_map.mp reachable
  obtain ⟨implementation, member, ready⟩ := plan_written completed.grown listed
  rw [isConfig, isConverters] at ready
  obtain ⟨record, members, known, wrote⟩ := written_for ready
  exact ⟨plan, record, members, implementation, member, listed, rfl, known, wrote⟩

section Members
variable {isRoot : Bool} {members : List (MemberName × ValueExpr)}
  {entry : MemberName × ValueExpr} {field : Field}

/-- Each member of an implementation is written for a field. -/
theorem field_of_entry
    (wrote : WrittenFor schema converters record isRoot plan implementation members)
    (listed : entry ∈ entries implementation.constructor) : ∃ field ∈ record.fields,
      EntryOf schema converters plan (record.fields.any isSelecting) field entry := by
  rw [wrote.constructor, mem_entries wrote.planned wrote.each.length_eq] at listed
  exact related_mem wrote.each.flip listed

/-- Each field has a member in the implementation. -/
theorem entry_of_field
    (wrote : WrittenFor schema converters record isRoot plan implementation members)
    (declared : field ∈ record.fields) : ∃ entry ∈ entries implementation.constructor,
      EntryOf schema converters plan (record.fields.any isSelecting) field entry := by
  obtain ⟨entry, listed, isEntry⟩ := related_mem wrote.each declared
  refine ⟨entry, ?_, isEntry⟩
  rw [wrote.constructor, mem_entries wrote.planned wrote.each.length_eq]
  exact listed

end Members

/-- The constructor of an implementation is that of its record. -/
theorem constructor_record {isRoot : Bool} {members : List (MemberName × ValueExpr)}
    (wrote : WrittenFor schema converters record isRoot plan implementation members) :
    implementation.constructor.record = record.name ∧
      implementation.constructor.isRoot = isRoot := by
  rw [wrote.constructor]
  exact ⟨wrote.planned.name, wrote.planned.isRoot⟩

theorem request?_required (asks : request? converters setting = some request) :
    setting.isNested = false ∧ request.isRequired = setting.isRequired := by
  unfold request? at asks
  cases nested : setting.isNested with
  | true => simp [nested] at asks
  | false =>
    simp only [nested, Bool.false_eq_true, ↓reduceIte, Option.map_eq_some_iff] at asks
    obtain ⟨converter, -, rfl⟩ := asks
    exact ⟨rfl, rfl⟩

/-! ### The loader as a whole -/

/-- A called parser function is asked for by the field that it is called for. -/
theorem call_asked {guards : Bool} {field : Field} {entry : MemberName × ValueExpr} {isRequired : Bool}
    (isEntry : EntryOf schema .builtin plan guards field entry)
    (calls : calledParser? entry.2 = some (name, isRequired)) :
    ∃ request, fieldMember? field = some entry.1 ∧
      leafRequest? schema .builtin field = some request ∧
      request.isRequired = isRequired ∧ request.name = name := by
  obtain ⟨setting, analysed, made⟩ := isEntry
  obtain ⟨isMember, valued⟩ := memberOf_ok.mp made
  rcases valueOf_ok valued with ⟨-, ident, -, isValue⟩ | ⟨request, parser, asks, named, isValue⟩
  · rw [isValue, calledParser?_nested] at calls
    exact nomatch calls
  · rw [isValue, calledParser?_called] at calls
    cases calls
    have leaf := request?_analysed analysed ▸ asks
    have isName := request_named (leafRequest?_converter leaf) named
    exact ⟨request, memberName_analysed analysed isMember, leaf, (request?_required asks).2,
      isName.symm⟩

/-- A field that asks for a parser function has a member that calls it. -/
theorem asked_called {guards : Bool} {field : Field} {entry : MemberName × ValueExpr}
    (isEntry : EntryOf schema .builtin plan guards field entry)
    (asks : leafRequest? schema .builtin field = some request) :
    calledParser? entry.2 = some (request.name, request.isRequired) := by
  obtain ⟨setting, analysed, made⟩ := isEntry
  obtain ⟨-, valued⟩ := memberOf_ok.mp made
  rw [← request?_analysed analysed] at asks
  obtain ⟨flat, required⟩ := request?_required asks
  rcases valueOf_ok valued with ⟨nested, -⟩ | ⟨other, parser, same, named, isValue⟩
  · exact absurd (flat.symm.trans nested) nofun
  · cases asks.symm.trans same
    have leaf := request?_analysed analysed ▸ asks
    have isName := request_named (leafRequest?_converter leaf) named
    rw [isValue, calledParser?_called, required, isName]

/-- A nested record has an implementation of its own, below a prefix. -/
theorem nested_written (completed : Completed schema config .builtin start expansion after)
    (acyclic : expansion.nesting.findCycle = none) {guards : Bool} {field : Field}
    {entry : MemberName × ValueExpr} {ident : String} (known : schema.get? plan.name = some record)
    (reachable : Reachable schema config.root plan.name) (declared : field ∈ record.fields)
    (isEntry : EntryOf schema .builtin plan guards field entry)
    (builds : nestedRecord? entry.2 = some ident) :
    ∃ name, name ≠ config.root ∧ Nests schema plan.name name ∧ nameOfText? name = some ident ∧
      ∃ target ∈ expansion.implementations, target.record = ident ∧
        target.constructor.record = name ∧ target.constructor.isRoot = false := by
  obtain ⟨setting, analysed, made⟩ := isEntry
  obtain ⟨-, valued⟩ := memberOf_ok.mp made
  rcases valueOf_ok valued with ⟨nested, other, named, isValue⟩ | ⟨request, parser, -, -, isValue⟩
  · rw [isValue, nestedRecord?_nested] at builds
    cases builds
    have nests : Nests schema plan.name setting.type :=
      ⟨record, field, known, declared, (analysed_nested analysed).mp ⟨nested, rfl⟩⟩
    have notRoot : setting.type ≠ config.root := by
      intro same
      have back : Nests schema plan.name config.root := same ▸ nests
      have round := (round_completed completed).mpr ⟨.refl, Relation.TransGen.tail' reachable back⟩
      exact (findCycle_spec _).1.mp acyclic config.root round
    obtain ⟨target, isTarget, members, implementation, listed, -, -, found, wrote⟩ :=
      record_written completed (reachable.tail nests)
    obtain ⟨isRecord, isRoot⟩ := constructor_record wrote
    have sameName := get?_name found
    refine ⟨setting.type, notRoot, nests, named, implementation, listed, ?_, ?_, ?_⟩
    · exact Option.some.inj (wrote.name.symm.trans (sameName ▸ named))
    · rw [isRecord, sameName]
    · rw [isRoot]
      simpa using notRoot
  · rw [isValue, nestedRecord?_called] at builds
    exact nomatch builds

/-! ### Variants -/

theorem needed_builtin (builtin : request.converter ∈ Converter.builtin) :
    needed request ⊆ builtinVariants ∧
      ∀ parser : ParserFn, parser.isRequired = request.isRequired →
        parser.conversion = request.converter.conversion →
        (needed request).map (·.name) = parserVariants parser := by
  obtain ⟨included, names⟩ := errors_builtin builtin
  constructor
  · refine List.append_subset.mpr ⟨included, ?_⟩
    cases request.isRequired <;> simp [builtinVariants]
  · intro parser required conversion
    rw [needed, parserVariants, List.map_append, names, conversion, required]
    cases request.isRequired <;> rfl

/-- A plan with a selection has a candidate. -/
theorem candidates_nonempty {isRoot : Bool} (planned : PlanOf schema converters record isRoot plan)
    (selects : (selection? plan).isSome = true) : plan.candidates ≠ [] := by
  have selecting : record.fields.any isSelecting = true := by
    cases index : plan.selectorIndex with
    | none => simp [selection?, RecordPlan.selector?, index] at selects
    | some position =>
      obtain ⟨inside, selecting, -⟩ :=
        List.findIdx?_eq_some_iff_getElem.mp (planned.selector.symm.trans index)
      exact List.any_eq_true.mpr ⟨_, List.getElem_mem inside, selecting⟩
  obtain ⟨setting, listed, nested⟩ := planned.chooses selecting
  obtain ⟨field, -, traits, -, rfl, -⟩ := related_mem planned.settings.flip listed
  rw [selecting] at listed
  exact List.ne_nil_of_mem (List.mem_filter.mpr ⟨listed, nested⟩)

/-- A plan has a dispatcher if it has a selection, and then with some choice. -/
theorem dispatcher_chooses {isRoot : Bool} {members : List (MemberName × ValueExpr)}
    (wrote : WrittenFor schema converters record isRoot plan implementation members) :
    (selection? plan).isSome = implementation.dispatcher.isSome ∧
      ∀ dispatcher, implementation.dispatcher = some dispatcher → dispatcher.choices ≠ [] := by
  have dispatched := wrote.dispatcher
  unfold dispatcherOf at dispatched
  cases selection : selection? plan with
  | none =>
    rw [selection, pure_ok] at dispatched
    rw [← dispatched]
    exact ⟨rfl, nofun⟩
  | some chosen =>
    rw [selection] at dispatched
    obtain ⟨dispatcher, made, isDispatcher⟩ := bind_ok.mp dispatched
    rw [← pure_ok.mp isDispatcher]
    refine ⟨rfl, fun other same => ?_⟩
    cases same
    obtain ⟨type, -, made⟩ := bind_ok.mp made
    obtain ⟨member, -, made⟩ := bind_ok.mp made
    obtain ⟨choices, chosen, isDispatcher⟩ := bind_ok.mp made
    cases pure_ok.mp isDispatcher
    rintro rfl
    have candidates := candidates_nonempty wrote.planned (selection ▸ rfl)
    exact candidates (List.forall₂_nil_right_iff.mp (mapM_ok.mp chosen))

/-- The names of the variants that a run asks for. -/
theorem mem_neededBy {variant : String}
    (completed : Completed schema config .builtin start expansion after) :
    variant ∈ (expansion.plans.flatMap (neededBy .builtin)).map (·.name) ↔
      (∃ request, AskedFor schema config.root request ∧ variant ∈ (needed request).map (·.name)) ∨
      (∃ plan ∈ expansion.plans, (selection? plan).isSome = true) ∧ variant ∈ dispatcherVariants := by
  simp only [List.mem_map, List.mem_flatMap, neededBy, List.mem_append, ← mem_asked completed]
  constructor
  · rintro ⟨one, ⟨plan, listed, ⟨request, asked, isNeeded⟩ | isNeeded⟩, rfl⟩
    · exact .inl ⟨request, ⟨plan, listed, asked⟩, one, isNeeded, rfl⟩
    · cases selects : (selection? plan).isSome with
      | false => simp [selects] at isNeeded
      | true =>
        simp only [selects, ↓reduceIte, List.mem_pair] at isNeeded
        refine .inr ⟨⟨plan, listed, selects⟩, ?_⟩
        rcases isNeeded with rfl | rfl <;> simp [dispatcherVariants, ErrorVariant.invalidChoice,
          ErrorVariant.build]
  · rintro (⟨request, ⟨plan, listed, asked⟩, one, isNeeded, rfl⟩ | ⟨⟨plan, listed, selects⟩, isVariant⟩)
    · exact ⟨one, ⟨plan, listed, .inl ⟨request, asked, isNeeded⟩⟩, rfl⟩
    · simp only [dispatcherVariants, List.mem_pair] at isVariant
      rcases isVariant with rfl | rfl
      · exact ⟨.invalidChoice, ⟨plan, listed, .inr (by simp [selects])⟩, rfl⟩
      · exact ⟨.build, ⟨plan, listed, .inr (by simp [selects])⟩, rfl⟩

/-- A run with the builtin converters asks for no other variants than these. -/
theorem neededBy_builtin {variant : ErrorVariant}
    (completed : Completed schema config .builtin start expansion after)
    (asked : variant ∈ expansion.plans.flatMap (neededBy .builtin)) : variant ∈ builtinVariants := by
  obtain ⟨plan, listed, isNeeded⟩ := List.mem_flatMap.mp asked
  rcases List.mem_append.mp isNeeded with isNeeded | isNeeded
  · obtain ⟨request, asks, isNeeded⟩ := List.mem_flatMap.mp isNeeded
    obtain ⟨_, field, -, -, leaf⟩ := (mem_asked completed).mp (List.mem_flatMap.mpr ⟨plan, listed, asks⟩)
    exact (needed_builtin (leafRequest?_converter leaf)).1 isNeeded
  · cases selects : (selection? plan).isSome with
    | false => simp [selects] at isNeeded
    | true =>
      simp only [selects, ↓reduceIte, List.mem_pair] at isNeeded
      rcases isNeeded with rfl | rfl <;> simp [builtinVariants]

/-- The enumeration of a run declares the variants that the run asks for, each once. -/
theorem cases_declared (completed : Completed schema config .builtin start expansion after)
    (cases : List.Forall₂ (fun variant case => ErrorVariant.case variant = .ok case)
      after.errors.values program.error.cases) :
    (program.error.cases.map (·.name)).Nodup ∧
      ∀ variant, variant ∈ program.error.cases.map (·.name) ↔
        variant ∈ (expansion.plans.flatMap (neededBy .builtin)).map (·.name) := by
  have registered := errors_registered completed
  have keyed : ∀ entry ∈ after.errors.entries, entry.1 = entry.2.name ∧ entry.2 ∈ builtinVariants := by
    intro entry kept
    obtain ⟨isName, asked⟩ := registered_keyed registered entry kept
    exact ⟨isName, neededBy_builtin completed asked⟩
  have names : program.error.cases.map (·.name) = after.errors.names := by
    have same : List.Forall₂ (· = ·) (program.error.cases.map (·.name)) after.errors.names := by
      rw [List.forall₂_map_left_iff, Registry.names, List.forall₂_map_right_iff]
      rw [Registry.values, List.forall₂_map_left_iff] at cases
      refine ((List.forall₂_and_left _ _).mpr ⟨keyed, cases⟩).flip.imp ?_
      rintro case entry ⟨⟨isName, known⟩, made⟩
      rw [isName, ← Option.some.inj ((case_ok made).symm.trans (variant_named known))]
    exact List.forall₂_eq_eq_eq ▸ same
  rw [names]
  refine ⟨registered.distinct, fun variant => ⟨fun kept => ?_, fun asked => ?_⟩⟩
  · obtain ⟨entry, listed, rfl⟩ := List.mem_map.mp kept
    obtain ⟨isName, requested⟩ := registered_keyed registered entry listed
    exact isName ▸ List.mem_map_of_mem requested
  · obtain ⟨one, requested, rfl⟩ := List.mem_map.mp asked
    exact registered.names (one.name, one) (List.mem_map_of_mem requested)

/-- The variants that a parser function of the loader constructs are those it was asked for with. -/
theorem variants_needed (completed : Completed schema config .builtin start expansion after)
    (functions : List.Forall₂ (fun entry parser => ParserRequest.function entry.2 entry.1 = .ok parser)
      after.parsers.entries program.parsers) {variant : String} :
    (∃ request, AskedFor schema config.root request ∧ variant ∈ (needed request).map (·.name)) ↔
      ∃ parser ∈ program.parsers, Constructs parser.tokens variant := by
  obtain ⟨known, made, -⟩ := parsers_made completed functions
  have same : ∀ request parser, request ∈ after.parsers.values →
      request.function request.name = .ok parser →
      (variant ∈ (needed request).map (·.name) ↔ Constructs parser.tokens variant) := by
    intro request parser kept isParser
    obtain ⟨_, field, -, -, leaf⟩ := (known request).mp kept
    obtain ⟨-, -, required, conversion⟩ := function_ok isParser
    rw [parser_constructs,
      (needed_builtin (leafRequest?_converter leaf)).2 parser required conversion]
  constructor
  · rintro ⟨request, asked, isNeeded⟩
    have kept := (known request).mpr asked
    obtain ⟨parser, declared, isParser, -⟩ := related_mem made kept
    exact ⟨parser, declared, (same request parser kept isParser).mp isNeeded⟩
  · rintro ⟨parser, declared, constructs⟩
    have kept := (List.forall₂_and_left _ _).mpr ⟨fun request kept => kept, made⟩
    obtain ⟨request, -, kept, isParser, -⟩ := related_mem kept.flip declared
    exact ⟨request, (known request).mp kept, (same request parser kept isParser).mpr constructs⟩

/-- A parser function that is called is declared once, as the field takes it. -/
theorem call_declared (completed : Completed schema config .builtin start expansion after)
    (made : after.program expansion.implementations = .ok program)
    (listed : implementation ∈ program.implementations) {entry : MemberName × ValueExpr}
    (member : entry ∈ entries implementation.constructor) {isRequired : Bool}
    (calls : calledParser? entry.2 = some (name, isRequired)) :
    ∃ field request parser, FieldOf schema implementation.constructor.record field ∧
      fieldMember? field = some entry.1 ∧ leafRequest? schema .builtin field = some request ∧
      request.function name = .ok parser ∧ parser.isRequired = isRequired ∧
      parser ∈ program.parsers ∧ (program.parsers.map (·.name)).count name = 1 := by
  obtain ⟨implementations, -, functions⟩ := program_ok made
  rw [implementations] at listed
  obtain ⟨plan, record, members, -, found, reachable, wrote⟩ := implementation_written completed listed
  obtain ⟨field, inRecord, isEntry⟩ := field_of_entry wrote member
  obtain ⟨request, isMember, leaf, required, rfl⟩ := call_asked isEntry calls
  have isRecord := (constructor_record wrote).1.trans (get?_name found)
  have fieldOf : FieldOf schema plan.name field := ⟨record, found, inRecord⟩
  obtain ⟨parser, inProgram, isParser, single⟩ :=
    parser_declared completed functions ⟨plan.name, field, reachable, fieldOf, leaf⟩
  obtain ⟨-, -, sameRequired, -⟩ := function_ok isParser
  exact ⟨field, request, parser, isRecord ▸ fieldOf, isMember, leaf, isParser,
    sameRequired.trans required, inProgram, single⟩

/-- A parser function that is declared is called. -/
theorem declared_called (completed : Completed schema config .builtin start expansion after)
    (made : after.program expansion.implementations = .ok program)
    (inProgram : parser ∈ program.parsers) : ∃ implementation ∈ program.implementations,
      ∃ entry ∈ entries implementation.constructor,
        calledParser? entry.2 = some (parser.name, parser.isRequired) := by
  obtain ⟨implementations, -, functions⟩ := program_ok made
  obtain ⟨known, parsers, -⟩ := parsers_made completed functions
  have kept := (List.forall₂_and_left _ _).mpr ⟨fun request kept => kept, parsers⟩
  obtain ⟨request, -, kept, isParser, isName⟩ := related_mem kept.flip inProgram
  obtain ⟨name, field, reachable, ⟨declaring, found, inRecord⟩, leaf⟩ := (known request).mp kept
  obtain ⟨plan, record, members, implementation, listed, -, -, same, wrote⟩ :=
    record_written completed reachable
  cases found.symm.trans same
  obtain ⟨entry, member, isEntry⟩ := entry_of_field wrote inRecord
  obtain ⟨-, -, required, -⟩ := function_ok isParser
  exact ⟨implementation, implementations ▸ listed, entry, member,
    isName ▸ required ▸ asked_called isEntry leaf⟩

/-- The variants that some dispatcher constructs are those that a plan with a selection asks for. -/
theorem variants_dispatched (completed : Completed schema config .builtin start expansion after)
    {variant : String} :
    (∃ plan ∈ expansion.plans, (selection? plan).isSome = true) ∧ variant ∈ dispatcherVariants ↔
      ∃ implementation ∈ expansion.implementations, ∃ dispatcher,
        implementation.dispatcher = some dispatcher ∧ Constructs dispatcher.tokens variant := by
  constructor
  · rintro ⟨⟨plan, listed, selects⟩, isVariant⟩
    obtain ⟨implementation, member, ready⟩ := plan_written completed.grown listed
    obtain ⟨record, members, -, wrote⟩ := written_for ready
    obtain ⟨same, chooses⟩ := dispatcher_chooses wrote
    obtain ⟨dispatcher, isDispatcher⟩ := Option.isSome_iff_exists.mp (same ▸ selects)
    exact ⟨implementation, member, dispatcher, isDispatcher,
      (dispatcher_constructs (chooses dispatcher isDispatcher)).mpr isVariant⟩
  · rintro ⟨implementation, listed, dispatcher, isDispatcher, constructs⟩
    obtain ⟨plan, record, members, member, -, -, wrote⟩ := implementation_written completed listed
    obtain ⟨same, chooses⟩ := dispatcher_chooses wrote
    exact ⟨⟨plan, member, by rw [same, isDispatcher]; rfl⟩,
      (dispatcher_constructs (chooses dispatcher isDispatcher)).mp constructs⟩

/-- A loader that was put together after a run without a cycle is closed. -/
theorem completed_closed (completed : Completed schema config .builtin start expansion after)
    (acyclic : expansion.nesting.findCycle = none)
    (made : after.program expansion.implementations = .ok program) :
    Closed schema config.root program := by
  obtain ⟨implementations, variants, functions⟩ := program_ok made
  obtain ⟨known, parsers, distinct⟩ := parsers_made completed functions
  obtain ⟨once, declared⟩ := cases_declared completed variants
  refine ⟨?_, ?_, ?_, ?_, once, ?_⟩
  · intro implementation listed entry member name isRequired calls
    exact call_declared completed made listed member calls
  · intro parser inProgram
    exact declared_called completed made inProgram
  · exact ⟨after.parsers.values, .of_map _ distinct, known, parsers.imp fun _ _ one => one.1⟩
  · intro variant
    rw [declared, mem_neededBy completed, variants_needed completed functions,
      variants_dispatched completed, implementations]
  · rw [implementations]
    intro implementation listed entry member ident builds
    obtain ⟨plan, record, members, -, found, reachable, wrote⟩ := implementation_written completed listed
    obtain ⟨field, inRecord, isEntry⟩ := field_of_entry wrote member
    rw [(constructor_record wrote).1, get?_name found]
    exact nested_written completed acyclic found reachable inRecord isEntry builds

/-- Every loader that is generated with the builtin converters is closed. -/
theorem generated_closed {generated : Generated}
    (ran : generate schema config .builtin = .ok generated) :
    ∃ assembly, assemble schema config .builtin = .ok assembly ∧
      fileText (fileHeader config.root config.sourceLabel) assembly.program.tokens =
        .ok generated.source ∧
      Closed schema config.root assembly.program := by
  obtain ⟨assembly, assembled, source, -⟩ := generate_ok ran
  obtain ⟨start, expansion, after, completed, acyclic, made, -⟩ := assemble_ok assembled
  exact ⟨assembly, assembled, source, completed_closed completed acyclic made⟩

/-- The loader of a small schema is closed. -/
theorem twoRecords_closed : ∃ generated assembly,
    generate twoRecords { root := "Config" } .builtin = .ok generated ∧
      assemble twoRecords { root := "Config" } .builtin = .ok assembly ∧
      Closed twoRecords "Config" assembly.program := by
  obtain ⟨generated, ran⟩ := twoRecords_generate
  obtain ⟨assembly, assembled, -, closed⟩ := generated_closed ran
  exact ⟨generated, assembly, ran, assembled, closed⟩

end EnvLoader.ClosedOutput
