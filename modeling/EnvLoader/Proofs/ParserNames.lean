import EnvLoader.Proofs.AssembledRun
import EnvLoader.Proofs.BuiltinConverters
import EnvLoader.Proofs.RequestNames
import EnvLoader.Proofs.Requests
import EnvLoader.Proofs.WrittenRecords

/-! A setting calls its parser function by name, and the registry keeps the first function that was
asked for under each name. So the function is the right one as long as names tell the requests
apart. They do, except that the converter of another one's name with `_slice` behind it is read
singly under the name under which the other is read as a list, and that a converter's name may hide
a part of the function's name in a comment. -/
namespace EnvLoader.ParserNames
open Source Loader Outcomes RecordWriting ExpansionRun RequestNames Requests WrittenRecords BuiltinConverters
open AssembledRun

variable {first second request : ParserRequest} {converters : Converters} {converter : Converter}
  {session start after : Session} {setting : Setting} {record name : String} {config : Config}
  {text more : List Char}

/-! ### Asking for one function after the other -/

/-- What a setting gets for the call of its parser function. -/
def calledName (converters : Converters) (setting : Setting) (record : String) :
    Except GenerationError String :=
  match converters.find? setting.type with
  | some converter => nameFor .parserName (requestOf setting converter).name
  | none => throw (.unknownType record setting.name setting.type)

/-- What a setting asks for, whether it gets a name for it or not. -/
def asks? (converters : Converters) (setting : Setting) : Option ParserRequest :=
  (converters.find? setting.type).map (requestOf setting)

theorem parserFor_run : (Session.parserFor setting record).run session =
    (calledName session.converters setting record,
      (asks? session.converters setting).elim session (ask session)) := by
  have looked : (get : Step Session).run session = (.ok session, session) := rfl
  unfold Session.parserFor calledName asks?
  rw [run_bind, looked]
  cases found : session.converters.find? setting.type with
  | none =>
    simp only [found]
    rfl
  | some converter =>
    simp only [found]
    change (Step.lift (nameFor .parserName (requestOf setting converter).name)).run
      (ask session (requestOf setting converter)) = _
    cases nameFor .parserName (requestOf setting converter).name <;> rfl

/-- Asks for the parser functions of settings of records one after the other, whatever becomes of
the calls before. -/
def requestAll : List (Setting × String) → Session → List (Except GenerationError String) × Session
  | [], session => ([], session)
  | (setting, record) :: calls, session =>
    let (result, session) := (Session.parserFor setting record).run session
    let (results, session) := requestAll calls session
    (result :: results, session)

/-- Each call comes to what it comes to by itself, and the registry has seen what all of them ask
for, in order. -/
theorem requestAll_run {calls : List (Setting × String)} {results : List (Except GenerationError String)}
    (ran : requestAll calls session = (results, after)) :
    results = calls.map (fun call => calledName session.converters call.1 call.2) ∧
      after.parsers = (calls.filterMap fun call => asks? session.converters call.1).foldl
        Parsers.require session.parsers := by
  induction calls generalizing session results with
  | nil =>
    cases ran
    exact ⟨rfl, rfl⟩
  | cons call calls ih =>
    obtain ⟨setting, record⟩ := call
    cases rest : requestAll calls ((asks? session.converters setting).elim session (ask session)) with
    | mk others last =>
      rw [requestAll, parserFor_run] at ran
      simp only [rest] at ran
      cases ran
      obtain ⟨isOthers, isLast⟩ := ih rest
      have kept : ((asks? session.converters setting).elim session (ask session)).converters =
          session.converters := by
        cases asks? session.converters setting <;> rfl
      rw [kept] at isOthers isLast
      refine ⟨by rw [isOthers, List.map_cons], ?_⟩
      rw [isLast, List.filterMap_cons]
      cases asks? session.converters setting <;> rfl

/-- The requests of the calls whose types have a converter. -/
def requests (converters : Converters) (calls : List (Setting × String)) : List ParserRequest :=
  calls.filterMap fun call => asks? converters call.1

/-- In the end the registry has a request under each name that was asked for, and it is one of the
requests that go by the name. -/
theorem requestAll_registered {calls : List (Setting × String)}
    {results : List (Except GenerationError String)} (fresh : session.parsers = {})
    (ran : requestAll calls session = (results, after))
    (asked : request ∈ requests session.converters calls) :
    ∃ kept ∈ requests session.converters calls,
      kept.name = request.name ∧ after.parsers.get? request.name = some kept := by
  have registered := @registered_fold ParserRequest {} []
    ((requests session.converters calls).map fun request => (request.name, request)) registered_empty
  have isParsers : after.parsers =
      (requests session.converters calls).foldl Parsers.require session.parsers :=
    (requestAll_run ran).2
  rw [fresh] at isParsers
  rw [List.foldl_map, List.nil_append] at registered
  change Registered _ ((requests session.converters calls).foldl Parsers.require {}) at registered
  rw [← isParsers] at registered
  obtain ⟨listed, isListed, sameName⟩ := List.mem_map.mp
    (registered.names (request.name, request) (List.mem_map_of_mem asked))
  unfold Registry.get?
  cases search : after.parsers.entries.find? (·.1 = request.name) with
  | none => exact absurd (decide_eq_true sameName) (List.find?_eq_none.mp search listed isListed)
  | some entry =>
    have isName := List.find?_some search
    rw [decide_eq_true_eq] at isName
    obtain ⟨isKey, kept⟩ := registered_keyed registered entry (List.mem_of_find?_eq_some search)
    exact ⟨entry.2, kept, isKey.symm.trans isName, rfl⟩

/-- Whatever functions are asked for one after the other, the name that a call gets is that of the
function for its setting, if different converters have different names, no two of the requests can
be mistaken and no name has a comment in it. So calls that get the same name agree in converter, list
and requirement. -/
theorem parsers_of_settings {calls : List (Setting × String)}
    (started : Session.start config converters = .ok start)
    (distinct : ∀ type other one two, converters.find? type = some one →
      converters.find? other = some two → one.name = two.name → one = two)
    (clear : ∀ one ∈ requests converters calls, ∀ two ∈ requests converters calls,
      ¬ Mistakable one two)
    (plain : ∀ one ∈ requests converters calls, ¬ "//".toList <:+: one.converter.name.toList) :
    ∃ results after, requestAll calls start = (results, after) ∧
      List.Forall₂ (fun call result => ∀ name, result = .ok name →
        ∃ converter, converters.find? call.1.type = some converter ∧
          after.parsers.get? name = some ⟨converter, call.1.isList, call.1.isRequired⟩)
        calls results ∧
      ∀ first second name, (first, .ok name) ∈ calls.zip results →
        (second, .ok name) ∈ calls.zip results →
        converters.find? first.1.type = converters.find? second.1.type ∧
          first.1.isList = second.1.isList ∧ first.1.isRequired = second.1.isRequired := by
  obtain ⟨results, after, ran⟩ : ∃ results after, requestAll calls start = (results, after) :=
    ⟨_, _, rfl⟩
  obtain ⟨isConverters, fresh⟩ : start.converters = converters ∧ start.parsers = {} := by
    obtain ⟨error, -, rfl⟩ := start_ok started
    exact ⟨rfl, rfl⟩
  subst isConverters
  have isResults := (requestAll_run ran).1
  have own : ∀ call ∈ calls, ∀ name, calledName start.converters call.1 call.2 = .ok name →
      ∃ converter, start.converters.find? call.1.type = some converter ∧
        after.parsers.get? name = some ⟨converter, call.1.isList, call.1.isRequired⟩ := by
    rintro ⟨setting, record⟩ listed name called
    unfold calledName at called
    cases found : start.converters.find? setting.type with
    | none =>
      rw [found] at called
      exact nomatch called
    | some converter =>
      rw [found] at called
      have asked : requestOf setting converter ∈ requests start.converters calls :=
        List.mem_filterMap.mpr ⟨_, listed, by rw [asks?, found]; rfl⟩
      have isName : name = (requestOf setting converter).name :=
        name_read (plain _ asked) (nameFor_ok.mp called)
      obtain ⟨kept, keptAsked, sameName, isKept⟩ := requestAll_registered fresh ran asked
      obtain ⟨call, -, asks⟩ := List.mem_filterMap.mp keptAsked
      obtain ⟨other, otherFound, isOther⟩ := Option.map_eq_some_iff.mp asks
      obtain ⟨sameRequired, ⟨sameConverter, sameList⟩ | mistaken | mistaken⟩ :=
        name_eq_iff.mp sameName
      · have isConverter : kept.converter = converter := by
          rw [← isOther] at sameConverter ⊢
          exact distinct _ _ _ _ otherFound found sameConverter
        have isRequest : kept = requestOf setting converter := by
          cases kept
          cases isConverter
          cases sameList
          cases sameRequired
          rfl
        exact ⟨converter, rfl, by rw [isName, isKept, isRequest]; rfl⟩
      · exact absurd mistaken (clear _ keptAsked _ asked)
      · exact absurd mistaken (clear _ asked _ keptAsked)
  have each : List.Forall₂ (fun call result =>
      call ∈ calls ∧ calledName start.converters call.1 call.2 = result) calls results := by
    rw [isResults, List.forall₂_map_right_iff, List.forall₂_same]
    exact fun call listed => ⟨listed, rfl⟩
  refine ⟨results, after, ran, ?_, ?_⟩
  · refine each.imp ?_
    rintro call result ⟨listed, called⟩ name isName
    exact own call listed name (called.trans isName)
  · intro first second name one two
    obtain ⟨firstListed, firstCalled⟩ := (List.forall₂_iff_zip.mp each).2 one
    obtain ⟨secondListed, secondCalled⟩ := (List.forall₂_iff_zip.mp each).2 two
    obtain ⟨converter, found, kept⟩ := own first firstListed name firstCalled
    obtain ⟨other, otherFound, otherKept⟩ := own second secondListed name secondCalled
    obtain ⟨sameConverter, sameList, sameRequired⟩ :=
      ParserRequest.mk.inj (Option.some.inj (kept.symm.trans otherKept))
    exact ⟨by rw [found, otherFound, sameConverter], sameList, sameRequired⟩

/-- A setting that has to be set, of a type. -/
def requiredSetting (type : String) (isList : Bool) : Setting where
  name := "value"
  member := .name "value"
  type
  isRequired := true
  isList
  isNested := false
  isOptional := false
  key := "VALUE"
  default := none
  selects := none
  buildMethod := defaultBuildMethod
  isGuarded := false
  docs := ""

theorem start_plain (named : nameOfText? config.errorType = some name) :
    ∃ start, Session.start config converters = .ok start := by
  unfold Session.start
  rw [nameFor_ok.mpr named]
  exact ⟨_, rfl⟩

/-- A list of texts, a text and a text again. -/
def textCalls : List (Setting × String) :=
  [(requiredSetting "String" true, "Config"), (requiredSetting "String" false, "Config"),
    (requiredSetting "std::string::String" false, "Config")]

/-- With the builtin converters, they get two functions. -/
theorem textCalls_own : ∃ start after,
    Session.start { root := "Config" } .builtin = .ok start ∧
      requestAll textCalls start = ([.ok "parse_string_slice_required", .ok "parse_string_required",
        .ok "parse_string_required"], after) ∧
      after.parsers.get? "parse_string_slice_required" = some ⟨.string, true, true⟩ ∧
      after.parsers.get? "parse_string_required" = some ⟨.string, false, true⟩ := by
  have distinct : ∀ one ∈ Converter.builtin, ∀ two ∈ Converter.builtin, one.name = two.name →
      one = two := by
    decide +kernel
  obtain ⟨start, started⟩ := @start_plain .builtin "EnvError" { root := "Config" } (by decide +kernel)
  obtain ⟨results, after, ran, own, -⟩ := @parsers_of_settings .builtin start { root := "Config" }
    textCalls started
    (fun _ _ one two found other => distinct one (find?_builtin found) two (find?_builtin other))
    (by decide +kernel) (by decide +kernel)
  have isConverters := (start_kept started).2
  have isResults := (requestAll_run ran).1
  have called : textCalls.map (fun call => calledName .builtin call.1 call.2) =
      [.ok "parse_string_slice_required", .ok "parse_string_required",
        .ok "parse_string_required"] := by
    decide +kernel
  rw [isConverters, called] at isResults
  subst isResults
  cases own with
  | cons lists own =>
    cases own with
    | cons single own =>
      obtain ⟨one, isOne, kept⟩ := lists _ rfl
      obtain ⟨two, isTwo, keptToo⟩ := single _ rfl
      have isString : Converters.builtin.find? "String" = some .string := by decide +kernel
      cases isString.symm.trans isOne
      cases isString.symm.trans isTwo
      exact ⟨start, after, started, ran, kept, keptToo⟩

/-- A converter for single values under the name that lists of texts go by. -/
def sliceConverter : Converter :=
  { Converter.integer "u16" with name := "string_slice", aliases := ["Slice"] }

/-- Texts and the values of that converter. -/
def mistakenTexts : Converters := (Converters.insert {} .string).insert sliceConverter

/-- A single value of that converter, then a list of texts. -/
def mistakenCalls : List (Setting × String) :=
  [(requiredSetting "Slice" false, "Config"), (requiredSetting "String" true, "Config")]

/-- The list gets the name of the function for the single value, though the two converters have
different names. -/
theorem mistakenTexts_misread : ∃ start after,
    Session.start { root := "Config" } mistakenTexts = .ok start ∧
      (∀ type other one two, mistakenTexts.find? type = some one →
        mistakenTexts.find? other = some two → one.name = two.name → one = two) ∧
      requestAll mistakenCalls start =
        ([.ok "parse_string_slice_required", .ok "parse_string_slice_required"], after) ∧
      mistakenTexts.find? "String" = some .string ∧
      after.parsers.get? "parse_string_slice_required" = some ⟨sliceConverter, false, true⟩ := by
  have known : ∀ {type converter}, mistakenTexts.find? type = some converter →
      converter = .string ∨ converter = sliceConverter := by
    intro type converter found
    obtain ⟨entry, listed, rfl⟩ := Option.map_eq_some_iff.mp found
    have all : ∀ entry ∈ mistakenTexts.entries, entry.2 = .string ∨ entry.2 = sliceConverter := by
      decide
    exact all entry (List.mem_of_find?_eq_some listed)
  have distinct : ∀ type other one two, mistakenTexts.find? type = some one →
      mistakenTexts.find? other = some two → one.name = two.name → one = two := by
    intro type other one two isOne isTwo same
    rcases known isOne with rfl | rfl <;> rcases known isTwo with rfl | rfl
    · rfl
    · exact absurd same (by decide)
    · exact absurd same (by decide)
    · rfl
  obtain ⟨start, started⟩ :=
    @start_plain mistakenTexts "EnvError" { root := "Config" } (by decide +kernel)
  obtain ⟨results, after, ran⟩ : ∃ results after, requestAll mistakenCalls start = (results, after) :=
    ⟨_, _, rfl⟩
  obtain ⟨isResults, isParsers⟩ := requestAll_run ran
  have called : mistakenCalls.map (fun call => calledName mistakenTexts call.1 call.2) =
      [.ok "parse_string_slice_required", .ok "parse_string_slice_required"] := by
    decide +kernel
  have kept : ((mistakenCalls.filterMap fun call => asks? mistakenTexts call.1).foldl
      Parsers.require {}).get? "parse_string_slice_required" = some ⟨sliceConverter, false, true⟩ := by
    decide +kernel
  obtain ⟨error, -, rfl⟩ := start_ok started
  rw [called] at isResults
  subst isResults
  refine ⟨_, after, started, distinct, ran, by decide, ?_⟩
  rw [isParsers]
  exact kept

end EnvLoader.ParserNames
