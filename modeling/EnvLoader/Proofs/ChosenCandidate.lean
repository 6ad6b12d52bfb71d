import EnvLoader.Proofs.Evaluations
import EnvLoader.Proofs.LoaderRuns

/-! What a selector has chosen. A constructor takes a candidate only if the selector names it, and
the dispatcher beside it goes by the same labels and members. So on what the constructor loads, the
dispatcher finds the candidate that it looks for. -/
namespace EnvLoader.ChosenCandidate
open Outcomes RecordWriting SchemaNesting WrittenRecords Evaluations DirectReading LoaderRuns
open AssembledRun Loader
open Source hiding readText?

variable {schema : Schema} {converters : Converters} {session after : Session} {record : Record}
  {plan : RecordPlan} {implementation : Implementation} {selector candidate setting : Setting}
  {scope : Scope} {value : Value} {member : MemberName} {label selected : String} {isRoot : Bool}
  {members : List (MemberName × ValueExpr)} {values : List (MemberName × Value)}
  {constructor : Constructor} {expr : ValueExpr} {choice : Choice} {dispatcher : Dispatcher}

/-! ### Loaded values -/

/-- A constructor comes to a value. A literal gives no member twice, so a constructor that would do
so has no value. -/
def Loads (constructor : Constructor) (scope : Scope) (value : Value) : Prop :=
  ((entries constructor).map (·.1)).Nodup ∧ constructor.eval scope = pure value

/-- Members that come to values have them in order. -/
theorem evalMembers_values (comes : evalMembers scope members = pure values) :
    List.Forall₂ (fun member value => member.1 = value.1 ∧ member.2.eval scope = pure value.2)
      members values := by
  induction members generalizing values with
  | nil =>
    cases pure_value comes
    exact .nil
  | cons entry rest ih =>
    obtain ⟨name, expr⟩ := entry
    obtain ⟨first, isFirst, comes⟩ := bind_value comes
    obtain ⟨others, areOthers, comes⟩ := bind_value comes
    cases pure_value comes
    exact .cons ⟨rfl, isFirst⟩ (ih areOthers)

/-- Where no name stands twice, a member is found under its name. -/
theorem member?_listed {name : String} (distinct : (values.map (·.1)).Nodup)
    (listed : (member, value) ∈ values) : (Value.record name values).member? member = some value := by
  obtain ⟨found, foundListed, isFound, sameName⟩ :
      ∃ found ∈ values, values.find? (·.1 = member) = some found ∧ found.1 = member :=
    find?_named listed rfl
  cases List.inj_on_of_nodup_map distinct foundListed listed sameName
  simp only [Value.member?, isFound, Option.map_some]

/-- What a constructor with a selector loads: the selector's text, and beside it the values that the
other members have once the selector is read. -/
theorem loads_members (loads : Loads constructor scope value)
    (isSelector : constructor.selector = some (member, expr)) :
    ∃ selected, expr.eval scope = pure (.text selected) ∧
      value.member? member = some (.text selected) ∧
      ∀ entry ∈ constructor.members, ∃ content,
        entry.2.eval { scope with selected := some selected } = pure content ∧
          value.member? entry.1 = some content := by
  obtain ⟨distinct, comes⟩ := loads
  unfold entries at distinct
  unfold Constructor.eval at comes
  rw [isSelector] at comes distinct
  obtain ⟨first, isFirst, comes⟩ := bind_value comes
  cases first with
  | text selected =>
    obtain ⟨values, areValues, comes⟩ := bind_value comes
    cases pure_value comes
    have each := evalMembers_values areValues
    have names : constructor.members.map (·.1) = values.map (·.1) := by
      have same : List.Forall₂ (· = ·) (constructor.members.map (·.1)) (values.map (·.1)) := by
        rw [List.forall₂_map_left_iff, List.forall₂_map_right_iff]
        exact each.imp fun _ _ both => both.1
      rwa [List.forall₂_eq_eq_eq] at same
    have distinct : ((values ++ [(member, Value.text selected)]).map (·.1)).Nodup := by
      simpa [names] using distinct
    refine ⟨selected, isFirst, member?_listed distinct (by simp), fun entry listed => ?_⟩
    obtain ⟨⟨name, content⟩, isListed, rfl, isContent⟩ := related_mem each listed
    exact ⟨content, isContent, member?_listed distinct (by simp [isListed])⟩
  | _ => exact nomatch comes

/-! ### Candidates and choices -/

/-- A candidate is among the members that are read after the selector, guarded by its key. -/
theorem candidate_entry
    (wrote : WrittenFor schema converters record isRoot plan implementation members)
    (listed : candidate ∈ plan.candidates) :
    ∃ entry ∈ implementation.constructor.members, candidate.memberName = .ok entry.1 ∧
      ∃ ident key, entry.2 = .guarded candidate.key (.nested ident key) := by
  obtain ⟨declared, isGuarded⟩ := List.mem_filter.mp listed
  obtain ⟨field, isField, analysed⟩ := related_mem wrote.planned.settings.flip declared
  have guarded : candidate.isGuarded = (record.fields.any isSelecting && candidate.isNested) := by
    obtain ⟨traits, isSetting⟩ := setting_for analysed
    exact isSetting.isGuarded
  have isNested : candidate.isNested = true := by
    rw [isGuarded, eq_comm, Bool.and_eq_true] at guarded
    exact guarded.2
  have unselecting : isSelecting field = false := by
    cases selecting : isSelecting field with
    | false => rfl
    | true =>
      have flat := selector_flat wrote.planned isField selecting
      rw [nestedName?_analysed analysed, isNested] at flat
      exact nomatch flat
  have other : field ∈ record.fields.filter (!isSelecting ·) :=
    List.mem_filter.mpr ⟨isField, by rw [unselecting]; rfl⟩
  obtain ⟨entry, isEntry, setting, analysedToo, made⟩ :=
    related_mem (constructor_fields wrote).2 other
  cases analysed_unique analysed analysedToo
  obtain ⟨isMember, valued⟩ := memberOf_ok.mp made
  refine ⟨entry, isEntry, isMember, ?_⟩
  rcases valueOf_ok valued with ⟨-, ident, -, isValue⟩ | ⟨request, parser, asks, -, -⟩
  · rw [nestedValue, if_pos isGuarded] at isValue
    exact ⟨ident, _, isValue⟩
  · simp [request?, isNested] at asks

/-- A guarded value is present if the selector names its label, and absent otherwise. -/
theorem guarded_value (isSelected : scope.selected = some selected)
    (comes : (ValueExpr.guarded label expr).eval scope = pure value) :
    if selected = label then ∃ inner, value = .present inner else value = .absent := by
  unfold ValueExpr.eval at comes
  rw [isSelected] at comes
  obtain ⟨choice, same, comes⟩ := bind_value comes
  cases pure_value same
  by_cases named : selected = label
  · rw [if_pos named] at comes ⊢
    obtain ⟨inner, -, comes⟩ := bind_value comes
    exact ⟨inner, (pure_value comes).symm⟩
  · rw [if_neg named] at comes ⊢
    exact (pure_value comes).symm

theorem choiceOf_ok : choiceOf candidate = .ok choice ↔
    choice.label = candidate.key ∧ candidate.memberName = .ok choice.member ∧
      nameOfText? candidate.buildMethod = some choice.method := by
  simp only [choiceOf, bind_ok, pure_ok, nameFor_ok]
  constructor
  · rintro ⟨_, isMember, _, isMethod, rfl⟩
    exact ⟨rfl, isMember, isMethod⟩
  · rintro ⟨isLabel, isMember, isMethod⟩
    exact ⟨_, isMember, _, isMethod, isLabel ▸ rfl⟩

/-- Beside a selector there is a dispatcher, with one choice for each candidate. -/
theorem dispatcher_written {found : Option Dispatcher}
    (planned : PlanOf schema converters record isRoot plan) (dispatched : dispatcherOf plan = .ok found) :
    Option.Rel (fun selector dispatcher => selector.memberName = .ok dispatcher.selectorMember ∧
        List.Forall₂ (fun candidate choice => choiceOf candidate = .ok choice)
          plan.candidates dispatcher.choices)
      plan.selector? found := by
  have selects := selector_setting planned
  unfold dispatcherOf selection? at dispatched
  cases isSelector : plan.selector? with
  | none =>
    rw [isSelector] at dispatched
    cases pure_ok.mp dispatched
    exact .none
  | some selector =>
    obtain ⟨target, isTarget⟩ : ∃ target, selector.selects = some target := by
      rw [isSelector] at selects
      cases selecting : record.fields.find? isSelecting with
      | none =>
        rw [selecting] at selects
        exact nomatch selects
      | some field =>
        rw [selecting] at selects
        obtain ⟨traits, -, rfl, -⟩ := selects
        have builds : isSelecting field = true := List.find?_some selecting
        exact Option.isSome_iff_exists.mp builds
    simp only [isSelector, Option.bind_some, isTarget, Option.map_some] at dispatched
    obtain ⟨dispatcher, made, isDispatcher⟩ := bind_ok.mp dispatched
    obtain ⟨type, -, made⟩ := bind_ok.mp made
    obtain ⟨member, isMember, made⟩ := bind_ok.mp made
    obtain ⟨choices, chosen, made⟩ := bind_ok.mp made
    cases pure_ok.mp made
    cases pure_ok.mp isDispatcher
    exact .some ⟨isMember, mapM_ok.mp chosen⟩

section Building
variable {ε β : Type} {method : Choice → Value → Except ε β} {inner : Value}

/-- A dispatcher refuses a value that no choice has for a label. -/
theorem build_unknown (isSelected : value.member? dispatcher.selectorMember = some (.text selected))
    (unknown : dispatcher.choices.find? (·.label = selected) = none) :
    dispatcher.build value method = some (.error (.invalidChoice selected)) := by
  unfold Dispatcher.build
  simp only [isSelected, unknown]

/-- A dispatcher calls the method of the first choice that has the selected label. -/
theorem build_known (isSelected : value.member? dispatcher.selectorMember = some (.text selected))
    (known : dispatcher.choices.find? (·.label = selected) = some choice)
    (isPresent : value.member? choice.member = some (.present inner)) :
    dispatcher.build value method =
      some ((method choice inner).mapError (BuildError.failed selected)) := by
  unfold Dispatcher.build
  simp only [isSelected, known, isPresent]

end Building

/-- A method of a candidate, whose result is converted into what is built, and its error boxed. -/
def converted {ε σ β γ : Type} (call : Choice → Value → Except ε β) (into : β → γ) (box : ε → σ)
    (choice : Choice) (value : Value) : Except σ γ :=
  ((call choice value).map into).mapError box

/-- On a loaded record a candidate is present exactly if its key is the selector's value. The
dispatcher refuses that value exactly if it is the key of no candidate. Otherwise it calls the method
of the first candidate with that key, which is present, and hands on its result or its error. -/
theorem chosen_candidate
    (analysed : RecordPlan.ofRecord record isRoot schema session.converters = .ok plan)
    (selects : plan.selector? = some selector)
    (written : (Session.implement plan).run session = (.ok implementation, after))
    (loads : Loads implementation.constructor scope value) :
    ∃ dispatcher read selected, implementation.dispatcher = some dispatcher ∧
      implementation.constructor.selector = some (dispatcher.selectorMember, read) ∧
      read.eval scope = pure (.text selected) ∧
      value.member? dispatcher.selectorMember = some (.text selected) ∧
      (∀ candidate ∈ plan.candidates, ∃ member content, candidate.memberName = .ok member ∧
        value.member? member = some content ∧
        if selected = candidate.key then ∃ inner, content = .present inner else content = .absent) ∧
      ∀ (ε σ β γ : Type) (call : Choice → Value → Except ε β) (into : β → γ) (box : ε → σ),
        (dispatcher.build value (converted call into box) =
            some (.error (.invalidChoice selected)) ↔
          ∀ candidate ∈ plan.candidates, candidate.key ≠ selected) ∧
        ∀ candidate, plan.candidates.find? (·.key = selected) = some candidate →
          ∃ choice inner, candidate.memberName = .ok choice.member ∧
            nameOfText? candidate.buildMethod = some choice.method ∧
            value.member? choice.member = some (.present inner) ∧
            dispatcher.build value (converted call into box) =
              some (match call choice inner with
                | .ok result => .ok (into result)
                | .error fault => .error (.failed selected (box fault))) := by
  obtain ⟨implemented, -⟩ := gives_ran (implement_gives plan) written
  obtain ⟨members, wrote⟩ := wrote_record analysed implemented
  have dispatched := dispatcher_written wrote.planned wrote.dispatcher
  rw [selects] at dispatched
  obtain ⟨dispatcher, isDispatcher, isMember, choices⟩ : ∃ dispatcher,
      implementation.dispatcher = some dispatcher ∧
        selector.memberName = .ok dispatcher.selectorMember ∧
        List.Forall₂ (fun candidate choice => choiceOf candidate = .ok choice)
          plan.candidates dispatcher.choices := by
    revert dispatched
    cases implementation.dispatcher with
    | none => exact nofun
    | some dispatcher =>
      rintro ⟨both⟩
      exact ⟨dispatcher, rfl, both⟩
  obtain ⟨read, isSelector⟩ : ∃ read,
      implementation.constructor.selector = some (dispatcher.selectorMember, read) := by
    rcases selector_entry wrote with ⟨-, none, -⟩ |
        ⟨field, setting, entry, -, -, -, made, same, isEntry⟩
    · exact nomatch selects.symm.trans none
    · cases selects.symm.trans same
      have isFirst := Except.ok.inj (isMember.symm.trans (memberOf_ok.mp made).1)
      exact ⟨entry.2, isFirst ▸ isEntry⟩
  obtain ⟨selected, isRead, isSelected, each⟩ := loads_members loads isSelector
  have present : ∀ candidate ∈ plan.candidates, ∃ member content,
      candidate.memberName = .ok member ∧ value.member? member = some content ∧
      if selected = candidate.key then ∃ inner, content = .present inner
      else content = .absent := by
    intro candidate listed
    obtain ⟨entry, isEntry, named, ident, key, isValue⟩ := candidate_entry wrote listed
    obtain ⟨content, comes, isContent⟩ := each entry isEntry
    rw [isValue] at comes
    exact ⟨entry.1, content, named, isContent, guarded_value rfl comes⟩
  refine ⟨dispatcher, read, selected, isDispatcher, isSelector, isRead, isSelected, present,
    fun ε σ β γ call into box => ?_⟩
  have labelled : ∀ candidate choice, choiceOf candidate = .ok choice →
      decide (candidate.key = selected) = decide (choice.label = selected) :=
    fun candidate choice made => by rw [(choiceOf_ok.mp made).1]
  obtain ⟨unfound, unknown⟩ | ⟨candidate, choice, found, known, made⟩ :=
    related_find? choices labelled
  · have refused := List.find?_eq_none.mp unfound
    rw [unfound]
    exact ⟨⟨fun _ candidate listed same => refused candidate listed (decide_eq_true same),
      fun _ => build_unknown isSelected unknown⟩, nofun⟩
  · obtain ⟨-, isChoice, isMethod⟩ := choiceOf_ok.mp made
    have listed := List.mem_of_find?_eq_some found
    have isKey : candidate.key = selected := by simpa using List.find?_some found
    obtain ⟨member, content, named, isContent, isPresent⟩ := present candidate listed
    cases isChoice.symm.trans named
    rw [if_pos isKey.symm] at isPresent
    obtain ⟨inner, rfl⟩ := isPresent
    have builds : dispatcher.build value (converted call into box) =
        some (match call choice inner with
          | .ok result => .ok (into result)
          | .error fault => .error (.failed selected (box fault))) := by
      rw [build_known isSelected known isContent, converted]
      cases call choice inner <;> rfl
    rw [found]
    refine ⟨⟨fun refuses => ?_, fun none => absurd isKey (none candidate listed)⟩, ?_⟩
    · rw [builds] at refuses
      cases called : call choice inner <;> simp [called] at refuses
    · rintro _ ⟨⟩
      exact ⟨choice, inner, isChoice, isMethod, isContent, builds⟩

/-- The value that a computation comes to. -/
def value? {α : Type} (computation : Evaluation α) : Option α :=
  match computation.run with
  | some (.ok value) => some value
  | _ => none

theorem value?_eq_some {α : Type} {computation : Evaluation α} {value : α} :
    value? computation = some value ↔ computation = pure value := by
  rcases computation with _ | _ | other
  · exact ⟨nofun, nofun⟩
  · exact ⟨nofun, nofun⟩
  · exact ⟨fun same => by cases same; rfl, fun same => by cases same; rfl⟩

/-- The text that a value is. -/
def text? : Value → Option String
  | .text content => some content
  | _ => none

/-- A state in which the root of a schema is written. -/
def rootSession : Session where
  config := { root := "Config" }
  error := "EnvError"
  converters := .builtin

/-- An environment that names a candidate, with the parser functions to read it. What is nested has
nothing in it. -/
def namedScope (parsers : List ParserFn) : Scope where
  environment := .ofList [("KIND", .text "FILE")]
  keyPrefix := none
  selected := none
  parser? name := parsers.find? (·.name = name)
  nested record _ := pure (.record record [])

/-- The root of a schema with a selector is loaded in such an environment. -/
theorem chosenStore_loads : ∃ record plan selector candidate implementation after parsers value,
    RecordPlan.ofRecord record true chosenStore rootSession.converters = .ok plan ∧
      plan.selector? = some selector ∧ plan.candidates = [candidate] ∧ candidate.key = "FILE" ∧
      (Session.implement plan).run rootSession = (.ok implementation, after) ∧
      Loads implementation.constructor (namedScope parsers) value ∧
      ∃ dispatcher, implementation.dispatcher = some dispatcher ∧
        value.member? dispatcher.selectorMember = some (.text "FILE") := by
  have computed : (do
      let record ← chosenStore.get? "Config"
      let plan ← (RecordPlan.ofRecord record true chosenStore rootSession.converters).toOption
      let selector ← plan.selector?
      let implementation ← ((Session.implement plan).run rootSession).1.toOption
      let parsers ← ((Session.implement plan).run rootSession).2.parsers.functions.toOption
      let value ← value? (implementation.constructor.eval (namedScope parsers))
      let selected ← implementation.dispatcher.bind fun dispatcher =>
        value.member? dispatcher.selectorMember
      return (plan.candidates.map (·.key), text? selected,
        decide ((entries implementation.constructor).map (·.1)).Nodup)) =
      some (["FILE"], some "FILE", true) := by
    decide +kernel
  simp only [Option.bind_eq_bind, Option.bind_eq_some_iff] at computed
  obtain ⟨record, -, plan, analysed, selector, selects, implementation, implemented, parsers, -, value,
    comes, selected, isSelected, same⟩ := computed
  obtain ⟨⟨candidate, candidates, isKey⟩, isText, distinct⟩ : (∃ candidate,
      plan.candidates = [candidate] ∧ candidate.key = "FILE") ∧ text? selected = some "FILE" ∧
        ((entries implementation.constructor).map (·.1)).Nodup := by
    simpa using same
  have analysed := toOption_some.mp analysed
  have implemented := toOption_some.mp implemented
  refine ⟨record, plan, selector, candidate, implementation, _, parsers, value, analysed, selects,
    candidates, isKey, Prod.ext implemented rfl, ⟨distinct, value?_eq_some.mp comes⟩, ?_⟩
  cases selected with
  | text content =>
    cases isText
    exact isSelected
  | _ => exact nomatch isText

/-- There the candidate is present, and the dispatcher calls its method. -/
theorem chosenStore_chosen : ∃ plan candidate implementation after parsers value dispatcher,
    plan.candidates = [candidate] ∧ candidate.key = "FILE" ∧
      (Session.implement plan).run rootSession = (.ok implementation, after) ∧
      Loads implementation.constructor (namedScope parsers) value ∧
      implementation.dispatcher = some dispatcher ∧
      value.member? dispatcher.selectorMember = some (.text "FILE") ∧
      ∀ call : Choice → Value → Except String Bool, ∃ choice inner,
        candidate.memberName = .ok choice.member ∧
        value.member? choice.member = some (.present inner) ∧
        dispatcher.build value (converted call id id) =
          some (match call choice inner with
            | .ok result => .ok result
            | .error fault => .error (.failed "FILE" fault)) := by
  obtain ⟨record, plan, selector, candidate, implementation, after, parsers, value, analysed, selects,
    candidates, isKey, written, loads, loaded, isLoaded, hasValue⟩ := chosenStore_loads
  obtain ⟨dispatcher, read, selected, isDispatcher, -, -, isSelected, -, builds⟩ :=
    chosen_candidate analysed selects written loads
  cases isLoaded.symm.trans isDispatcher
  cases hasValue.symm.trans isSelected
  have found : plan.candidates.find? (·.key = "FILE") = some candidate := by
    rw [candidates, List.find?_singleton, if_pos (decide_eq_true isKey)]
  refine ⟨plan, candidate, implementation, after, parsers, value, loaded, candidates, isKey,
    written, loads, isDispatcher, isSelected, fun call => ?_⟩
  obtain ⟨choice, inner, isMember, -, isPresent, called⟩ :=
    (builds _ _ _ _ call id id).2 candidate found
  refine ⟨choice, inner, isMember, isPresent, called.trans ?_⟩
  cases call choice inner <;> rfl

end EnvLoader.ChosenCandidate
