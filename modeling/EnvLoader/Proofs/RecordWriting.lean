import EnvLoader.RecordPlan
import Mathlib.Data.List.Basic

/-! Writing a record asks the run for what the code needs, but what is written depends on
the plan and the converters alone. Each step of the writing is tied here to the value that
it gives and, for the case that it succeeds, to the state that it leaves. -/
namespace EnvLoader.RecordWriting
open Source Loader

/-- A step comes to a known result. If that is a value, the state after it is known too; what
a failed step leaves is of no use to anyone. -/
def Gives (step : Step α) (session : Session) (result : Except GenerationError α)
    (after : α → Session) : Prop :=
  match result with
  | .ok value => step.run session = (.ok value, after value)
  | .error error => (step.run session).1 = .error error

variable {session : Session} {setting : Setting} {plan : RecordPlan} {record : String}

theorem run_bind (step : Step α) (next : α → Step β) (session : Session) :
    (step >>= next).run session =
      match step.run session with
      | (.ok value, after) => (next value).run after
      | (.error error, after) => (.error error, after) := by
  change ExceptT.bindCont next (step.run session).1 (step.run session).2 = _
  rcases step.run session with ⟨_ | _, _⟩ <;> rfl

theorem gives_pure (value : α) : Gives (pure value) session (.ok value) (fun _ => session) := rfl

theorem gives_lift (result : Except GenerationError α) :
    Gives (Step.lift result) session result (fun _ => session) := by
  cases result <;> rfl

theorem gives_bind {step : Step α} {next : α → Step β} {result : Except GenerationError α}
    {following : α → Except GenerationError β} {after : α → Session} {final : β → Session}
    (first : Gives step session result after)
    (rest : ∀ value, result = .ok value → Gives (next value) (after value) (following value) final) :
    Gives (step >>= next) session (result >>= following) final := by
  cases result with
  | error error =>
    change ((step >>= next).run session).1 = .error error
    rw [run_bind]
    revert first
    unfold Gives
    rcases step.run session with ⟨_ | _, _⟩ <;> simp
  | ok value =>
    have second := rest value rfl
    have ran : step.run session = (.ok value, after value) := first
    change Gives _ _ (following value) _
    unfold Gives at second ⊢
    rw [run_bind, ran]
    exact second

/-- A step that begins by looking at the state. -/
theorem gives_get {next : Session → Step α} {result : Except GenerationError α}
    {after : α → Session} (gives : Gives (next session) session result after) :
    Gives (get >>= next) session result after := gives

/-- A step that begins by changing the state. -/
theorem gives_modify {change : Session → Session} {next : Step α} {result : Except GenerationError α}
    {after : α → Session} (gives : Gives next (change session) result after) :
    Gives (do modify change; next) session result after := gives

/-- A list of steps leaves what each of its steps leaves in turn. -/
theorem gives_mapM (items : List ι) {step : ι → Step α} {result : ι → Except GenerationError α}
    {leave : Session → ι → Session} {Holds : Session → Prop}
    (keeps : ∀ session item, Holds session → Holds (leave session item))
    (each : ∀ item session, Holds session →
      Gives (step item) session (result item) (fun _ => leave session item))
    (start : Holds session) :
    Gives (items.mapM step) session (items.mapM result) (fun _ => items.foldl leave session) := by
  induction items generalizing session with
  | nil => exact gives_pure []
  | cons item items ih =>
    rw [List.mapM_cons, List.mapM_cons]
    refine gives_bind (each item session start) (fun value _ => ?_)
    exact gives_bind (ih (keeps session item start)) (fun values _ => gives_pure _)

/-- A step that ran to a value has the known result and leaves the known state. -/
theorem gives_ran {step : Step α} {result : Except GenerationError α} {after : α → Session}
    {value : α} {final : Session} (gives : Gives step session result after)
    (ran : step.run session = (.ok value, final)) : result = .ok value ∧ final = after value := by
  cases result with
  | error error => exact nomatch (congrArg Prod.fst ran).symm.trans gives
  | ok other =>
    have same : step.run session = (.ok other, after other) := gives
    cases ran.symm.trans same
    exact ⟨rfl, rfl⟩

/-! ### What a setting asks for -/

/-- The parser function that a setting asks for, given the converter of its type. -/
def requestOf (setting : Setting) (converter : Converter) : ParserRequest :=
  ⟨converter, setting.isList, setting.isRequired⟩

/-- The state after a parser function was asked for, with all that it needs. -/
def ask (session : Session) (request : ParserRequest) : Session :=
  let errors := request.converter.errors.foldl ErrorVariants.require session.errors
  let errors := errors.require .notUnicode
  { session with
    imports := Imports.require
      (request.converter.imports.foldl Imports.require session.imports) "std::env"
    errors := if request.isRequired then errors.require .keyNotFound else errors
    parsers := session.parsers.require request }

/-- The parser function that a setting asks for, if it is read from a single variable. -/
def request? (converters : Converters) (setting : Setting) : Option ParserRequest :=
  if setting.isNested then none else (converters.find? setting.type).map (requestOf setting)

/-- The state after a setting was written. -/
def askFor (converters : Converters) (session : Session) (setting : Setting) : Session :=
  match request? converters setting with
  | some request => ask session request
  | none => session

/-! ### What is written -/

/-- The value of a setting that nests a record, given the record's identifier. -/
def nestedValue (setting : Setting) (isRoot : Bool) (record : String) : ValueExpr :=
  let nested := ValueExpr.nested record (setting.keyExpr isRoot)
  if setting.isGuarded then .guarded setting.key nested
  else if setting.isOptional then .some nested
  else nested

/-- The value of a setting that is read from a single variable, given its parser function. -/
def calledValue (setting : Setting) (isRoot : Bool) (parser : String) : ValueExpr :=
  let key := setting.keyExpr isRoot
  if setting.isRequired then .required parser key
  else if setting.isOptional then .optional parser setting.default key
  else .orDefault parser setting.default key

/-- The value of a setting. -/
def valueOf (converters : Converters) (record : String) (isRoot : Bool) (setting : Setting) :
    Except GenerationError ValueExpr := do
  if setting.isNested then
    return nestedValue setting isRoot (← nameFor .recordName setting.type)
  else
    match converters.find? setting.type with
    | some converter =>
      return calledValue setting isRoot
        (← nameFor .parserName (requestOf setting converter).name)
    | none => throw (.unknownType record setting.name setting.type)

/-- The member of a setting with its value. -/
def memberOf (converters : Converters) (plan : RecordPlan) (setting : Setting) :
    Except GenerationError (MemberName × ValueExpr) := do
  let name ← setting.memberName
  return (name, ← valueOf converters plan.name plan.isRoot setting)

/-- The choice that a candidate makes. -/
def choiceOf (candidate : Setting) : Except GenerationError Choice := do
  let member ← candidate.memberName
  return ⟨candidate.key, member, ← nameFor .buildMethod candidate.buildMethod⟩

/-- The dispatcher for a selector that builds a target. -/
def dispatcherFor (plan : RecordPlan) (selector : Setting) (target : String) :
    Except GenerationError Dispatcher := do
  let type ← typeFor .buildType target
  let member ← selector.memberName
  return ⟨target, type, selector.name, member, ← plan.candidates.mapM choiceOf⟩

/-- The selector of a plan with the target that it builds. -/
def selection? (plan : RecordPlan) : Option (Setting × String) :=
  plan.selector?.bind fun selector => selector.selects.map fun target => (selector, target)

/-- The dispatcher of a plan, if it has one. -/
def dispatcherOf (plan : RecordPlan) : Except GenerationError (Option Dispatcher) :=
  match selection? plan with
  | some (selector, target) => return some (← dispatcherFor plan selector target)
  | none => return none

/-- The constructor of a plan, given its members. -/
def constructorOf (plan : RecordPlan) (members : List (MemberName × ValueExpr)) : Constructor where
  record := plan.name
  docs := plan.docs
  isRoot := plan.isRoot
  members :=
    match plan.selectorIndex with
    | some index => members.eraseIdx index
    | none => members
  selector := plan.selectorIndex.bind fun index => members[index]?

/-- The code of a plan. -/
def implementationOf (converters : Converters) (plan : RecordPlan) :
    Except GenerationError Implementation := do
  let name ← nameFor .recordName plan.name
  let members ← plan.settings.mapM (memberOf converters plan)
  return ⟨name, constructorOf plan members, ← dispatcherOf plan⟩

/-- The state after a plan was written. -/
def askForPlan (converters : Converters) (plan : RecordPlan) (session : Session) : Session :=
  let session := plan.settings.foldl (askFor converters) session
  if (selection? plan).isSome then
    { session with errors := (session.errors.require .invalidChoice).require .build }
  else session

@[simp] theorem converters_ask (request : ParserRequest) :
    (ask session request).converters = session.converters := rfl

@[simp] theorem queue_ask (request : ParserRequest) :
    (ask session request).queue = session.queue := rfl

@[simp] theorem config_ask (request : ParserRequest) :
    (ask session request).config = session.config := rfl

@[simp] theorem error_ask (request : ParserRequest) :
    (ask session request).error = session.error := rfl

theorem askFor_kept (converters : Converters) (session : Session) (setting : Setting) :
    (askFor converters session setting).converters = session.converters ∧
      (askFor converters session setting).queue = session.queue ∧
      (askFor converters session setting).config = session.config ∧
      (askFor converters session setting).error = session.error := by
  unfold askFor
  split <;> simp

/-! ### The steps give what is written -/

/-- Asking for a parser function gives its name, if the type has a converter. -/
private theorem parserFor_gives : Gives (Session.parserFor setting record) session
    (match session.converters.find? setting.type with
    | some converter => nameFor .parserName (requestOf setting converter).name
    | none => throw (.unknownType record setting.name setting.type))
    (fun _ => match session.converters.find? setting.type with
    | some converter => ask session (requestOf setting converter)
    | none => session) := by
  unfold Session.parserFor
  refine gives_get ?_
  cases session.converters.find? setting.type with
  | none => rfl
  | some converter => exact gives_modify (gives_lift _)

theorem valueOf_gives (isRoot : Bool) :
    Gives (Session.valueOf setting record isRoot) session
      (valueOf session.converters record isRoot setting)
      (fun _ => askFor session.converters session setting) := by
  unfold Session.valueOf valueOf askFor request?
  by_cases nested : setting.isNested
  · simp only [nested, ↓reduceIte]
    refine gives_bind (gives_lift _) (fun name _ => ?_)
    exact gives_pure (nestedValue setting isRoot name)
  · simp only [nested, Bool.false_eq_true, ↓reduceIte]
    have asked := @parserFor_gives session setting record
    revert asked
    cases session.converters.find? setting.type with
    | none =>
      exact fun asked => @gives_bind _ _ _ _ _ _ (fun parser => .ok (calledValue setting isRoot parser))
        _ _ asked nofun
    | some converter =>
      refine fun asked => gives_bind asked (fun parser _ => ?_)
      exact gives_pure (calledValue setting isRoot parser)

theorem memberOf_gives (plan : RecordPlan) (setting : Setting) :
    Gives (Session.memberOf plan setting) session (memberOf session.converters plan setting)
      (fun _ => askFor session.converters session setting) := by
  unfold Session.memberOf memberOf
  refine gives_bind (gives_lift _) (fun name _ => ?_)
  exact gives_bind (valueOf_gives plan.isRoot) (fun value _ => gives_pure _)

theorem dispatcherOf_gives (plan : RecordPlan) :
    Gives (Session.dispatcherOf plan) session (dispatcherOf plan)
      (fun _ => if (selection? plan).isSome then
        { session with errors := (session.errors.require .invalidChoice).require .build }
      else session) := by
  unfold Session.dispatcherOf dispatcherOf selection?
  cases plan.selector? with
  | none => rfl
  | some selector =>
    cases selects : selector.selects with
    | none => simp only [selects, Option.bind_some, Option.map_none]; rfl
    | some target =>
      simp only [selects, Option.bind_some, Option.map_some, Option.isSome_some, ↓reduceIte,
        dispatcherFor, bind_assoc, pure_bind]
      refine gives_bind (gives_lift _) (fun type _ => ?_)
      refine gives_modify ?_
      refine gives_bind (gives_lift _) (fun member _ => ?_)
      exact gives_bind (gives_lift _) (fun choices _ => gives_pure _)

/-- Writing a plan gives its code and leaves what the code asks for. -/
theorem implement_gives (plan : RecordPlan) :
    Gives (Session.implement plan) session (implementationOf session.converters plan)
      (fun _ => askForPlan session.converters plan session) := by
  unfold Session.implement implementationOf askForPlan
  refine gives_bind (gives_lift _) (fun name _ => ?_)
  have keeps : ∀ (state : Session) setting, state.converters = session.converters →
      (askFor session.converters state setting).converters = session.converters :=
    fun state setting kept => (askFor_kept session.converters state setting).1.trans kept
  have each : ∀ setting (state : Session), state.converters = session.converters →
      Gives (Session.memberOf plan setting) state (memberOf session.converters plan setting)
        (fun _ => askFor session.converters state setting) :=
    fun setting state kept => kept ▸ memberOf_gives plan setting
  have members := gives_mapM plan.settings keeps each rfl
  refine gives_bind members (fun members _ => ?_)
  exact gives_bind (dispatcherOf_gives plan) (fun dispatcher _ => gives_pure _)

end EnvLoader.RecordWriting
