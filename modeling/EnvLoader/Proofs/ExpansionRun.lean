import EnvLoader.Generate
import EnvLoader.Proofs.DiscoveryOrder
import EnvLoader.Proofs.RecordWriting
import EnvLoader.Proofs.SchemaNesting

/-! Expanding takes out one name after the other until none waits. A name enters the queue
once and only if the schema knows it, so the loop ends without any bound on its rounds. What
carries this is an invariant of the rounds: the queue and the requests are those that the
plans so far give rise to, and the plans are those of the names that were taken out. -/
namespace EnvLoader.ExpansionRun
open Outcomes RecordWriting SchemaNesting DiscoveryOrder Loader

/-- The loop without a bound, as a relation between where it starts and where it ends. -/
inductive Expands (schema : Schema) :
    Expansion → Session → Except GenerationError Expansion → Session → Prop where
  | done {expansion : Expansion} {session : Session} (empty : session.queue.pop? = none) :
      Expands schema expansion session (.ok expansion) session
  | failed {expansion : Expansion} {session after : Session} {name : String} {queue : Discovery}
      {error : GenerationError} (popped : session.queue.pop? = some (name, queue))
      (fails : (expansion.addRecord schema name).run { session with queue } = (.error error, after)) :
      Expands schema expansion session (.error error) after
  | next {expansion grown : Expansion} {session middle after : Session} {name : String}
      {queue : Discovery} {outcome : Except GenerationError Expansion}
      (popped : session.queue.pop? = some (name, queue))
      (added : (expansion.addRecord schema name).run { session with queue } = (.ok grown, middle))
      (rest : Expands schema grown middle outcome after) :
      Expands schema expansion session outcome after

/-- The plan of a record with the code that is written for it. -/
def written (schema : Schema) (converters : Converters) (root name : String) :
    Except GenerationError (RecordPlan × Implementation) :=
  match schema.get? name with
  | some record => do
    let plan ← RecordPlan.ofRecord record (name == root) schema converters
    return (plan, ← implementationOf converters plan)
  | none => throw (.recordNotFound name)

/-- An expansion with one more record. -/
def grow (expansion : Expansion) (plan : RecordPlan) (implementation : Implementation) :
    Expansion where
  plans := expansion.plans ++ [plan]
  implementations := expansion.implementations ++ [implementation]
  nesting := expansion.nesting.addPlan plan

/-- The state after plans were written. -/
def askAll (converters : Converters) (plans : List RecordPlan) (session : Session) : Session :=
  plans.foldl (fun session plan => askForPlan converters plan session) session

variable {schema : Schema} {converters : Converters} {root name : String} {queue : Discovery}
  {session start : Session} {expansion : Expansion} {plan : RecordPlan}
  {implementation : Implementation} {record : Record}

theorem written_ok : written schema converters root name = .ok (plan, implementation) ↔
    ∃ record, schema.get? name = some record ∧
      RecordPlan.ofRecord record (name == root) schema converters = .ok plan ∧
      implementationOf converters plan = .ok implementation := by
  unfold written
  cases schema.get? name with
  | none => exact ⟨nofun, fun ⟨_, impossible, _⟩ => nomatch impossible⟩
  | some record =>
    simp only [bind_ok, pure_ok, Prod.mk.injEq, Option.some.injEq]
    constructor
    · rintro ⟨_, analysed, _, implemented, rfl, rfl⟩
      exact ⟨record, rfl, analysed, implemented⟩
    · rintro ⟨_, rfl, analysed, implemented⟩
      exact ⟨plan, analysed, implementation, implemented, rfl, rfl⟩

/-! ### One round -/

theorem pop?_none : queue.pop? = none ↔ queue.discovered.length ≤ queue.expanded := by
  unfold Discovery.pop? Discovery.pending
  rw [← List.drop_eq_nil_iff]
  cases queue.discovered.drop queue.expanded <;> simp

theorem pop?_some {popped : Discovery} : queue.pop? = some (name, popped) ↔
    queue.discovered[queue.expanded]? = some name ∧
      popped = { queue with expanded := queue.expanded + 1 } := by
  unfold Discovery.pop? Discovery.pending
  rw [← List.head?_drop]
  cases queue.discovered.drop queue.expanded <;> simp [eq_comm]

/-- Analysing a record gives its plan and leaves what it nests to be expanded. -/
theorem analyze_gives (isRoot : Bool) : Gives (Session.analyze record isRoot schema) session
    (RecordPlan.ofRecord record isRoot schema session.converters)
    (fun plan => { session with queue := session.queue.addAll plan.nested }) := by
  unfold Session.analyze
  refine gives_get ?_
  cases RecordPlan.ofRecord record isRoot schema session.converters <;> rfl

private theorem addRecord_gives {after : Session}
    (leaves : ∀ plan implementation,
      written schema session.converters session.config.root name = .ok (plan, implementation) →
        after = askForPlan session.converters plan
          { session with queue := session.queue.addAll plan.nested }) :
    Gives (expansion.addRecord schema name) session
      ((fun (plan, implementation) => grow expansion plan implementation) <$>
        written schema session.converters session.config.root name) (fun _ => after) := by
  unfold Expansion.addRecord
  cases known : schema.get? name with
  | none =>
    simp only [written, known]
    rfl
  | some record =>
    refine gives_get ?_
    simp only [written, known, map_bind, map_pure]
    refine gives_bind (analyze_gives _) (fun plan analysed => ?_)
    refine gives_bind (implement_gives plan) (fun implementation implemented => ?_)
    rw [leaves plan implementation (written_ok.mpr ⟨record, known, analysed, implemented⟩)]
    exact gives_pure _

/-- A round that writes a record. -/
theorem addRecord_ok
    (ready : written schema session.converters session.config.root name = .ok (plan, implementation)) :
    (expansion.addRecord schema name).run session = (.ok (grow expansion plan implementation),
      askForPlan session.converters plan
        { session with queue := session.queue.addAll plan.nested }) := by
  have gives := @addRecord_gives schema name session expansion _ fun other written same => by
    cases ready.symm.trans same
    rfl
  rwa [ready] at gives

/-- A round that fails as writing the record does. -/
theorem addRecord_error {error : GenerationError}
    (fails : written schema session.converters session.config.root name = .error error) :
    ((expansion.addRecord schema name).run session).1 = .error error := by
  have gives := @addRecord_gives schema name session expansion session
    fun plan implementation ready => nomatch fails.symm.trans ready
  rwa [fails] at gives

/-! ### All rounds -/

theorem askForPlan_queue : askForPlan converters plan { session with queue } =
    { askForPlan converters plan session with queue } := by
  have settings : ∀ (settings : List Setting) (session : Session),
      settings.foldl (askFor converters) { session with queue } =
        { settings.foldl (askFor converters) session with queue } := by
    intro settings
    induction settings with
    | nil => exact fun _ => rfl
    | cons setting settings ih =>
      intro session
      have one : askFor converters { session with queue } setting =
          { askFor converters session setting with queue } := by
        unfold askFor
        cases request? converters setting <;> rfl
      rw [List.foldl_cons, one, ih, List.foldl_cons]
  unfold askForPlan
  rw [settings]
  cases (selection? plan).isSome <;> rfl

/-- Writing a plan changes neither the configuration of a run nor its converters. -/
theorem askForPlan_kept : (askForPlan converters plan session).converters = session.converters ∧
    (askForPlan converters plan session).config = session.config ∧
    (askForPlan converters plan session).error = session.error := by
  have settings : ∀ (settings : List Setting) (session : Session),
      (settings.foldl (askFor converters) session).converters = session.converters ∧
        (settings.foldl (askFor converters) session).config = session.config ∧
        (settings.foldl (askFor converters) session).error = session.error := by
    intro settings
    induction settings with
    | nil => exact fun _ => ⟨rfl, rfl, rfl⟩
    | cons setting settings ih =>
      intro session
      obtain ⟨converters, -, config, error⟩ := askFor_kept converters session setting
      rw [List.foldl_cons, ← converters, ← config, ← error]
      exact ih _
  unfold askForPlan
  cases (selection? plan).isSome <;> exact settings plan.settings session

theorem askAll_kept (plans : List RecordPlan) :
    (askAll converters plans session).converters = session.converters ∧
    (askAll converters plans session).config = session.config ∧
    (askAll converters plans session).error = session.error := by
  induction plans generalizing session with
  | nil => exact ⟨rfl, rfl, rfl⟩
  | cons plan plans ih =>
    obtain ⟨kept, config, error⟩ := @askForPlan_kept converters session plan
    rw [← kept, ← config, ← error]
    exact ih

theorem written_name (ready : written schema converters root name = .ok (plan, implementation)) :
    plan.name = name := by
  obtain ⟨record, known, analysed, -⟩ := written_ok.mp ready
  exact (ofRecord_ok analysed).name.trans (get?_name known)

theorem mem_nested {inner : String}
    (ready : written schema converters root name = .ok (plan, implementation)) :
    inner ∈ plan.nested ↔ Nests schema name inner := by
  obtain ⟨record, known, analysed, -⟩ := written_ok.mp ready
  rw [planOf_nested (ofRecord_ok analysed), List.mem_filterMap]
  simp only [nestedName?_eq_some, Nests, known, Option.some.injEq]
  exact ⟨fun ⟨field, member, nests⟩ => ⟨record, field, rfl, member, nests⟩,
    fun ⟨_, field, same, member, nests⟩ => ⟨field, same ▸ member, nests⟩⟩

/-- What is known after some rounds of a run. -/
structure Grown (schema : Schema) (start : Session) (expansion : Expansion) (session : Session) :
    Prop where
  names : expansion.plans.map (·.name) = session.queue.discovered.take session.queue.expanded
  taken : session.queue.expanded ≤ session.queue.discovered.length
  discovered : session.queue.discovered =
    ((⟨[start.config.root], 0⟩ : Discovery).addAll (expansion.plans.flatMap (·.nested))).discovered
  reachable : ∀ name ∈ session.queue.discovered, Reachable schema start.config.root name
  written : List.Forall₂ (fun plan implementation =>
      written schema start.converters start.config.root plan.name = .ok (plan, implementation))
    expansion.plans expansion.implementations
  nesting : expansion.nesting = expansion.plans.foldl Nesting.addPlan {}
  asked : session =
    { askAll start.converters expansion.plans start with queue := session.queue }

theorem grown_kept (grown : Grown schema start expansion session) :
    session.converters = start.converters ∧ session.config = start.config ∧
      session.error = start.error := by
  rw [grown.asked]
  exact askAll_kept expansion.plans

theorem grown_nodup (grown : Grown schema start expansion session) :
    session.queue.discovered.Nodup := by
  rw [grown.discovered]
  exact nodup_addAll (by simp)

/-- One more round keeps what is known. -/
theorem grown_next {queue : Discovery} (grown : Grown schema start expansion session)
    (popped : session.queue.pop? = some (name, queue))
    (ready : written schema start.converters start.config.root name = .ok (plan, implementation)) :
    Grown schema start (grow expansion plan implementation)
      (askForPlan start.converters plan { session with queue := queue.addAll plan.nested }) := by
  obtain ⟨found, rfl⟩ := pop?_some.mp popped
  obtain ⟨inside, -⟩ := List.getElem?_eq_some_iff.mp found
  have isName := written_name ready
  rw [askForPlan_queue]
  let popped : Discovery := { session.queue with expanded := session.queue.expanded + 1 }
  obtain ⟨more, listed⟩ : popped.discovered <+: (popped.addAll plan.nested).discovered :=
    discovered_prefix_addAll
  have expanded : (popped.addAll plan.nested).expanded = session.queue.expanded + 1 :=
    expanded_addAll
  refine ⟨?_, ?_, ?_, ?_, ?_, ?_, ?_⟩
  · change (expansion.plans ++ [plan]).map (·.name) =
      (popped.addAll plan.nested).discovered.take (popped.addAll plan.nested).expanded
    rw [expanded, ← listed, List.take_append_of_le_length inside, List.take_add_one, found,
      List.map_append, grown.names, List.map_singleton, isName]
    rfl
  · change (popped.addAll plan.nested).expanded ≤ (popped.addAll plan.nested).discovered.length
    rw [expanded, ← listed, List.length_append]
    exact Nat.le_add_right_of_le inside
  · change (popped.addAll plan.nested).discovered =
      ((⟨[start.config.root], 0⟩ : Discovery).addAll
        ((expansion.plans ++ [plan]).flatMap (·.nested))).discovered
    rw [List.flatMap_append, addAll_append, List.flatMap_singleton]
    exact discovered_addAll grown.discovered
  · intro other member
    rcases (mem_addAll other).mp member with member | member
    · exact grown.reachable other member
    · exact (grown.reachable name (List.mem_of_getElem? found)).tail ((mem_nested ready).mp member)
  · exact List.rel_append grown.written (.cons (isName ▸ ready) .nil)
  · change expansion.nesting.addPlan plan = (expansion.plans ++ [plan]).foldl Nesting.addPlan {}
    rw [List.foldl_append, ← grown.nesting]
    rfl
  · have asked : askForPlan start.converters plan session =
        { askForPlan start.converters plan (askAll start.converters expansion.plans start) with
          queue := session.queue } := by
      rw [← askForPlan_queue, ← grown.asked]
    have last : askAll start.converters (grow expansion plan implementation).plans start =
        askForPlan start.converters plan (askAll start.converters expansion.plans start) :=
      List.foldl_append
    rw [asked, last]

/-- How the loop ends: with all that was discovered expanded, or as the writing of a reachable
record fails. -/
def Ends (schema : Schema) (start : Session) : Except GenerationError Expansion → Session → Prop
  | .ok expansion, after => Grown schema start expansion after ∧ after.queue.pop? = none
  | .error error, _ => ∃ name, Reachable schema start.config.root name ∧
      written schema start.converters start.config.root name = .error error

theorem reachable_known (known : schema.contains root = true)
    (reachable : Reachable schema root name) : schema.contains name = true := by
  cases reachable with
  | refl => exact known
  | tail _ nests =>
    obtain ⟨_, _, _, _, nested⟩ := nests
    exact nested.2

theorem run_get (next : Session → Step α) (session : Session) :
    (get >>= next).run session = (next session).run session := rfl

theorem run_modify (change : Session → Session) (next : Step α) (session : Session) :
    (do modify change; next : Step α).run session = next.run (change session) := rfl

theorem expand_done {rounds : Nat} (empty : session.queue.pop? = none) :
    (expand schema (rounds + 1) expansion).run session = (.ok expansion, session) := by
  rw [expand, run_get, empty]
  rfl

theorem expand_next {rounds : Nat} (popped : session.queue.pop? = some (name, queue)) :
    (expand schema (rounds + 1) expansion).run session =
      match (expansion.addRecord schema name).run { session with queue } with
      | (.ok grown, middle) => (expand schema rounds grown).run middle
      | (.error error, after) => (.error error, after) := by
  rw [expand, run_get, popped]
  refine (run_modify _ _ session).trans ?_
  rw [run_bind]
  rcases (expansion.addRecord schema name).run { session with queue } with ⟨_ | _, _⟩ <;> rfl

/-- With enough rounds for the rest of the schema, the bounded loop does what the unbounded
one does, and ends. -/
theorem expand_run {rounds : Nat} (known : schema.contains start.config.root = true)
    (grown : Grown schema start expansion session)
    (enough : schema.size < rounds + session.queue.expanded) :
    ∃ outcome after, (expand schema rounds expansion).run session = (outcome, after) ∧
      Expands schema expansion session outcome after ∧ Ends schema start outcome after := by
  induction rounds generalizing expansion session with
  | zero =>
    have listed := known_length_le (grown_nodup grown)
      (fun name member => reachable_known known (grown.reachable name member))
    have := grown.taken
    omega
  | succ rounds ih =>
    cases popped : session.queue.pop? with
    | none => exact ⟨.ok expansion, session, expand_done popped, .done popped, grown, popped⟩
    | some entry =>
      obtain ⟨name, queue⟩ := entry
      obtain ⟨found, isQueue⟩ := pop?_some.mp popped
      obtain ⟨converters, config, -⟩ := grown_kept grown
      rw [expand_next popped]
      cases ready : written schema start.converters start.config.root name with
      | error error =>
        have fails : ((expansion.addRecord schema name).run { session with queue }).1 =
            .error error := addRecord_error (by rwa [converters, config])
        obtain ⟨after, ran⟩ : ∃ after,
            (expansion.addRecord schema name).run { session with queue } = (.error error, after) :=
          ⟨_, Prod.ext fails rfl⟩
        rw [ran]
        exact ⟨.error error, after, rfl, .failed popped ran, name,
          grown.reachable name (List.mem_of_getElem? found), ready⟩
      | ok made =>
        obtain ⟨plan, implementation⟩ := made
        have added : (expansion.addRecord schema name).run { session with queue } =
            (.ok (grow expansion plan implementation), askForPlan start.converters plan
              { session with queue := queue.addAll plan.nested }) := by
          rw [← converters]
          exact addRecord_ok (by rwa [converters, config])
        have expanded : (askForPlan start.converters plan
            { session with queue := queue.addAll plan.nested }).queue.expanded =
            session.queue.expanded + 1 := by
          rw [askForPlan_queue, isQueue]
          exact expanded_addAll
        obtain ⟨outcome, after, ran, expands, ends⟩ := ih (grown_next grown popped ready)
          (by rw [expanded]; omega)
        rw [added]
        exact ⟨outcome, after, ran, .next popped added expands, ends⟩

/-! ### From the root to the end -/

/-- The state in which a run starts. -/
theorem start_ok {config : Config} (started : Session.start config converters = .ok start) :
    ∃ error, nameFor .errorType config.errorType = .ok error ∧
      start = { config, error, converters, imports := Imports.require {} config.scope } := by
  obtain ⟨error, named, made⟩ := bind_ok.mp started
  exact ⟨error, named, (pure_ok.mp made).symm⟩

/-- The state in which the loop starts. -/
def rooted (start : Session) : Session :=
  { start with queue := start.queue.add start.config.root }

theorem grown_rooted {config : Config} (started : Session.start config converters = .ok start) :
    Grown schema start {} (rooted start) := by
  obtain ⟨error, -, rfl⟩ := start_ok started
  refine ⟨rfl, Nat.zero_le _, rfl, ?_, .nil, rfl, rfl⟩
  intro name member
  rw [List.mem_singleton.mp (show name ∈ [config.root] from member)]
  exact .refl

/-- Expanding from the root ends as the unbounded loop does. -/
theorem expandAll_run {config : Config} (started : Session.start config converters = .ok start)
    (known : schema.contains config.root = true) :
    ∃ outcome after, (expandAll schema config.root).run start = (outcome, after) ∧
      Expands schema {} (rooted start) outcome after ∧ Ends schema start outcome after := by
  have isConfig : start.config = config := by
    obtain ⟨error, -, rfl⟩ := start_ok started
    rfl
  have enough : schema.size < schema.size + 1 + (rooted start).queue.expanded := by omega
  obtain ⟨outcome, after, ran, ends⟩ := expand_run (isConfig ▸ known) (grown_rooted started) enough
  refine ⟨outcome, after, ?_, ends⟩
  rw [← ran, ← isConfig]
  exact run_modify _ _ start

/-- In the end the plans are those of all that was discovered. -/
theorem expanded_names (grown : Grown schema start expansion session)
    (empty : session.queue.pop? = none) :
    expansion.plans.map (·.name) = session.queue.discovered := by
  rw [grown.names, List.take_of_length_le (pop?_none.mp empty)]

theorem plan_written (grown : Grown schema start expansion session)
    (member : plan ∈ expansion.plans) : ∃ implementation ∈ expansion.implementations,
      written schema start.converters start.config.root plan.name = .ok (plan, implementation) :=
  related_mem grown.written member

/-- In the end the plans are those of the reachable records. -/
theorem mem_expanded (grown : Grown schema start expansion session)
    (empty : session.queue.pop? = none) :
    name ∈ expansion.plans.map (·.name) ↔ Reachable schema start.config.root name := by
  rw [expanded_names grown empty]
  refine ⟨grown.reachable name, fun reachable => ?_⟩
  induction reachable with
  | refl => exact grown.discovered ▸ (mem_addAll _).mpr (.inl (by simp))
  | @tail outer inner _ nests ih =>
    rw [← expanded_names grown empty, List.mem_map] at ih
    obtain ⟨plan, member, rfl⟩ := ih
    obtain ⟨implementation, -, ready⟩ := plan_written grown member
    rw [grown.discovered, mem_addAll]
    exact .inr (List.mem_flatMap.mpr ⟨plan, member, (mem_nested ready).mpr nests⟩)

end EnvLoader.ExpansionRun
