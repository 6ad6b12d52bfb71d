import EnvLoader.Proofs.AssembledRun

/-! A run without its state. What a round gives for a record depends on the schema and the
converters alone, and which record is next depends on the plans so far. So the rounds can be told
as a recursion over the names that wait, given what is written for each name, and all else that a
run collects is settled by what the rounds gave. Two runs are then compared by what they write. -/
namespace EnvLoader.StatelessRun
open Outcomes RecordWriting SchemaNesting DiscoveryOrder ExpansionRun AssembledRun Loader

/-- What is written for a record: its plan and its code. -/
abbrev Written := RecordPlan × Implementation

/-- What is written in so many rounds, given what is written for each name. -/
def rounds (write : String → Except GenerationError Written) :
    Nat → Discovery → Except GenerationError (List Written)
  | 0, _ => return []
  | fuel + 1, queue =>
    match queue.pop? with
    | none => return []
    | some (name, queue) => do
      let made ← write name
      return made :: (← rounds write fuel (queue.addAll made.1.nested))

/-- An expansion with all that was written. -/
def collected (expansion : Expansion) (made : List Written) : Expansion :=
  made.foldl (fun expansion (plan, implementation) => grow expansion plan implementation) expansion

/-- What becomes of all that was written, in a run from a given start. -/
def finishWritten (start : Session) (made : List Written) : Except GenerationError Assembly :=
  finish (collected {} made) (askAll start.converters (made.map (·.1)) start)

variable {schema : Schema} {config : Config} {converters : Converters} {queue : Discovery}
  {expansion : Expansion} {session start after : Session} {made : List Written}
  {write other : String → Except GenerationError Written} {fuel : Nat}

theorem rounds_done (empty : queue.pop? = none) : rounds write fuel queue = .ok [] := by
  cases fuel with
  | zero => rfl
  | succ fuel =>
    rw [rounds, empty]
    rfl

theorem rounds_failed {name : String} {left : Discovery} {error : GenerationError}
    (popped : queue.pop? = some (name, left)) (fails : write name = .error error) :
    rounds write (fuel + 1) queue = .error error := by
  simp only [rounds, popped, fails]
  rfl

theorem rounds_next {name : String} {left : Discovery} {one : Written}
    (popped : queue.pop? = some (name, left)) (ready : write name = .ok one) :
    rounds write (fuel + 1) queue =
      (rounds write fuel (left.addAll one.1.nested)).map (one :: ·) := by
  simp only [rounds, popped, ready]
  change (rounds write fuel (left.addAll one.1.nested) >>= fun rest => pure (one :: rest)) = _
  cases rounds write fuel (left.addAll one.1.nested) <;> rfl

/-- The rounds give what the recursion does, whatever else the state holds. -/
theorem expand_rounds : ((expand schema fuel expansion).run session).1 =
    (rounds (written schema session.converters session.config.root) fuel session.queue).map
      (collected expansion) := by
  induction fuel generalizing expansion session with
  | zero => rfl
  | succ fuel ih =>
    cases popped : session.queue.pop? with
    | none =>
      rw [expand_done popped, rounds_done popped]
      rfl
    | some entry =>
      obtain ⟨name, queue⟩ := entry
      rw [expand_next popped]
      cases ready : written schema session.converters session.config.root name with
      | error error =>
        have fails := @addRecord_error schema name { session with queue } expansion error ready
        rw [rounds_failed popped ready]
        rcases ran : (expansion.addRecord schema name).run { session with queue } with ⟨outcome, after⟩
        rw [ran] at fails
        cases fails
        rfl
      | ok made =>
        obtain ⟨plan, implementation⟩ := made
        obtain ⟨converters, config, -⟩ := @askForPlan_kept session.converters
          { session with queue := queue.addAll plan.nested } plan
        rw [@addRecord_ok schema name { session with queue } expansion plan implementation ready,
          rounds_next popped ready]
        dsimp only
        rw [ih, converters, config, askForPlan_queue]
        cases rounds (written schema session.converters session.config.root) fuel
          (queue.addAll plan.nested) <;> rfl

theorem collected_plans : (collected expansion made).plans = expansion.plans ++ made.map (·.1) := by
  induction made generalizing expansion with
  | nil => simp [collected]
  | cons one rest ih => simpa [collected, grow] using @ih (grow expansion one.1 one.2)

theorem collected_implementations :
    (collected expansion made).implementations = expansion.implementations ++ made.map (·.2) := by
  induction made generalizing expansion with
  | nil => simp [collected]
  | cons one rest ih => simpa [collected, grow] using @ih (grow expansion one.1 one.2)

theorem collected_nesting : (collected expansion made).nesting =
    (made.map (·.1)).foldl Nesting.addPlan expansion.nesting := by
  induction made generalizing expansion with
  | nil => rfl
  | cons one rest ih => exact ih

/-- Expanding from the root gives what the recursion does. -/
theorem expandAll_rounds {outcome : Except GenerationError Expansion}
    (started : Session.start config converters = .ok start)
    (ran : (expandAll schema config.root).run start = (outcome, after)) :
    outcome = (rounds (written schema converters config.root) (schema.size + 1)
      ⟨[config.root], 0⟩).map (collected {}) := by
  have recursion := @expand_rounds schema {} (rooted start) (schema.size + 1)
  have opened : (expandAll schema config.root).run start =
      (expand schema (schema.size + 1) {}).run (rooted start) := by
    rw [← (start_kept started).1]
    exact run_modify _ _ start
  rw [← opened, ran] at recursion
  obtain ⟨error, -, rfl⟩ := start_ok started
  exact recursion

/-- Once it has started from a known root, a run writes in rounds and then finishes. -/
theorem assemble_rounds (started : Session.start config converters = .ok start)
    (known : schema.contains config.root = true) : assemble schema config converters =
      rounds (written schema converters config.root) (schema.size + 1) ⟨[config.root], 0⟩ >>=
        finishWritten start := by
  obtain ⟨outcome, after, ran, -, ends⟩ := expandAll_run started known
  rw [assemble_run started known ran]
  cases expandAll_rounds started ran
  cases all : rounds (written schema converters config.root) (schema.size + 1)
      ⟨[config.root], 0⟩ with
  | error error => rfl
  | ok made =>
    rw [all] at ends
    have asked : after =
        { askAll start.converters (made.map (·.1)) start with queue := after.queue } := by
      have grown := ends.1.asked
      rwa [collected_plans] at grown
    change finish (collected {} made) after = finishWritten start made
    rw [asked]
    rfl

/-! ### Two recursions -/

section Rounds
variable {Holds : String → Prop} {name : String} {left : Discovery} {one : Written}

/-- The name that is next has what all have that wait. -/
theorem waits_popped (waits : ∀ name ∈ queue.discovered, Holds name)
    (popped : queue.pop? = some (name, left)) : Holds name :=
  waits name (List.mem_of_getElem? (pop?_some.mp popped).1)

/-- After a round all that wait still have what each record passes on to those it nests. -/
theorem waits_next
    (closed : ∀ name one, Holds name → write name = .ok one → ∀ inner ∈ one.1.nested, Holds inner)
    (waits : ∀ name ∈ queue.discovered, Holds name) (popped : queue.pop? = some (name, left))
    (ready : write name = .ok one) : ∀ inner ∈ (left.addAll one.1.nested).discovered, Holds inner := by
  intro inner member
  rcases (mem_addAll inner).mp member with member | member
  · rw [(pop?_some.mp popped).2] at member
    exact waits inner member
  · exact closed name one (waits_popped waits popped) ready inner member

/-- More rounds than there can be names to take out change nothing. -/
theorem rounds_more {size : Nat} (more : Nat)
    (bound : ∀ names : List String, names.Nodup → (∀ name ∈ names, Holds name) →
      names.length ≤ size)
    (closed : ∀ name one, Holds name → write name = .ok one → ∀ inner ∈ one.1.nested, Holds inner)
    (waits : ∀ name ∈ queue.discovered, Holds name) (distinct : queue.discovered.Nodup)
    (taken : queue.expanded ≤ queue.discovered.length) (enough : size < fuel + queue.expanded) :
    rounds write (fuel + more) queue = rounds write fuel queue := by
  induction fuel generalizing queue with
  | zero =>
    have short := bound queue.discovered distinct waits
    omega
  | succ fuel ih =>
    cases popped : queue.pop? with
    | none => rw [rounds_done popped, rounds_done popped]
    | some entry =>
      obtain ⟨name, left⟩ := entry
      obtain ⟨found, isLeft⟩ := pop?_some.mp popped
      obtain ⟨inside, -⟩ := List.getElem?_eq_some_iff.mp found
      have further : fuel + 1 + more = fuel + more + 1 := by omega
      rw [further]
      cases ready : write name with
      | error error => rw [rounds_failed popped ready, rounds_failed popped ready]
      | ok one =>
        have waitsNext := waits_next closed waits popped ready
        subst isLeft
        rw [rounds_next popped ready, rounds_next popped ready, ih waitsNext (nodup_addAll distinct)]
        · have longer : queue.discovered <+:
              (Discovery.addAll ⟨queue.discovered, queue.expanded + 1⟩ one.1.nested).discovered :=
            @discovered_prefix_addAll ⟨queue.discovered, queue.expanded + 1⟩ one.1.nested
          rw [expanded_addAll]
          exact inside.trans_le longer.length_le
        · rw [expanded_addAll]
          dsimp only
          omega

/-- Runs whose rounds write what looks alike go through rounds that look alike. What a record nests
has to show, for it settles which record is next. -/
theorem rounds_alike {γ : Type} {view : Written → γ}
    (nested : ∀ one another, view one = view another → one.1.nested = another.1.nested)
    (same : ∀ name, Holds name → (write name).map view = (other name).map view)
    (closed : ∀ name one, Holds name → write name = .ok one → ∀ inner ∈ one.1.nested, Holds inner)
    (waits : ∀ name ∈ queue.discovered, Holds name) :
    (rounds write fuel queue).map (List.map view) = (rounds other fuel queue).map (List.map view) := by
  induction fuel generalizing queue with
  | zero => rfl
  | succ fuel ih =>
    cases popped : queue.pop? with
    | none => rw [rounds_done popped, rounds_done popped]
    | some entry =>
      obtain ⟨name, left⟩ := entry
      obtain ⟨error, first, second⟩ | ⟨one, another, first, second, looks⟩ :=
        map_alike (same name (waits_popped waits popped))
      · rw [rounds_failed popped first, rounds_failed popped second]
      · have rest := ih (waits_next closed waits popped first)
        rw [rounds_next popped first, rounds_next popped second, ← nested one another looks]
        obtain ⟨error, fails, fails'⟩ | ⟨later, later', ran, ran', same⟩ := map_alike rest
        · rw [fails, fails']
          rfl
        · rw [ran, ran']
          change (.ok (view one :: later.map view) : Except GenerationError (List γ)) =
            .ok (view another :: later'.map view)
          rw [looks, same]

end Rounds
end EnvLoader.StatelessRun
