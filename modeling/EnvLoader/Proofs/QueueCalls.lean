import EnvLoader.IndexedQueue
import EnvLoader.Proofs.FileChanges
import Mathlib.Data.List.Nodup
import Mathlib.Order.Lattice

/-! What a queue answers to any calls, in any order. Behind a history of calls, the arena holds the
added names in the order of their first calls, the positions that have left and those that wait are
all positions of the arena in order, and looking up a name finds its position. So no position that
waits leads nowhere, and the queue of positions answers as the queue it is from outside. -/
namespace EnvLoader.QueueCalls

/-- What can be asked of a queue. -/
inductive Call where
  | add (name : String)
  | pop
  deriving DecidableEq

/-- What a queue answers: whether a name is new, or which name leaves. -/
inductive Answer where
  | added (isNew : Bool)
  | popped (name : Option String)
  deriving DecidableEq

/-- A call on a queue of positions. -/
def indexedStep (queue : IndexedQueue) : Call → Answer × IndexedQueue
  | .add name => (.added (queue.add name).1, (queue.add name).2)
  | .pop => (.popped queue.pop.1, queue.pop.2)

/-- A call on a queue as it is seen from outside. -/
def discoveryStep (queue : Discovery) : Call → Answer × Discovery
  | .add name => (.added (!queue.seen name), queue.add name)
  | .pop =>
    match queue.pop? with
    | none => (.popped none, queue)
    | some (name, next) => (.popped (some name), next)

/-- The answers to calls in order, and the queue after them. -/
def answers {σ : Type} (step : σ → Call → Answer × σ) (queue : σ) : List Call → List Answer × σ
  | [] => ([], queue)
  | call :: rest =>
    let (answer, next) := step queue call
    let (given, last) := answers step next rest
    (answer :: given, last)

/-- The names that calls add, in order. -/
def addedNames (calls : List Call) : List String :=
  calls.filterMap fun
    | .add name => some name
    | .pop => none

/-- The names that leave, in order. -/
def poppedNames (given : List Answer) : List String :=
  given.filterMap fun
    | .added _ => none
    | .popped name => name

/-- What is true of a queue of positions behind some calls and the answers to them, and of the next
call on it. -/
structure SettledBehind (calls : List Call) (given : List Answer) (queue : IndexedQueue) :
    Prop where
  /-- The names that left, and then those that wait, are all names. -/
  whole : poppedNames given ++ queue.discovery.pending = queue.names
  /-- Every position that waits is that of a name that waits. -/
  waiting : queue.waiting.map (queue.names[·]?) = queue.discovery.pending.map some
  distinct : queue.names.Nodup
  /-- Names stand in the order in which they were first added. -/
  firstAdded : queue.names = (addedNames calls).eraseDups
  seen : ∀ name, queue.seen name = true ↔ name ∈ queue.names
  expanded : queue.expanded = (poppedNames given).length
  /-- A name is new if no call has added it, whether or not it has left since. -/
  add : ∀ name, (queue.add name).1 = true ↔ .add name ∉ calls
  empty : queue.isEmpty = queue.discovery.isEmpty
  drained : queue.pop.1 = none ↔ queue.waiting = []
  /-- No position is taken out where no name is given. -/
  kept : queue.pop.1 = none → queue.pop.2 = queue
  pops : ∀ position waiting, queue.waiting = position :: waiting →
    ∃ name, queue.names[position]? = some name ∧
      queue.pop = (some name, { queue with waiting, expanded := queue.expanded + 1 })

/-- A queue stands behind a history of calls. -/
structure Reached (calls : List Call) (given : List Answer) (queue : IndexedQueue) : Prop where
  names : queue.names = (addedNames calls).eraseDups
  found : ∀ name position,
    queue.positions.get? name = some position ↔ queue.names[position]? = some name
  /-- The positions that left, and then those that wait, are all positions. -/
  order : List.range queue.expanded ++ queue.waiting = List.range queue.names.length
  left : poppedNames given = queue.names.take queue.expanded

variable {calls : List Call} {given : List Answer} {queue : IndexedQueue} {name : String}

/-! ### Histories -/

theorem mem_addedNames : name ∈ addedNames calls ↔ .add name ∈ calls := by
  unfold addedNames
  rw [List.mem_filterMap]
  constructor
  · rintro ⟨call, listed, isName⟩
    cases call with
    | add other =>
      cases isName
      exact listed
    | pop => exact nomatch isName
  · intro listed
    exact ⟨.add name, listed, rfl⟩

/-- Another name is one more only if it was not among the names before. -/
theorem eraseDups_concat (names : List String) (name : String) : (names ++ [name]).eraseDups =
    if name ∈ names then names.eraseDups else names.eraseDups ++ [name] := by
  rw [List.eraseDups_append]
  by_cases known : name ∈ names
  · simp [known, List.removeAll]
  · simp [known, List.removeAll, List.eraseDups_cons]

/-! ### What a history settles -/

theorem range_left {taken size position : Nat} {waiting : List Nat}
    (order : List.range taken ++ position :: waiting = List.range size) :
    position = taken ∧ taken < size ∧ List.range (taken + 1) ++ waiting = List.range size := by
  have longer := congrArg List.length order
  rw [List.length_append, List.length_cons, List.length_range, List.length_range] at longer
  have below : taken < size := by omega
  have here : position = taken := by
    have same := congrArg (·[taken]?) order
    simpa [below] using same
  refine ⟨here, below, ?_⟩
  rw [← order, List.range_succ, List.append_assoc, here]
  rfl

theorem taken_le (reached : Reached calls given queue) : queue.expanded ≤ queue.names.length := by
  have longer := congrArg List.length reached.order
  rw [List.length_append, List.length_range, List.length_range] at longer
  omega

/-- A position holds one name, and a name has one position. -/
theorem names_distinct (reached : Reached calls given queue) : queue.names.Nodup := by
  rw [List.nodup_iff_getElem?_ne_getElem?]
  intro first second before inside same
  obtain ⟨name, isName⟩ : ∃ name, queue.names[second]? = some name :=
    ⟨_, List.getElem?_eq_getElem inside⟩
  have one := (reached.found name first).mpr (same.trans isName)
  have other := (reached.found name second).mpr isName
  have equal : first = second := Option.some.inj (one.symm.trans other)
  omega

theorem found_iff (reached : Reached calls given queue) :
    (∃ position, queue.positions.get? name = some position) ↔ name ∈ queue.names := by
  rw [List.mem_iff_getElem?]
  exact exists_congr fun position => reached.found name position

theorem seen_iff (reached : Reached calls given queue) :
    queue.seen name = true ↔ name ∈ queue.names := by
  rw [IndexedQueue.seen, Bindings.contains, Option.isSome_iff_exists]
  exact found_iff reached

theorem unseen_iff (reached : Reached calls given queue) :
    queue.positions.get? name = none ↔ name ∉ queue.names := by
  rw [← found_iff reached, ← Option.isSome_iff_exists, Option.not_isSome_iff_eq_none]

/-- What waits are the positions of the names that wait. -/
theorem waiting_names (reached : Reached calls given queue) :
    queue.waiting.map (queue.names[·]?) = queue.discovery.pending.map some := by
  have waits : queue.waiting = (List.range queue.names.length).drop queue.expanded := by
    rw [← reached.order, List.drop_left' (List.length_range)]
  have all : (List.range queue.names.length).map (queue.names[·]?) = queue.names.map some := by
    apply List.ext_getElem
    · simp
    · intro position inside _
      have below : position < queue.names.length := by simpa using inside
      simp [below]
  rw [waits, List.map_drop, all, ← List.map_drop]
  rfl

/-! ### One call -/

theorem add_known (reached : Reached calls given queue) (known : name ∈ queue.names) :
    queue.add name = (false, queue) := by
  obtain ⟨position, isKnown⟩ := (found_iff reached).mpr known
  unfold IndexedQueue.add
  rw [isKnown]

theorem add_unknown (reached : Reached calls given queue) (unknown : name ∉ queue.names) :
    queue.add name = (true, { queue with
      names := queue.names ++ [name]
      positions := queue.positions.put name queue.names.length
      waiting := queue.waiting ++ [queue.names.length] }) := by
  unfold IndexedQueue.add
  rw [(unseen_iff reached).mpr unknown]

theorem pop_drained (drained : queue.waiting = []) : queue.pop = (none, queue) := by
  unfold IndexedQueue.pop
  rw [drained]

/-- What waits is given with its name, the first one that has not left. -/
theorem pop_waiting (reached : Reached calls given queue) {position : Nat} {waiting : List Nat}
    (waits : queue.waiting = position :: waiting) : ∃ name,
      queue.names[queue.expanded]? = some name ∧ position = queue.expanded ∧
      queue.pop = (some name, { queue with waiting, expanded := queue.expanded + 1 }) := by
  have order := reached.order
  rw [waits] at order
  obtain ⟨here, below, -⟩ := range_left order
  have isName : queue.names[queue.expanded]? = some queue.names[queue.expanded] :=
    List.getElem?_eq_getElem below
  refine ⟨_, isName, here, ?_⟩
  unfold IndexedQueue.pop
  rw [waits]
  dsimp only
  rw [here, isName]

theorem pop_none (reached : Reached calls given queue) :
    queue.pop.1 = none ↔ queue.waiting = [] := by
  cases waits : queue.waiting with
  | nil => simp [pop_drained waits]
  | cons position waiting =>
    obtain ⟨name, -, -, popped⟩ := pop_waiting reached waits
    simp [popped]

/-- A new name is found at the end, and every other one where it was. -/
theorem found_new (reached : Reached calls given queue) (new : name ∉ queue.names) (other : String)
    (position : Nat) : (queue.positions.put name queue.names.length).get? other = some position ↔
      (queue.names ++ [name])[position]? = some other := by
  rw [FileChanges.get?_put, List.getElem?_append]
  by_cases same : other = name
  · subst same
    rw [if_pos rfl, Option.some.injEq]
    split
    · rename_i inside
      have apart : queue.names[position]? ≠ some other := by
        intro found
        exact new (List.mem_of_getElem? found)
      simp only [apart, iff_false]
      omega
    · rename_i outside
      rw [List.getElem?_singleton]
      split <;> simp <;> omega
  · rw [if_neg same, reached.found]
    split
    · rfl
    · rename_i outside
      have gone : queue.names[position]? = none := List.getElem?_eq_none (by omega)
      rw [gone, List.getElem?_singleton]
      split <;> simp [Ne.symm same]

theorem add_reached (reached : Reached calls given queue) (name : String) :
    Reached (calls ++ [.add name]) (given ++ [.added (queue.add name).1]) (queue.add name).2 := by
  have more : addedNames (calls ++ [.add name]) = addedNames calls ++ [name] :=
    List.filterMap_append
  have noMore : poppedNames (given ++ [.added (queue.add name).1]) = poppedNames given := by
    simp [poppedNames]
  have member : name ∈ addedNames calls ↔ name ∈ queue.names := by
    rw [reached.names, List.mem_eraseDups]
  by_cases known : name ∈ queue.names
  · have listed : queue.names = (addedNames calls ++ [name]).eraseDups := by
      rw [eraseDups_concat, if_pos (member.mpr known), ← reached.names]
    rw [add_known reached known] at noMore ⊢
    exact ⟨more ▸ listed, reached.found, reached.order, noMore.trans reached.left⟩
  · rw [add_unknown reached known] at noMore ⊢
    constructor
    · rw [more, eraseDups_concat, if_neg (mt member.mp known), ← reached.names]
    · exact found_new reached known
    · dsimp only
      rw [← List.append_assoc, reached.order, List.length_append, List.length_singleton,
        List.range_succ]
    · dsimp only
      rw [noMore, reached.left, List.take_append_of_le_length (taken_le reached)]

theorem pop_reached (reached : Reached calls given queue) :
    Reached (calls ++ [.pop]) (given ++ [.popped queue.pop.1]) queue.pop.2 := by
  have noMore : addedNames (calls ++ [.pop]) = addedNames calls := by simp [addedNames]
  cases waits : queue.waiting with
  | nil =>
    rw [pop_drained waits]
    have noneLeft : poppedNames (given ++ [.popped none]) = poppedNames given := by
      simp [poppedNames]
    exact ⟨noMore ▸ reached.names, reached.found, reached.order, noneLeft.trans reached.left⟩
  | cons position waiting =>
    obtain ⟨name, isName, -, popped⟩ := pop_waiting reached waits
    have order := reached.order
    rw [waits] at order
    obtain ⟨-, -, rest⟩ := range_left order
    have oneLeft : poppedNames (given ++ [.popped (some name)]) = poppedNames given ++ [name] :=
      List.filterMap_append
    rw [popped]
    refine ⟨noMore ▸ reached.names, reached.found, rest, ?_⟩
    rw [oneLeft, reached.left, List.take_add_one, isName]
    rfl

/-- A call goes on with the history. -/
theorem step_reached (reached : Reached calls given queue) (call : Call) :
    Reached (calls ++ [call]) (given ++ [(indexedStep queue call).1]) (indexedStep queue call).2 := by
  cases call with
  | add name => exact add_reached reached name
  | pop => exact pop_reached reached

theorem add_discovery (reached : Reached calls given queue) (name : String) :
    (queue.add name).1 = !queue.discovery.seen name ∧
      (queue.add name).2.discovery = queue.discovery.add name := by
  have seen : queue.discovery.seen name = decide (name ∈ queue.names) :=
    List.contains_eq_mem name queue.names
  unfold Discovery.add
  by_cases known : name ∈ queue.names
  · simp [seen, known, add_known reached known]
  · rw [add_unknown reached known, seen]
    simp [known, IndexedQueue.discovery]

theorem pop_discovery (reached : Reached calls given queue) :
    queue.discovery.pop? = queue.pop.1.map fun name => (name, queue.pop.2.discovery) := by
  have pending := waiting_names reached
  unfold Discovery.pop?
  cases waits : queue.waiting with
  | nil =>
    rw [waits, List.map_nil, eq_comm, List.map_eq_nil_iff] at pending
    rw [pending, pop_drained waits]
    rfl
  | cons position waiting =>
    obtain ⟨name, isName, here, popped⟩ := pop_waiting reached waits
    rw [waits, List.map_cons, here, isName, eq_comm, List.map_eq_cons_iff] at pending
    obtain ⟨first, rest, isPending, same, -⟩ := pending
    cases same
    rw [isPending, popped]
    rfl

/-- A call comes to the same from outside. -/
theorem step_discovery (reached : Reached calls given queue) (call : Call) :
    discoveryStep queue.discovery call =
      ((indexedStep queue call).1, (indexedStep queue call).2.discovery) := by
  cases call with
  | add name =>
    obtain ⟨isNew, next⟩ := add_discovery reached name
    simp only [discoveryStep, indexedStep, isNew, next]
  | pop =>
    simp only [discoveryStep, indexedStep, pop_discovery reached]
    cases left : queue.pop.1 with
    | none => simp [pop_drained ((pop_none reached).mp left)]
    | some name => rfl

/-! ### Runs of calls -/

/-- Calls in order go on with the history, and come to the same from outside. -/
theorem answers_reached (reached : Reached calls given queue) (more : List Call) :
    ∃ later last, answers indexedStep queue more = (later, last) ∧
      answers discoveryStep queue.discovery more = (later, last.discovery) ∧
      Reached (calls ++ more) (given ++ later) last := by
  induction more generalizing calls given queue with
  | nil =>
    refine ⟨[], queue, rfl, rfl, ?_⟩
    rwa [List.append_nil, List.append_nil]
  | cons call rest ih =>
    obtain ⟨later, last, ran, seen, next⟩ := ih (step_reached reached call)
    refine ⟨(indexedStep queue call).1 :: later, last, ?_, ?_, ?_⟩
    · simp only [answers, ran]
    · simp only [answers, step_discovery reached call, seen]
    · simpa only [List.append_assoc, List.singleton_append] using next

theorem reached_settled (reached : Reached calls given queue) : SettledBehind calls given queue where
  whole := by
    rw [reached.left]
    exact List.take_append_drop _ _
  waiting := waiting_names reached
  distinct := names_distinct reached
  firstAdded := reached.names
  seen name := seen_iff reached
  expanded := by rw [reached.left, List.length_take, min_eq_left (taken_le reached)]
  add name := by
    rw [← mem_addedNames, ← List.mem_eraseDups, ← reached.names]
    by_cases known : name ∈ queue.names
    · simp [add_known reached known, known]
    · simp [add_unknown reached known, known]
  empty := by
    have pending := congrArg List.isEmpty (waiting_names reached)
    rwa [List.isEmpty_map, List.isEmpty_map] at pending
  drained := pop_none reached
  kept none := by rw [pop_drained ((pop_none reached).mp none)]
  pops position waiting waits := by
    obtain ⟨name, isName, here, popped⟩ := pop_waiting reached waits
    exact ⟨name, here ▸ isName, popped⟩

/-- After any calls on an empty queue, what left and what waits are all names that were added, each
once and in the order of first calls. The next call finds a name new only if no call has added it,
and nothing left only if nothing waits. From outside, all calls are answered alike. -/
theorem calls_settled (calls : List Call) : ∃ given queue,
    answers indexedStep {} calls = (given, queue) ∧
      answers discoveryStep {} calls = (given, queue.discovery) ∧
      SettledBehind calls given queue := by
  have start : Reached [] [] {} := ⟨rfl, by simp [Bindings.get?], rfl, rfl⟩
  obtain ⟨given, queue, ran, seen, reached⟩ := answers_reached start calls
  exact ⟨given, queue, ran, seen, reached_settled reached⟩

example : (answers indexedStep {} [.add "Config", .pop, .add "Config", .pop]).1 =
    [.added true, .popped (some "Config"), .added false, .popped none] := by decide

end EnvLoader.QueueCalls
