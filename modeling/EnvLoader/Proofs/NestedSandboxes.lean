import EnvLoader.Sandbox
import EnvLoader.Proofs.FileChanges
import Mathlib.Data.Set.Card

/-! Sandboxes opened within each other. A program changes variables in the innermost live sandbox
and runs whole blocks in between, each with a sandbox of its own. However it nests, closing a
sandbox gives back the environment it was opened on (`sandbox_isolates`): a block changes nothing
for the program around it, so what a sandbox has to put back are its own changes alone. -/
namespace EnvLoader.NestedSandboxes
open FileChanges

/-! ### Programs -/

mutual
/-- A step of a program within its innermost live sandbox. -/
inductive Action where
  | change (change : Change)
  | block (block : Block)

/-- A part of a program with a sandbox of its own, which is closed at the block's end: opened
to make changes in, or to replace the variables with a prefix while other blocks run. -/
inductive Block where
  | sandbox (body : List Action)
  | withVariables (namePrefix : String) (given : List (String × Bytes)) (inside : List Block)
end

mutual
/-- Runs a step. -/
def Action.run : Action → SandboxStack → SandboxStack
  | .change change, stack => stack.apply change
  | .block block, stack => block.run stack

/-- Runs a block from the opening of its sandbox to its close. -/
def Block.run : Block → SandboxStack → SandboxStack
  | .sandbox body, stack => (runActions body stack.push).pop
  | .withVariables namePrefix given inside, stack =>
    let opened := stack.environment.withVariables namePrefix given
    (runBlocks inside ⟨opened.sandbox :: stack.sandboxes, opened.environment⟩).pop

/-- Runs steps in order. -/
def runActions : List Action → SandboxStack → SandboxStack
  | [], stack => stack
  | action :: rest, stack => runActions rest (action.run stack)

/-- Runs blocks in order. -/
def runBlocks : List Block → SandboxStack → SandboxStack
  | [], stack => stack
  | block :: rest, stack => runBlocks rest (block.run stack)
end

/-- The state within sandboxes opened inside each other, the outermost first, given what was run
in each of them up to the opening of the next. -/
def openAll (bodies : List (List Action)) (environment : Environment) : SandboxStack :=
  bodies.foldl (fun stack body => runActions body stack.push) ⟨[], environment⟩

/-! ### What a program is to do -/

/-- Whether a change is an operation on a variable. -/
def Concerns (name : String) : Change → Bool
  | .set other _ | .remove other => other = name
  | .clear namePrefix => name.startsWith namePrefix

/-- How an operation leaves its variable. -/
def leaves : Change → Option Bytes
  | .set _ value => some value
  | .remove _ | .clear _ => none

/-- The change that a step makes in the sandbox itself. -/
def Action.change? : Action → Option Change
  | .change made => some made
  | .block _ => none

/-- The last operation on a variable. What blocks did to it is undone at their ends. -/
def lastOperation? (name : String) (body : List Action) : Option Change :=
  (body.filterMap Action.change?).reverse.find? (Concerns name)

/-- What a variable holds behind steps, given what it held before them. -/
def heldAfter (name : String) (before : Option Bytes) (body : List Action) : Option Bytes :=
  match lastOperation? name body with
  | some change => leaves change
  | none => before

/-- A change sets, removes or clears a variable; only one that holds something is cleared. -/
def Takes (name : String) (held : Option Bytes) : Change → Prop
  | .set other _ | .remove other => other = name
  | .clear namePrefix => name.startsWith namePrefix ∧ held ≠ none

/-- The steps of a sandbox opened on an environment set, remove or clear a variable themselves. -/
def Touches (environment : Environment) (body : List Action) (name : String) : Prop :=
  ∃ before change after, body = before ++ .change change :: after ∧
    Takes name (heldAfter name (environment.get? name) before) change

/-- Two environments hold the same variables. -/
def SameVariables (environment other : Environment) : Prop :=
  ∀ name, environment.get? name = other.get? name

/-! ### A single sandbox -/

/-- A sandbox can put back what its environment was: it keeps the former value of each variable it
touched, once, and all others are as they were. -/
structure Restorable (before : Environment) (state : Sandboxed) : Prop where
  distinct : state.sandbox.touched.Nodup
  original : ∀ entry ∈ state.sandbox.saved, entry.2 = before.get? entry.1
  untouched : ∀ name, name ∉ state.sandbox.touched →
    state.environment.get? name = before.get? name

variable {before : Environment} {state : Sandboxed}

theorem get?_erase (environment : Environment) (name other : String) :
    (environment.erase name).get? other = if other = name then none else environment.get? other := by
  unfold Bindings.get? Bindings.erase
  rw [List.find?_filter]
  split
  · rename_i same
    simp [same]
  · rename_i apart
    congr 2
    funext entry
    by_cases here : entry.1 = other <;> simp [here, apart]

theorem get?_eq_none (environment : Environment) (name : String) :
    environment.get? name = none ↔ name ∉ environment.keys := by
  rw [Bindings.get?, Option.map_eq_none_iff, List.find?_eq_none, Bindings.keys, List.mem_map]
  simp only [decide_eq_true_eq, not_exists, not_and]

theorem restorable_start (environment : Environment) :
    Restorable environment (.start environment) :=
  ⟨.nil, nofun, fun _ _ => rfl⟩

/-- An environment with the same variables will do. -/
theorem restorable_same {own : Sandbox} {environment other : Environment}
    (restorable : Restorable before ⟨own, environment⟩) (same : SameVariables other environment) :
    Restorable before ⟨own, other⟩ :=
  ⟨restorable.distinct, restorable.original,
    fun name free => (same name).trans (restorable.untouched name free)⟩

theorem touched_remember (sandbox : Sandbox) (environment : Environment) (name : String) :
    (sandbox.remember environment name).touched =
      if name ∈ sandbox.touched then sandbox.touched else sandbox.touched ++ [name] := by
  unfold Sandbox.remember
  simp only [List.contains_iff_mem]
  split
  · rfl
  · simp [Sandbox.touched]

/-- Once a variable is remembered it may change. -/
theorem restorable_remember (restorable : Restorable before state) {name : String}
    {environment : Environment}
    (others : ∀ other, other ≠ name → environment.get? other = state.environment.get? other) :
    Restorable before ⟨state.sandbox.remember state.environment name, environment⟩ := by
  obtain ⟨distinct, original, untouched⟩ := restorable
  by_cases known : name ∈ state.sandbox.touched
  · have kept : state.sandbox.remember state.environment name = state.sandbox := by
      simp [Sandbox.remember, known]
    rw [kept]
    refine ⟨distinct, original, fun other free => ?_⟩
    rw [others other fun same => free (same ▸ known), untouched other free]
  · have grown : state.sandbox.remember state.environment name =
        ⟨state.sandbox.saved ++ [(name, state.environment.get? name)]⟩ := by
      simp [Sandbox.remember, known]
    have touched := touched_remember state.sandbox state.environment name
    rw [if_neg known] at touched
    refine ⟨?_, fun entry member => ?_, fun other free => ?_⟩
    · rw [touched]
      exact List.concat_eq_append ▸ distinct.concat known
    · rw [grown, List.mem_append, List.mem_singleton] at member
      rcases member with former | rfl
      · exact original entry former
      · exact untouched name known
    · rw [touched, List.mem_append, List.mem_singleton, not_or] at free
      rw [others other free.2, untouched other free.1]

/-- What a single change does: its sandbox stays restorable, the variables it is an operation on
are left by it, and the ones it takes are touched. -/
structure Changed (before : Environment) (state : Sandboxed) (change : Change)
    (after : Sandboxed) : Prop where
  restorable : Restorable before after
  held : ∀ name, after.environment.get? name =
    if Concerns name change then leaves change else state.environment.get? name
  touched : ∀ name, name ∈ after.sandbox.touched ↔
    name ∈ state.sandbox.touched ∨ Takes name (state.environment.get? name) change

theorem mem_remember {sandbox : Sandbox} {environment : Environment} {name other : String} :
    other ∈ (sandbox.remember environment name).touched ↔
      other ∈ sandbox.touched ∨ name = other := by
  rw [touched_remember]
  split
  · rename_i known
    exact ⟨.inl, fun either => either.elim id fun same => same ▸ known⟩
  · simp [eq_comm]

theorem set_changed (restorable : Restorable before state) (name : String) (value : Bytes) :
    Changed before state (.set name value) (state.set name value) := by
  refine ⟨restorable_remember restorable fun other apart => ?_, fun other => ?_,
    fun other => mem_remember⟩
  · rw [get?_put, if_neg apart]
  · rw [Sandboxed.set, get?_put]
    simp [Concerns, leaves, eq_comm]

theorem remove_changed (restorable : Restorable before state) (name : String) :
    Changed before state (.remove name) (state.remove name) := by
  refine ⟨restorable_remember restorable fun other apart => ?_, fun other => ?_,
    fun other => mem_remember⟩
  · rw [get?_erase, if_neg apart]
  · rw [Sandboxed.remove, get?_erase]
    simp [Concerns, leaves, eq_comm]

/-- Removing several variables, one after the other. -/
theorem removeAll_changed (restorable : Restorable before state) (names : List String) :
    Restorable before (names.foldl Sandboxed.remove state) ∧
      (∀ name, (names.foldl Sandboxed.remove state).environment.get? name =
        if name ∈ names then none else state.environment.get? name) ∧
      ∀ name, name ∈ (names.foldl Sandboxed.remove state).sandbox.touched ↔
        name ∈ state.sandbox.touched ∨ name ∈ names := by
  induction names generalizing state with
  | nil => exact ⟨restorable, by simp, by simp⟩
  | cons first rest ih =>
    have removed := remove_changed restorable first
    obtain ⟨kept, held, touched⟩ := ih removed.restorable
    refine ⟨kept, fun name => ?_, fun name => ?_⟩
    · rw [List.foldl_cons, held, removed.held]
      simp only [Concerns, leaves, decide_eq_true_eq, List.mem_cons, eq_comm (a := first)]
      by_cases later : name ∈ rest <;> simp [later]
    · rw [List.foldl_cons, touched, removed.touched]
      simp only [Takes, List.mem_cons, eq_comm (a := name) (b := first), or_assoc]

theorem mem_namesWith {environment : Environment} {namePrefix name : String} :
    name ∈ environment.namesWith namePrefix ↔
      name.startsWith namePrefix ∧ environment.get? name ≠ none := by
  rw [Ne, get?_eq_none, not_not, Environment.namesWith, List.mem_filter, and_comm]

theorem clear_changed (restorable : Restorable before state) (namePrefix : String) :
    Changed before state (.clear namePrefix) (state.apply (.clear namePrefix)) := by
  obtain ⟨kept, held, touched⟩ :=
    removeAll_changed restorable (state.environment.namesWith namePrefix)
  refine ⟨kept, fun name => (held name).trans ?_, fun name => ?_⟩
  · -- a variable with the prefix that is not listed holds nothing as it is
    by_cases starts : name.startsWith namePrefix
    · by_cases bound : state.environment.get? name = none <;>
        simp [mem_namesWith, Concerns, leaves, starts, bound]
    · simp [mem_namesWith, Concerns, starts]
  · rw [Sandboxed.apply, touched, mem_namesWith]
    rfl

/-- Every change keeps a sandbox restorable. -/
theorem apply_changed (restorable : Restorable before state) (change : Change) :
    Changed before state change (state.apply change) := by
  cases change with
  | set name value => exact set_changed restorable name value
  | remove name => exact remove_changed restorable name
  | clear namePrefix => exact clear_changed restorable namePrefix

/-- Putting back original values leaves every variable with its original value that was to be put
back or had it already. -/
theorem restored_get? (saved : List (String × Option Bytes)) (environment : Environment)
    (original : ∀ entry ∈ saved, entry.2 = before.get? entry.1) (name : String)
    (either : name ∈ saved.map (·.1) ∨ environment.get? name = before.get? name) :
    (saved.foldl Sandbox.restoreVariable environment).get? name = before.get? name := by
  induction saved generalizing environment with
  | nil => simpa using either
  | cons entry rest ih =>
    rw [List.forall_mem_cons] at original
    refine ih _ original.2 ?_
    rw [List.map_cons, List.mem_cons] at either
    have here : (Sandbox.restoreVariable environment entry).get? name =
        if name = entry.1 then entry.2 else environment.get? name := by
      obtain ⟨first, value?⟩ := entry
      cases value? with
      | some value => exact get?_put environment first name value
      | none => exact get?_erase environment first name
    rw [here]
    by_cases same : name = entry.1
    · rw [if_pos same, original.1, same]
      exact .inr rfl
    · rw [if_neg same]
      exact either.imp_left fun listed => listed.resolve_left same

/-- Closing a restorable sandbox gives back what was. -/
theorem close_restores (restorable : Restorable before state) :
    SameVariables state.close before := by
  intro name
  refine restored_get? _ _ (fun entry member => ?_) name ?_
  · exact restorable.original entry (List.mem_reverse.mp member)
  · by_cases touched : name ∈ state.sandbox.touched
    · left
      rwa [List.map_reverse, List.mem_reverse]
    · exact .inr (restorable.untouched name touched)

/-! ### Blocks within a sandbox -/

/-- The innermost sandbox of a stack can put back an environment; the others are given. -/
def Live (before : Environment) (outer : List Sandbox) (stack : SandboxStack) : Prop :=
  ∃ own, stack.sandboxes = own :: outer ∧ Restorable before ⟨own, stack.environment⟩

variable {outer : List Sandbox} {stack : SandboxStack}

theorem live_push (stack : SandboxStack) : Live stack.environment stack.sandboxes stack.push :=
  ⟨{}, rfl, restorable_start stack.environment⟩

theorem live_apply (live : Live before outer stack) (change : Change) :
    Live before outer (stack.apply change) := by
  obtain ⟨own, shape, restorable⟩ := live
  obtain ⟨sandboxes, environment⟩ := stack
  subst shape
  exact ⟨_, rfl, (apply_changed restorable change).restorable⟩

/-- A block leaves nothing behind. -/
def Undone (stack after : SandboxStack) : Prop :=
  after.sandboxes = stack.sandboxes ∧ SameVariables after.environment stack.environment

theorem live_pop (live : Live stack.environment stack.sandboxes after) : Undone stack after.pop := by
  obtain ⟨own, shape, restorable⟩ := live
  obtain ⟨sandboxes, environment⟩ := after
  subst shape
  exact ⟨rfl, close_restores restorable⟩

theorem live_undone {after : SandboxStack} (live : Live before outer stack)
    (undone : Undone stack after) : Live before outer after := by
  obtain ⟨own, shape, restorable⟩ := live
  exact ⟨own, undone.1.trans shape, restorable_same restorable undone.2⟩

theorem runActions_append (body more : List Action) (stack : SandboxStack) :
    runActions (body ++ more) stack = runActions more (runActions body stack) := by
  induction body generalizing stack with
  | nil => rw [List.nil_append, runActions]
  | cons action rest ih => rw [List.cons_append, runActions, runActions, ih]

theorem runActions_blocks (blocks : List Block) (stack : SandboxStack) :
    runActions (blocks.map .block) stack = runBlocks blocks stack := by
  induction blocks generalizing stack with
  | nil => rw [List.map_nil, runActions, runBlocks]
  | cons block rest ih => rw [List.map_cons, runActions, runBlocks, ih, Action.run]

/-- Replacing the variables with a prefix is a sandbox that clears them and sets the given ones
before anything runs inside. -/
theorem withVariables_sandbox (namePrefix : String) (given : List (String × Bytes))
    (inside : List Block) (stack : SandboxStack) :
    Block.run (.withVariables namePrefix given inside) stack =
      Block.run (.sandbox (.change (.clear namePrefix) ::
        given.map (fun (name, value) => .change (.set name value)) ++ inside.map .block)) stack := by
  have sets : ∀ (state : Sandboxed),
      runActions (given.map fun (name, value) => .change (.set name value))
          ⟨state.sandbox :: stack.sandboxes, state.environment⟩ =
        let opened := given.foldl (fun state (name, value) => state.set name value) state
        ⟨opened.sandbox :: stack.sandboxes, opened.environment⟩ := by
    induction given with
    | nil => exact fun state => by rw [List.map_nil, runActions, List.foldl_nil]
    | cons entry rest ih =>
      intro state
      rw [List.map_cons, runActions, Action.run, List.foldl_cons, ← ih]
      rfl
  rw [Block.run, Block.run, runActions_append, runActions, runActions_blocks, Action.run]
  exact congrArg (fun stack => (runBlocks inside stack).pop)
    (sets ((Sandboxed.start stack.environment).apply (.clear namePrefix))).symm

theorem withVariables_restorable (environment : Environment) (namePrefix : String)
    (given : List (String × Bytes)) :
    Restorable environment (environment.withVariables namePrefix given) := by
  have sets : ∀ state : Sandboxed, Restorable environment state → Restorable environment
      (given.foldl (fun state (name, value) => state.set name value) state) := by
    induction given with
    | nil => exact fun _ restorable => restorable
    | cons entry rest ih =>
      exact fun state restorable => ih _ (set_changed restorable entry.1 entry.2).restorable
  exact sets _ (apply_changed (restorable_start environment) (.clear namePrefix)).restorable

mutual
/-- A step keeps the sandbox it runs in restorable. -/
theorem action_live (action : Action) : ∀ {before : Environment} {outer : List Sandbox}
    {stack : SandboxStack}, Live before outer stack → Live before outer (action.run stack) := by
  intro before outer stack live
  cases action with
  | change change =>
    rw [Action.run]
    exact live_apply live change
  | block block =>
    rw [Action.run]
    exact live_undone live (block_undone block stack)

/-- A block leaves nothing behind, whatever it nests. -/
theorem block_undone (block : Block) (stack : SandboxStack) : Undone stack (block.run stack) := by
  cases block with
  | sandbox body =>
    rw [Block.run]
    exact live_pop (actions_live body (live_push stack))
  | withVariables namePrefix given inside =>
    rw [Block.run]
    exact live_pop (blocks_live inside
      ⟨_, rfl, withVariables_restorable stack.environment namePrefix given⟩)

/-- Steps keep the sandbox they run in restorable. -/
theorem actions_live (body : List Action) : ∀ {before : Environment} {outer : List Sandbox}
    {stack : SandboxStack}, Live before outer stack → Live before outer (runActions body stack) := by
  intro before outer stack live
  cases body with
  | nil => rwa [runActions]
  | cons action rest =>
    rw [runActions]
    exact actions_live rest (action_live action live)

/-- Blocks keep the sandbox they run in restorable. -/
theorem blocks_live (blocks : List Block) : ∀ {before : Environment} {outer : List Sandbox}
    {stack : SandboxStack}, Live before outer stack → Live before outer (runBlocks blocks stack) := by
  intro before outer stack live
  cases blocks with
  | nil => rwa [runBlocks]
  | cons block rest =>
    rw [runBlocks]
    exact blocks_live rest (live_undone live (block_undone block stack))
end

/-! ### What a live sandbox holds and has touched -/

theorem heldAfter_append (name : String) (held : Option Bytes) (body more : List Action) :
    heldAfter name held (body ++ more) = heldAfter name (heldAfter name held body) more := by
  unfold heldAfter lastOperation?
  rw [List.filterMap_append, List.reverse_append, List.find?_append]
  cases (more.filterMap Action.change?).reverse.find? (Concerns name) <;> rfl

theorem heldAfter_block (name : String) (held : Option Bytes) (body : List Action) (block : Block) :
    heldAfter name held (body ++ [.block block]) = heldAfter name held body :=
  heldAfter_append name held body [.block block]

theorem heldAfter_change (name : String) (held : Option Bytes) (body : List Action)
    (change : Change) : heldAfter name held (body ++ [.change change]) =
      if Concerns name change then leaves change else heldAfter name held body := by
  rw [heldAfter_append]
  by_cases concerned : Concerns name change <;>
    simp [heldAfter, lastOperation?, Action.change?, concerned]

theorem touches_nil (environment : Environment) (name : String) : ¬ Touches environment [] name := by
  rintro ⟨front, change, after, shape, -⟩
  simp at shape

/-- One more step touches what it takes itself. -/
theorem touches_concat (environment : Environment) (body : List Action) (action : Action)
    (name : String) : Touches environment (body ++ [action]) name ↔
      Touches environment body name ∨
        ∃ change, action = .change change ∧
          Takes name (heldAfter name (environment.get? name) body) change := by
  constructor
  · rintro ⟨front, change, after, shape, takes⟩
    rcases List.eq_nil_or_concat after with rfl | ⟨middle, last, rfl⟩
    · obtain ⟨rfl, same⟩ := List.append_inj' shape rfl
      exact .inr ⟨change, List.head_eq_of_cons_eq same, takes⟩
    · rw [List.concat_eq_append, ← List.cons_append, ← List.append_assoc] at shape
      obtain ⟨rfl, -⟩ := List.append_inj' shape rfl
      exact .inl ⟨front, change, middle, rfl, takes⟩
  · rintro (⟨front, change, after, rfl, takes⟩ | ⟨change, rfl, takes⟩)
    · exact ⟨front, change, after ++ [action], by simp, takes⟩
    · exact ⟨body, change, [], rfl, takes⟩

/-- A sandbox that was opened on an environment and has run steps: it can put the environment
back, its variables are as the last operations on them left them, and it has touched the ones
that its own steps touch. -/
structure RunsOn (before : Environment) (outer : List Sandbox) (body : List Action)
    (own : Sandbox) (stack : SandboxStack) : Prop where
  shape : stack.sandboxes = own :: outer
  restorable : Restorable before ⟨own, stack.environment⟩
  held : ∀ name, stack.environment.get? name = heldAfter name (before.get? name) body
  touched : ∀ name, name ∈ own.touched ↔ Touches before body name

theorem change_runs {own : Sandbox} {body : List Action} (runs : RunsOn before outer body own stack)
    (change : Change) : ∃ next, RunsOn before outer (body ++ [.change change]) next
      (stack.apply change) := by
  obtain ⟨shape, restorable, held, touched⟩ := runs
  obtain ⟨sandboxes, environment⟩ := stack
  subst shape
  have changed := apply_changed restorable change
  refine ⟨_, rfl, changed.restorable, fun name => ?_, fun name => ?_⟩
  · rw [heldAfter_change, ← held]
    exact changed.held name
  · rw [touches_concat, ← touched, changed.touched, held name]
    simp

theorem block_runs {own : Sandbox} {body : List Action} (runs : RunsOn before outer body own stack)
    (block : Block) : RunsOn before outer (body ++ [.block block]) own (block.run stack) := by
  obtain ⟨shape, restorable, held, touched⟩ := runs
  have undone := block_undone block stack
  refine ⟨undone.1.trans shape, restorable_same restorable undone.2, fun name => ?_,
    fun name => ?_⟩
  · rw [heldAfter_block, undone.2, held]
  · rw [touches_concat, touched]
    simp

/-- A sandbox runs as its steps say, from its opening on. -/
theorem runActions_runs (stack : SandboxStack) (body : List Action) :
    ∃ own, RunsOn stack.environment stack.sandboxes body own (runActions body stack.push) := by
  induction body using List.reverseRecOn with
  | nil =>
    rw [runActions]
    exact ⟨{}, rfl, restorable_start _, fun _ => rfl,
      fun name => ⟨nofun, fun touched => absurd touched (touches_nil _ name)⟩⟩
  | append_singleton body action ih =>
    obtain ⟨own, runs⟩ := ih
    rw [runActions_append, runActions, runActions]
    cases action with
    | change change =>
      rw [Action.run]
      exact change_runs runs change
    | block block =>
      rw [Action.run]
      exact ⟨own, block_runs runs block⟩

theorem openAll_held (environment : Environment) (bodies : List (List Action)) (name : String) :
    (openAll bodies environment).environment.get? name =
      heldAfter name (environment.get? name) bodies.flatten := by
  induction bodies using List.reverseRecOn with
  | nil => rfl
  | append_singleton bodies body ih =>
    obtain ⟨own, runs⟩ := runActions_runs (openAll bodies environment) body
    rw [openAll, List.foldl_append, ← openAll, List.foldl_cons, List.foldl_nil, runs.held, ih,
      List.flatten_append, List.flatten_singleton, heldAfter_append]

theorem touched_length {own : Sandbox} {taken : String → Prop} (distinct : own.touched.Nodup)
    (touched : ∀ name, name ∈ own.touched ↔ taken name) :
    own.touched.length = {name | taken name}.ncard := by
  have same : {name | taken name} = (own.touched.toFinset : Set String) := by
    ext name
    simp [touched]
  rw [same, Set.ncard_coe_finset, List.toFinset_card_of_nodup distinct]

/-- However sandboxes are nested, each one is isolated. On any environment, within any sandboxes
opened inside each other that have run any steps, let another one be opened and run any steps.
Closing it then gives back exactly the variables that were there when it was opened, and the
sandboxes around it; a whole block inside it leaves everything as it was. While it is live, a
variable holds what the last operation on it left, in whichever live sandbox, or what it held at
first; and the sandbox has touched as many variables as its own steps set, remove or clear. -/
theorem sandbox_isolates (environment : Environment) (around : List (List Action))
    (body : List Action) :
    let opened := openAll around environment
    let live := runActions body opened.push
    SameVariables live.pop.environment opened.environment ∧
      live.pop.sandboxes = opened.sandboxes ∧
      (∀ block : Block, SameVariables (block.run live).environment live.environment ∧
        (block.run live).sandboxes = live.sandboxes) ∧
      (∀ name, live.environment.get? name =
        heldAfter name (environment.get? name) (around.flatten ++ body)) ∧
      ∃ own, live.sandboxes = own :: opened.sandboxes ∧
        own.touched.length = {name | Touches opened.environment body name}.ncard := by
  intro opened live
  obtain ⟨own, runs⟩ := runActions_runs opened body
  have closed := live_pop ⟨own, runs.shape, runs.restorable⟩
  refine ⟨closed.2, closed.1, fun block => ?_, fun name => ?_, own, runs.shape,
    touched_length runs.restorable.distinct runs.touched⟩
  · exact (block_undone block live).symm
  · rw [runs.held, openAll_held, heldAfter_append]

/-- A variable that is set twice is touched once, and what a block inside does to it is undone. -/
example : runActions [.change (.set "A" (.text "1")),
    .block (.sandbox [.change (.remove "A")]), .change (.set "A" (.text "2"))]
      (SandboxStack.push ⟨[], ⟨[("A", .text "0")]⟩⟩) =
    ⟨[⟨[("A", some (.text "0"))]⟩], ⟨[("A", .text "2")]⟩⟩ := by decide

end EnvLoader.NestedSandboxes
