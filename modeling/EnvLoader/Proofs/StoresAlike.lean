import EnvLoader.Proofs.StoreReplay
import Mathlib.Data.Finset.Card

/-! The store in a file and the one in memory, side by side. Both answer from the history of what
was put, and opening the file again reads that history back, so a client cannot tell them apart as
long as the one in memory has room for every key. What the entry check refuses is just what a line
of the file could not hold. -/
namespace EnvLoader.StoresAlike
open Files KeyValue FileChanges Outcomes StoreReplay

/-! ### The keys that are bound -/

section Keys
variable {κ α : Type} [DecidableEq κ]

theorem keys_putEntry (key : κ) (value : α) (entries : List (κ × α)) :
    (putEntry key value entries).map (·.1) =
      if key ∈ entries.map (·.1) then entries.map (·.1) else entries.map (·.1) ++ [key] := by
  induction entries with
  | nil => rfl
  | cons entry rest ih =>
    by_cases same : entry.1 = key
    · simp [putEntry, same]
    · have apart : key ≠ entry.1 := fun other => same other.symm
      rw [putEntry, if_neg same, List.map_cons, ih]
      by_cases later : key ∈ rest.map (·.1) <;> simp [apart, later]

theorem contains_keys (bindings : Bindings κ α) (key : κ) :
    bindings.contains key = true ↔ key ∈ bindings.keys := by
  simp [Bindings.contains, Bindings.get?, Bindings.keys]

theorem keys_put (bindings : Bindings κ α) (key : κ) (value : α) :
    (bindings.put key value).keys =
      if key ∈ bindings.keys then bindings.keys else bindings.keys ++ [key] :=
  keys_putEntry key value bindings.entries

theorem nodup_put {bindings : Bindings κ α} (once : bindings.keys.Nodup) (key : κ) (value : α) :
    (bindings.put key value).keys.Nodup := by
  rw [keys_put]
  split
  · exact once
  · rename_i fresh
    exact List.concat_eq_append ▸ once.concat fresh

theorem mem_keys_put {bindings : Bindings κ α} {key other : κ} {value : α} :
    other ∈ (bindings.put key value).keys ↔ other ∈ bindings.keys ∨ other = key := by
  rw [keys_put]
  split
  · rename_i bound
    exact ⟨.inl, fun either => either.elim id (· ▸ bound)⟩
  · simp

/-- The keys of a list of entries are bound, each once. -/
theorem keys_ofList (entries : List (κ × α)) :
    (Bindings.ofList entries).keys.Nodup ∧
      ∀ key, key ∈ (Bindings.ofList entries).keys ↔ key ∈ entries.map (·.1) := by
  induction entries using List.reverseRecOn with
  | nil => exact ⟨.nil, fun key => Iff.rfl⟩
  | append_singleton entries entry ih =>
    obtain ⟨once, bound⟩ := ih
    rw [ofList_append]
    refine ⟨nodup_put once _ _, fun key => ?_⟩
    rw [mem_keys_put, bound, List.map_append, List.mem_append, List.map_singleton,
      List.mem_singleton]

theorem size_ofList (entries : List (κ × α)) :
    (Bindings.ofList entries).size = (entries.map (·.1)).toFinset.card := by
  obtain ⟨once, bound⟩ := keys_ofList entries
  have same : (entries.map (·.1)).toFinset = (Bindings.ofList entries).keys.toFinset := by
    ext key
    simp only [List.mem_toFinset, bound]
  rw [same, List.toFinset_card_of_nodup once, Bindings.keys, List.length_map, Bindings.size]

end Keys

/-! ### Steps of a client -/

/-- What a client asks of a store: the value of a key, to store a value, or to be opened again. -/
inductive Step where
  | get (key : String)
  | put (key value : String)
  | reopen (create : Bool)
  deriving DecidableEq, Repr

/-- What a client gets. -/
inductive Answer where
  | value (found : Option String)
  | stored
  | reopened
  | refused (error : StoreError)
  deriving DecidableEq, Repr

/-- A step on a store in a file. Opening again starts from the file alone. -/
def fileStep : FileStore × Tree → Step → Answer × FileStore × Tree
  | (store, tree), .get key => (.value (store.get? key), store, tree)
  | (store, tree), .put key value =>
    match store.put tree key value with
    | .ok after => (.stored, after)
    | .error error => (.refused error, store, tree)
  | (store, tree), .reopen create =>
    match FileStore.openFile store.path create tree with
    | (.ok reopened, after) => (.reopened, reopened, after)
    | (.error error, after) => (.refused error, store, after)

/-- A step on a store in memory, where there is nothing to open again. -/
def memoryStep (store : MemoryStore) : Step → Answer × MemoryStore
  | .get key => (.value (store.get? key), store)
  | .put key value =>
    match store.put key value with
    | .ok after => (.stored, after)
    | .error error => (.refused error, store)
  | .reopen _ => (.reopened, store)

/-- The answers to steps in order, and the state after them. -/
def answers {σ : Type} (step : σ → Step → Answer × σ) (state : σ) : List Step → List Answer × σ
  | [] => ([], state)
  | next :: rest =>
    let (answer, after) := step state next
    let (later, final) := answers step after rest
    (answer :: later, final)

/-- The entries that steps put, whether they can be stored or not. -/
def putsOf (steps : List Step) : List (String × String) :=
  steps.filterMap fun
    | .put key value => some (key, value)
    | _ => none

/-- What is answered to a step behind a history of puts: a key has the value that was stored last
under it, and a put is refused only if its entry is none that can be stored. -/
def answerAfter (puts : List (String × String)) : Step → Answer
  | .get key => .value (lastValue? (storable puts) key)
  | .put key value =>
    if isValidEntry key value then .stored else .refused (.invalidEntry key value)
  | .reopen _ => .reopened

/-- The answers to steps in order, behind a history of puts. -/
def answersAfter (puts : List (String × String)) : List Step → List Answer
  | [] => []
  | step :: rest => answerAfter puts step :: answersAfter (puts ++ putsOf [step]) rest

/-- A store in memory has room for all keys of some puts that can be stored. -/
def Room (capacity : Nat) (puts : List (String × String)) : Prop :=
  ((storable puts).map (·.1)).toFinset.card ≤ capacity

instance (capacity : Nat) (puts : List (String × String)) : Decidable (Room capacity puts) :=
  inferInstanceAs (Decidable (_ ≤ capacity))

/-- A store in a file and one in memory have the same history of puts. -/
structure Alike (path : String) (capacity : Nat) (puts : List (String × String))
    (file : FileStore × Tree) (memory : MemoryStore) : Prop where
  file : RunsOn path (storable puts) (entryLines (storable puts)) file.1 file.2
  memory : memory = ⟨capacity, .ofList (storable puts)⟩

variable {path : String} {capacity : Nat} {puts : List (String × String)}
  {file : FileStore × Tree} {memory : MemoryStore}

theorem room_append {more : List (String × String)} (room : Room capacity (puts ++ more)) :
    Room capacity puts := by
  refine (Finset.card_le_card fun key member => ?_).trans room
  simp only [storable, List.filter_append, List.map_append, List.toFinset_append, Finset.mem_union]
  exact .inl member

theorem storable_concat (key value : String) : storable (puts ++ [(key, value)]) =
    storable puts ++ if isValidEntry key value then [(key, value)] else [] := by
  cases valid : isValidEntry key value <;> simp [storable, valid]

/-- Where there is room for one more key, a store whose keys do not have it is not full. -/
theorem size_lt {key value : String} (valid : isValidEntry key value = true)
    (room : Room capacity (puts ++ [(key, value)]))
    (unbound : (Bindings.ofList (storable puts)).contains key = false) :
    (Bindings.ofList (storable puts)).size < capacity := by
  have fresh : key ∉ ((storable puts).map (·.1)).toFinset := by
    rw [List.mem_toFinset, ← (keys_ofList _).2, ← contains_keys, unbound]
    exact nofun
  have keys : ((storable (puts ++ [(key, value)])).map (·.1)).toFinset =
      insert key ((storable puts).map (·.1)).toFinset := by
    rw [storable_concat, if_pos valid, List.map_append, List.toFinset_append, Finset.union_comm]
    rfl
  unfold Room at room
  rw [keys, Finset.card_insert_of_notMem fresh] at room
  rw [size_ofList]
  omega

/-- A store with room for another key stores what can be stored. -/
theorem memory_put {key value : String} (valid : isValidEntry key value = true)
    (room : Room capacity (puts ++ [(key, value)])) :
    MemoryStore.put ⟨capacity, .ofList (storable puts)⟩ key value =
      .ok ⟨capacity, .ofList (storable (puts ++ [(key, value)]))⟩ := by
  have free : ¬ (!(Bindings.ofList (storable puts)).contains key &&
      decide ((Bindings.ofList (storable puts)).size ≥ capacity)) = true := by
    intro full
    simp only [Bool.and_eq_true, Bool.not_eq_true', decide_eq_true_eq] at full
    have space := size_lt valid room full.1
    omega
  have stored : storable (puts ++ [(key, value)]) = storable puts ++ [(key, value)] := by
    rw [storable_concat, if_pos valid]
  unfold MemoryStore.put
  rw [if_neg (by simp [valid]), if_neg free, stored, ofList_append]
  rfl

theorem memory_refused {key value : String} (invalid : isValidEntry key value = false) :
    memory.put key value = .error (.invalidEntry key value) := by
  unfold MemoryStore.put
  rw [if_pos (by simp [invalid])]
  rfl

/-- A file that is made of the lines of stored entries is read back as these. -/
theorem entriesOf_lines (puts : List (String × String)) :
    entriesOf (entryLines (storable puts)) = storable puts := by
  have whole : Whole '\n' "".toList := nofun
  have read := entriesOf_stored whole puts
  simpa [entriesOf, Text.lines, Text.linesWith, Text.terminated] using read

/-- An entry that can be stored is stored by both stores. -/
theorem put_alike {key value : String} (alike : Alike path capacity puts file memory)
    (room : Room capacity (puts ++ [(key, value)])) (valid : isValidEntry key value = true) :
    ∃ file' memory', file.1.put file.2 key value = .ok file' ∧ memory.put key value = .ok memory' ∧
      Alike path capacity (puts ++ [(key, value)]) file' memory' := by
  obtain ⟨runs, rfl⟩ := alike
  obtain ⟨next, after, stored, goes⟩ := put_runs runs valid
  have more : storable (puts ++ [(key, value)]) = storable puts ++ [(key, value)] := by
    rw [storable_concat, if_pos valid]
  have lines : entryLines (storable (puts ++ [(key, value)])) =
      entryLines (storable puts) ++ entryLine key value := by
    simp [more, entryLines]
  refine ⟨(next, after), _, stored, memory_put valid room, ?_, rfl⟩
  rw [lines, more]
  exact goes

/-- Behind one history, both stores give the answer that it calls for, and both go on to the same
history. -/
theorem step_alike {step : Step} (alike : Alike path capacity puts file memory)
    (room : Room capacity (puts ++ putsOf [step])) :
    (fileStep file step).1 = answerAfter puts step ∧
      (memoryStep memory step).1 = answerAfter puts step ∧
      Alike path capacity (puts ++ putsOf [step]) (fileStep file step).2
        (memoryStep memory step).2 := by
  cases step with
  | get key =>
    have same : puts ++ putsOf [.get key] = puts := List.append_nil puts
    have value := congrArg Answer.value (get?_ofList (storable puts) key)
    rw [same]
    refine ⟨?_, ?_, alike⟩
    · simp only [fileStep, alike.file.store]
      exact value
    · simp only [memoryStep, alike.memory]
      exact value
  | put key value =>
    have grown : puts ++ putsOf [.put key value] = puts ++ [(key, value)] := rfl
    rw [grown] at room ⊢
    cases valid : isValidEntry key value with
    | true =>
      obtain ⟨file', memory', stored, storedToo, goes⟩ := put_alike alike room valid
      simp only [fileStep, memoryStep, answerAfter, stored, storedToo, valid]
      exact ⟨rfl, rfl, goes⟩
    | false =>
      have refused : file.1.put file.2 key value = _ := put_refused valid
      have refusedToo : memory.put key value = _ := memory_refused valid
      have same : storable (puts ++ [(key, value)]) = storable puts := by
        simp [storable_concat, valid]
      simp only [fileStep, memoryStep, answerAfter, refused, refusedToo, valid]
      refine ⟨rfl, rfl, ?_, ?_⟩
      · rw [same]
        exact alike.file
      · rw [same]
        exact alike.memory
  | reopen create =>
    have same : puts ++ putsOf [.reopen create] = puts := List.append_nil puts
    have again : FileStore.openFile path create file.2 = _ := reopened alike.file
    have path' : file.1.path = path := congrArg FileStore.path alike.file.store
    rw [entriesOf_lines, ← alike.file.store] at again
    rw [same]
    simp only [fileStep, memoryStep, answerAfter, path', again, true_and]
    exact alike

theorem putsOf_cons (step : Step) (rest : List Step) :
    putsOf (step :: rest) = putsOf [step] ++ putsOf rest :=
  @List.filterMap_append _ _ [step] rest _

/-- Both stores answer a run of steps as its history calls for. -/
theorem answers_alike {steps : List Step} (alike : Alike path capacity puts file memory)
    (room : Room capacity (puts ++ putsOf steps)) :
    (answers fileStep file steps).1 = answersAfter puts steps ∧
      (answers memoryStep memory steps).1 = answersAfter puts steps ∧
      Alike path capacity (puts ++ putsOf steps) (answers fileStep file steps).2
        (answers memoryStep memory steps).2 := by
  induction steps generalizing puts file memory with
  | nil =>
    have same : puts ++ putsOf [] = puts := List.append_nil puts
    exact ⟨rfl, rfl, same.symm ▸ alike⟩
  | cons step rest ih =>
    rw [putsOf_cons, ← List.append_assoc] at room ⊢
    obtain ⟨first, firstToo, goes⟩ := step_alike alike (room_append room)
    obtain ⟨later, laterToo, ends⟩ := ih goes room
    simp only [answers, answersAfter, first, firstToo, later, laterToo, true_and]
    exact ends

/-! ### A file that is made -/

/-- Where a file is made, its path led to nothing. -/
theorem ensureFile_made {before after : Tree}
    (absent : ∀ location content, before.find path ≠ .ok (.file location content))
    (made : before.ensureFile path = .ok after) :
    ∃ location, before.find path = .ok (.vacant location) ∧
      after = before.put location (.file (.text "")) := by
  obtain ⟨parts, usable, made⟩ := bind_ok.mp made
  split at made
  · obtain ⟨_, -, made⟩ := bind_ok.mp made
    obtain ⟨_, -, made⟩ := bind_ok.mp made
    exact nomatch made
  · obtain ⟨place, followed, made⟩ := bind_ok.mp made
    have found : before.find path = .ok place := bind_ok.mpr ⟨parts, usable, followed⟩
    cases place with
    | directory => exact nomatch made
    | file location content => exact absurd found (absent location content)
    | vacant location => exact ⟨location, found, (pure_ok.mp made).symm⟩

/-- Where a path leads to nothing, a file is made. -/
theorem ensureFile_vacant {before : Tree} {location : Location}
    (slashless : ¬ endsInSlash path = true) (vacant : before.find path = .ok (.vacant location)) :
    before.ensureFile path = .ok (before.put location (.file (.text ""))) := by
  obtain ⟨parts, usable, way⟩ := find_ok.mp vacant
  refine bind_ok.mpr ⟨parts, usable, ?_⟩
  rw [if_neg slashless]
  exact bind_ok.mpr ⟨_, walk_ok.mpr way, rfl⟩

/-- A file that is made where there is none is empty. -/
theorem ensured_empty {before tree : Tree}
    (absent : ∀ location content, before.find path ≠ .ok (.file location content))
    (made : before.ensureFile path = .ok tree) : tree.readText path = .ok "" := by
  obtain ⟨location, found, rfl⟩ := ensureFile_made absent made
  obtain ⟨parts, usable, way⟩ := find_ok.mp found
  have writable : Writable before location := by
    intro entry there
    have nothing : before.entry? location = none := leads_found way
    exact nomatch nothing.symm.trans there
  have now : Leads (before.put location (.file (.text ""))) _ _ _ _ _ := leads_put writable way
  simp only [holding, ↓reduceIte] at now
  exact readText_ok.mpr ⟨location, find_ok.mpr ⟨parts, usable, now⟩⟩

/-- A store that is opened where there is no file starts on an empty one. -/
theorem created_empty {before tree : Tree} {store : FileStore}
    (absent : ∀ location content, before.find path ≠ .ok (.file location content))
    (opens : FileStore.openFile path true before = (.ok store, tree)) :
    tree.readText path = .ok "" := by
  unfold FileStore.openFile at opens
  cases made : before.ensureFile path with
  | error fault =>
    simp only [↓reduceIte, made] at opens
    exact nomatch congrArg Prod.fst opens
  | ok after =>
    simp only [↓reduceIte, made] at opens
    obtain ⟨-, rfl⟩ := Prod.mk.inj opens
    exact ensured_empty absent made

/-- A put that the store in a file refuses has an entry that cannot be stored, and changes
neither the entries nor the file. -/
theorem file_unchanged {history : List (String × String)} {content key value : String}
    {error : StoreError} {later : FileStore × Tree}
    (runs : RunsOn path history content file.1 file.2)
    (refused : fileStep file (.put key value) = (.refused error, later)) :
    error = .invalidEntry key value ∧ later = file := by
  cases valid : isValidEntry key value with
  | true =>
    obtain ⟨next, after, stored, -⟩ := put_runs runs valid
    simp only [fileStep, stored] at refused
    exact nomatch congrArg Prod.fst refused
  | false =>
    have same : file.1.put file.2 key value = _ := put_refused valid
    simp only [fileStep, same, Prod.mk.injEq, Answer.refused.injEq] at refused
    exact ⟨refused.1.symm, refused.2.symm⟩

theorem memory_unchanged {key value : String} {error : StoreError} {later : MemoryStore}
    (refused : memoryStep memory (.put key value) = (.refused error, later)) : later = memory := by
  cases put : memory.put key value with
  | ok after =>
    simp only [memoryStep, put] at refused
    exact nomatch congrArg Prod.fst refused
  | error error =>
    simp only [memoryStep, put, Prod.mk.injEq] at refused
    exact refused.2.symm

/-- A store on a file that was made for it and one in memory with room for all keys that are
stored give the same answers to every run of steps, those that the puts before each step call for.
The file then has the lines of the stored entries, however often it was opened, and a put that is
refused leaves the entries and the file as they are. -/
theorem stores_agree {before tree : Tree} {store : FileStore}
    (absent : ∀ location content, before.find path ≠ .ok (.file location content))
    (opens : FileStore.openFile path true before = (.ok store, tree))
    (made : MemoryStore.empty capacity = .ok memory) (steps : List Step)
    (room : Room capacity (putsOf steps)) :
    ∃ given file' memory', answers fileStep (store, tree) steps = (given, file') ∧
      answers memoryStep memory steps = (given, memory') ∧
      given = answersAfter [] steps ∧
      file'.2.readText path = .ok (entryLines (storable (putsOf steps))) ∧
      (∀ key value error later, fileStep file' (.put key value) = (.refused error, later) →
        error = .invalidEntry key value ∧ later = file') ∧
      (∀ key value error later, memoryStep memory' (.put key value) = (.refused error, later) →
        later = memory') := by
  have empty : memory = ⟨capacity, {}⟩ := by
    unfold MemoryStore.empty at made
    split at made
    · exact nomatch made
    · exact (pure_ok.mp made).symm
  have alike : Alike path capacity [] (store, tree) memory :=
    ⟨open_runs opens (created_empty absent opens), empty⟩
  obtain ⟨first, second, ends⟩ := answers_alike alike room
  refine ⟨_, _, _, Prod.ext first rfl, Prod.ext second rfl, rfl, ?_, ?_, ?_⟩
  · exact readText_ok.mpr ends.file.file
  · exact fun key value error later => file_unchanged ends.file
  · exact fun key value error later => memory_unchanged

theorem emptyTree_path : ({} : Tree).find "data.db" = .ok (.vacant [.text "data.db"]) := by
  have parts : pathParts "data.db" = [.name "data.db"] := by decide
  have usable : usableParts "data.db" = .ok [.name "data.db"] := by
    rw [usableParts, if_neg (by decide), if_neg (by decide), if_neg (by decide), parts]
    rfl
  exact find_ok.mpr ⟨_, usable, .vacant (by decide) rfl⟩

/-- In an empty tree, opening a store makes its file. -/
theorem emptyTree_opens : FileStore.openFile "data.db" true {} =
    (.ok ⟨"data.db", .ofList (entriesOf "")⟩, oneFile "") := by
  have made : ({} : Tree).ensureFile "data.db" = .ok (oneFile "") :=
    ensureFile_vacant (by decide) emptyTree_path
  have read := oneFile_read ""
  simp only [FileStore.openFile, ↓reduceIte, made, FileStore.load, read]
  rfl

/-- Steps that put two keys, and two entries that cannot be stored. -/
def twoKeys : List Step :=
  [.put "a" "1", .put "=" "2", .reopen false, .put "a" "3\r", .put "b" "4=5", .reopen true,
    .get "a", .get "b"]

/-- The steps on a new file and on a store in memory with room for just two keys. -/
theorem twoKeys_agree : ∃ given file' memory',
    answers fileStep (⟨"data.db", .ofList (entriesOf "")⟩, oneFile "") twoKeys = (given, file') ∧
      answers memoryStep ⟨2, {}⟩ twoKeys = (given, memory') ∧
      given = [.stored, .refused (.invalidEntry "=" "2"), .reopened,
        .refused (.invalidEntry "a" "3\r"), .stored, .reopened, .value (some "1"),
        .value (some "4=5")] ∧
      file'.2.readText "data.db" = .ok "a=1\nb=4=5\n" := by
  have absent : ∀ location content, ({} : Tree).find "data.db" ≠ .ok (.file location content) := by
    intro location content found
    exact nomatch Except.ok.inj (emptyTree_path.symm.trans found)
  have room : Room 2 (putsOf twoKeys) := by decide +kernel
  obtain ⟨given, file', memory', ran, ranToo, said, read, -⟩ :=
    stores_agree absent emptyTree_opens rfl twoKeys room
  exact ⟨given, file', memory', ran, ranToo, said.trans (by decide +kernel),
    read.trans (congrArg Except.ok (by decide +kernel))⟩

end EnvLoader.StoresAlike
