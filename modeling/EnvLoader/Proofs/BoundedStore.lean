import EnvLoader.Proofs.StoresAlike

/-! What a store in memory does after any run of puts. The puts that were answered to be stored make
up its history: a key has the value that was put last in it, and there are never more keys in it
than the store has room for. What becomes of the next put depends on nothing else. -/
namespace EnvLoader.BoundedStore
open KeyValue FileChanges Outcomes StoreReplay StoresAlike

/-- A text would break the line of its entry. -/
def Breaks (text : String) : Prop := '\n' ∈ text.toList ∨ '\r' ∈ text.toList

/-- An entry that a line of a store file could not hold. -/
def Unstorable (key value : String) : Prop :=
  key = "" ∨ '=' ∈ key.toList ∨ Breaks key ∨ Breaks value

/-- The steps that put some entries. -/
def putSteps (puts : List (String × String)) : List Step :=
  puts.map fun (key, value) => .put key value

/-- The entries among some that were stored, by the answers to their puts. -/
def taken (puts : List (String × String)) (given : List Answer) : List (String × String) :=
  (puts.zip given).filterMap fun (entry, answer) => if answer = .stored then some entry else none

variable {capacity : Nat} {history puts : List (String × String)} {store next : MemoryStore}
  {key value : String}

/-- What becomes of a put on a store: it is refused for its entry or because the store is full, and
otherwise it sets the value of its key and no other. -/
structure PutOutcome (capacity : Nat) (keys : Finset String) (store : MemoryStore)
    (key value : String) : Prop where
  invalid : store.put key value = .error (.invalidEntry key value) ↔ Unstorable key value
  full : store.put key value = .error (.full capacity) ↔
    ¬ Unstorable key value ∧ key ∉ keys ∧ keys.card = capacity
  stored : ¬ Unstorable key value → key ∈ keys ∨ keys.card ≠ capacity →
    ∃ next, store.put key value = .ok next ∧ next.get? key = some value ∧
      ∀ other ≠ key, next.get? other = store.get? other
  refused : ∀ error, store.put key value = .error error →
    memoryStep store (.put key value) = (.refused error, store)

/-- A store is bounded behind a history of entries that were stored. -/
structure BoundedBehind (capacity : Nat) (history : List (String × String))
    (keys : Finset String) (store : MemoryStore) : Prop where
  counted : keys.card = store.entries.size
  bound : keys.card ≤ capacity
  held : ∀ key, key ∈ keys ↔ (store.get? key).isSome
  latest : ∀ key, store.get? key = lastValue? history key
  puts : ∀ key value, PutOutcome capacity keys store key value

/-! ### The entry check -/

theorem breaks_any {text : String} :
    (∃ c ∈ text.toList, isLineBreak c = true) ↔ Breaks text := by
  simp only [isLineBreak, Bool.or_eq_true, beq_iff_eq, and_or_left, exists_or, exists_eq_right,
    Breaks]

theorem isValidValue_false : isValidValue value.toList = false ↔ Breaks value := by
  rw [← breaks_any, isValidValue, List.all_eq_false]
  simp

theorem isValidKey_false : isValidKey key.toList = false ↔
    key = "" ∨ '=' ∈ key.toList ∨ Breaks key := by
  rw [← breaks_any, isValidKey, Bool.and_eq_false_iff, List.all_eq_false]
  refine or_congr (by simp) ?_
  simp only [Bool.and_eq_true, bne_iff_ne, ne_eq, Bool.not_eq_true', not_and_or, not_not,
    Bool.not_eq_false, and_or_left, exists_or, exists_eq_right]

/-- The check refuses an entry just if a line could not hold it. -/
theorem isValidEntry_false : isValidEntry key value = false ↔ Unstorable key value := by
  rw [isValidEntry, Bool.and_eq_false_iff, isValidKey_false, isValidValue_false]
  simp only [Unstorable, or_assoc]

/-! ### One put -/

/-- The keys of a history. -/
def keysOf (history : List (String × String)) : Finset String := (history.map (·.1)).toFinset

/-- A store holds a history, and has room for its keys. -/
structure Holds (capacity : Nat) (history : List (String × String)) (store : MemoryStore) :
    Prop where
  store : store = ⟨capacity, .ofList history⟩
  room : (keysOf history).card ≤ capacity

theorem mem_keysOf : key ∈ keysOf history ↔ (Bindings.ofList history).contains key = true := by
  rw [contains_keys, (keys_ofList history).2, keysOf, List.mem_toFinset]

theorem put_refused (invalid : Unstorable key value) :
    store.put key value = .error (.invalidEntry key value) :=
  memory_refused (isValidEntry_false.mpr invalid)

theorem put_valid (holds : Holds capacity history store) (valid : ¬ Unstorable key value) :
    store.put key value =
      if key ∉ keysOf history ∧ (keysOf history).card = capacity then .error (.full capacity)
      else .ok ⟨capacity, .ofList (history ++ [(key, value)])⟩ := by
  have passes : isValidEntry key value = true :=
    Bool.eq_true_of_not_eq_false fun fails => valid (isValidEntry_false.mp fails)
  have full : (!(Bindings.ofList history).contains key &&
      decide ((Bindings.ofList history).size ≥ capacity)) = true ↔
        key ∉ keysOf history ∧ (keysOf history).card = capacity := by
    have room := holds.room
    rw [Bool.and_eq_true, Bool.not_eq_true', ← Bool.not_eq_true, ← mem_keysOf, decide_eq_true_eq,
      size_ofList]
    exact and_congr_right fun _ => ⟨fun least => le_antisymm room least, fun same => same.ge⟩
  obtain ⟨rfl, -⟩ := holds
  unfold MemoryStore.put
  rw [if_neg (by simp [passes])]
  simp only [full, ofList_append]
  rfl

/-- What becomes of a put behind a history. -/
theorem holds_outcome (holds : Holds capacity history store) (key value : String) :
    PutOutcome capacity (keysOf history) store key value := by
  have settled := @put_valid _ _ _ key value holds
  have got : ∀ other, store.get? other = (Bindings.ofList history).get? other :=
    fun other => by rw [holds.store, MemoryStore.get?]
  constructor
  · refine ⟨fun refused => ?_, put_refused⟩
    by_contra valid
    rw [settled valid] at refused
    split at refused <;> exact nomatch refused
  · constructor
    · intro refused
      have valid : ¬ Unstorable key value := fun invalid =>
        nomatch refused.symm.trans (put_refused invalid)
      rw [settled valid] at refused
      split at refused
      · rename_i full
        exact ⟨valid, full⟩
      · exact nomatch refused
    · rintro ⟨valid, full⟩
      rw [settled valid, if_pos full]
  · intro valid room
    refine ⟨_, (settled valid).trans (if_neg (by tauto)), ?_, fun other apart => ?_⟩
    · rw [MemoryStore.get?, ofList_append, get?_put, if_pos rfl]
    · rw [got, MemoryStore.get?, ofList_append, get?_put, if_neg apart]
  · intro error refused
    rw [memoryStep, refused]

theorem holds_bounded (holds : Holds capacity history store) :
    BoundedBehind capacity history (keysOf history) store where
  counted := by rw [holds.store, size_ofList, keysOf]
  bound := holds.room
  held key := by rw [mem_keysOf, holds.store, MemoryStore.get?, Bindings.contains]
  latest key := by rw [holds.store, MemoryStore.get?, get?_ofList]
  puts := holds_outcome holds

/-- A put goes on to the history with its entry if it is stored, and stays at the old one if not. -/
theorem step_holds (holds : Holds capacity history store) (key value : String) :
    ∃ answer after, memoryStep store (.put key value) = (answer, after) ∧
      Holds capacity (history ++ taken [(key, value)] [answer]) after := by
  have refuses : ∀ error, store.put key value = .error error →
      ∃ answer after, memoryStep store (.put key value) = (answer, after) ∧
        Holds capacity (history ++ taken [(key, value)] [answer]) after := fun error refused =>
    ⟨_, _, (holds_outcome holds key value).refused error refused,
      (List.append_nil history).symm ▸ holds⟩
  by_cases invalid : Unstorable key value
  · exact refuses _ (put_refused invalid)
  · have settled := put_valid holds invalid
    split at settled
    · exact refuses _ settled
    · rename_i room
      have recorded : taken [(key, value)] [.stored] = [(key, value)] := rfl
      rw [← recorded] at settled
      refine ⟨.stored, _, by simp only [memoryStep, settled], rfl, ?_⟩
      have grown : keysOf (history ++ [(key, value)]) = insert key (keysOf history) := by
        ext other
        simp [keysOf]
      have fits := holds.room
      change (keysOf (history ++ [(key, value)])).card ≤ capacity
      rw [grown]
      by_cases old : key ∈ keysOf history
      · rwa [Finset.insert_eq_of_mem old]
      · have free : (keysOf history).card ≠ capacity := fun full => room ⟨old, full⟩
        rw [Finset.card_insert_of_notMem old]
        omega

/-! ### Runs of puts -/

/-- Puts in order go on to the history with the entries that were stored. -/
theorem answers_hold (holds : Holds capacity history store) (puts : List (String × String)) :
    ∃ given after, answers memoryStep store (putSteps puts) = (given, after) ∧
      Holds capacity (history ++ taken puts given) after := by
  induction puts generalizing history store with
  | nil => exact ⟨[], store, rfl, (List.append_nil history).symm ▸ holds⟩
  | cons entry rest ih =>
    obtain ⟨key, value⟩ := entry
    obtain ⟨answer, after, stepped, next⟩ := step_holds holds key value
    obtain ⟨later, final, ran, ends⟩ := ih next
    have split : taken ((key, value) :: rest) (answer :: later) =
        taken [(key, value)] [answer] ++ taken rest later :=
      @List.filterMap_append _ _ [((key, value), answer)] (rest.zip later) _
    refine ⟨answer :: later, final, ?_, ?_⟩
    · have ran : answers memoryStep after (rest.map fun (key, value) => .put key value) = _ := ran
      simp only [putSteps, List.map_cons, answers, stepped, ran]
    · rwa [split, ← List.append_assoc]

/-- After any puts on an empty store, it has no more keys than it has room for, each with the value
that was stored last under it, and a further put is refused just if its entry is none that can be
stored or if it would need room that is not there. -/
theorem bounded_after_puts (capacity : Nat) (positive : 0 < capacity) :
    ∃ empty, MemoryStore.empty capacity = .ok empty ∧ ∀ puts : List (String × String),
      ∃ given keys store, answers memoryStep empty (putSteps puts) = (given, store) ∧
        BoundedBehind capacity (taken puts given) keys store := by
  have made : MemoryStore.empty capacity = .ok ⟨capacity, {}⟩ := by
    rw [MemoryStore.empty, if_neg positive.ne']
    rfl
  have start : Holds capacity [] ⟨capacity, {}⟩ := ⟨rfl, Nat.zero_le _⟩
  refine ⟨_, made, fun puts => ?_⟩
  obtain ⟨given, store, ran, holds⟩ := answers_hold start puts
  exact ⟨given, _, store, ran, holds_bounded holds⟩

theorem bounded_after_puts_one : 0 < 1 ∧ ∃ empty, MemoryStore.empty 1 = .ok empty ∧
    ∀ puts : List (String × String),
      ∃ given keys store, answers memoryStep empty (putSteps puts) = (given, store) ∧
        BoundedBehind 1 (taken puts given) keys store :=
  ⟨by decide, bounded_after_puts 1 (by decide)⟩

end EnvLoader.BoundedStore
