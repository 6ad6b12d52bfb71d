import EnvLoader.Proofs.AnsweredLines

/-! Each response stands on a line of its own. What a response repeats of a request it quotes, and
nothing quoted breaks a line; what it takes out of the store has no line break, since neither a put
nor a line of a file brings one in. Only the name of the store's file is told as it is, so a name
with a line break in it breaks the response that tells it. -/
namespace EnvLoader.ResponseLines
open Files KeyValue Text FileChanges Outcomes StoreReplay RequestLines AnsweredLines

/-- A text stays on one line. -/
def Unbroken (text : String) : Prop := '\n' ∉ text.toList

instance (text : String) : Decidable (Unbroken text) := inferInstanceAs (Decidable (_ ∉ _))

variable {server : Server} {tree : Tree} {line key value reason : String} {store : Store}

theorem unbroken_append {first second : String} (one : Unbroken first) (other : Unbroken second) :
    Unbroken (first ++ second) := by
  unfold Unbroken at *
  simp [one, other]

/-! ### What is told as it is, and what is quoted -/

theorem toDigits_unbroken {base : Nat} (counts : 1 < base) (number : Nat) :
    '\n' ∉ Nat.toDigits base number := by
  induction number using Nat.strongRecOn with
  | ind number ih =>
    have digit : ∀ value : Nat, '\n' ≠ value.digitChar :=
      fun value => (Nat.digitChar_ne '\n' (by decide)).symm
    by_cases small : number < base
    · rw [Nat.toDigits_of_lt_base small]
      simp [digit]
    · have rest := ih (number / base) (Nat.div_lt_self (by omega) counts)
      rw [Nat.toDigits_of_base_le counts (by omega)]
      simp [digit, rest]

theorem number_unbroken (number : Nat) : Unbroken (toString number) := by
  have digits : (toString number).toList = Nat.toDigits 10 number := by
    simp [toString, Nat.repr]
  rw [Unbroken, digits]
  exact toDigits_unbroken (by omega) number

theorem codePointEscape_unbroken (c : Char) : '\n' ∉ codePointEscape c := by
  have digits := @toDigits_unbroken 16 (by decide) c.toNat
  simp only [codePointEscape, List.mem_append, List.mem_cons, List.not_mem_nil, or_false, not_or]
  exact ⟨⟨by decide, digits⟩, by decide⟩

theorem escapeChar_unbroken (c : Char) : '\n' ∉ escapeChar c := by
  by_cases feed : c = '\n'
  · subst feed
    decide
  · have apart : '\n' ≠ c := fun same => feed same.symm
    unfold escapeChar
    split_ifs
    · decide
    · decide
    · decide
    · simp [apart]
    · exact codePointEscape_unbroken c
    · simp [apart]

theorem quote_unbroken (text : List Char) : Unbroken (String.ofList (quote text)) := by
  simp [Unbroken, quote, escapeChar_unbroken]

theorem requestFault_unbroken (fault : RequestFault) : Unbroken fault.message := by
  cases fault with
  | malformed method => cases method <;> decide
  | unknownMethod name => exact unbroken_append (by decide) (quote_unbroken name.toList)

/-- An error of a store tells nothing as it is but the name of a file. -/
theorem storeError_unbroken {error : StoreError}
    (named : ∀ path fault, error = .file path fault → Unbroken path) : Unbroken error.message := by
  cases error with
  | zeroCapacity => decide
  | full capacity =>
    have start := @unbroken_append "store is full (" _ (by decide) (number_unbroken capacity)
    exact unbroken_append start (by decide)
  | invalidEntry key value =>
    exact unbroken_append (by decide) (quote_unbroken (entryText key value).toList)
  | file path fault =>
    have told : Unbroken fault.message := by cases fault <;> decide
    have start := @unbroken_append "store file " _ (by decide) (named path fault rfl)
    exact unbroken_append (unbroken_append start (by decide)) told

/-! ### What a store holds -/

/-- The name of the file that a store keeps, if it keeps one. -/
def filePath? : Store → Option String
  | .memory _ => none
  | .file store => some store.path

/-- The name of a store's file stays on one line. -/
def PlainPath (store : Store) : Prop := ∀ path, filePath? store = some path → Unbroken path

/-- The values in a store stay on one line. -/
def PlainValues (store : Store) : Prop := ∀ key value, store.get? key = some value → Unbroken value

/-- A put that succeeds has an entry that can be stored, and the store keeps the same file. -/
theorem put_accepted {after : Tree} {next : Store}
    (put : store.put tree key value = .ok (next, after)) :
    isValidEntry key value = true ∧ filePath? next = filePath? store := by
  cases valid : isValidEntry key value with
  | true =>
    refine ⟨rfl, ?_⟩
    cases store with
    | memory store =>
      obtain ⟨stored, -, same⟩ := map_ok.mp put
      cases same
      rfl
    | file store =>
      obtain ⟨⟨stored, files⟩, inner, same⟩ := map_ok.mp put
      cases same
      simp only [FileStore.put, valid, Bool.not_true, Bool.false_eq_true, ↓reduceIte] at inner
      split at inner
      · cases inner
      · cases inner
        rfl
  | false =>
    cases store with
    | memory store =>
      simp only [Store.put, MemoryStore.put, valid, Bool.not_false, ↓reduceIte] at put
      cases put
    | file store =>
      simp only [Store.put, FileStore.put, valid, Bool.not_false, ↓reduceIte] at put
      cases put

/-- A put that fails on a file fails on the file of the store. -/
theorem put_path {path : String} {fault : Fault}
    (fails : store.put tree key value = .error (.file path fault)) : filePath? store = some path := by
  cases store with
  | memory store =>
    simp only [Store.put, MemoryStore.put] at fails
    split_ifs at fails <;> cases fails
  | file store =>
    simp only [Store.put, FileStore.put] at fails
    split_ifs at fails
    · cases fails
    · split at fails
      · cases fails
        rfl
      · cases fails

theorem valid_unbroken (valid : isValidEntry key value = true) : Unbroken value := by
  simp only [isValidEntry, isValidValue, isLineBreak, Bool.and_eq_true, List.all_eq_true] at valid
  intro member
  have plain := valid.2 '\n' member
  simp at plain

/-- Storing an entry keeps the values on one line. -/
theorem put_plain {after : Tree} {next : Store} (plain : PlainValues store)
    (put : store.put tree key value = .ok (next, after)) : PlainValues next := by
  intro other content held
  rw [get?_bound (store_put put)] at held
  split at held
  · cases held
    exact valid_unbroken (put_accepted put).1
  · exact plain other content held

theorem terminated_free {α : Type} [DecidableEq α] (terminator : α) (text : List α) :
    (∀ stretch ∈ (terminated terminator text).1, terminator ∉ stretch) ∧
      terminator ∉ (terminated terminator text).2 := by
  induction text with
  | nil => simp [terminated]
  | cons c rest ih =>
    rcases ended : terminated terminator rest with ⟨stretches, left⟩
    rw [ended] at ih
    by_cases same : c = terminator
    · simpa [terminated, ended, same] using ih
    · have apart : terminator ≠ c := fun other => same other.symm
      cases stretches with
      | nil => simpa [terminated, ended, same, apart] using ih.2
      | cons stretch stretches =>
        obtain ⟨inner, last⟩ := ih
        simp only [List.mem_cons, forall_eq_or_imp] at inner
        simpa [terminated, ended, same, apart] using ⟨inner, last⟩

/-- The lines of a text are on one line each. -/
theorem lines_unbroken {text line : List Char} (member : line ∈ lines text) : '\n' ∉ line := by
  obtain ⟨ended, last⟩ := terminated_free '\n' text
  unfold lines linesWith at member
  rcases List.mem_append.mp member with inside | isLast
  · obtain ⟨stretch, listed, rfl⟩ := List.mem_map.mp inside
    intro feed
    refine ended stretch listed ?_
    unfold dropLast? at feed
    split at feed
    · exact List.dropLast_subset stretch feed
    · exact feed
  · split at isLast
    · exact nomatch isLast
    · exact List.mem_singleton.mp isLast ▸ last

/-- The values of the entries of a text stay on one line. -/
theorem entriesOf_unbroken {text : String} {entry : String × String}
    (member : entry ∈ entriesOf text) : Unbroken entry.2 := by
  obtain ⟨line, listed, read⟩ := List.mem_filterMap.mp member
  obtain ⟨⟨key, value⟩, split, rfl⟩ := Option.map_eq_some_iff.mp read
  obtain ⟨rfl, -⟩ := splitOnce_some.mp split
  have free := lines_unbroken listed
  simp only [List.mem_append, List.mem_cons, not_or] at free
  simpa [Unbroken] using free.2.2

theorem opened_plain {path : String} {create : Bool} {before after : Tree} {store : FileStore}
    (opens : FileStore.openFile path create before = (.ok store, after)) :
    PlainValues (.file store) := by
  unfold FileStore.openFile at opens
  split at opens
  · exact nomatch congrArg Prod.fst opens
  · obtain ⟨loaded, -⟩ := Prod.mk.inj opens
    obtain ⟨content, -, same⟩ := bind_ok.mp (mapError_ok.mp loaded)
    cases pure_ok.mp same
    intro key value held
    have last : lastValue? (entriesOf content) key = some value :=
      (get?_ofList (entriesOf content) key).symm.trans held
    obtain ⟨entry, isLast, rfl⟩ := Option.map_eq_some_iff.mp last
    exact entriesOf_unbroken (List.mem_filter.mp (List.mem_of_getLast? isLast)).1

/-- A store starts with values that stay on one line: one in memory with none, and one in a file
with those that the lines of the file give. -/
theorem build_plain {config : StoreConfig} {before after : Tree}
    (builds : config.build before = (.ok store, after)) : PlainValues store := by
  unfold StoreConfig.build at builds
  split at builds
  · split at builds
    · exact nomatch congrArg Prod.fst builds
    · rename_i memory _
      obtain ⟨made, -⟩ := Prod.mk.inj builds
      obtain ⟨empty, opens, rfl⟩ := map_ok.mp (mapError_ok.mp made)
      unfold MemoryStore.empty at opens
      split at opens
      · exact nomatch opens
      · cases opens
        exact fun _ _ held => nomatch held
  · split at builds
    · split at builds
      · exact nomatch congrArg Prod.fst builds
      · rename_i file _
        rcases opens : FileStore.openFile file.path file.create before with ⟨outcome, files⟩
        simp only [FileStoreConfig.build, opens] at builds
        obtain ⟨made, -⟩ := Prod.mk.inj builds
        obtain ⟨opened, rfl, rfl⟩ := map_ok.mp (mapError_ok.mp made)
        exact opened_plain opens
    · exact nomatch congrArg Prod.fst builds

/-! ### Responses -/

/-- What a refusal tells: what is wrong with the line, that its method is not allowed, or why the
store does not take the entry. -/
inductive Refusal (server : Server) (tree : Tree) : String → Prop
  | fault (fault : RequestFault) : Refusal server tree fault.message
  | method (method : Method) : Refusal server tree s!"method {method.name} not allowed"
  | store {key value : String} {error : StoreError}
      (fails : server.store.put tree key value = .error error) : Refusal server tree error.message

theorem handle_rejected (rejects : (server.handle tree line).1 = .rejected reason) :
    Refusal server tree reason := by
  unfold Server.handle at rejects
  cases read : Request.ofLine line with
  | error fault =>
    rw [read] at rejects
    cases rejects
    exact .fault fault
  | ok request =>
    rw [read] at rejects
    cases allowed : Server.allows { server with served := server.served + 1 } request.method with
    | false =>
      simp only [allowed, Bool.false_eq_true, ↓reduceIte] at rejects
      cases rejects
      exact .method request.method
    | true =>
      simp only [allowed, ↓reduceIte] at rejects
      cases request with
      | get key =>
        simp only [Server.perform] at rejects
        split at rejects <;> cases rejects
      | put key value =>
        simp only [Server.perform] at rejects
        split at rejects
        · cases rejects
        · rename_i fails
          cases rejects
          exact .store fails

theorem refusal_unbroken (plain : PlainPath server.store) (refusal : Refusal server tree reason) :
    Unbroken reason := by
  cases refusal with
  | fault fault => exact requestFault_unbroken fault
  | method method => cases method <;> decide
  | store fails =>
    refine storeError_unbroken fun path fault isFile => ?_
    subst isFile
    exact plain path (put_path fails)

/-- A line that is answered leaves the values on one line, and the store on the same file. -/
theorem handle_keeps (values : PlainValues server.store) :
    PlainValues (server.handle tree line).2.1.store ∧
      filePath? (server.handle tree line).2.1.store = filePath? server.store := by
  obtain ⟨response, store, after, ran, handled⟩ := handle_ends server tree line
  rw [ran]
  cases handled with
  | value | notFound | rejected => exact ⟨values, rfl⟩
  | stored asks put => exact ⟨put_plain values put, (put_accepted put).2⟩

/-- A server whose store has no line break in its values or in the name of its file answers on one
line. -/
theorem handle_unbroken (values : PlainValues server.store) (path : PlainPath server.store) :
    Unbroken (server.handle tree line).1.text := by
  obtain ⟨response, store, after, ran, handled⟩ := handle_ends server tree line
  have given : (server.handle tree line).1 = response := by rw [ran]
  rw [given]
  cases handled with
  | @value key content asks held => exact unbroken_append (by decide) (values key content held)
  | notFound => decide
  | stored => decide
  | rejected reason =>
    exact unbroken_append (by decide) (refusal_unbroken path (handle_rejected given))

end EnvLoader.ResponseLines
