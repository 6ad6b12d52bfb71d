import EnvLoader.KeyValue.Server
import EnvLoader.Proofs.FileChanges
import EnvLoader.Proofs.RequestLines

/-! What a server answers to a run of lines. Its store always reflects the lines that were answered
as stored: a key has the value of the latest of them that put it, and none if no line did. What
one line can do to the store is said once, and the run follows from that. -/
namespace EnvLoader.AnsweredLines
open Files KeyValue FileChanges Outcomes RequestLines

variable {server : Server} {tree : Tree} {line key value : String} {response : Response}
  {answered : List (String × Response)} {store : Store}

/-! ### One line -/

/-- What a line can do: it is answered from the store, which stays, or it stores an entry. -/
inductive Handled (server : Server) (tree : Tree) (line : String) : Response → Store → Tree → Prop
  | value {key content : String} (asks : IsGet line key)
      (held : server.store.get? key = some content) :
      Handled server tree line (.value content) server.store tree
  | notFound {key : String} (asks : IsGet line key) (unset : server.store.get? key = none) :
      Handled server tree line .notFound server.store tree
  | stored {key value : String} {store : Store} {after : Tree} (asks : IsPut line key value)
      (put : server.store.put tree key value = .ok (store, after)) :
      Handled server tree line .stored store after
  | rejected (reason : String) : Handled server tree line (.rejected reason) server.store tree

theorem handle_ends (server : Server) (tree : Tree) (line : String) :
    ∃ response store after, server.handle tree line =
        (response, { server with store, served := server.served + 1 }, after) ∧
      Handled server tree line response store after := by
  unfold Server.handle
  cases read : Request.ofLine line with
  | error fault => exact ⟨_, _, _, rfl, .rejected _⟩
  | ok request =>
    cases allowed : Server.allows { server with served := server.served + 1 } request.method with
    | false => exact ⟨_, _, _, by simp only [allowed]; rfl, .rejected _⟩
    | true =>
      cases request with
      | get key =>
        have asks := ofLine_get.mp read
        cases held : server.store.get? key with
        | some content =>
          exact ⟨_, _, _, by simp only [allowed, Server.perform, held]; rfl, .value asks held⟩
        | none =>
          exact ⟨_, _, _, by simp only [allowed, Server.perform, held]; rfl, .notFound asks held⟩
      | put key value =>
        have asks := ofLine_put.mp read
        cases put : server.store.put tree key value with
        | ok next =>
          exact ⟨_, _, _, by simp only [allowed, Server.perform, put]; rfl, .stored asks put⟩
        | error error =>
          exact ⟨_, _, _, by simp only [allowed, Server.perform, put]; rfl, .rejected _⟩

/-- A line that asks for a key is answered with its value, where that is allowed. -/
theorem handle_get (asks : IsGet line key) (allowed : server.allows .get = true) :
    (server.handle tree line).1 =
      match server.store.get? key with
      | some content => .value content
      | none => .notFound := by
  have read := ofLine_get.mpr asks
  have still : Server.allows { server with served := server.served + 1 }
      (Request.get key).method = true := allowed
  cases held : server.store.get? key <;>
    simp only [Server.handle, read, still, Server.perform, held, ↓reduceIte]

/-- Storing an entry binds its key and no other, in either kind of store. -/
theorem store_put {after : Tree} {next : Store}
    (put : store.put tree key value = .ok (next, after)) :
    next.entries = store.entries.put key value := by
  cases store with
  | memory store =>
    obtain ⟨stored, inner, same⟩ := map_ok.mp put
    cases same
    unfold MemoryStore.put at inner
    split at inner
    · exact nomatch inner
    · split at inner
      · exact nomatch inner
      · cases inner
        rfl
  | file store =>
    obtain ⟨stored, inner, same⟩ := map_ok.mp put
    cases same
    unfold FileStore.put at inner
    split at inner
    · exact nomatch inner
    · split at inner
      · exact nomatch inner
      · cases inner
        rfl

/-- What a store holds behind a put. -/
theorem get?_bound {next : Store} (bound : next.entries = store.entries.put key value)
    (other : String) :
    next.get? other = if other = key then some value else store.get? other := by
  rw [Store.get?, bound, get?_put]
  rfl

/-! ### Runs of lines -/

/-- The answers to lines in order, each with its line, and the server and the files after them. -/
def answerAll (server : Server) (tree : Tree) (lines : List String) :
    List (String × Response) × Server × Tree :=
  lines.foldl (fun (answered, server, tree) line =>
    let (response, server, tree) := server.handle tree line
    (answered ++ [(line, response)], server, tree)) ([], server, tree)

/-- An answered line stored a value under a key. -/
def Stores (entry : String × Response) (key value : String) : Prop :=
  entry.2 = .stored ∧ IsPut entry.1 key value

/-- The latest line that stored something under a key stored a value. -/
def Latest (answered : List (String × Response)) (key value : String) : Prop :=
  ∃ earlier entry later, answered = earlier ++ entry :: later ∧ Stores entry key value ∧
    ∀ other ∈ later, ∀ value, ¬ Stores other key value

/-- A store holds what the answered lines stored last under each key, and nothing else. -/
structure Reflects (answered : List (String × Response)) (store : Store) : Prop where
  held : ∀ key value, store.get? key = some value → Latest answered key value
  unset : ∀ key, store.get? key = none → ∀ entry ∈ answered, ∀ value, ¬ Stores entry key value

theorem latest_self {entry : String × Response} (stores : Stores entry key value) :
    Latest (answered ++ [entry]) key value :=
  ⟨answered, entry, [], rfl, stores, nofun⟩

theorem latest_kept {entry : String × Response} (latest : Latest answered key value)
    (other : ∀ value, ¬ Stores entry key value) : Latest (answered ++ [entry]) key value := by
  obtain ⟨earlier, last, later, rfl, stores, none⟩ := latest
  refine ⟨earlier, last, later ++ [entry], by simp, stores, fun next member => ?_⟩
  rcases List.mem_append.mp member with inside | isLast
  · exact none next inside
  · exact List.mem_singleton.mp isLast ▸ other

/-- A line that stores nothing leaves a store reflecting the lines. -/
theorem reflects_unstored {entry : String × Response} (reflects : Reflects answered store)
    (other : ∀ key value, ¬ Stores entry key value) : Reflects (answered ++ [entry]) store := by
  refine ⟨fun key value held => latest_kept (reflects.held key value held) (other key), ?_⟩
  intro key unset next member
  rcases List.mem_append.mp member with inside | isLast
  · exact reflects.unset key unset next inside
  · exact List.mem_singleton.mp isLast ▸ other key

theorem isPut_same {other content : String} (first : IsPut line key value)
    (second : IsPut line other content) : key = other ∧ value = content := by
  have same := (ofLine_put.mpr first).symm.trans (ofLine_put.mpr second)
  simpa using same

/-- A line that stores an entry makes a store reflect it too. -/
theorem reflects_stored {next : Store} (reflects : Reflects answered store)
    (asks : IsPut line key value) (bound : next.entries = store.entries.put key value) :
    Reflects (answered ++ [(line, .stored)]) next := by
  have values := get?_bound bound
  have only : ∀ other, other ≠ key → ∀ content, ¬ Stores (line, .stored) other content :=
    fun other apart content stores => apart (isPut_same stores.2 asks).1
  constructor
  · intro other content held
    rw [values] at held
    split at held
    · rename_i same
      cases held
      exact same ▸ latest_self ⟨rfl, asks⟩
    · rename_i apart
      exact latest_kept (reflects.held other content held) (only other apart)
  · intro other unset entry member
    rw [values] at unset
    split at unset
    · exact nomatch unset
    · rename_i apart
      rcases List.mem_append.mp member with inside | isLast
      · exact reflects.unset other unset entry inside
      · exact List.mem_singleton.mp isLast ▸ only other apart

/-- What a line does keeps a store reflecting the lines. -/
theorem handled_reflects {after : Tree} {next : Store} (reflects : Reflects answered server.store)
    (handled : Handled server tree line response next after) :
    Reflects (answered ++ [(line, response)]) next := by
  cases handled with
  | value => exact reflects_unstored reflects fun _ _ stores => nomatch stores.1
  | notFound => exact reflects_unstored reflects fun _ _ stores => nomatch stores.1
  | stored asks put => exact reflects_stored reflects asks (store_put put)
  | rejected => exact reflects_unstored reflects fun _ _ stores => nomatch stores.1

theorem answerAll_concat {lines : List String} {now : Server} {files : Tree}
    (ran : answerAll server tree lines = (answered, now, files)) (line : String) :
    answerAll server tree (lines ++ [line]) =
      (answered ++ [(line, (now.handle files line).1)], (now.handle files line).2) := by
  unfold answerAll at ran ⊢
  rw [List.foldl_append, ran, List.foldl_cons, List.foldl_nil]

/-- After any run of lines a store that was empty reflects them, and the configuration is the
same. -/
theorem answerAll_reflects {lines : List String} {now : Server} {files : Tree}
    (fresh : server.store.entries = {})
    (ran : answerAll server tree lines = (answered, now, files)) :
    answered.map (·.1) = lines ∧ now.config = server.config ∧ Reflects answered now.store := by
  induction lines using List.reverseRecOn generalizing answered now files with
  | nil =>
    cases ran
    refine ⟨rfl, rfl, fun key value held => ?_, fun _ _ _ => nofun⟩
    rw [Store.get?, fresh] at held
    exact nomatch held
  | append_singleton lines line ih =>
    rcases before : answerAll server tree lines with ⟨earlier, between, middle⟩
    obtain ⟨sameLines, sameConfig, reflects⟩ := ih before
    obtain ⟨response, store, left, handled, ends⟩ := handle_ends between middle line
    rw [answerAll_concat before, handled] at ran
    cases ran
    exact ⟨by simp [sameLines], sameConfig, handled_reflects reflects ends⟩

/-- A server whose store starts empty answers a line that asks for a key with the value of the
latest line before it that was answered as stored and put that key, and with not found if there is
none. A line that is not answered as stored leaves the store as it is, and one that is answered so
stores an entry and changes no other key. -/
theorem get_answers_latest {lines : List String} {now after : Server} {files left : Tree}
    (fresh : server.store.entries = {}) (allowed : server.allows .get = true)
    (ran : answerAll server tree lines = (answered, now, files))
    (next : now.handle files line = (response, after, left)) :
    answered.map (·.1) = lines ∧
      (∀ key, IsGet line key →
        (∃ value, response = .value value ∧ Latest answered key value) ∨
          response = .notFound ∧ ∀ entry ∈ answered, ∀ value, ¬ Stores entry key value) ∧
      (response ≠ .stored → after.store = now.store) ∧
      (response = .stored → ∃ key value, IsPut line key value ∧
        after.store.get? key = some value ∧
        ∀ other, other ≠ key → after.store.get? other = now.store.get? other) := by
  obtain ⟨sameLines, sameConfig, reflects⟩ := answerAll_reflects fresh ran
  obtain ⟨given, store, leaves, handled, ends⟩ := handle_ends now files line
  have allowedNow : now.allows .get = true := by
    rw [Server.allows, sameConfig]
    exact allowed
  rw [next] at handled
  cases handled
  refine ⟨sameLines, fun key asks => ?_, fun unstored => ?_, fun stored => ?_⟩
  · have answer : (now.handle files line).1 = _ := handle_get asks allowedNow
    rw [next] at answer
    cases held : now.store.get? key with
    | some value =>
      rw [held] at answer
      exact .inl ⟨value, answer, reflects.held key value held⟩
    | none =>
      rw [held] at answer
      exact .inr ⟨answer, reflects.unset key held⟩
  · cases ends with
    | value => rfl
    | notFound => rfl
    | rejected => rfl
    | stored => exact absurd rfl unstored
  · cases stored
    cases ends with
    | @stored key value _ _ asks put =>
      have values := get?_bound (store_put put)
      exact ⟨key, value, asks, (values key).trans (if_pos rfl),
        fun other apart => (values other).trans (if_neg apart)⟩

/-- A server with room for a single key. -/
def oneKey : Server where
  config :=
    { host := "localhost", port := 3000, debug := false, shutdownTimeout := ⟨5, 0⟩
      allowedMethods := ["get", "PUT"], maxRequests := none
      store := { kind := "MEM", memory := some ⟨1⟩, file := none } }
  store := .memory { capacity := 1 }

/-- Of two puts of the key the later counts, and not those that are refused behind it. -/
theorem oneKey_latest : ∃ answered now files after left,
    answerAll oneKey {} ["PUT a 1", "put a 2 3", "PUT b 4", "PUT a=b 5", "GET", "DELETE a"] =
        (answered, now, files) ∧
      now.handle files " get a " = (.value "2 3", after, left) ∧ Latest answered "a" "2 3" ∧
      after.store = now.store := by
  let lines := ["PUT a 1", "put a 2 3", "PUT b 4", "PUT a=b 5", "GET", "DELETE a"]
  rcases ran : answerAll oneKey {} lines with ⟨answered, now, files⟩
  rcases next : now.handle files " get a " with ⟨response, after, left⟩
  have given : response = .value "2 3" := by
    have run : ((answerAll oneKey {} lines).2.1.handle (answerAll oneKey {} lines).2.2 " get a ").1 =
        .value "2 3" := by decide +kernel
    rwa [ran, next] at run
  have asks : IsGet " get a " "a" :=
    ⟨"get".toList, by decide +kernel, ofName?_iff.mp (by decide +kernel), by decide, by decide⟩
  obtain ⟨-, answers, same, -⟩ := get_answers_latest rfl (by decide +kernel) ran next
  subst given
  obtain ⟨value, isValue, latest⟩ | ⟨impossible, -⟩ := answers "a" asks
  · cases isValue
    exact ⟨answered, now, files, after, left, rfl, next, latest, same nofun⟩
  · exact nomatch impossible

end EnvLoader.AnsweredLines
