import EnvLoader.KeyValue.Store
import EnvLoader.Proofs.FileChanges
import Mathlib.Data.List.Induction

/-! What a file store holds when it is opened again. The running store and the file are kept
apart, and only the lines of the file are read back. A line that is added stands for itself if
the text before it is made of whole lines, so the two agree then. Behind a line without an
ending it does not: the two lines are read as one. -/
namespace EnvLoader.StoreReplay
open Files KeyValue FileChanges Outcomes Text

variable {α : Type} [DecidableEq α] {feed carriage : α} {text more line : List α}

/-- A text is made of whole lines: if it has a last character, that ends a line. -/
def Whole (feed : α) (text : List α) : Prop := ∀ last, text.getLast? = some last → last = feed

/-- The stretches and what is left after them make up the text. -/
theorem terminated_text (text : List α) :
    (terminated feed text).1.flatMap (· ++ [feed]) ++ (terminated feed text).2 = text := by
  induction text with
  | nil => rfl
  | cons c rest ih =>
    simp only [terminated]
    by_cases same : c = feed
    · simp [same, ih]
    · rcases ended : terminated feed rest with ⟨stretches, left⟩
      rw [ended] at ih
      cases stretches <;> simpa [same] using ih

theorem terminated_whole (whole : Whole feed text) : (terminated feed text).2 = [] := by
  induction text with
  | nil => rfl
  | cons c rest ih =>
    cases rest with
    | nil =>
      have same : c = feed := whole c rfl
      simp [terminated, same]
    | cons next rest =>
      have inner := ih fun last isLast => whole last (by simpa using isLast)
      rcases ended : terminated feed (next :: rest) with ⟨stretches, left⟩
      rw [ended] at inner
      have joined : (terminated feed (next :: rest)).1.flatMap (· ++ [feed]) ++
          (terminated feed (next :: rest)).2 = next :: rest := terminated_text _
      rw [ended] at joined
      rw [terminated, ended]
      by_cases same : c = feed
      · simp [same, show left = [] from inner]
      · cases stretches with
        | nil => simp [show left = [] from inner] at joined
        | cons stretch stretches => simp [same, show left = [] from inner]

theorem terminated_append (whole : (terminated feed text).2 = []) :
    terminated feed (text ++ more) =
      ((terminated feed text).1 ++ (terminated feed more).1, (terminated feed more).2) := by
  induction text with
  | nil => rfl
  | cons c rest ih =>
    rcases ended : terminated feed rest with ⟨stretches, left⟩
    rw [ended] at ih
    simp only [terminated, ended] at whole
    simp only [List.cons_append, terminated, ended]
    by_cases same : c = feed
    · rw [if_pos same] at whole
      simp only [ih whole, same, ↓reduceIte]
      rfl
    · rw [if_neg same] at whole
      cases stretches with
      | nil => exact nomatch whole
      | cons stretch stretches =>
        simp only [ih whole, same, ↓reduceIte]
        rfl

/-- Whole lines keep their lines whatever follows. -/
theorem linesWith_append (whole : Whole feed text) :
    linesWith feed carriage (text ++ more) =
      linesWith feed carriage text ++ linesWith feed carriage more := by
  have ended := terminated_whole whole
  simp [linesWith, terminated_append ended, ended]

theorem terminated_line (unbroken : feed ∉ line) : terminated feed (line ++ [feed]) = ([line], []) := by
  induction line with
  | nil => simp [terminated]
  | cons c rest ih =>
    have apart : c ≠ feed := fun same => unbroken (by simp [same])
    have inner := ih fun member => unbroken (List.mem_cons_of_mem _ member)
    rw [List.cons_append, terminated, inner]
    simp [apart]

/-- A single line with its ending. -/
theorem linesWith_line (unbroken : feed ∉ line) (ends : carriage ∉ line) :
    linesWith feed carriage (line ++ [feed]) = [line] := by
  have plain : line.getLast? ≠ some carriage := fun last => ends (List.mem_of_getLast? last)
  simp [linesWith, terminated_line unbroken, dropLast?, plain]

theorem splitOnce_key {separator : Char} {before after : List Char} (free : separator ∉ before) :
    splitOnce separator (before ++ separator :: after) = some (before, after) := by
  induction before with
  | nil => simp [splitOnce]
  | cons c rest ih =>
    have apart : c ≠ separator := fun same => free (by simp [same])
    have inner := ih fun member => free (List.mem_cons_of_mem _ member)
    rw [List.cons_append, splitOnce, if_neg apart, inner]
    rfl

variable {key value content : String}

/-- An entry that can be stored is read back from its line, behind whatever whole lines. -/
theorem entriesOf_append (valid : isValidEntry key value = true)
    (whole : Whole '\n' content.toList) :
    entriesOf (content ++ entryLine key value) = entriesOf content ++ [(key, value)] := by
  simp only [isValidEntry, isValidKey, isValidValue, isLineBreak, Bool.and_eq_true,
    Bool.not_eq_true', List.all_eq_true, bne_iff_ne, ne_eq, Bool.or_eq_false_iff, beq_eq_false_iff_ne] at valid
  obtain ⟨⟨-, keys⟩, values⟩ := valid
  have shown : (entryText key value).toList = key.toList ++ '=' :: value.toList := by
    simp [entryText]
  have unbroken : ∀ c, c = '\n' ∨ c = '\r' → c ∉ (entryText key value).toList := by
    intro c isBreak member
    rw [shown] at member
    rcases List.mem_append.mp member with inKey | inRest
    · obtain ⟨-, noFeed, noReturn⟩ := keys c inKey
      exact isBreak.elim noFeed noReturn
    · rcases List.mem_cons.mp inRest with rfl | inValue
      · simp at isBreak
      · obtain ⟨noFeed, noReturn⟩ := values c inValue
        exact isBreak.elim noFeed noReturn
  have separated : '=' ∉ key.toList := fun member => (keys _ member).1 rfl
  have line : lines (entryLine key value).toList = [(entryText key value).toList] := by
    have ended : (entryLine key value).toList = (entryText key value).toList ++ ['\n'] := by
      simp [entryLine]
    rw [ended]
    exact linesWith_line (unbroken _ (.inl rfl)) (unbroken _ (.inr rfl))
  have entry : entryOfLine? (entryText key value).toList = some (key, value) := by
    rw [entryOfLine?, shown, splitOnce_key separated]
    simp
  have split : lines (content ++ entryLine key value).toList =
      lines content.toList ++ [(entryText key value).toList] := by
    rw [String.toList_append, ← line]
    exact linesWith_append whole
  rw [entriesOf, split, List.filterMap_append, entriesOf]
  simp [entry]

/-- The line of an entry is whole. -/
theorem whole_append (content key value : String) :
    Whole '\n' (content ++ entryLine key value).toList := by
  intro last isLast
  have ended : (content ++ entryLine key value).toList =
      (content ++ entryText key value).toList ++ ['\n'] := by
    simp [entryLine]
  rw [ended, List.getLast?_concat] at isLast
  exact (Option.some.inj isLast).symm

/-! ### Entries under keys -/

/-- The value that a list of entries gives a key last. -/
def lastValue? (entries : List (String × String)) (key : String) : Option String :=
  (entries.filter (·.1 = key)).getLast?.map (·.2)

theorem ofList_append {κ β : Type} [DecidableEq κ] (entries : List (κ × β)) (entry : κ × β) :
    Bindings.ofList (entries ++ [entry]) = (Bindings.ofList entries).put entry.1 entry.2 := by
  simp [Bindings.ofList]

theorem get?_ofList (entries : List (String × String)) (key : String) :
    (Bindings.ofList entries).get? key = lastValue? entries key := by
  induction entries using List.reverseRecOn with
  | nil => rfl
  | append_singleton entries entry ih =>
    rw [ofList_append, get?_put, ih]
    by_cases same : entry.1 = key
    · simp [lastValue?, same]
    · have apart : key ≠ entry.1 := fun other => same other.symm
      simp [lastValue?, same, apart]

/-! ### Runs of a store -/

/-- Stores entries one after the other. An entry that is refused changes nothing. -/
def putAll (store : FileStore) (tree : Tree) (puts : List (String × String)) : FileStore × Tree :=
  puts.foldl (fun (store, tree) (key, value) =>
    match store.put tree key value with
    | .ok after => after
    | .error _ => (store, tree)) (store, tree)

/-- The entries among some that can be stored. -/
def storable (puts : List (String × String)) : List (String × String) :=
  puts.filter fun (key, value) => isValidEntry key value

/-- The lines of entries. -/
def entryLines (entries : List (String × String)) : String :=
  String.join (entries.map fun (key, value) => entryLine key value)

/-- A store runs on a file: it holds the entries of a history, and the file a content. -/
structure RunsOn (path : String) (history : List (String × String)) (content : String)
    (store : FileStore) (tree : Tree) : Prop where
  store : store = ⟨path, .ofList history⟩
  file : ∃ location, tree.find path = .ok (.file location (.text content))

variable {path : String} {history : List (String × String)} {store : FileStore} {tree : Tree}

theorem open_runs {create : Bool} {before : Tree}
    (opens : FileStore.openFile path create before = (.ok store, tree))
    (holds : tree.readText path = .ok content) :
    RunsOn path (entriesOf content) content store tree := by
  unfold FileStore.openFile at opens
  split at opens
  · exact nomatch congrArg Prod.fst opens
  · rename_i made
    obtain ⟨loaded, same⟩ := Prod.mk.inj opens
    subst same
    simp only [FileStore.load, holds] at loaded
    cases loaded
    exact ⟨rfl, readText_ok.mp holds⟩

theorem reopened {again : Bool} (runs : RunsOn path history content store tree) :
    FileStore.openFile path again tree = (.ok ⟨path, .ofList (entriesOf content)⟩, tree) := by
  obtain ⟨location, found⟩ := runs.file
  have ready : (if again then tree.ensureFile path else .ok tree) = .ok tree := by
    cases again with
    | false => rfl
    | true => exact ensureFile_found found
  have read := readText_ok.mpr ⟨location, found⟩
  simp only [FileStore.openFile, ready, FileStore.load, read]
  rfl

/-- A put stores what can be stored and adds its line. -/
theorem put_runs (runs : RunsOn path history content store tree)
    (valid : isValidEntry key value = true) :
    ∃ next after, store.put tree key value = .ok (next, after) ∧
      RunsOn path (history ++ [(key, value)]) (content ++ entryLine key value) next after := by
  obtain ⟨location, found⟩ := runs.file
  have appended : tree.appendText path (entryLine key value) = _ := appendText_found found
  rw [runs.store]
  refine ⟨⟨path, (Bindings.ofList history).put key value⟩, _, ?_, ?_, location, find_put found⟩
  · simp only [FileStore.put, valid, appended]
    rfl
  · rw [ofList_append]

theorem put_refused (invalid : isValidEntry key value = false) :
    store.put tree key value = .error (.invalidEntry key value) := by
  simp only [FileStore.put, invalid]
  rfl

theorem putAll_runs (runs : RunsOn path history content store tree)
    (puts : List (String × String)) :
    RunsOn path (history ++ storable puts) (content ++ entryLines (storable puts))
      (putAll store tree puts).1 (putAll store tree puts).2 := by
  induction puts generalizing history content store tree with
  | nil => simpa [storable, entryLines, putAll] using runs
  | cons entry puts ih =>
    obtain ⟨key, value⟩ := entry
    cases valid : isValidEntry key value with
    | false =>
      have same : putAll store tree ((key, value) :: puts) = putAll store tree puts := by
        simp only [putAll, List.foldl_cons, put_refused valid]
      have less : storable ((key, value) :: puts) = storable puts := by
        simp [storable, valid]
      rw [same, less]
      exact ih runs
    | true =>
      obtain ⟨next, after, stored, goes⟩ := put_runs runs valid
      have same : putAll store tree ((key, value) :: puts) = putAll next after puts := by
        simp only [putAll, List.foldl_cons, stored]
      have more : storable ((key, value) :: puts) = (key, value) :: storable puts := by
        simp [storable, valid]
      rw [same, more]
      simpa [entryLines, String.append_assoc] using ih goes

/-- Behind whole lines, stored entries are read back as they were stored. -/
theorem entriesOf_stored (whole : Whole '\n' content.toList) (puts : List (String × String)) :
    entriesOf (content ++ entryLines (storable puts)) = entriesOf content ++ storable puts := by
  induction puts generalizing content with
  | nil => simp [storable, entryLines]
  | cons entry puts ih =>
    obtain ⟨key, value⟩ := entry
    cases valid : isValidEntry key value with
    | false => simpa [storable, valid] using ih whole
    | true =>
      have inner := ih (whole_append content key value)
      rw [entriesOf_append valid whole] at inner
      simpa [storable, valid, entryLines, String.append_assoc] using inner

/-- A file store that is opened again, after puts some of which may be refused, holds what the
lines in the file say: those that were there, with the lines of the stored entries behind them.
The running store holds the last values of the entries that were there and of those stored since.
The two are the same if the file was made of whole lines, or nothing was stored. -/
theorem reopened_after_puts {create : Bool} {before : Tree}
    (opens : FileStore.openFile path create before = (.ok store, tree))
    (holds : tree.readText path = .ok content) (puts : List (String × String)) (again : Bool) :
    ∃ running reopened after, putAll store tree puts = (running, after) ∧
      FileStore.openFile path again after = (.ok reopened, after) ∧
      (∀ key, running.get? key = lastValue? (entriesOf content ++ storable puts) key) ∧
      (∀ key, reopened.get? key =
        lastValue? (entriesOf (content ++ entryLines (storable puts))) key) ∧
      (Whole '\n' content.toList ∨ storable puts = [] → reopened = running) := by
  have runs := putAll_runs (open_runs opens holds) puts
  refine ⟨(putAll store tree puts).1, _, (putAll store tree puts).2, rfl, reopened runs,
    fun key => ?_, fun key => get?_ofList _ key, fun fine => ?_⟩
  · rw [runs.store]
    exact get?_ofList _ key
  · rw [runs.store]
    rcases fine with whole | nothing
    · rw [entriesOf_stored whole]
    · rw [nothing]
      simp [entryLines]

/-- A tree with a single file. -/
def oneFile (content : String) : Tree where
  entries := .ofList [([.text "data.db"], .file (.text content))]

theorem oneFile_read (content : String) : (oneFile content).readText "data.db" = .ok content := by
  have parts : pathParts "data.db" = [.name "data.db"] := by decide
  have usable : usableParts "data.db" = .ok [.name "data.db"] := by
    rw [usableParts, if_neg (by decide), if_neg (by decide), if_neg (by decide), parts]
    rfl
  have short : ¬ "data.db".utf8ByteSize > maxNameSize := by decide
  have entry : Tree.entry? (oneFile content) ([] ++ [.text "data.db"]) =
      some (.file (.text content)) := by
    simp [Tree.entry?, oneFile, Bindings.ofList, get?_put]
  exact readText_ok.mpr ⟨_, find_ok.mpr ⟨_, usable, .file short entry⟩⟩

theorem oneFile_opens (content : String) : FileStore.openFile "data.db" false (oneFile content) =
    (.ok ⟨"data.db", .ofList (entriesOf content)⟩, oneFile content) := by
  have read := oneFile_read content
  simp only [FileStore.openFile, Bool.false_eq_true, ↓reduceIte, FileStore.load, read]
  rfl

/-- A file of whole lines, one of them blank and one without an entry, with three puts. -/
theorem wholeLines_reopened : ∃ store tree running reopened after,
    FileStore.openFile "data.db" false (oneFile "a=1\n\nnote\r\n") = (.ok store, tree) ∧
      putAll store tree [("b", "2"), ("=", "3"), ("a", "4")] = (running, after) ∧
      FileStore.openFile "data.db" true after = (.ok reopened, after) ∧
      reopened = running ∧ reopened.get? "a" = some "4" ∧ reopened.get? "b" = some "2" := by
  have whole : Whole '\n' "a=1\n\nnote\r\n".toList := by
    intro last isLast
    simpa using isLast.symm
  obtain ⟨running, reopened, after, ran, again, -, values, same⟩ :=
    reopened_after_puts (oneFile_opens _) (oneFile_read _) [("b", "2"), ("=", "3"), ("a", "4")] true
  exact ⟨_, _, running, reopened, after, oneFile_opens _, ran, again, same (.inl whole),
    (values "a").trans (by decide +kernel), (values "b").trans (by decide +kernel)⟩

/-- Without an ending, the last line of a file takes in the line that is stored behind it. -/
theorem openLine_takes_in : ∃ store tree running reopened after,
    FileStore.openFile "data.db" false (oneFile "a=1") = (.ok store, tree) ∧
      putAll store tree [("b", "2")] = (running, after) ∧
      FileStore.openFile "data.db" false after = (.ok reopened, after) ∧
      running.get? "a" = some "1" ∧ running.get? "b" = some "2" ∧
      reopened.get? "a" = some "1b=2" ∧ reopened.get? "b" = none := by
  have runs := putAll_runs (open_runs (oneFile_opens "a=1") (oneFile_read _)) [("b", "2")]
  obtain ⟨running, after, ran⟩ : ∃ running after, putAll ⟨"data.db", .ofList (entriesOf "a=1")⟩
      (oneFile "a=1") [("b", "2")] = (running, after) := ⟨_, _, Prod.ext rfl rfl⟩
  rw [ran] at runs
  have held : running = ⟨"data.db", .ofList (entriesOf "a=1" ++ storable [("b", "2")])⟩ := runs.store
  refine ⟨_, _, running, _, after, oneFile_opens _, ran, reopened runs, ?_, ?_, ?_, ?_⟩
  · rw [held]
    decide +kernel
  · rw [held]
    decide +kernel
  · decide +kernel
  · decide +kernel

end EnvLoader.StoreReplay
