import EnvLoader.KeyValue.Config
import EnvLoader.Proofs.Evaluations
import EnvLoader.Proofs.ExampleEntries
import EnvLoader.Proofs.LoadedRecords
import EnvLoader.Proofs.ReadVariables

/-! Which variables the configuration of the server depends on, and what becomes of its store. The
loader reads the variables that the example lists, and the settings of a store only if the store is
chosen. What it loads is always a configuration, with the settings of the chosen store and of no
other. So what is built is the chosen store, or the error tells why it is not. -/
namespace EnvLoader.ServerSettings
open Outcomes SchemaNesting ExpansionRun WrittenRecords Evaluations DirectReading AssembledRun
open LoaderRuns ChosenCandidate ExampleEntries ReadVariables LoadedRecords KeyValue Files Loader
open Source (nameOfText?)

/-- The schema of the configuration. -/
def configSchema : Schema := ⟨configRecords.map fun record => ⟨record, none⟩⟩

/-- The variables of the configuration. -/
def configKeys : List String :=
  ["HOST", "PORT", "DEBUG", "SHUTDOWN_TIMEOUT", "ALLOWED_METHODS", "MAX_REQUESTS",
    "DATA_STORE_KIND", "DATA_STORE_MEM_CAPACITY", "DATA_STORE_FILE_FILENAME",
    "DATA_STORE_FILE_CREATE"]

/-- The stores to choose from. -/
def storeChoices : List Choice :=
  [⟨"MEM", .name "mem", "build"⟩, ⟨"FILE", .name "file", "build"⟩]

/-- The keys that an example of the configuration lists. -/
def exampleKeys (assembly : Assembly) : List String :=
  ((exampleContent configRoot assembly.plans .builtin).filterMap entryOf?).map (·.key)

/-- The dispatcher beside the constructor of a record. -/
def dispatcher? (program : Program) (record : String) : Option Dispatcher :=
  (program.implementation? record).bind (·.dispatcher)

/-- A variable is consulted, as far as the choice of the store goes: the settings of a store are if
the store is chosen. -/
def Consulted (environment : Environment) (key : String) : Prop :=
  ∀ kind ∈ ["MEM", "FILE"], ("DATA_STORE_" ++ kind ++ "_").toList <+: key.toList →
    environment.get? "DATA_STORE_KIND" = some (.text kind)

/-- The tree that a store in a file is read from: a missing file is made first, if it is to be. -/
def prepared (config : FileStoreConfig) (tree : Tree) : Except Fault Tree :=
  if config.create then tree.ensureFile config.path else .ok tree

/-- Why the chosen store cannot be built: it has no room, or its file cannot be made or read. -/
inductive Unbuildable (config : StoreConfig) (tree : Tree) : StoreError → Prop
  | noRoom (chosen : config.kind = "MEM") (settings : config.memory = some ⟨0⟩) :
      Unbuildable config tree .zeroCapacity
  | unmade {file : FileStoreConfig} {fault : Fault} (chosen : config.kind = "FILE")
      (settings : config.file = some file) (fails : prepared file tree = .error fault) :
      Unbuildable config tree (.file file.path fault)
  | unread {file : FileStoreConfig} {fault : Fault} {after : Tree} (chosen : config.kind = "FILE")
      (settings : config.file = some file) (ready : prepared file tree = .ok after)
      (fails : after.readText file.path = .error fault) :
      Unbuildable config tree (.file file.path fault)

/-- The chosen store: an empty one in memory, or the one whose entries are in the file. -/
inductive Selected (config : StoreConfig) (tree : Tree) : Store → Prop
  | memory {memory : MemoryStoreConfig} (chosen : config.kind = "MEM")
      (settings : config.memory = some memory) (room : memory.capacity ≠ 0) :
      Selected config tree (.memory { capacity := memory.capacity })
  | file {file : FileStoreConfig} {after : Tree} {content : String} (chosen : config.kind = "FILE")
      (settings : config.file = some file) (ready : prepared file tree = .ok after)
      (reads : after.readText file.path = .ok content) :
      Selected config tree (.file ⟨file.path, .ofList (entriesOf content)⟩)

/-- What the method of loaded settings builds. -/
def buildOf? (tree : Tree) (value : Value) : Option (Except StoreError Store) :=
  match value with
  | .record "MemDataStoreConfig" _ => (MemoryStoreConfig.ofValue? value).map (·.build)
  | .record "FileDataStoreConfig" _ =>
    (FileStoreConfig.ofValue? value).map fun settings => (settings.build tree).1
  | _ => none

/-- Building the store is what a dispatcher does with a loaded value, if it calls the methods of the
settings. -/
def DispatchedBy (dispatcher : Dispatcher) (value : Value) (config : StoreConfig) : Prop :=
  ∀ tree (method : Choice → Value → Except StoreError Store),
    (∀ choice inner result, buildOf? tree inner = some result → method choice inner = result) →
      dispatcher.build value method = some (config.build tree).1

variable {assembly : Assembly} {environment other : Environment} {record : Record} {value : Value}
  {nested : List String → String → Evaluation Value} {path : List String} {choice : Option String}
  {converter : Converter} {type : FieldType} {tree : Tree} {config : StoreConfig} {depth : Nat}
  {name kind : String}

/-! ### The loader of the configuration -/

theorem configSchema_made : Schema.ofRecords configRecords = .ok configSchema := rfl

/-- The configuration has a loader, an example that lists its variables, and a dispatcher. -/
theorem config_assembled : ∃ assembly dispatcher, configLoader = .ok assembly ∧
    exampleKeys assembly = configKeys ∧
    dispatcher? assembly.program "DataStoreConfig" = some dispatcher ∧
    dispatcher.selectorMember = .name "kind" ∧ dispatcher.choices = storeChoices := by
  have computed : (configLoader.toOption.map fun assembly => (exampleKeys assembly,
      (dispatcher? assembly.program "DataStoreConfig").map fun dispatcher =>
        (dispatcher.selectorMember, dispatcher.choices))) =
      some (configKeys, some (.name "kind", storeChoices)) := by
    decide +kernel
  obtain ⟨assembly, assembled, same⟩ := toOption_map.mp computed
  obtain ⟨keys, dispatched⟩ := Prod.mk.inj same
  obtain ⟨dispatcher, isDispatcher, same⟩ := Option.map_eq_some_iff.mp dispatched
  obtain ⟨isSelector, choices⟩ := Prod.mk.inj same
  exact ⟨assembly, dispatcher, assembled, keys, isDispatcher, isSelector, choices⟩

/-- The records of the configuration are spelled differently. -/
theorem config_apart : SpelledApart configSchema configRoot := by
  have distinct : (configRecords.map fun record => nameOfText? record.name).Nodup := by
    decide +kernel
  have listed : ∀ name, Reachable configSchema configRoot name →
      ∃ record ∈ configRecords, record.name = name := by
    intro name reachable
    have known := known_declared (reachable_known (by decide) reachable)
    simpa [configSchema] using known
  intro first second one two same
  obtain ⟨firstRecord, firstListed, rfl⟩ := listed first one
  obtain ⟨secondRecord, secondListed, rfl⟩ := listed second two
  rw [List.inj_on_of_nodup_map distinct firstListed secondListed same]

/-- To load the configuration is to read its schema. -/
theorem program_reads (assembled : configLoader = .ok assembly) (environment : Environment) :
    ∃ outcome, assembly.program.load configRoot environment = ExceptT.mk (some outcome) ∧
      readRecord configSchema environment configSchema.size [] configRoot =
        ExceptT.mk (some outcome) := by
  obtain ⟨schema, made, assembled⟩ := bind_ok.mp assembled
  cases configSchema_made.symm.trans made
  obtain ⟨start, expansion, after, completed, search, made, -⟩ := assemble_ok assembled
  have named : nameOfText? configRoot = some configRoot := by decide
  obtain ⟨outcome, loads, reads⟩ := load_reads completed search config_apart made named environment
  exact ⟨outcome, loads, reads _ (Nat.le_refl _)⟩

/-- The configuration is read from its schema and then taken apart. -/
theorem load_read (assembled : configLoader = .ok assembly) (environment : Environment) :
    ServerConfig.load environment =
      readRecord configSchema environment configSchema.size [] configRoot >>= fun value =>
        Evaluation.ofOption (ServerConfig.ofValue? value) := by
  obtain ⟨outcome, loads, reads⟩ := program_reads assembled environment
  -- Applied to an environment, the definition would be unfolded by computing the whole loader.
  have opened : ServerConfig.load = fun environment =>
      assembly.program.load configRoot environment >>= fun value =>
        Evaluation.ofOption (ServerConfig.ofValue? value) := by
    delta ServerConfig.load
    rw [assembled]
  rw [opened]
  dsimp only
  rw [loads, reads]

/-! ### The variables that are read -/

/-- The selector of the store. -/
def kindLeaf : Leaf := ⟨"DATA_STORE_KIND", .string, ⟨"String", false, false, true⟩, none⟩

/-- The visits from the root on are to the variables of the configuration. Those to the settings of a
store hang on the choice of the store. -/
theorem visit_listed : ∀ visit ∈ visits configSchema configRoot, visit.leaf.key ∈ configKeys ∧
    ∀ kind ∈ ["MEM", "FILE"], ("DATA_STORE_" ++ kind ++ "_").toList <+: visit.leaf.key.toList →
      (kindLeaf, kind) ∈ visit.choices := by
  decide +kernel

/-- The selector is read as a text only where its variable is that text. -/
theorem kindLeaf_reads (reads : kindLeaf.read environment = pure (.text kind)) :
    environment.get? "DATA_STORE_KIND" = some (.text kind) := by
  unfold Leaf.read readLeaf kindLeaf at reads
  dsimp only at reads
  split at reads
  · rename_i raw isText
    cases pure_value reads
    exact isText
  · exact nomatch reads
  · rename_i impossible
    exact nomatch impossible
  · exact nomatch reads

/-- A leaf depends on its variable only. -/
theorem leaf_congr {leaf : Leaf} (same : environment.get? leaf.key = other.get? leaf.key) :
    leaf.read environment = leaf.read other := by
  unfold Leaf.read readLeaf
  rw [same]

/-- Environments that agree on what is consulted are read alike. -/
theorem config_agrees
    (agree : ∀ visit ∈ visits configSchema configRoot, Consulted environment visit.leaf.key →
      environment.get? visit.leaf.key = other.get? visit.leaf.key) :
    readRecord configSchema environment configSchema.size [] configRoot =
      readRecord configSchema other configSchema.size [] configRoot := by
  refine readRecord_agrees fun visit listed made => leaf_congr (agree visit listed ?_)
  intro kind isKind begins
  have chosen := (visit_listed visit listed).2 kind isKind begins
  exact kindLeaf_reads (made _ chosen)

/-! ### Loaded settings -/

/-- Something can be taken from every value of a type. -/
def Decodes {α : Type} (type : FieldType) (read : Value → Option α) : Prop :=
  ∀ value, type.Has value → ∃ content, read value = some content

section Decoding
variable {α : Type} {read : Value → Option α}

theorem decodes_single
    (each : ∀ value, OfType converter value → ∃ content, read value = some content) :
    Decodes ⟨converter, false, false⟩ read := by
  rintro value (⟨impossible, -⟩ | ⟨content, rfl, typed⟩)
  · exact nomatch impossible
  · exact each _ typed

theorem decodes_option
    (each : ∀ value, OfType converter value → ∃ content, read value = some content) :
    Decodes ⟨converter, false, true⟩ (asOption? read) := by
  rintro value (⟨-, rfl⟩ | ⟨content, rfl, typed⟩)
  · exact ⟨none, rfl⟩
  · obtain ⟨taken, isTaken⟩ := each content typed
    exact ⟨some taken, by simp [held, asOption?, isTaken]⟩

theorem member_decoded (readAs : ReadAs configSchema environment nested path record choice value)
    (typed : (fieldOf? record name).bind (fieldType? configSchema) = some type)
    (decodes : Decodes type read) : ∃ content, (member name value >>= read) = some content := by
  obtain ⟨content, isContent, has⟩ := member_typed readAs typed
  obtain ⟨taken, isTaken⟩ := decodes content has
  exact ⟨taken, by rw [member, isContent]; exact isTaken⟩

end Decoding

theorem text_taken (value : Value) (typed : OfType .string value) :
    ∃ content, asText? value = some content := by
  cases value with
  | text content => exact ⟨content, rfl⟩
  | _ => simp [OfType, Converter.string] at typed

theorem path_taken (value : Value) (typed : OfType .path value) :
    ∃ content, asPath? value = some content := by
  cases value with
  | path content => exact ⟨content, rfl⟩
  | _ => simp [OfType, Converter.path] at typed

theorem bool_taken (value : Value) (typed : OfType .bool value) :
    ∃ content, asBool? value = some content := by
  cases value with
  | bool content => exact ⟨content, rfl⟩
  | _ => simp [OfType, Converter.bool] at typed

theorem duration_taken (value : Value) (typed : OfType .duration value) :
    ∃ length, asDuration? value = some length := by
  cases value with
  | duration length => exact ⟨length, rfl⟩
  | _ => simp [OfType, Converter.duration] at typed

/-- An integer of a type without a sign is not negative. -/
theorem nat_taken {bits : Nat} (unsigned : Text.IntegerType.ofName? name = some ⟨false, bits⟩)
    (value : Value) (typed : OfType (.integer name) value) :
    ∃ number, asNat? value = some number := by
  cases value with
  | integer number =>
    obtain ⟨-, integerType, isType, lower, -⟩ := typed
    cases isType.symm.trans unsigned
    cases number with
    | ofNat number => exact ⟨number, rfl⟩
    | negSucc number =>
      simp [Text.IntegerType.minimum] at lower
  | _ => simp [OfType, Converter.integer] at typed

theorem decodes_texts : Decodes ⟨.string, true, false⟩ asTexts? := by
  rintro value (⟨impossible, -⟩ | ⟨content, rfl, items, rfl, typed⟩)
  · exact nomatch impossible
  · change ∃ content, items.mapM asText? = some content
    induction items with
    | nil => exact ⟨[], rfl⟩
    | cons item items ih =>
      obtain ⟨first, isFirst⟩ := text_taken item (typed item (by simp))
      obtain ⟨others, areOthers⟩ := ih fun other listed => typed other (List.mem_cons_of_mem _ listed)
      exact ⟨first :: others, by rw [List.mapM_cons, isFirst, areOthers]; rfl⟩

/-- Loaded settings of the store in memory. -/
theorem memory_loaded
    (comes : readRecord configSchema environment (depth + 1) path "MemDataStoreConfig" = pure value) :
    ∃ settings, MemoryStoreConfig.ofValue? value = some settings ∧
      ∀ tree, buildOf? tree value = some settings.build := by
  obtain ⟨record, known, distinct, capacity⟩ : ∃ record,
      configSchema.get? "MemDataStoreConfig" = some record ∧
      (record.fields.map fieldMember?).Nodup ∧
      (fieldOf? record "capacity").bind (fieldType? configSchema) =
        some ⟨.integer "usize", false, false⟩ :=
    ⟨_, rfl, by decide⟩
  rw [readRecord_known known] at comes
  obtain ⟨choice, readAs⟩ := readBody_value distinct comes
  obtain ⟨capacity, isCapacity⟩ := member_decoded readAs capacity (decodes_single (nat_taken rfl))
  have decoded : MemoryStoreConfig.ofValue? value = some ⟨capacity⟩ := by
    rw [MemoryStoreConfig.ofValue?, isCapacity]
    rfl
  obtain ⟨members, isRecord⟩ := readAs.name
  refine ⟨_, decoded, fun tree => ?_⟩
  rw [isRecord, get?_name known] at decoded ⊢
  rw [buildOf?, decoded]
  rfl

/-- Loaded settings of the store in a file. -/
theorem file_loaded
    (comes : readRecord configSchema environment (depth + 1) path "FileDataStoreConfig" = pure value) :
    ∃ settings, FileStoreConfig.ofValue? value = some settings ∧
      ∀ tree, buildOf? tree value = some (settings.build tree).1 := by
  obtain ⟨record, known, distinct, filename, create⟩ : ∃ record,
      configSchema.get? "FileDataStoreConfig" = some record ∧
      (record.fields.map fieldMember?).Nodup ∧
      (fieldOf? record "filename").bind (fieldType? configSchema) = some ⟨.path, false, false⟩ ∧
      (fieldOf? record "create").bind (fieldType? configSchema) = some ⟨.bool, false, false⟩ :=
    ⟨_, rfl, by decide⟩
  rw [readRecord_known known] at comes
  obtain ⟨choice, readAs⟩ := readBody_value distinct comes
  obtain ⟨filename, isFilename⟩ := member_decoded readAs filename (decodes_single path_taken)
  obtain ⟨create, isCreate⟩ := member_decoded readAs create (decodes_single bool_taken)
  have decoded : FileStoreConfig.ofValue? value = some ⟨filename, create⟩ := by
    rw [FileStoreConfig.ofValue?, isFilename, isCreate]
    rfl
  obtain ⟨members, isRecord⟩ := readAs.name
  refine ⟨_, decoded, fun tree => ?_⟩
  rw [isRecord, get?_name known] at decoded ⊢
  rw [buildOf?, decoded]
  rfl

/-- The settings of a store that have been loaded as a value: the kind is what its variable says,
and the settings of the chosen store are there, but no others. -/
structure StoreLoaded (environment : Environment) (value : Value) (config : StoreConfig) : Prop where
  decoded : StoreConfig.ofValue? value = some config
  kind : environment.get? "DATA_STORE_KIND" = some (.text config.kind)
  selected : value.member? (.name "kind") = some (.text config.kind)
  memory : if config.kind = "MEM" then ∃ inner settings,
      value.member? (.name "mem") = some (.present inner) ∧ config.memory = some settings ∧
        ∀ tree, buildOf? tree inner = some settings.build
    else config.memory = none
  file : if config.kind = "FILE" then ∃ inner settings,
      value.member? (.name "file") = some (.present inner) ∧ config.file = some settings ∧
        ∀ tree, buildOf? tree inner = some (settings.build tree).1
    else config.file = none

/-- The settings of a store are loaded if the store is chosen. -/
theorem candidate_loaded {α : Type} {read : Value → Option α} {Comes : Value → Prop}
    {Builds : α → Value → Prop} {content : Value} {key : String}
    (isMember : value.member? (.name name) = some content)
    (chosen : if kind = key then ∃ inner, Comes inner ∧ content = .present inner
      else content = .absent)
    (loaded : ∀ inner, Comes inner → ∃ settings, read inner = some settings ∧ Builds settings inner) :
    ∃ taken, (member name value >>= asOption? read) = some taken ∧
      if kind = key then ∃ inner settings, value.member? (.name name) = some (.present inner) ∧
        taken = some settings ∧ Builds settings inner
      else taken = none := by
  rw [member, isMember]
  by_cases isChosen : kind = key
  · rw [if_pos isChosen] at chosen
    obtain ⟨inner, comes, rfl⟩ := chosen
    obtain ⟨settings, isSettings, builds⟩ := loaded inner comes
    refine ⟨some settings, by simp [asOption?, isSettings], ?_⟩
    rw [if_pos isChosen]
    exact ⟨inner, settings, rfl, rfl, builds⟩
  · rw [if_neg isChosen] at chosen
    subst chosen
    exact ⟨none, rfl, by rw [if_neg isChosen]⟩

/-- The settings of the store are loaded with the kind that its variable names. -/
theorem store_loaded
    (comes : readRecord configSchema environment (depth + 2) ["DATA_STORE"] "DataStoreConfig" =
      pure value) : ∃ config, StoreLoaded environment value config := by
  obtain ⟨record, selecting, known, selects, distinct, isKind, isLeaf, memory, file⟩ :
      ∃ record selecting, configSchema.get? "DataStoreConfig" = some record ∧
      record.fields.find? isSelecting = some selecting ∧ (record.fields.map fieldMember?).Nodup ∧
      fieldMember? selecting = some (.name "kind") ∧
      leafOf? configSchema ["DATA_STORE"] selecting = some kindLeaf ∧
      (fieldOf? record "mem").bind (fun field =>
        if isSelecting field then none else nesting? configSchema field) =
          some ⟨"MEM", "MemDataStoreConfig", true⟩ ∧
      (fieldOf? record "file").bind (fun field =>
        if isSelecting field then none else nesting? configSchema field) =
          some ⟨"FILE", "FileDataStoreConfig", true⟩ :=
    ⟨_, _, rfl, rfl, by decide⟩
  rw [readRecord_known known] at comes
  obtain ⟨choice, readAs⟩ := readBody_value distinct comes
  obtain ⟨kind, rfl, isSelected, reads⟩ := member_selector readAs selects isKind
  rw [readField_leaf isLeaf] at reads
  obtain ⟨_, isMember, chosen⟩ := member_nested readAs memory
  obtain ⟨memory, isMemory, memoryLoaded⟩ :=
    candidate_loaded isMember chosen fun _ comes => memory_loaded comes
  obtain ⟨_, isMember, chosen⟩ := member_nested readAs file
  obtain ⟨file, isFile, fileLoaded⟩ :=
    candidate_loaded isMember chosen fun _ comes => file_loaded comes
  have isText : (member "kind" value >>= asText?) = some kind := by
    rw [member, isSelected]
    rfl
  have decoded : StoreConfig.ofValue? value = some ⟨kind, memory, file⟩ := by
    rw [StoreConfig.ofValue?, isText, isMemory, isFile]
    rfl
  exact ⟨_, decoded, kindLeaf_reads reads, isSelected, memoryLoaded, fileLoaded⟩

/-- What is loaded is a configuration. -/
theorem config_loaded
    (comes : readRecord configSchema environment configSchema.size [] configRoot = pure value) :
    ∃ config store, ServerConfig.ofValue? value = some config ∧
      member "data_store" value = some store ∧ StoreLoaded environment store config.store := by
  obtain ⟨record, known, distinct, plain, host, port, debug, timeout, methods, requests, store⟩ :
      ∃ record, configSchema.get? configRoot = some record ∧
      (record.fields.map fieldMember?).Nodup ∧ record.fields.find? isSelecting = none ∧
      (fieldOf? record "host").bind (fieldType? configSchema) = some ⟨.string, false, false⟩ ∧
      (fieldOf? record "port").bind (fieldType? configSchema) =
        some ⟨.integer "u16", false, false⟩ ∧
      (fieldOf? record "debug").bind (fieldType? configSchema) = some ⟨.bool, false, false⟩ ∧
      (fieldOf? record "shutdown_timeout").bind (fieldType? configSchema) =
        some ⟨.duration, false, false⟩ ∧
      (fieldOf? record "allowed_methods").bind (fieldType? configSchema) =
        some ⟨.string, true, false⟩ ∧
      (fieldOf? record "max_requests").bind (fieldType? configSchema) =
        some ⟨.integer "u64", false, true⟩ ∧
      (fieldOf? record "data_store").bind (fun field =>
        if isSelecting field then none else nesting? configSchema field) =
          some ⟨"DATA_STORE", "DataStoreConfig", false⟩ :=
    ⟨_, rfl, by decide +kernel⟩
  rw [show configSchema.size = 2 + 1 + 1 from rfl, readRecord_known known] at comes
  obtain ⟨choice, readAs⟩ := readBody_value distinct comes
  obtain ⟨host, isHost⟩ := member_decoded readAs host (decodes_single text_taken)
  obtain ⟨port, isPort⟩ := member_decoded readAs port (decodes_single (nat_taken rfl))
  obtain ⟨debug, isDebug⟩ := member_decoded readAs debug (decodes_single bool_taken)
  obtain ⟨timeout, isTimeout⟩ := member_decoded readAs timeout (decodes_single duration_taken)
  obtain ⟨methods, areMethods⟩ := member_decoded readAs methods decodes_texts
  obtain ⟨requests, areRequests⟩ :=
    member_decoded readAs requests (decodes_option (nat_taken rfl))
  obtain ⟨content, isMember, nests⟩ := member_nested readAs store
  cases choice_none readAs plain
  obtain ⟨inner, comes, rfl⟩ := nests
  obtain ⟨store, loaded⟩ := store_loaded comes
  have isStore : (member "data_store" value >>= StoreConfig.ofValue?) = some store := by
    rw [member, isMember]
    exact loaded.decoded
  have decoded : ServerConfig.ofValue? value =
      some ⟨host, port, debug, timeout, methods, requests, store⟩ := by
    rw [ServerConfig.ofValue?, isHost, isPort, isDebug, isTimeout, areMethods, areRequests, isStore]
    rfl
  exact ⟨_, _, decoded, isMember, loaded⟩

/-! ### The store that is built -/

variable {memory : MemoryStoreConfig} {file : FileStoreConfig} {store : Store} {source : StoreError}
  {dispatcher : Dispatcher}

/-- The settings of the store in memory are chosen. -/
theorem unbuildable_memory (chosen : config.kind = "MEM") (settings : config.memory = some memory) :
    Unbuildable config tree source ↔ memory.build = .error source := by
  obtain ⟨capacity⟩ := memory
  unfold MemoryStoreConfig.build MemoryStore.empty
  constructor
  · rintro (⟨-, isMemory⟩ | ⟨isFile, -, -⟩ | ⟨isFile, -, -, -⟩)
    · cases settings.symm.trans isMemory
      rfl
    · simp [chosen] at isFile
    · simp [chosen] at isFile
  · intro fails
    by_cases none : capacity = 0
    · subst none
      cases fails
      exact .noRoom chosen settings
    · rw [if_neg none] at fails
      exact nomatch fails

theorem selected_memory (chosen : config.kind = "MEM") (settings : config.memory = some memory) :
    Selected config tree store ↔ memory.build = .ok store := by
  unfold MemoryStoreConfig.build MemoryStore.empty
  constructor
  · rintro (⟨-, isMemory, room⟩ | ⟨isFile, -, -, -⟩)
    · cases settings.symm.trans isMemory
      rw [if_neg room]
      rfl
    · simp [chosen] at isFile
  · intro builds
    by_cases none : memory.capacity = 0
    · rw [if_pos none] at builds
      exact nomatch builds
    · rw [if_neg none] at builds
      cases builds
      exact .memory chosen settings none

theorem file_unmade {fault : Fault} (fails : prepared file tree = .error fault) :
    (file.build tree).1 = .error (.file file.path fault) := by
  unfold prepared at fails
  unfold FileStoreConfig.build FileStore.openFile
  rw [fails]
  rfl

/-- The store in a file is read from its file, once this is there. -/
theorem file_ready {after : Tree} (ready : prepared file tree = .ok after) :
    (file.build tree).1 = ((after.readText file.path).map fun content =>
      Store.file ⟨file.path, .ofList (entriesOf content)⟩).mapError (.file file.path) := by
  unfold prepared at ready
  unfold FileStoreConfig.build FileStore.openFile FileStore.load
  rw [ready]
  dsimp only
  cases after.readText file.path <;> rfl

/-- The settings of the store in a file are chosen. -/
theorem unbuildable_file (chosen : config.kind = "FILE") (settings : config.file = some file) :
    Unbuildable config tree source ↔ (file.build tree).1 = .error source := by
  constructor
  · rintro (⟨isMemory, -⟩ | ⟨-, isFile, fails⟩ | ⟨-, isFile, ready, fails⟩)
    · simp [chosen] at isMemory
    · cases settings.symm.trans isFile
      exact file_unmade fails
    · cases settings.symm.trans isFile
      rw [file_ready ready, fails]
      rfl
  · intro fails
    cases ready : prepared file tree with
    | error fault =>
      cases (file_unmade ready).symm.trans fails
      exact .unmade chosen settings ready
    | ok after =>
      rw [file_ready ready] at fails
      cases reads : after.readText file.path with
      | error fault =>
        rw [reads] at fails
        cases fails
        exact .unread chosen settings ready reads
      | ok content =>
        rw [reads] at fails
        exact nomatch fails

theorem selected_file (chosen : config.kind = "FILE") (settings : config.file = some file) :
    Selected config tree store ↔ (file.build tree).1 = .ok store := by
  constructor
  · rintro (⟨isMemory, -, -⟩ | ⟨-, isFile, ready, reads⟩)
    · simp [chosen] at isMemory
    · cases settings.symm.trans isFile
      rw [file_ready ready, reads]
      rfl
  · intro builds
    cases ready : prepared file tree with
    | error fault => exact nomatch (file_unmade ready).symm.trans builds
    | ok after =>
      rw [file_ready ready, mapError_ok] at builds
      obtain ⟨content, reads, rfl⟩ := map_ok.mp builds
      exact .file chosen settings ready reads

/-- What building a store comes to, told from its settings. -/
structure Builds (config : StoreConfig) (tree : Tree)
    (result : Except (BuildError StoreError) Store) : Prop where
  invalid : ∀ kind, result = .error (.invalidChoice kind) ↔
    kind = config.kind ∧ config.kind ≠ "MEM" ∧ config.kind ≠ "FILE"
  failed : ∀ kind source, result = .error (.failed kind source) ↔
    kind = config.kind ∧ Unbuildable config tree source
  selected : ∀ store, result = .ok store ↔ Selected config tree store

/-- The store of one kind is chosen, and its settings build it or fail. -/
theorem builds_chosen {result : Except StoreError Store}
    (chosen : config.kind = "MEM" ∨ config.kind = "FILE")
    (failed : ∀ source, Unbuildable config tree source ↔ result = .error source)
    (selected : ∀ store, Selected config tree store ↔ result = .ok store) :
    Builds config tree (result.mapError (.failed config.kind)) where
  invalid kind := by
    rw [mapError_error]
    constructor
    · rintro ⟨_, -, impossible⟩
      exact nomatch impossible
    · rintro ⟨-, noMemory, noFile⟩
      exact absurd chosen (not_or.mpr ⟨noMemory, noFile⟩)
  failed kind source := by
    rw [mapError_error, failed]
    constructor
    · rintro ⟨fault, fails, same⟩
      cases same
      exact ⟨rfl, fails⟩
    · rintro ⟨rfl, fails⟩
      exact ⟨source, fails, rfl⟩
  selected store := by rw [mapError_ok, selected]

/-- A loaded store is built as its settings say. -/
theorem loaded_builds (loaded : StoreLoaded environment value config) (tree : Tree) :
    Builds config tree (config.build tree).1 := by
  have memory := loaded.memory
  have file := loaded.file
  unfold StoreConfig.build
  by_cases isMemory : config.kind = "MEM"
  · rw [if_pos isMemory] at memory ⊢
    obtain ⟨_, settings, -, isSettings, -⟩ := memory
    rw [isSettings]
    exact builds_chosen (.inl isMemory) (fun _ => unbuildable_memory isMemory isSettings)
      fun _ => selected_memory isMemory isSettings
  · rw [if_neg isMemory]
    by_cases isFile : config.kind = "FILE"
    · rw [if_pos isFile] at file ⊢
      obtain ⟨_, settings, -, isSettings, -⟩ := file
      rw [isSettings]
      exact builds_chosen (.inr isFile) (fun _ => unbuildable_file isFile isSettings)
        fun _ => selected_file isFile isSettings
    · rw [if_neg isFile]
      refine ⟨fun kind => ?_, fun kind source => ?_, fun store => ?_⟩
      · simp [isMemory, isFile, eq_comm]
      · refine ⟨nofun, fun ⟨_, fails⟩ => ?_⟩
        cases fails <;> contradiction
      · refine ⟨nofun, fun selected => ?_⟩
        cases selected <;> contradiction

/-- The dispatcher that is written beside the constructor builds a loaded store in the same way. -/
theorem loaded_dispatched (loaded : StoreLoaded environment value config)
    (isSelector : dispatcher.selectorMember = .name "kind")
    (choices : dispatcher.choices = storeChoices) :
    DispatchedBy dispatcher value config := by
  intro tree method calls
  have isSelected : value.member? dispatcher.selectorMember = some (.text config.kind) :=
    isSelector ▸ loaded.selected
  have memory := loaded.memory
  have file := loaded.file
  unfold StoreConfig.build
  by_cases isMemory : config.kind = "MEM"
  · rw [if_pos isMemory] at memory ⊢
    obtain ⟨inner, settings, isPresent, isSettings, builds⟩ := memory
    have known : dispatcher.choices.find? (·.label = config.kind) =
        some ⟨"MEM", .name "mem", "build"⟩ := by
      rw [choices, isMemory]
      rfl
    rw [build_known isSelected known isPresent, calls _ _ _ (builds tree), isSettings]
  · rw [if_neg isMemory]
    by_cases isFile : config.kind = "FILE"
    · rw [if_pos isFile] at file ⊢
      obtain ⟨inner, settings, isPresent, isSettings, builds⟩ := file
      have known : dispatcher.choices.find? (·.label = config.kind) =
          some ⟨"FILE", .name "file", "build"⟩ := by
        rw [choices, isFile]
        rfl
      rw [build_known isSelected known isPresent, calls _ _ _ (builds tree), isSettings]
    · rw [if_neg isFile]
      refine build_unknown isSelected ?_
      rw [choices]
      simp [storeChoices, Ne.symm isMemory, Ne.symm isFile]

/-- Loading the configuration always comes to a configuration or an error, and depends only on the
listed variables, and among these on the settings of a store only if the store is chosen. The store
of a loaded configuration is of the kind that the variable names. It is refused exactly if the kind
is none of the two, it fails with a source exactly if the chosen store cannot be built, and it is the
chosen store otherwise; and that is what the dispatcher beside the constructor does. -/
theorem config_settled : ∃ assembly dispatcher, configLoader = .ok assembly ∧
    dispatcher? assembly.program "DataStoreConfig" = some dispatcher ∧
    (∀ environment, ∃ outcome, ServerConfig.load environment = ExceptT.mk (some outcome)) ∧
    (∀ environment other,
      (∀ key ∈ exampleKeys assembly, Consulted environment key →
        environment.get? key = other.get? key) →
      ServerConfig.load environment = ServerConfig.load other) ∧
    ∀ environment config, ServerConfig.load environment = pure config →
      environment.get? "DATA_STORE_KIND" = some (.text config.store.kind) ∧
      (∀ tree, Builds config.store tree (config.store.build tree).1) ∧
      ∃ value store, assembly.program.load configRoot environment = pure value ∧
        ServerConfig.ofValue? value = some config ∧ member "data_store" value = some store ∧
        DispatchedBy dispatcher store config.store := by
  obtain ⟨assembly, dispatcher, assembled, keys, isDispatcher, isSelector, choices⟩ :=
    config_assembled
  refine ⟨assembly, dispatcher, assembled, isDispatcher, fun environment => ?_,
    fun environment other agree => ?_, fun environment config loads => ?_⟩
  · obtain ⟨outcome, -, reads⟩ := program_reads assembled environment
    rw [load_read assembled]
    cases outcome with
    | error error => exact ⟨.error error, by rw [reads]; rfl⟩
    | ok value =>
      obtain ⟨config, _, decoded, -, -⟩ := config_loaded reads
      refine ⟨.ok config, ?_⟩
      rw [reads]
      change Evaluation.ofOption (ServerConfig.ofValue? value) = _
      rw [decoded]
      rfl
  · rw [keys] at agree
    rw [load_read assembled, load_read assembled, config_agrees fun visit listed consulted => ?_]
    exact agree _ (visit_listed visit listed).1 consulted
  · rw [load_read assembled] at loads
    obtain ⟨value, reads, decoded⟩ := bind_value loads
    have decoded := ofOption_value decoded
    obtain ⟨other, store, sameDecoded, isStore, loaded⟩ := config_loaded reads
    cases decoded.symm.trans sameDecoded
    refine ⟨loaded.kind, loaded_builds loaded, value, store, ?_, decoded, isStore,
      loaded_dispatched loaded isSelector choices⟩
    obtain ⟨outcome, loads, again⟩ := program_reads assembled environment
    rw [loads, ← again, reads]

/-- The variables of a store in memory that has no room. -/
def roomless : List (String × Bytes) :=
  [("DATA_STORE_KIND", .text "MEM"), ("DATA_STORE_MEM_CAPACITY", .text "0")]

/-- What is set for the store in a file does not matter to it, even if it is no text. -/
theorem roomless_settled : ∃ config,
    ServerConfig.load (.ofList roomless) = pure config ∧
      ServerConfig.load (.ofList (("DATA_STORE_FILE_CREATE", .raw [255]) :: roomless)) =
        pure config ∧
      ∀ tree, (config.store.build tree).1 = .error (.failed "MEM" .zeroCapacity) := by
  obtain ⟨assembly, dispatcher, assembled, -, -, agrees, settled⟩ := config_settled
  obtain ⟨_, _, same, keys, -⟩ := config_assembled
  cases assembled.symm.trans same
  have loads : ServerConfig.load (.ofList roomless) = pure ⟨"localhost", 3000, false, ⟨5, 0⟩,
      ["GET", "PUT"], none, ⟨"MEM", some ⟨0⟩, none⟩⟩ := by
    rw [load_read assembled]
    exact value?_eq_some.mp (by decide +kernel)
  refine ⟨_, loads, ?_, fun tree => ?_⟩
  · rw [← loads, agrees _ (.ofList roomless)]
    rw [keys]
    unfold Consulted
    decide +kernel
  · obtain ⟨-, builds, -⟩ := settled _ _ loads
    exact ((builds tree).failed _ _).mpr ⟨rfl, .noRoom rfl rfl⟩

end EnvLoader.ServerSettings
