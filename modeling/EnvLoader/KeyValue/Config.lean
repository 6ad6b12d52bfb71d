import EnvLoader.Generate
import EnvLoader.KeyValue.Store
import EnvLoader.Loader.Evaluation
import EnvLoader.LoadMessage

/-! The configuration of the server. Its records are a schema, and the loader of that
schema reads them from the environment. -/
namespace EnvLoader.KeyValue
open Files Loader Text

/-- The settings of the store in memory. -/
structure MemoryStoreConfig where
  capacity : Nat
  deriving DecidableEq, Repr, Inhabited

/-- The settings of the store in a file. -/
structure FileStoreConfig where
  path : String
  /-- Whether a missing file is made. -/
  create : Bool
  deriving DecidableEq, Repr, Inhabited

/-- The kind of store, and its settings. -/
structure StoreConfig where
  kind : String
  memory : Option MemoryStoreConfig
  file : Option FileStoreConfig
  deriving DecidableEq, Repr, Inhabited

/-- The configuration of the server. -/
structure ServerConfig where
  host : String
  port : Nat
  debug : Bool
  shutdownTimeout : Duration
  allowedMethods : List String
  /-- The number of requests after which the server stops. -/
  maxRequests : Option Nat
  store : StoreConfig
  deriving DecidableEq, Repr, Inhabited

/-- The records of the configuration. -/
def configRecords : List Record :=
  [ { name := "Config"
      docs := "Top-level settings for the key-value server."
      fields :=
        [ { name := some "host", index := 0, shape := .named "String"
            options := { default := some "localhost" }
            docs := "Host will configure the http server for what hostname to listen on." },
          { name := some "port", index := 1, shape := .named "u16"
            options := { default := some "3000" }
            docs := "Port to listen on." },
          { name := some "debug", index := 2, shape := .named "bool"
            options := { default := some "false" }
            docs := "Logs every request at debug level." },
          { name := some "shutdown_timeout", index := 3, shape := .named "Duration"
            options := { default := some "5s" }
            docs := "How long in-flight requests get to finish on shutdown." },
          { name := some "allowed_methods", index := 4, shape := .sequence "String"
            options := { default := some "GET,PUT" }
            docs := "Request methods the server accepts." },
          { name := some "max_requests", index := 5, shape := .optional "u64"
            options := {}
            docs := "Stop after this many requests; unlimited when unset." },
          { name := some "data_store", index := 6, shape := .named "DataStoreConfig"
            options := {}
            docs := "Where values are kept." } ] },
    { name := "DataStoreConfig"
      docs := "Chooses and configures the backing store."
      fields :=
        [ { name := some "kind", index := 0, shape := .named "String"
            options := { build := some "Box<dyn DataStore>" }
            docs := "Store implementation to use." },
          { name := some "mem", index := 1, shape := .optional "MemDataStoreConfig"
            options := { key := some "MEM" }
            docs := "Settings for the in-memory store." },
          { name := some "file", index := 2, shape := .optional "FileDataStoreConfig"
            options := { key := some "FILE" }
            docs := "Settings for the file-backed store." } ] },
    { name := "MemDataStoreConfig"
      docs := "In-memory store settings."
      fields :=
        [ { name := some "capacity", index := 0, shape := .named "usize"
            options := { default := some "1024" }
            docs := "Maximum number of keys held." } ] },
    { name := "FileDataStoreConfig"
      docs := "File-backed store settings."
      fields :=
        [ { name := some "filename", index := 0, shape := .named "PathBuf"
            options := { key := some "FILENAME", default := some "data.db" }
            docs := "File that holds one `key=value` pair per line." },
          { name := some "create", index := 1, shape := .named "bool"
            options := { default := some "true" }
            docs := "Creates the file when it does not exist yet." } ] } ]

/-- The root record of the configuration. -/
def configRoot : String := "Config"

/-- The loader of the configuration. -/
def configLoader : Except GenerationError Assembly := do
  assemble (← Schema.ofRecords configRecords) { root := configRoot } .builtin

/-! ### Loaded values as configurations -/

/-- The value of a named member. -/
def member (name : String) (record : Value) : Option Value := record.member? (.name name)

/-- A text. -/
def asText? : Value → Option String
  | .text content => some content
  | _ => none

/-- A path. -/
def asPath? : Value → Option String
  | .path content => some content
  | _ => none

/-- A truth value. -/
def asBool? : Value → Option Bool
  | .bool content => some content
  | _ => none

/-- A number that is not negative. -/
def asNat? : Value → Option Nat
  | .integer (.ofNat number) => some number
  | _ => none

/-- A span of time. -/
def asDuration? : Value → Option Duration
  | .duration length => some length
  | _ => none

/-- A list of texts. -/
def asTexts? : Value → Option (List String)
  | .list items => items.mapM asText?
  | _ => none

/-- A value that may be absent. -/
def asOption? {α : Type} (read : Value → Option α) : Value → Option (Option α)
  | .absent => some none
  | .present value => (read value).map some
  | _ => none

/-- The settings of the store in memory. -/
def MemoryStoreConfig.ofValue? (value : Value) : Option MemoryStoreConfig := do
  return ⟨← member "capacity" value >>= asNat?⟩

/-- The settings of the store in a file. -/
def FileStoreConfig.ofValue? (value : Value) : Option FileStoreConfig := do
  return ⟨← member "filename" value >>= asPath?, ← member "create" value >>= asBool?⟩

/-- The kind of store, and its settings. -/
def StoreConfig.ofValue? (value : Value) : Option StoreConfig := do
  return {
    kind := ← member "kind" value >>= asText?
    memory := ← member "mem" value >>= asOption? MemoryStoreConfig.ofValue?
    file := ← member "file" value >>= asOption? FileStoreConfig.ofValue? }

/-- The configuration of the server. -/
def ServerConfig.ofValue? (value : Value) : Option ServerConfig := do
  return {
    host := ← member "host" value >>= asText?
    port := ← member "port" value >>= asNat?
    debug := ← member "debug" value >>= asBool?
    shutdownTimeout := ← member "shutdown_timeout" value >>= asDuration?
    allowedMethods := ← member "allowed_methods" value >>= asTexts?
    maxRequests := ← member "max_requests" value >>= asOption? asNat?
    store := ← member "data_store" value >>= StoreConfig.ofValue? }

/-- Loads the configuration from an environment. -/
def ServerConfig.load (environment : Environment) : Evaluation ServerConfig :=
  match configLoader with
  | .ok assembly => do
    let value ← assembly.program.load configRoot environment
    Evaluation.ofOption (ServerConfig.ofValue? value)
  | .error _ => Evaluation.stuck

/-! ### Building the store -/

/-- The store of the settings in memory. -/
def MemoryStoreConfig.build (config : MemoryStoreConfig) : Except StoreError Store :=
  (MemoryStore.empty config.capacity).map Store.memory

/-- The store of the settings in a file. -/
def FileStoreConfig.build (config : FileStoreConfig) (tree : Tree) :
    Except StoreError Store × Tree :=
  let (result, tree) := FileStore.openFile config.path config.create tree
  (result.map Store.file, tree)

/-- Builds the store that is selected. -/
def StoreConfig.build (config : StoreConfig) (tree : Tree) :
    Except (BuildError StoreError) Store × Tree :=
  if config.kind = "MEM" then
    match config.memory with
    | none => (.error (.invalidChoice config.kind), tree)
    | some memory => (memory.build.mapError (.failed config.kind), tree)
  else if config.kind = "FILE" then
    match config.file with
    | none => (.error (.invalidChoice config.kind), tree)
    | some file =>
      let (result, tree) := file.build tree
      (result.mapError (.failed config.kind), tree)
  else (.error (.invalidChoice config.kind), tree)

end EnvLoader.KeyValue
