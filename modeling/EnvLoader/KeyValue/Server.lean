import EnvLoader.KeyValue.Config
import EnvLoader.KeyValue.Request

/-! The server: it answers request lines against its store, until the lines end or as many
requests were answered as it is configured for. -/
namespace EnvLoader.KeyValue
open Files Loader Text

/-- A server. -/
structure Server where
  config : ServerConfig
  store : Store
  /-- The number of requests answered so far. -/
  served : Nat := 0
  deriving DecidableEq, Repr, Inhabited

/-- Why a server does not start. -/
inductive StartError where
  | load (error : LoadError)
  | build (error : BuildError StoreError)
  deriving DecidableEq, Repr, Inhabited

namespace Server

/-- Builds the store of a configuration and starts a server on it. -/
def ofConfig (config : ServerConfig) (tree : Tree) : Except (BuildError StoreError) Server × Tree :=
  let (store, tree) := config.store.build tree
  (store.map fun store => { config, store }, tree)

/-- Starts the server that an environment describes. -/
def ofEnvironment (environment : Environment) (tree : Tree) :
    Option (Except StartError Server × Tree) :=
  (ServerConfig.load environment).run.map fun
    | .error error => (.error (.load error), tree)
    | .ok config =>
      let (server, tree) := ofConfig config tree
      (server.mapError .build, tree)

/-- The address that a server is configured for. -/
def address (server : Server) : String := s!"{server.config.host}:{server.config.port}"

/-- Whether as many requests were answered as are allowed. -/
def isExhausted (server : Server) : Bool :=
  server.config.maxRequests.any (· ≤ server.served)

/-- Whether requests of a method are answered. Methods are configured in any letter case. -/
def allows (server : Server) (method : Method) : Bool :=
  server.config.allowedMethods.any fun allowed =>
    allowed.toList.map asciiLower = method.name.toList.map asciiLower

/-- Answers a request that is allowed. -/
def perform (server : Server) (tree : Tree) : Request → Response × Server × Tree
  | .get key =>
    match server.store.get? key with
    | some value => (.value value, server, tree)
    | none => (.notFound, server, tree)
  | .put key value =>
    match server.store.put tree key value with
    | .ok (store, tree) => (.stored, { server with store }, tree)
    | .error error => (.rejected error.message, server, tree)

/-- Answers a line. Every line counts, even one that is no request. -/
def handle (server : Server) (tree : Tree) (line : String) : Response × Server × Tree :=
  let server := { server with served := server.served + 1 }
  match Request.ofLine line with
  | .error fault => (.rejected fault.message, server, tree)
  | .ok request =>
    if server.allows request.method then server.perform tree request
    else (.rejected s!"method {request.method.name} not allowed", server, tree)

end Server

/-- How serving came to an end. -/
inductive Ending where
  /-- All lines were read. -/
  | inputOver
  /-- As many requests were answered as are allowed. A line was read to find that out. -/
  | exhausted
  /-- A line is no text. -/
  | notText
  deriving DecidableEq, Repr, Inhabited

/-- What serving came to. -/
structure Service where
  server : Server
  tree : Tree
  /-- The responses in order. -/
  responses : List Response := []
  ending : Ending := .inputOver
  /-- The lines that were not read. -/
  unread : List Bytes := []
  deriving DecidableEq, Inhabited

/-- What is sent: each response on a line of its own. -/
def Service.output (service : Service) : String :=
  String.join (service.responses.map fun response => response.text ++ "\n")

/-- Whether a line has nothing on it. -/
def isBlankLine (line : String) : Bool := (trim line.toList).isEmpty

/-- Answers lines in order. A line is read before the limit is looked at, and blank lines
are passed over. -/
def Server.serve (server : Server) (tree : Tree) : List Bytes → Service
  | [] => { server, tree }
  | line :: rest =>
    if server.isExhausted then { server, tree, ending := .exhausted, unread := rest }
    else
      match line.text? with
      | none => { server, tree, ending := .notText, unread := rest }
      | some line =>
        if isBlankLine line then server.serve tree rest
        else
          let (response, server, tree) := server.handle tree line
          let service := server.serve tree rest
          { service with responses := response :: service.responses }

end EnvLoader.KeyValue
