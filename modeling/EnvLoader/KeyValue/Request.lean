import EnvLoader.Text.CharClass
import EnvLoader.Text.Lines
import EnvLoader.Text.Quoted

/-! Requests and responses. A request is a line: `GET` and a key, or `PUT`, a key and a
value, with single spaces between. The value may have spaces in it. -/
namespace EnvLoader.KeyValue
open Text

/-- What a request asks for. -/
inductive Method where
  | get
  | put
  deriving DecidableEq, Repr, Inhabited

namespace Method

/-- The name of a method. -/
def name : Method → String
  | get => "GET"
  | put => "PUT"

/-- The method of a name, in any letter case. -/
def ofName? (name : List Char) : Option Method :=
  let upper := String.ofList (name.map asciiUpper)
  if upper = "GET" then some .get else if upper = "PUT" then some .put else none

end Method

/-- A request. -/
inductive Request where
  | get (key : String)
  | put (key value : String)
  deriving DecidableEq, Repr, Inhabited

/-- The method of a request. -/
def Request.method : Request → Method
  | .get _ => .get
  | .put _ _ => .put

/-- Why a line is no request. -/
inductive RequestFault where
  | malformed (method : Method)
  | unknownMethod (name : String)
  deriving DecidableEq, Repr, Inhabited

/-- What is said about a fault. -/
def RequestFault.message : RequestFault → String
  | .malformed method => s!"malformed {method.name} request"
  | .unknownMethod name => "unknown method " ++ String.ofList (quote name.toList)

/-- The pieces of a line: its first two words, and all that follows them. -/
structure LinePieces where
  method : List Char
  key : Option (List Char)
  value : Option (List Char)
  deriving DecidableEq, Repr, Inhabited

/-- Cuts a line at its first two spaces. -/
def LinePieces.ofLine (line : List Char) : LinePieces :=
  match splitOnce ' ' line with
  | none => ⟨line, none, none⟩
  | some (method, rest) =>
    match splitOnce ' ' rest with
    | none => ⟨method, some rest, none⟩
    | some (key, value) => ⟨method, some key, some value⟩

/-- Reads a request from a line without white space around it. -/
def Request.ofTrimmed (line : List Char) : Except RequestFault Request :=
  let pieces := LinePieces.ofLine line
  match Method.ofName? pieces.method with
  | none => throw (.unknownMethod (String.ofList (pieces.method.map asciiUpper)))
  | some method =>
    match method, pieces.key.filter (!·.isEmpty), pieces.value with
    | .get, some key, none => return .get (String.ofList key)
    | .put, some key, some value => return .put (String.ofList key) (String.ofList value)
    | _, _, _ => throw (.malformed method)

/-- Reads a request from a line. -/
def Request.ofLine (line : String) : Except RequestFault Request :=
  Request.ofTrimmed (trim line.toList)

/-- What a request is answered with. -/
inductive Response where
  | value (content : String)
  | notFound
  | stored
  | rejected (reason : String)
  deriving DecidableEq, Repr, Inhabited

/-- A response as it is sent. -/
def Response.text : Response → String
  | .value content => "OK " ++ content
  | .notFound => "NOT_FOUND"
  | .stored => "STORED"
  | .rejected reason => "ERR " ++ reason

end EnvLoader.KeyValue
