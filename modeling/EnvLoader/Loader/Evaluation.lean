import EnvLoader.Environment
import EnvLoader.Loader.Format
import EnvLoader.Loader.Program
import EnvLoader.Loader.Value

/-! What loaders do when they run. Running one in an environment gives a value or the
first error. A program that refers to what it does not declare is stuck; no environment
can bring a complete program there. -/
namespace EnvLoader.Loader
open Text

/-- A computation that comes to a value or an error, unless it is stuck. -/
abbrev Evaluation := ExceptT LoadError Option

/-- Has no result. -/
def Evaluation.stuck {α : Type} : Evaluation α := ExceptT.mk none

/-- Goes on with what is there, and is stuck where it is not. -/
def Evaluation.ofOption {α : Type} : Option α → Evaluation α
  | some value => pure value
  | none => stuck

/-- The truth value that a text spells. -/
def truthValue? (text : String) : Option Bool :=
  if ["y", "yes", "true", "t", "1", "on"].contains text then some true
  else if ["n", "no", "false", "f", "0", "off"].contains text then some false
  else none

/-- Converts the text of a variable. Everything but text and paths may have white space
around it. -/
def Conversion.apply (conversion : Conversion) (type key raw : String) : Evaluation Value :=
  let trimmed := trim raw.toList
  match conversion with
  | .text => return .text raw
  | .path => return .path raw
  | .bool =>
    match truthValue? (String.ofList (trimmed.map asciiLower)) with
    | some content => return .bool content
    | none => throw (.invalidBool key raw)
  | .int => do
    let type ← Evaluation.ofOption (IntegerType.ofName? type)
    match readInteger type trimmed with
    | .ok number => return .integer number
    | .error fault => throw (.invalidInteger key fault)
  | .float =>
    match readDecimal trimmed with
    | .ok number => return .float number
    | .error fault => throw (.invalidFloat key fault)
  | .duration =>
    match readDuration trimmed with
    | .ok length => return .duration length
    | .error fault => throw (.invalidDuration key fault)

/-- What a type has where nothing else is given. -/
def Conversion.fallback : Conversion → Value
  | .text => .text ""
  | .path => .path ""
  | .bool => .bool false
  | .int => .integer 0
  | .float => .float .zero
  | .duration => .duration .zero

/-- The items of a list: what stands between commas, without white space around it, and
without what is blank. -/
def listItems (raw : List Char) : List (List Char) :=
  ((splitAt ',' raw).map trim).filter (!·.isEmpty)

/-- The name of the type that a parser function converts to. -/
def ParserFn.typeName (parser : ParserFn) : String := Source.textOf parser.type.tokens

/-- Converts what a parser function has read. A list fails with the first item that does. -/
def ParserFn.apply (parser : ParserFn) (key raw : String) : Evaluation Value :=
  let convert := parser.conversion.apply parser.typeName key
  if parser.isList then
    return .list (← (listItems raw.toList).mapM fun item => convert (String.ofList item))
  else convert raw

/-- What a parser function has where nothing else is given. -/
def ParserFn.fallback (parser : ParserFn) : Value :=
  if parser.isList then .list [] else parser.conversion.fallback

/-- The text of a variable, if it is set. -/
def readText? (environment : Environment) (key : String) : Evaluation (Option String) :=
  match environment.get? key with
  | none => return none
  | some (.text raw) => return some raw
  | some (.raw _) => throw (.notUnicode key)

/-- Calls a parser function for a variable that has to be set. -/
def ParserFn.require (parser : ParserFn) (environment : Environment) (key : String) :
    Evaluation Value := do
  match ← readText? environment key with
  | some raw => parser.apply key raw
  | none => throw (.keyNotFound key)

/-- Calls a parser function for a variable that may be unset. -/
def ParserFn.request (parser : ParserFn) (environment : Environment) (default : Option String)
    (key : String) : Evaluation (Option Value) := do
  match (← readText? environment key).or default with
  | some raw => return some (← parser.apply key raw)
  | none => return none

/-- What the expressions of a constructor can refer to. -/
structure Scope where
  environment : Environment
  keyPrefix : Option String
  /-- The value of the selector, once it is read. -/
  selected : Option String
  /-- The parser function of a name. -/
  parser? : String → Option ParserFn
  /-- Calls the constructor of a nested record below a prefix. -/
  nested : String → String → Evaluation Value

/-- The name that a key expression stands for. -/
def Scope.key (scope : Scope) (key : KeyExpr) : Evaluation String :=
  Evaluation.ofOption (key.name? scope.keyPrefix)

/-- The parser function of a name, which has to treat unset variables in a given way. -/
def Scope.parser (scope : Scope) (name : String) (isRequired : Bool) : Evaluation ParserFn :=
  Evaluation.ofOption ((scope.parser? name).filter (·.isRequired = isRequired))

/-- The value of an expression. -/
def ValueExpr.eval (scope : Scope) : ValueExpr → Evaluation Value
  | .required name key => do
    (← scope.parser name true).require scope.environment (← scope.key key)
  | .optional name default key => do
    let parser ← scope.parser name false
    match ← parser.request scope.environment default (← scope.key key) with
    | Option.some value => return .present value
    | none => return .absent
  | .orDefault name default key => do
    let parser ← scope.parser name false
    match ← parser.request scope.environment default (← scope.key key) with
    | Option.some value => return value
    | none => return parser.fallback
  | .nested record key => do scope.nested record (← scope.key key)
  | .some value => do return .present (← value.eval scope)
  | .guarded label value => do
    if (← Evaluation.ofOption scope.selected) = label then return .present (← value.eval scope)
    else return .absent

/-- The values of members in order. -/
def evalMembers (scope : Scope) :
    List (MemberName × ValueExpr) → Evaluation (List (MemberName × Value))
  | [] => return []
  | (name, value) :: rest => do
    let value ← value.eval scope
    return (name, value) :: (← evalMembers scope rest)

/-- Runs a constructor: it reads the selector, then the other members, and puts the
selector behind them. -/
def Constructor.eval (constructor : Constructor) (scope : Scope) : Evaluation Value := do
  match constructor.selector with
  | none => return .record constructor.record (← evalMembers scope constructor.members)
  | some (name, value) =>
    match ← value.eval scope with
    | .text selected =>
      let scope := { scope with selected }
      let members ← evalMembers scope constructor.members
      return .record constructor.record (members ++ [(name, .text selected)])
    | _ => Evaluation.stuck

namespace Program

/-- The implementation of a record. -/
def implementation? (program : Program) (record : String) : Option Implementation :=
  program.implementations.find? (·.record = record)

/-- The parser function of a name. -/
def parser? (program : Program) (name : String) : Option ParserFn :=
  program.parsers.find? (·.name = name)

/-- Calls the constructor of a record, which nests other records so many levels deep. -/
def construct (program : Program) (environment : Environment) :
    Nat → String → Option String → Evaluation Value
  | 0, _, _ => Evaluation.stuck
  | depth + 1, record, keyPrefix => do
    let implementation ← Evaluation.ofOption (program.implementation? record)
    if implementation.constructor.isRoot = keyPrefix.isNone then
      implementation.constructor.eval {
        environment
        keyPrefix
        selected := none
        parser? := program.parser?
        nested := fun record keyPrefix =>
          construct program environment depth record (some keyPrefix) }
    else Evaluation.stuck

/-- Loads the root record from an environment. Records do not nest themselves, so their
number bounds the depth. -/
def load (program : Program) (root : String) (environment : Environment) : Evaluation Value :=
  program.construct environment program.implementations.length root none

end Program

/-- Runs a dispatcher on a loaded record, given what the methods of its candidates do. The
first choice with the selected label counts. -/
def Dispatcher.build {ε β : Type} (dispatcher : Dispatcher) (record : Value)
    (method : Choice → Value → Except ε β) : Option (Except (BuildError ε) β) :=
  match record.member? dispatcher.selectorMember with
  | some (.text selected) =>
    match dispatcher.choices.find? (·.label = selected) with
    | none => some (.error (.invalidChoice selected))
    | some choice =>
      match record.member? choice.member with
      | some .absent => some (.error (.invalidChoice selected))
      | some (.present value) =>
        some ((method choice value).mapError (BuildError.failed selected))
      | _ => none
  | _ => none

end EnvLoader.Loader
