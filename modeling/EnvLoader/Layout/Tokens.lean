import EnvLoader.Layout.Doc
import EnvLoader.Source.Token

/-! Layout of token sequences whose grammar is not known: the inside of attributes and of
macro calls. Where a space belongs is told by a token and the one before it. -/
namespace EnvLoader.Layout
open Source

/-- The spelling of a token that is no group. -/
def spellingOf : Token → String
  | .ident name => name
  | .punct char _ => char.toString
  | .literal text => text
  | .group _ _ => ""

/-- The opening bracket. -/
def openingOf : Delimiter → String
  | .paren => "("
  | .bracket => "["
  | .brace => "\x7b"

/-- The closing bracket. -/
def closingOf : Delimiter → String
  | .paren => ")"
  | .bracket => "]"
  | .brace => "\x7d"

/-- Whether the last token is a comma. -/
def endsInComma (tokens : List Token) : Bool :=
  match tokens.getLast? with
  | some (.punct ',' _) => true
  | _ => false

/-- Layout of the inside of an attribute. `afterWord` says whether a word comes before, and
`isNested` whether the tokens stand in brackets. -/
def attributeTokens (isNested afterWord : Bool) : List Token → List Doc
  | [] => []
  | .ident name :: rest =>
    separation ++ word name ++ attributeTokens isNested true rest
  | .literal text :: rest =>
    separation ++ word text ++ attributeTokens isNested true rest
  | .punct char _ :: rest =>
    let before := if afterWord && char == '=' then nbsp else []
    let after :=
      if char == '=' then nbsp
      else if char == ',' then (if isNested then space else nbsp)
      else []
    if char == ',' && rest.isEmpty then before ++ comma true
    else before ++ word char.toString ++ after ++ attributeTokens isNested false rest
  | .group .paren body :: rest =>
    let inside := attributeTokens true false body
    word "(" ++
      cbox step (zeroGap ++ shifted (inside ++ (if endsInComma body then [] else zeroGap))) ++
      word ")" ++ attributeTokens true false rest
  | .group delimiter body :: rest =>
    word (openingOf delimiter) ++ attributeTokens true false body ++ word (closingOf delimiter) ++
      attributeTokens true false rest
where
  separation : List Doc := if afterWord then (if isNested then space else nbsp) else []

/-- What came before a token in a macro. -/
inductive TokenContext where
  | start | dollar | dollarCrate | dollarName | dollarNameColon | dollarGroup | dollarSeparator
  | pound | poundBang | dot | colon | colons | callee | calleeBang | closed | other
  deriving DecidableEq, Repr

/-- The words that are never called or accessed. -/
def structureWords : List String :=
  ["as", "async", "await", "box", "break", "const", "continue", "crate", "dyn", "else", "enum",
    "extern", "fn", "for", "if", "impl", "in", "let", "loop", "macro", "match", "mod", "move",
    "mut", "pub", "ref", "return", "static", "struct", "trait", "type", "unsafe", "use", "where",
    "while", "yield"]

/-- Whether a space belongs before a token, and the context after it. -/
def TokenContext.next (isPattern : Bool) (context : TokenContext) (token : Token) :
    Bool × TokenContext :=
  match context, token with
  | .dollar, .ident name =>
    (false, if isPattern then .dollarName else if name == "crate" then .dollarCrate else .other)
  | .dollarName, .punct ':' .alone => (false, .dollarNameColon)
  | .dollarNameColon, .ident _ => (false, .other)
  | .dollarGroup, .punct '+' .alone | .dollarGroup, .punct '*' .alone
  | .dollarGroup, .punct '?' .alone => (false, .other)
  | .dollarGroup, .ident _ | .dollarGroup, .literal _ => (false, .dollarSeparator)
  | .dollarGroup, .punct _ .joint => (false, .dollarGroup)
  | .dollarGroup, .punct _ .alone => (false, .dollarSeparator)
  | .dollarSeparator, .punct '+' _ | .dollarSeparator, .punct '*' _ => (false, .other)
  | .pound, .punct '!' _ => (false, .poundBang)
  | .dollar, .group .paren _ => (false, .dollarGroup)
  | .pound, .group .bracket _ | .poundBang, .group .bracket _ => (false, .other)
  | .callee, .group .paren _ | .callee, .group .bracket _ => (false, .closed)
  | .callee, .punct '!' .alone => (false, .calleeBang)
  | .calleeBang, .group .paren _ | .calleeBang, .group .bracket _ => (false, .other)
  | .colon, .punct ':' _ => (false, .colons)
  | _, .group .paren _ | _, .group .bracket _ => (true, .closed)
  | _, .group .brace _ => (true, .other)
  | _, .ident name =>
    if structureWords.contains name then (true, .other)
    else (context != .dot && context != .colons, .callee)
  | _, .literal text =>
    (context != .dot, if text.toList.getLast? = some '.' then .other else .callee)
  | _, .punct ',' _ | _, .punct ';' _ => (false, .other)
  | _, .punct char spacing =>
    if char == '.' && !isPattern then (context != .callee && context != .closed, .dot)
    else if char == ':' && spacing == .joint then
      (context != .callee && context != .dollarCrate, .colon)
    else if char == '$' then (true, .dollar)
    else if char == '#' then (true, .pound)
    else (true, .other)

/-- Whether a token is a dot. -/
def isDot : Token → Bool
  | .punct '.' _ => true
  | _ => false

/-- Whether the token after this one sticks to it. -/
def sticks : Token → Bool
  | .punct '$' _ => true
  | token => token.isJoint

/-- Layout of the tokens of a macro. `joined` says that the first one sticks to what comes
before it. -/
def macroTokens (isPattern : Bool) (context : TokenContext) (joined : Bool) : List Token → List Doc
  | [] => []
  | token :: rest =>
    let (needsSpace, context) := context.next isPattern token
    let separation :=
      if joined then []
      else if needsSpace then space
      else if isDot token then zeroGap
      else []
    let body :=
      match token with
      | .group delimiter body =>
        let inside := macroTokens isPattern .start true body
        let room := if delimiter == .brace && !body.isEmpty then space else []
        word (openingOf delimiter) ++ room ++ inside ++ room ++ word (closingOf delimiter)
      | token => word (spellingOf token)
    separation ++ body ++ macroTokens isPattern context (sticks token) rest

/-- Tokens in a macro's brackets, each end on a line of its own if they do not fit. -/
def macroBody (atEnds : List Doc) (isPattern : Bool) (body : List Token) : List Doc :=
  if body.isEmpty then []
  else cbox step (atEnds ++ ibox 0 (macroTokens isPattern .start true body) ++ shifted atEnds)

/-- A call of a macro, its name given. -/
def macroDoc (name : List Doc) (delimiter : Delimiter) (body : List Token) : List Doc :=
  let atEnds := if delimiter == .brace then newline else zeroGap
  name ++ word "!" ++ (if delimiter == .brace then nbsp else []) ++ word (openingOf delimiter) ++
    macroBody atEnds false body ++ word (closingOf delimiter)

/-- A place within the rules of a macro by example. -/
inductive RulePlace where
  | pattern | arrow | arrowEnd | body | after
  deriving DecidableEq, Repr

/-- Layout of the rules of a macro by example. -/
def macroRules : RulePlace → List Token → List Doc
  | .pattern, [] => []
  | .after, [] => word ";" ++ newline
  | _, [] => newline
  | .pattern, .group delimiter pattern :: rest =>
    word (openingOf delimiter) ++ macroBody zeroGap true pattern ++ word (closingOf delimiter) ++
      macroRules .arrow rest
  | .arrow, .punct '=' .joint :: rest => word " =" ++ macroRules .arrowEnd rest
  | .arrowEnd, .punct '>' _ :: rest => word ">" ++ macroRules .body rest
  | .body, .group _ body :: rest =>
    word " \x7b" ++ noGap ++ macroBody newline false body ++ word "\x7d" ++ macroRules .after rest
  | .after, .punct ';' _ :: rest => word ";" ++ newline ++ macroRules .pattern rest
  | place, token :: rest => word (spellingOf token) ++ macroRules place rest

end EnvLoader.Layout
