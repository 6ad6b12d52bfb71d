import EnvLoader.Source.TypeReader

/-! Patterns and how they are read. -/
namespace EnvLoader.Source

mutual
/-- A pattern. The place of a path is a type expression: a path, or one that starts at a
type. Literals, constants and the ends of ranges are kept as tokens. -/
inductive Pattern where
  | attributed (attributes : List Attribute) (pattern : Pattern)
  | wild
  | rest
  | name (isRef isMut : Bool) (name : String) (subpattern : Option Pattern)
  | literal (tokens : List Token)
  | constant (tokens : List Token)
  | path (place : TypeExpr)
  | macroCall (path : ModulePath) (delimiter : Delimiter) (body : List Token)
  /-- A record. Dots for the fields that are left out come last, with their attributes. -/
  | record (place : TypeExpr) (fields : List FieldPattern) (rest : Option (List Attribute))
  | tupleRecord (place : TypeExpr) (elements : List Pattern)
  | tuple (elements : List Pattern) (trailing : Bool)
  | paren (inner : Pattern)
  | slice (elements : List Pattern)
  | reference (isMut : Bool) (target : Pattern)
  | oneOf (leading : Bool) (cases : List Pattern)
  | range (low : List Token) (isClosed : Bool) (high : List Token)
  | typed (pattern : Pattern) (type : TypeExpr)
  | verbatim (tokens : List Token)

/-- A field within a record pattern; without a pattern of its own it binds its name. -/
inductive FieldPattern where
  | mk (attributes : List Attribute) (field : Option String) (pattern : Pattern)
end

instance : Inhabited Pattern := ⟨.wild⟩

/-- The readers that patterns nest. -/
structure PatternGrammar extends TypeGrammar where
  pattern : Reader Pattern

/-- The position that an integer literal names, in decimal digits. -/
def position? (literal : String) : Option String :=
  match integer? literal with
  | some (value, []) => if value < 4294967296 then some (toString value) else none
  | _ => none

/-- A member of a record: a name, or a position. -/
def recordMember : Reader String := do
  match (← get).input with
  | .literal text :: rest =>
    let position ← (position? text : Option _)
    advance rest [.literal position]
    return position
  | _ => takeName

/-- The dots of a range: whether its upper end belongs to it. -/
def rangeMark (isClosed : Bool) : String := if isClosed then "..=" else ".."

/-- Whether a macro's mark comes next. -/
def atMacroMark : Ahead := fun tokens => atMark "!" tokens && !atMark "!=" tokens

namespace PatternGrammar
variable (grammar : PatternGrammar)

/-- Whether a further case follows. -/
def atCase : Ahead := fun tokens => atMark "|" tokens && !atMarkOf ["||", "|="] tokens

/-- Alternatives, perhaps after a leading bar. -/
def cases (allowLeading : Bool) : Reader Pattern := do
  let leading ← if allowLeading then optMark "|" else pure false
  let first ← grammar.pattern
  let rest ← whileAhead atCase do
    takeMark "|"
    grammar.pattern
  return if leading || !rest.isEmpty then .oneOf leading (first :: rest) else first

/-- Reads a path in an expression or pattern. -/
def place : Reader TypeExpr := do
  if ← ahead (atMark "<") then grammar.qualifiedPath true
  else return .path (← grammar.path true)

/-- An end of a range, if there is one, and whether it is a constant. -/
def rangeEnd : Reader (List Token) := do
  if ← ahead fun tokens => atEnd tokens || atMarkOf ["|", "=", ",", ";"] tokens
      || (atMark ":" tokens && !atMark "::" tokens) || atWord "if" tokens then return []
  if ← ahead atLiteral then takeLiteral
  else if ← ahead fun tokens =>
      atName tokens || atMarkOf ["::", "<"] tokens ||
        atWordOf ["self", "Self", "super", "crate"] tokens then
    captured grammar.place
  else captured do
    takeWord "const"
    grammar.block

/-- The rest of a range pattern after its lower end. A closed range needs an upper end; three
dots are an older way to write it. -/
def rangeFrom (low : List Token) : Reader Pattern := do
  let isClosed ← normalized (fun isClosed => mark (rangeMark isClosed)) do
    if ← optMark "..=" then return true
    else if ← optMark "..." then return true
    else
      takeMark ".."
      return false
  let high ← grammar.rangeEnd
  require (!(isClosed && high.isEmpty))
  return .range low isClosed high

/-- A field of a record pattern after its attributes. -/
def fieldPattern (attributes : List Attribute) : Reader FieldPattern :=
  orWritten (.mk attributes none <| .verbatim ·) do
    let isBox ← optWord "box"
    let isRef ← optWord "ref"
    let isMut ← optWord "mut"
    if isBox || isRef || isMut then
      let name ← takeName
      return if isBox then none else some (.mk attributes none (.name isRef isMut name none))
    else
      let isName ← ahead atName
      let name ← recordMember
      if !isName || (← ahead (atMark ":")) then
        takeMark ":"
        return some (.mk attributes (some name) (← grammar.cases true))
      else return some (.mk attributes none (.name false false name none))

/-- The fields of a record pattern. Nothing follows dots. -/
def fieldPatterns : Nat → Reader (List FieldPattern × Option (List Attribute))
  | 0 => failure
  | fuel + 1 => do
    if ← ahead atEnd then return ([], none)
    let attributes ← grammar.attributes
    if ← optMark ".." then return ([], some attributes)
    let first ← grammar.fieldPattern attributes
    if ← ahead atEnd then return ([first], none)
    takeMark ","
    let (fields, rest) ← fieldPatterns fuel
    return (first :: fields, rest)

/-- A pattern that starts with a path. -/
def placePattern : Reader Pattern := do
  let place ← grammar.place
  let called? : Option ModulePath ← do
    match place with
    | .path path => if ← ahead atMacroMark then pure path.module? else pure none
    | _ => pure none
  match called? with
  | some name =>
    takeMark "!"
    let (delimiter, body) ← anyGroup
    return .macroCall name delimiter body
  | none =>
    if ← ahead (atGroup .brace) then
      let (fields, rest) ← inGroup .brace do
        grammar.fieldPatterns ((← get).input.length + 1)
      return .record place fields rest
    else if ← ahead (atGroup .paren) then
      let (elements, _) ← inGroup .paren (commaList (grammar.cases true))
      return .tupleRecord place elements
    else if ← ahead (atMark "..") then grammar.rangeFrom place.tokens
    else return .path place

/-- A pattern without alternatives. -/
def single : Reader Pattern := do
  let atPlaceEnd : Ahead := fun tokens =>
    atMarkOf ["::", "!", ".."] tokens || atGroup .brace tokens || atGroup .paren tokens
  if ← ahead fun tokens =>
      atName tokens && second atPlaceEnd tokens
        || atWord "self" tokens && second (atMark "::") tokens
        || atMarkOf ["::", "<"] tokens || atWordOf ["Self", "super", "crate"] tokens then
    grammar.placePattern
  else if ← optWord "_" then return .wild
  else if ← ahead (atWord "box") then
    return .verbatim (← written do
      takeWord "box"
      let _ ← grammar.pattern)
  else if ← ahead fun tokens => atMark "-" tokens || atLiteral tokens || atWord "const" tokens then
    let isConstant ← ahead (atWord "const")
    let start ← grammar.rangeEnd
    if ← ahead (atMark "..") then grammar.rangeFrom start
    else if isConstant then return .constant start
    else return .literal start
  else if ← ahead fun tokens => atWordOf ["ref", "mut", "self"] tokens || atName tokens then
    let isRef ← optWord "ref"
    let isMut ← optWord "mut"
    let name ← if ← ahead (atWord "self") then anyWord else takeName
    let subpattern ← if ← optMark "@" then pure (some (← grammar.pattern)) else pure none
    return .name isRef isMut name subpattern
  else if ← optMark "&" then
    let isMut ← optWord "mut"
    return .reference isMut (← grammar.pattern)
  else if ← ahead (atGroup .paren) then
    let (elements, trailing) ← inGroup .paren (commaList (grammar.cases true))
    match elements, trailing with
    | [.rest], false => return .tuple elements false
    | [inner], false => return .paren inner
    | _, _ => return .tuple elements trailing
  else if ← ahead (atGroup .bracket) then
    let (elements, _) ← inGroup .bracket (commaList (grammar.cases true))
    let isOpenRange : Pattern → Bool
      | .range low _ high => low.isEmpty || high.isEmpty
      | _ => false
    require (!(elements.any isOpenRange))
    return .slice elements
  else if ← ahead fun tokens => atMark ".." tokens && !atMark "..." tokens then
    match ← grammar.rangeFrom [] with
    | .range [] false [] => return .rest
    | range => return range
  else failure

/-- A pattern with attributes in front, which are not kept where the pattern is kept as
tokens. A range gets brackets, so that the attributes belong to the whole of it. -/
def attributedPattern : Reader Pattern := do
  let (attributes, before) ← apart grammar.attributes
  let (pattern, tokens) ← apart grammar.pattern
  if ← ahead (atMark ":") then
    passOn (before ++ tokens)
    takeMark ":"
    let type ← grammar.type true
    return if attributes.isEmpty then .typed pattern type
      else .attributed attributes (.typed pattern type)
  else if attributes.isEmpty then
    passOn tokens
    return pattern
  else
    match pattern with
    | .verbatim _ =>
      passOn tokens
      return pattern
    | .range _ _ _ =>
      passOn (before ++ [.group .paren tokens])
      return .attributed attributes pattern
    | _ =>
      passOn (before ++ tokens)
      return .attributed attributes pattern

end PatternGrammar
end EnvLoader.Source
