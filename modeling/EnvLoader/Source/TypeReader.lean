import EnvLoader.Source.TypeExpr

/-! Reading types and paths. Readers of what a construct nests are taken from a grammar,
so that each rule here is a plain definition; the grammar itself is closed elsewhere. -/
namespace EnvLoader.Source

/-- The readers that types nest. `type` takes whether a sum of bounds may follow without
brackets, `path` whether it stands in an expression, where arguments need a `::`.
`expression` and `block` only check what array lengths and constants hold. -/
structure TypeGrammar where
  type : Bool → Reader TypeExpr
  path : Bool → Reader Path
  param : Reader GenericParam
  expression : Reader Unit
  block : Reader Unit

/-- Whether angle brackets that may come next hold parameters of a declaration rather than
start a type. -/
def atGenerics : Ahead := fun tokens =>
  atMark "<" tokens &&
    (second (atMarkOf [">", "#"]) tokens
      || second (fun rest => atLifetime rest || atName rest) tokens
        && third (fun rest => atMarkOf [">", ",", "="] rest
          || atMark ":" rest && !atMark "::" rest) tokens
      || second (atWord "const") tokens)

/-- Whether a bound may start here, after a plus sign. -/
def atBound : Ahead := fun tokens =>
  atAnyWord tokens || atMarkOf ["::", "?"] tokens || atLifetime tokens || atGroup .paren tokens

/-- Lifetimes joined by plus signs up to a stop. -/
def lifetimesUntil (stop : Ahead) : Reader (List String × Bool) := listWhile stop "+" takeLifetime

/-- The list of what an opaque type captures: `use<…>`. -/
def captureList : Reader Bound := normalized Bound.tokens do
  takeWord "use"
  takeMark "<"
  let (params, trailing) ← listUntil (atMark ">") "," do
    if ← ahead atLifetime then return CapturedParam.lifetime (← takeLifetime)
    else if ← ahead (atWord "Self") then return .param (← anyWord)
    else return .param (← takeName)
  takeMark ">"
  return .capture params trailing

/-- The name of a calling convention after `extern`. -/
def optAbi : Reader (Option (Option String)) := do
  if ← optWord "extern" then
    match (← get).input with
    | .literal text :: _ =>
      if (stringValue? text).isSome then
        let _ ← anyTree
        return some (some text)
      else return some none
    | _ => return some none
  else return none

/-- A construct of the compiler's own, which starts with `builtin #`, kept as tokens. -/
def builtin : Reader (List Token) := written do
  takeWord "builtin"
  takeMark "#"
  let _ ← takeName
  inGroup .paren (do let _ ← allTrees)

/-- Whether a construct of the compiler's own starts here. -/
def atBuiltin : Ahead := fun tokens => atWord "builtin" tokens && second (atMark "#") tokens

namespace TypeGrammar
variable (grammar : TypeGrammar)

/-- Attributes of what follows. -/
def attributes : Reader (List Attribute) := outerAttributes grammar.expression

/-- A constant argument: a literal, a name, or a block. -/
def constantArgument : Reader (List Token) := do
  if ← ahead atLiteral then takeLiteral
  else if ← ahead atName then captured takeName
  else captured grammar.block

/-- The parameters that `for<…>` binds. -/
def binder : Reader Binder := do
  takeWord "for"
  takeMark "<"
  let (params, trailing) ← listUntil (atMark ">") "," grammar.param
  takeMark ">"
  return .mk params trailing

/-- An optional `for<…>`. -/
def optBinder : Reader (Option Binder) := do
  if ← ahead (atWord "for") then return some (← grammar.binder) else return none

/-- What a function returns, after an arrow. -/
def output (allowPlus : Bool) : Reader (Option TypeExpr) := do
  if ← optMark "->" then return some (← grammar.type allowPlus) else return none

/-- Arguments in round brackets, with what they are mapped to. -/
def inputArguments : Reader Arguments := do
  let (types, trailing) ← inGroup .paren (commaList (grammar.type true))
  return .inputs types trailing (← grammar.output false)

/-- Whether arguments in round brackets follow, perhaps after a `::`. -/
def atInputs : Ahead := fun tokens =>
  atGroup .paren tokens || atMark "::" tokens && third (atGroup .paren) tokens

/-- Gives the last segment of a path, which has no arguments of its own, those in round
brackets that follow. -/
def withInputs (path : Path) : Reader Path := do
  match path.segments.getLast? with
  | some last =>
    if last.arguments.isEmpty && (← ahead atInputs) then
      let _ ← optMark "::"
      let arguments ← grammar.inputArguments
      return .mk path.leading (path.segments.dropLast ++ [.mk last.name arguments])
    else return path
  | none => return path

/-- A bound by a trait, which stands in brackets or does not; none for a constant bound. -/
def traitBound? (allowConst isParen : Bool) : Reader (Option Bound) := do
  let before ← grammar.optBinder
  let isConst ←
    if ← ahead (atGroup .bracket) then
      inGroup .bracket (takeWord "const")
      pure true
    else optWord "const"
  require (!isConst || allowConst)
  let isMaybe ← optMark "?"
  let binder ← if before.isNone && isMaybe then grammar.optBinder else pure before
  let path ← grammar.withInputs (← grammar.path false)
  require (!(binder.isSome && isMaybe))
  return if isConst then none else some (.trait isParen isMaybe binder path)

/-- A bound. Capture lists and constant bounds stand only where the position allows them;
constant bounds are kept as tokens. -/
def bound (allowCapture allowConst : Bool) : Reader Bound := do
  if ← ahead atLifetime then return .lifetime (← takeLifetime)
  else if ← ahead (atWord "use") then
    require allowCapture
    captureList
  else normalized Bound.tokens do
    let isParen ← ahead (atGroup .paren)
    orWritten .verbatim
      (if isParen then inGroup .paren (grammar.traitBound? allowConst true)
      else grammar.traitBound? allowConst false)

/-- Bounds of a parameter, joined by plus signs up to a stop. -/
def boundsUntil (stop : Ahead) : Reader (List Bound × Bool) :=
  listWhile stop "+" (grammar.bound false true)

/-- A parameter of a declaration or of `for<…>`. -/
def genericParam : Reader GenericParam := normalized GenericParam.tokens do
  let attributes ← grammar.attributes
  let stop : Ahead := fun tokens => atEnd tokens || atMarkOf [",", ">"] tokens
  if ← ahead atLifetime then
    let name ← takeLifetime
    let (bounds, trailing) ← if ← optMark ":" then lifetimesUntil stop else pure ([], false)
    return .lifetime attributes name bounds trailing
  else if ← optWord "const" then
    let name ← takeName
    takeMark ":"
    let type ← grammar.type true
    let default ← if ← optMark "=" then grammar.constantArgument else pure []
    return .const attributes name type default
  else
    let name ← takeName
    let (bounds, trailing) ←
      if ← optMark ":" then
        grammar.boundsUntil fun tokens => stop tokens || atMark "=" tokens
      else pure ([], false)
    let default ← if ← optMark "=" then pure (some (← grammar.type true)) else pure none
    return .type attributes name bounds trailing default

/-- The bounds of a trait object or an opaque type: at least one of them is a trait, and
several are allowed only where a sum may stand. -/
def typeBounds (allowPlus isOpaque : Bool) : Reader (List Bound × Bool) := do
  let atMore : Ahead := fun tokens =>
    atBound tokens || isOpaque && (atGroup .bracket tokens || atWord "const" tokens)
  let first ← grammar.bound isOpaque isOpaque
  let (bounds, trailing) ←
    if ← optMarkIf allowPlus "+" then
      let (rest, trailing) ←
        listWhile (fun tokens => !atMore tokens) "+" (grammar.bound isOpaque isOpaque)
      pure (first :: rest, rest.isEmpty || trailing)
    else pure ([first], false)
  require (bounds.any fun
    | .lifetime _ | .capture _ _ => false
    | _ => true)
  return (bounds, trailing)

/-- Bounds after a first one, each with a plus sign before it. -/
def furtherBounds : Reader (List Bound) := whileAhead (atMark "+") do
  takeMark "+"
  grammar.bound false false

/-- An argument in angle brackets. A name may be followed by what it is to equal or by
what it is bound by. -/
def argument : Reader Argument := do
  if ← ahead fun tokens => atLifetime tokens && !second (atMark "+") tokens then
    return .lifetime (← takeLifetime)
  if ← ahead fun tokens => atLiteral tokens || atGroup .brace tokens then
    return .const (← grammar.constantArgument)
  let type ← grammar.type true
  match type with
  | .path (.mk false [.mk name arguments]) =>
    let isInputs :=
      match arguments with
      | .inputs _ _ _ => true
      | _ => false
    if isInputs then return .type type
    else if ← optMark "=" then
      if ← ahead fun tokens => atLiteral tokens || atGroup .brace tokens then
        return .assocConst name arguments (← grammar.constantArgument)
      else return .assocType name arguments (← grammar.type true)
    else if ← optMark ":" then
      let (bounds, trailing) ← grammar.boundsUntil (atMarkOf [",", ">"])
      return .constraint name arguments bounds trailing
    else return .type type
  | _ => return .type type

/-- Arguments in angle brackets, after a `::` that was taken or without one. -/
def angleArguments (turbofish : Bool) : Reader Arguments := do
  takeMark "<"
  let (arguments, trailing) ← listUntil (atMark ">") "," grammar.argument
  takeMark ">"
  return .angle turbofish arguments trailing

/-- A segment of a path. -/
def segment (inExpression : Bool) : Reader Segment := do
  if ← ahead (atWordOf ["super", "self", "crate", "try"]) then return .mk (← anyWord) .none
  let name ← if ← ahead (atWord "Self") then anyWord else takeName
  let atArguments : Ahead := fun tokens => atMark "<" tokens && !atMarkOf ["<=", "<<="] tokens
  if !inExpression && (← ahead atArguments) then
    return .mk name (← grammar.angleArguments false)
  else if ← ahead fun tokens => atMark "::" tokens && third (atMark "<") tokens then
    takeMark "::"
    return .mk name (← grammar.angleArguments true)
  else return .mk name .none

/-- A path. A `::` before round brackets does not continue it. -/
def wholePath (inExpression : Bool) : Reader Path := normalized Path.tokens do
  let leading ← optMark "::"
  let first ← grammar.segment inExpression
  let rest ← whileAhead (fun tokens => atMark "::" tokens && !third (atGroup .paren) tokens) do
    takeMark "::"
    grammar.segment inExpression
  return .mk leading (first :: rest)

/-- A path that starts at a type. -/
def qualifiedPath (inExpression : Bool) : Reader TypeExpr := normalized TypeExpr.tokens do
  takeMark "<"
  let base ← grammar.type true
  let trait ← if ← optWord "as" then pure (some (← grammar.path false)) else pure none
  takeMark ">"
  takeMark "::"
  let first ← grammar.segment inExpression
  let rest ← whileAhead (atMark "::") do
    takeMark "::"
    grammar.segment inExpression
  return .qualified base trait (first :: rest)

/-- A parameter of a function pointer. The first one may be a receiver that can be changed,
which is kept as tokens. -/
def fnInput (isFirst : Bool) (attributes : List Attribute) : Reader FnInput := do
  let atMutSelf : Ahead := fun tokens =>
    isFirst && atWord "mut" tokens && second (atWord "self") tokens
  let atNamed : Ahead := fun tokens =>
    (atName tokens || atWord "_" tokens || isFirst && atWord "self" tokens)
      && second (fun rest => atMark ":" rest && !atMark "::" rest) tokens
  let optNamed : Reader (Option String) := do
    if ← ahead atNamed then
      let name ← anyWord
      takeMark ":"
      return some name
    else return none
  orWritten (.mk attributes none <| .verbatim ·) do
    if ← ahead atMutSelf then
      takeWord "mut"
      if (← optNamed).isSome then let _ ← grammar.type true
      else takeWord "self"
      return none
    else
      let name ← optNamed
      if name != some "self" && (← ahead atMutSelf) then
        takeWord "mut"
        takeWord "self"
        return none
      else return some (.mk attributes name (← grammar.type true))

/-- Whether a variable number of further parameters is announced. -/
def atVariadic : Ahead := fun tokens =>
  atMark "..." tokens ||
    (atName tokens || atWord "_" tokens) && second (atMark ":") tokens &&
      third (atMark "...") tokens

/-- The announcement of a variable number of further parameters. -/
def variadicInput (attributes : List Attribute) : Reader VariadicInput := do
  let name ←
    if ← ahead (atMark "...") then pure none
    else
      let name ← anyWord
      takeMark ":"
      pure (some name)
  takeMark "..."
  return ⟨attributes, name, ← optMark ","⟩

/-- The parameters of a function pointer. -/
def fnInputs : Nat → Bool → Reader (List FnInput × Bool × Option VariadicInput)
  | 0, _ => failure
  | fuel + 1, isFirst => do
    if ← ahead atEnd then return ([], !isFirst, none)
    let attributes ← grammar.attributes
    if ← ahead atVariadic then return ([], !isFirst, some (← variadicInput attributes))
    let input ← grammar.fnInput isFirst attributes
    if ← ahead atEnd then return ([input], false, none)
    takeMark ","
    let (rest, trailing, variadic) ← fnInputs fuel false
    return (input :: rest, trailing, variadic)

/-- A function pointer after its `for<…>`. -/
def functionPointer (binder : Option Binder) : Reader TypeExpr := do
  let isUnsafe ← optWord "unsafe"
  let abi ← optAbi
  takeWord "fn"
  let (inputs, trailing, variadic) ← inGroup .paren do
    grammar.fnInputs ((← get).input.length + 1) true
  return .function binder isUnsafe abi inputs trailing variadic (← grammar.output false)

/-- What stands in round brackets: a type, or the first bound of a sum, which is no type by
itself. -/
def insideParens : Reader (TypeExpr ⊕ Bound) := do
  if ← ahead atEnd then return .inl (.tuple [] false)
  if ← ahead atLifetime then
    let (bounds, trailing) ← grammar.typeBounds true false
    return .inl (.paren (.traitObject false bounds trailing))
  if ← ahead (atMark "?") then
    let some first ← grammar.traitBound? false true | failure
    return .inr first
  let first ← grammar.type true
  if ← optMark "," then
    let (rest, trailing) ← commaList (grammar.type true)
    return .inl (.tuple (first :: rest) (rest.isEmpty || trailing))
  return .inl (.paren first)

/-- The bound that a type in round brackets is, before a plus sign. -/
def parenBound? : TypeExpr → Option Bound
  | .path path => some (.trait true false none path)
  | .traitObject false [.trait _ isMaybe binder path] false =>
    some (.trait true isMaybe binder path)
  | .traitObject false [other] false => some other
  | _ => none

/-- A type that starts with round brackets: a tuple, a bracketed type, or a sum of bounds. -/
def parenthesised (allowPlus : Bool) : Reader TypeExpr := do
  match ← inGroup .paren grammar.insideParens with
  | .inr first => return .traitObject false (first :: (← grammar.furtherBounds)) false
  | .inl (.paren inner) =>
    match parenBound? inner with
    | some first =>
      if allowPlus && (← ahead (atMark "+")) then
        return .traitObject false (first :: (← grammar.furtherBounds)) false
      else return .paren inner
    | none => return .paren inner
  | .inl type => return type

/-- A type that starts with a path: the path, a macro call, or the first of several bounds. -/
def pathType (binder : Option Binder) (allowPlus : Bool) : Reader TypeExpr := do
  if ← ahead (atMark "<") then
    grammar.qualifiedPath false
  else
    let path ← grammar.path false
    let atCall ← ahead fun tokens => atMark "!" tokens && !atMark "!=" tokens
    match if atCall then path.module? else none with
    | some name =>
      takeMark "!"
      let (delimiter, body) ← anyGroup
      return .macroCall name delimiter body
    | none =>
      let first : Bound := .trait false false binder path
      if ← optMarkIf allowPlus "+" then
        let (rest, trailing) ←
          listWhile (fun tokens => !atBound tokens) "+" (grammar.bound false false)
        return .traitObject false (first :: rest) (rest.isEmpty || trailing)
      else if binder.isSome then return .traitObject false [first] false
      else return .path path

/-- A trait object after its first word. A star before the bounds keeps it as tokens. -/
def dynType (allowPlus : Bool) : Reader TypeExpr := orWritten .verbatim do
  takeWord "dyn"
  let isStar ← optMark "*"
  let (bounds, trailing) ← grammar.typeBounds allowPlus false
  return if isStar then none else some (.traitObject true bounds trailing)

/-- A type. -/
def anyType (allowPlus : Bool) : Reader TypeExpr := normalized TypeExpr.tokens do
  let binder ← grammar.optBinder
  let atFunction : Ahead := atWordOf ["fn", "unsafe", "extern"]
  let atPath : Ahead := fun tokens =>
    atName tokens || atWordOf ["super", "self", "Self", "crate"] tokens
  if binder.isSome then
    require (← ahead fun tokens => atFunction tokens || atPath tokens)
  if ← ahead (atGroup .paren) then grammar.parenthesised allowPlus
  else if ← ahead atFunction then grammar.functionPointer binder
  else if ← ahead atBuiltin then return .verbatim (← builtin)
  else if ← ahead fun tokens => atPath tokens || atMarkOf ["::", "<"] tokens then
    grammar.pathType binder allowPlus
  else if ← ahead (atWord "dyn") then grammar.dynType allowPlus
  else if ← ahead (atGroup .bracket) then
    inGroup .bracket do
      let element ← grammar.type true
      if ← optMark ";" then return .array element (← captured grammar.expression)
      else return .slice element
  else if ← optMark "*" then
    let isMut ← optWord "mut"
    if !isMut then takeWord "const"
    return .pointer isMut (← grammar.type false)
  else if ← optMark "&" then
    let life ← optLifetime
    let isMut ← optWord "mut"
    return .reference life isMut (← grammar.type false)
  else if ← optMark "!" then return .never
  else if ← optWord "impl" then
    let (bounds, trailing) ← grammar.typeBounds allowPlus true
    return .implTrait bounds trailing
  else if ← optWord "_" then return .infer
  else if ← ahead atLifetime then
    let (bounds, trailing) ← grammar.typeBounds true false
    return .traitObject false bounds trailing
  else failure

end TypeGrammar
end EnvLoader.Source
