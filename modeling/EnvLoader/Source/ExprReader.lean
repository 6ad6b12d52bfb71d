import EnvLoader.Source.Code

/-! Reading expressions and statements. Operators are read by climbing: an operand takes
what follows it as long as that binds more tightly than what came before. -/
namespace EnvLoader.Source

/-- How tightly operators bind, from the loosest on. -/
inductive Precedence where
  | any | assign | range | or | and | binding | compare | bitOr | bitXor | bitAnd | shift | sum
  | product | cast
  deriving DecidableEq, Repr

/-- The place of a precedence in the order. -/
def Precedence.rank : Precedence → Nat
  | .any => 0 | .assign => 1 | .range => 2 | .or => 3 | .and => 4 | .binding => 5
  | .compare => 6 | .bitOr => 7 | .bitXor => 8 | .bitAnd => 9 | .shift => 10 | .sum => 11
  | .product => 12 | .cast => 13

instance : LE Precedence := ⟨fun low high => low.rank ≤ high.rank⟩
instance : LT Precedence := ⟨fun low high => low.rank < high.rank⟩
instance (low high : Precedence) : Decidable (low ≤ high) := Nat.decLe _ _
instance (low high : Precedence) : Decidable (low < high) := Nat.decLt _ _

/-- The operators of two operands. A longer one stands before its beginnings. -/
def binaryOperators : List (String × Precedence) :=
  [("+=", .assign), ("-=", .assign), ("*=", .assign), ("/=", .assign), ("%=", .assign),
    ("^=", .assign), ("&=", .assign), ("|=", .assign), ("<<=", .assign), (">>=", .assign),
    ("&&", .and), ("||", .or), ("<<", .shift), (">>", .shift), ("==", .compare),
    ("<=", .compare), ("!=", .compare), (">=", .compare), ("+", .sum), ("-", .sum),
    ("*", .product), ("/", .product), ("%", .product), ("^", .bitXor), ("&", .bitAnd),
    ("|", .bitOr), ("<", .compare), (">", .compare)]

/-- The operator that comes next. -/
def operatorAhead? (tokens : List Token) : Option (String × Precedence) :=
  binaryOperators.find? fun (text, _) => atMark text tokens

/-- An equals sign that is no part of an arrow. -/
def atAssign : Ahead := fun tokens => atMark "=" tokens && !atMark "=>" tokens

/-- How tightly what comes next binds to an operand before it. -/
def precedenceAhead (tokens : List Token) : Precedence :=
  match operatorAhead? tokens with
  | some (_, precedence) => precedence
  | none =>
    if atAssign tokens then .assign
    else if atMark ".." tokens then .range
    else if atWord "as" tokens then .cast
    else .any

/-- Whether an expression is a comparison, which does not chain. -/
def Expr.isComparison : Expr → Bool
  | .binary _ operator _ => ["==", "<=", "!=", ">=", "<", ">"].contains operator
  | _ => false

/-- The readers that expressions nest. The flag says whether a record in curly brackets
may stand there. `climb` goes on from an operand; `early` reads an expression that ends
where a statement could. -/
structure CodeGrammar extends PatternGrammar where
  expr : Bool → Reader Expr
  unary : Bool → Reader Expr
  climb : Bool → Expr → Precedence → Reader Expr
  early : Reader Expr
  statements : Reader (List Stmt)
  item : Reader Item

namespace CodeGrammar
variable (grammar : CodeGrammar)

/-- Statements in curly brackets after the attributes of the block. -/
def blockBody : Reader Block := inGroup .brace do
  let attributes ← innerAttributes grammar.expression
  return .mk attributes (← grammar.statements)

/-- Statements in curly brackets that have no attributes of the block. -/
def plainBody : Reader Block := inGroup .brace do
  return .mk [] (← grammar.statements)

/-- The operand to the right of an operator, with all that binds to it more tightly. -/
def rightOperand (allowRecord : Bool) (precedence : Precedence) : Reader Expr := do
  let first ← grammar.unary allowRecord
  go ((← get).input.length + 1) first
where
  go : Nat → Expr → Reader Expr
    | 0, operand => pure operand
    | fuel + 1, operand => do
      let before := (← get).input
      let next := precedenceAhead before
      if precedence < next || next == precedence && precedence == .assign then
        let operand ← grammar.climb allowRecord operand next
        if (← get).input.length = before.length then return operand
        else go fuel operand
      else return operand

/-- The upper end of a range, which an open one may lack. -/
def rangeEndExpr (allowRecord isClosed : Bool) : Reader (Option Expr) := do
  let atStop : Ahead := fun tokens =>
    atEnd tokens || atMarkOf [",", ";", "?", "=>", "=", "+", "/", "%", "^", ">", "<=", "!=", "-=",
        "*=", "&=", "|=", "<<="] tokens
      || atMark "." tokens && !atMark ".." tokens
      || !allowRecord && atGroup .brace tokens || atWord "as" tokens
  if !isClosed && (← ahead atStop) then return none
  else return some (← grammar.rightOperand allowRecord .range)

/-- The dots of a range: whether its upper end belongs to it. -/
def rangeDots : Reader Bool := do
  if ← optMark "..=" then return true
  else if ← ahead (atMark "...") then failure
  else takeMark ".."; return false

/-- One step of climbing: takes an operator that binds at least as tightly as the base,
with its right operand. Gives none where the expression ends. -/
def climbStep (allowRecord : Bool) (left : Expr) (base : Precedence) : Reader (Option Expr) := do
  let tokens := (← get).input
  if left.isRange then return none
  match operatorAhead? tokens with
  | some (operator, precedence) =>
    if precedence < base then return none
    if precedence == .compare && left.isComparison then failure
    takeMark operator
    return some (.binary left operator (← grammar.rightOperand allowRecord precedence))
  | none =>
    if base ≤ .assign && atAssign tokens then
      takeMark "="
      return some (.assign left (← grammar.rightOperand allowRecord .assign))
    else if base ≤ .range && atMark ".." tokens then
      let isClosed ← rangeDots
      return some (.range (some left) isClosed (← grammar.rangeEndExpr allowRecord isClosed))
    else if base ≤ .cast && atWord "as" tokens then
      takeWord "as"
      let type ← grammar.type false
      require (!(← ahead fun tokens =>
        atMark "." tokens && !atMark ".." tokens || atMark "?" tokens
          || atGroup .bracket tokens || atGroup .paren tokens))
      return some (.cast left type)
    else return none

/-- Climbs from an operand as far as the base allows. -/
def climbFrom (allowRecord : Bool) (left : Expr) (base : Precedence) : Reader Expr := do
  go ((← get).input.length + 1) left
where
  go : Nat → Expr → Reader Expr
    | 0, left => pure left
    | fuel + 1, left => do
      match ← grammar.climbStep allowRecord left base with
      | some left => go fuel left
      | none => return left

/-- The members that a decimal literal after a dot names, and whether its last dot asks for
a further one. -/
def positions? (literal : String) : Option (List String × Bool) := do
  let pieces := Text.splitAt '.' literal.toList
  let isOpen := pieces.getLast? == some []
  let named := if isOpen then pieces.dropLast else pieces
  return (← named.mapM fun piece => position? (String.ofList piece), isOpen)

/-- Takes the members that a decimal literal names, which is what two positions in a row read
as. Gives the operand with them, and whether a further member is still to come. -/
def decimalMembers (operand : Expr) : Reader (Expr × Bool) := do
  match (← get).input with
  | .literal text :: rest =>
    if isNumber text && (integer? text).isNone then
      let (positions, isOpen) ← (positions? text : Option _)
      advance rest (separatedBy (mark ".") isOpen (positions.map fun digits => [.literal digits]))
      return (positions.foldl .field operand, isOpen)
    else return (operand, true)
  | _ => return (operand, true)

/-- The arguments of a call. -/
def callArguments : Reader (List Expr) := do
  return (← inGroup .paren (commaList (grammar.expr true))).1

/-- A member, a call of a method or an `await`, after the dot. -/
def memberAccess (operand : Expr) : Reader Expr := do
  if ← optWord "await" then return .await operand
  let isName ← ahead atName
  let name ← recordMember
  let generics ←
    if isName && (← ahead (atMark "::")) then
      normalized Arguments.tokens do
        takeMark "::"
        grammar.angleArguments true
    else pure .none
  if isName && (!generics.isNone || (← ahead (atGroup .paren))) then
    return .methodCall operand name generics (← grammar.callArguments)
  else return .field operand name

/-- What follows an operand directly: calls, members, indices and early returns. -/
def trailers (first : Expr) : Reader Expr := do
  go ((← get).input.length + 1) first
where
  go : Nat → Expr → Reader Expr
    | 0, operand => pure operand
    | fuel + 1, operand => do
      let tokens := (← get).input
      if atGroup .paren tokens then go fuel (.call operand (← grammar.callArguments))
      else if atMark "." tokens && !atMark ".." tokens && !operand.isRange then
        takeMark "."
        let (operand, isOpen) ← decimalMembers operand
        if isOpen then go fuel (← grammar.memberAccess operand) else go fuel operand
      else if atGroup .bracket tokens then
        let index ← inGroup .bracket (grammar.expr true)
        go fuel (.index operand index)
      else if atMark "?" tokens && !operand.isRange then
        takeMark "?"
        go fuel (.attempt operand)
      else return operand

/-- A label before a loop or a block. -/
def optLabel : Reader (Option String) := do
  if ← ahead atLifetime then
    let name ← takeLifetime
    takeMark ":"
    return some name
  else return none

/-- What stands before a body in curly brackets: no record may stand there, and a block at the
end gets round brackets. -/
def condition : Reader Expr := do
  let (expr, tokens) ← apart (grammar.expr false)
  match expr.beforeBody? with
  | some bracketed =>
    passOn (tokens.dropLast ++ [.group .paren tokens.getLast?.toList])
    return bracketed
  | none =>
    passOn tokens
    return expr

/-- A chain of branches. -/
def branches : Nat → Reader Expr
  | 0 => failure
  | fuel + 1 => do
    takeWord "if"
    let condition ← grammar.condition
    let body ← grammar.plainBody
    if !(← optWord "else") then return .ifElse condition body none
    else if ← ahead (atWord "if") then
      return .ifElse condition body (some (← branches fuel))
    else return .ifElse condition body (some (.block "" none (← grammar.plainBody)))

/-- An arm of a match. -/
def arm : Reader Arm := do
  let attributes ← grammar.attributes
  let pattern ← grammar.cases true
  let guard ← if ← optWord "if" then pure (some (← grammar.expr true)) else pure none
  takeMark "=>"
  let body ← grammar.early
  if body.needsComma && !(← ahead atEnd) then takeMark ","
  else let _ ← optMark ","
  return .mk attributes pattern guard body

/-- A match. -/
def matchExpr : Reader Expr := do
  takeWord "match"
  let scrutinee ← grammar.condition
  inGroup .brace do
    let attributes ← innerAttributes grammar.expression
    return .matching scrutinee attributes (← whileAhead (!atEnd ·) grammar.arm)

/-- A loop, with its label if it has one. -/
def loopExpr (label : Option String) : Reader Expr := do
  if ← optWord "while" then
    let condition ← grammar.condition
    return .whileLoop label condition (← grammar.blockBody)
  else if ← optWord "for" then
    let pattern ← grammar.cases true
    takeWord "in"
    let iterated ← grammar.condition
    return .forLoop label pattern iterated (← grammar.blockBody)
  else if ← optWord "loop" then return .loop label (← grammar.blockBody)
  else return .block "" label (← grammar.blockBody)

/-- A closure. With a declared output its body is a block. -/
def closure (allowRecord : Bool) : Reader Expr := do
  let binder ← grammar.optBinder
  let qualifiers ← ["const", "static", "async", "move"].filterM optWord
  takeMark "|"
  let (params, _) ← listUntil (atMark "|") "," grammar.attributedPattern
  takeMark "|"
  if ← optMark "->" then
    let output ← grammar.type true
    return .closure binder qualifiers params (some output) (.block "" none (← grammar.plainBody))
  else return .closure binder qualifiers params none (← grammar.expr allowRecord)

/-- The value or place of a field in a record expression. -/
def fieldValue : Reader FieldValue := do
  let attributes ← grammar.attributes
  let isName ← ahead atName
  let name ← recordMember
  if !isName || (← ahead (atMark ":")) then
    takeMark ":"
    return .mk attributes name (some (← grammar.expr true))
  else return .mk attributes name none

/-- The fields of a record expression and the record that gives the others. Dots without
such a record say nothing. -/
def fieldValues : Nat → Reader (List FieldValue × Option Expr)
  | 0 => failure
  | fuel + 1 => do
    if ← ahead atEnd then return ([], none)
    if ← optMark ".." then
      if ← ahead atEnd then return ([], none)
      else return ([], some (← grammar.expr true))
    let first ← grammar.fieldValue
    if ← ahead atEnd then return ([first], none)
    takeMark ","
    let (fields, rest) ← fieldValues fuel
    return (first :: fields, rest)

/-- An expression that starts with a path. -/
def placeExpr (allowRecord : Bool) : Reader Expr := do
  let place ← grammar.place
  let called? : Option ModulePath ← do
    match place with
    | .path path => if ← ahead atMacroMark then pure path.module? else pure none
    | _ => pure none
  match called? with
  | some name =>
    takeMark "!"
    let (delimiter, body) ← anyGroup
    return .macroCall name delimiter body
  | none =>
    if allowRecord && (← ahead (atGroup .brace)) then
      let (fields, rest) ← inGroup .brace do grammar.fieldValues ((← get).input.length + 1)
      return .record place fields rest
    else return .path place

/-- Whether an expression may start here. -/
def atExpr : Ahead := fun tokens =>
  atAnyWord tokens && !atWord "as" tokens
    || atGroup .paren tokens || atGroup .bracket tokens || atGroup .brace tokens
    || atLiteral tokens || atLifetime tokens
    || atMark "!" tokens && !atMark "!=" tokens
    || atMark "-" tokens && !atMarkOf ["-=", "->"] tokens
    || atMark "*" tokens && !atMark "*=" tokens
    || atMark "|" tokens && !atMark "|=" tokens
    || atMark "&" tokens && !atMark "&=" tokens
    || atMark "<" tokens && !atMarkOf ["<=", "<<="] tokens
    || atMarkOf ["..", "::", "#"] tokens

/-- Whether a closure starts here. -/
def atClosure : Ahead := fun tokens =>
  atMark "|" tokens || atWord "move" tokens || atWord "static" tokens
    || atWord "for" tokens && second atGenerics tokens
    || atWord "const" tokens && !second (atGroup .brace) tokens
    || atWord "async" tokens && second (fun rest => atMark "|" rest || atWord "move" rest) tokens

/-- An expression without operators and without what may follow an operand. -/
def atom (allowRecord : Bool) : Reader Expr := do
  let tokens := (← get).input
  if atLiteral tokens then return .literal (← takeLiteral)
  else if atWord "async" tokens && (second (atGroup .brace) tokens
      || second (atWord "move") tokens && third (atGroup .brace) tokens) then
    takeWord "async"
    let isMove ← optWord "move"
    return .block (if isMove then "async move" else "async") none (← grammar.plainBody)
  else if atWord "try" tokens && second (atGroup .brace) tokens then
    takeWord "try"
    return .block "try" none (← grammar.plainBody)
  else if atClosure tokens then grammar.closure allowRecord
  else if atBuiltin tokens then return .verbatim (← builtin)
  else if atName tokens || atMarkOf ["::", "<"] tokens
      || atWordOf ["self", "Self", "super", "crate"] tokens
      || atWord "try" tokens && second (atMarkOf ["!", "::"]) tokens then
    grammar.placeExpr allowRecord
  else if atGroup .paren tokens then
    let (elements, trailing) ← inGroup .paren (commaList (grammar.expr true))
    match elements, trailing with
    | [inner], false => return .paren inner
    | _, _ => return .tuple elements
  else if atWord "break" tokens then
    takeWord "break"
    let label ← optLifetime
    require (!(label.isSome && (← ahead (atMark ":"))))
    if ← ahead fun rest => atExpr rest && (allowRecord || !atGroup .brace rest) then
      let (value, tokens) ← apart (grammar.expr true)
      let isBracketed := label.isNone && value.startsWithLabel
      passOn (if isBracketed then [.group .paren tokens] else tokens)
      return .jump "break" label (some (if isBracketed then .paren value else value))
    else return .jump "break" label none
  else if atWord "continue" tokens then
    takeWord "continue"
    return .jump "continue" (← optLifetime) none
  else if atWord "return" tokens || atWord "yield" tokens then
    let word ← anyWord
    let hasValue ← ahead atExpr
    return .jump word none (← if hasValue then some <$> grammar.expr true else pure none)
  else if atWord "become" tokens then
    return .verbatim (← written do
      takeWord "become"
      let _ ← grammar.expr true)
  else if atGroup .bracket tokens then
    inGroup .bracket do
      if ← ahead atEnd then return .array []
      let first ← grammar.expr true
      if ← optMark ";" then return .repeated first (← grammar.expr true)
      else if ← ahead atEnd then return .array [first]
      else
        takeMark ","
        return .array (first :: (← commaList (grammar.expr true)).1)
  else if atWord "let" tokens then
    takeWord "let"
    let pattern ← grammar.cases true
    takeMark "="
    let first ← grammar.unary allowRecord
    return .letBinding pattern (← grammar.climb allowRecord first .compare)
  else if atWord "if" tokens then grammar.branches (tokens.length + 1)
  else if atWordOf ["while", "for", "loop"] tokens then grammar.loopExpr none
  else if atWord "match" tokens then grammar.matchExpr
  else if atWord "unsafe" tokens || atWord "const" tokens then
    let word ← anyWord
    return .block word none (← grammar.blockBody)
  else if atGroup .brace tokens then return .block "" none (← grammar.blockBody)
  else if atMark ".." tokens then
    let isClosed ← rangeDots
    return .range none isClosed (← grammar.rangeEndExpr allowRecord isClosed)
  else if atWord "_" tokens then
    takeWord "_"
    return .infer
  else if atLifetime tokens then grammar.loopExpr (← optLabel)
  else failure

/-- An operand with the signs before it. What is kept as tokens keeps its attributes too. -/
def operand (allowRecord : Bool) : Reader Expr := orWritten .verbatim do
  let attributes ← grammar.attributes
  let tokens := (← get).input
  if atMark "&" tokens then
    takeMark "&"
    let isRaw ← ahead fun rest => atWord "raw" rest && second (atWordOf ["mut", "const"]) rest
    let kind ←
      if isRaw then
        takeWord "raw"
        pure ("raw " ++ (← anyWord) ++ " ")
      else if ← optWord "mut" then pure "mut "
      else pure ""
    return some (.withAttributes attributes (.reference kind (← grammar.unary allowRecord)))
  else
    match ["*", "!", "-"].find? (atMark · tokens) with
    | some sign =>
      takeMark sign
      return some (.withAttributes attributes (.unary sign (← grammar.unary allowRecord)))
    | none =>
      match ← grammar.trailers (← grammar.atom allowRecord) with
      | .verbatim _ => return none
      | whole =>
        require (attributes.isEmpty || !whole.isRange)
        return some (.withAttributes attributes whole)

/-- Whether an expression that ends like a statement starts here. -/
def atBlockLike : Ahead := fun tokens =>
  atWordOf ["if", "while", "loop", "match", "unsafe"] tokens
    || atWord "for" tokens && !second atGenerics tokens
    || atWord "try" tokens && second (atGroup .brace) tokens
    || atWord "const" tokens && second (atGroup .brace) tokens
    || atGroup .brace tokens || atLifetime tokens

/-- An expression after attributes that were set apart, given with their tokens. They go to
its first operand, but are not kept where that is kept as tokens. A range gets brackets, so
that they belong to the whole of it. -/
def afterAttributes (attributes : List Attribute) (before : List Token) (expr : Reader Expr) :
    Reader Expr := do
  let (expr, tokens) ← apart expr
  let isVerbatim :=
    match expr.first with
    | .verbatim _ => true
    | _ => false
  if attributes.isEmpty || isVerbatim then
    passOn tokens
    return expr
  else
    passOn (before ++ if expr.isRange then [.group .paren tokens] else tokens)
    return expr.attributeFirst attributes

/-- An expression that, if it ends in curly brackets as a statement does, goes on only
after a dot or a question mark. -/
def earlyExpr : Reader Expr := do
  let (attributes, before) ← apart grammar.attributes
  let atTrailer : Ahead := fun tokens =>
    atMark "." tokens && !atMark ".." tokens || atMark "?" tokens
  if ← ahead atBlockLike then
    let (first, tokens) ← apart (grammar.atom true)
    if ← ahead atTrailer then
      let operand ← afterAttributes attributes before do
        passOn tokens
        grammar.trailers first
      grammar.climb true operand .any
    else
      afterAttributes attributes before do
        passOn tokens
        return first
  else
    let first ← afterAttributes attributes before (grammar.unary true)
    grammar.climb true first .any

/-- A binding statement. -/
def bindingStmt (attributes : List Attribute) : Reader Stmt := do
  takeWord "let"
  let pattern ← grammar.pattern
  let pattern ←
    if ← optMark ":" then pure (Pattern.typed pattern (← grammar.type true)) else pure pattern
  if ← optMark "=" then
    let value ← grammar.expr true
    let otherwise ←
      if ← optWordIf (!value.endsInBrace) "else" then
        pure (some (← grammar.plainBody))
      else pure none
    takeMark ";"
    return .binding attributes pattern (some value) otherwise
  else
    takeMark ";"
    return .binding attributes pattern none none

/-- Whether an item starts here rather than an expression. -/
def atItem : Ahead := fun tokens =>
  let atAsyncFn : Ahead := second (atWordOf ["unsafe", "extern", "fn"])
  atWordOf ["pub", "extern", "use", "fn", "mod", "type", "struct", "enum", "trait", "impl", "macro"]
      tokens
    || atWord "crate" tokens && !second (atMark "::") tokens
    || atWord "static" tokens && (second (atWord "mut") tokens
      || second atName tokens)
    || atWord "const" tokens && !(second (atGroup .brace) tokens || second (atWord "static") tokens
      || second (atWord "async") tokens && !third (atWordOf ["unsafe", "extern", "fn"]) tokens
      || second (atWord "move") tokens || second (atMark "|") tokens)
    || atWord "unsafe" tokens && !second (atGroup .brace) tokens
    || atWord "async" tokens && atAsyncFn tokens
    || atWord "union" tokens && second atName tokens
    || atWord "auto" tokens && second (atWord "trait") tokens
    || atWord "default" tokens && second (atWordOf ["unsafe", "impl"]) tokens

/-- Whether the name of a macro with a body in curly brackets ends here, and the call does
not go on as an expression. -/
def atBraceCall : Ahead := fun tokens =>
  atMark "!" tokens && second (atGroup .brace) tokens
    && !(third (atMark ".") tokens && !third (atMark "..") tokens || third (atMark "?") tokens)

/-- Whether the name of a macro ends here that declares something by a name. -/
def atItemCall : Ahead := fun tokens =>
  atMark "!" tokens && (second atName tokens || second (atWord "try") tokens)

/-- An expression as a statement, or a macro call that is a statement itself. -/
def exprStmt (attributes : List Attribute) (before : List Token) : Reader Stmt := do
  let expr ← afterAttributes attributes before grammar.early
  let semicolon ← optMark ";"
  let (attributes, bare) :=
    match expr with
    | .attributed attributes inner => (attributes, inner)
    | other => ([], other)
  match bare with
  | .macroCall path delimiter body =>
    if semicolon || delimiter == .brace then
      return .macroCall attributes path delimiter body semicolon
    else return .expr expr semicolon
  | _ => return .expr expr semicolon

/-- A statement. -/
def statement : Reader Stmt := do
  let start ← get
  let (attributes, before) ← apart grammar.attributes
  let afterName ← lookingAhead do
    let _ ← modulePath
    return (← get).input
  if afterName.any atBraceCall then
    passOn before
    let path ← modulePath
    takeMark "!"
    let (delimiter, body) ← anyGroup
    return .macroCall attributes path delimiter body (← optMark ";")
  else if ← ahead (atWord "let") then
    passOn before
    grammar.bindingStmt attributes
  else if (← ahead atItem) || afterName.any atItemCall then
    set start
    return .item (← grammar.item)
  else grammar.exprStmt attributes before

/-- Whether a statement must be followed by a semicolon or the end of its block. -/
def needsEnd : Stmt → Bool
  | .expr expr semicolon => !semicolon && expr.needsSemicolon
  | .macroCall _ _ delimiter _ semicolon => !semicolon && delimiter != .brace
  | _ => false

/-- The statements of a block. -/
def statementList : Reader (List Stmt) := do
  go ((← get).input.length + 1)
where
  go : Nat → Reader (List Stmt)
    | 0 => failure
    | fuel + 1 => do
      if ← optMark ";" then return .empty :: (← go fuel)
      if ← ahead atEnd then return []
      let first ← grammar.statement
      require (!(needsEnd first) || (← ahead atEnd))
      return first :: (← go fuel)

end CodeGrammar
end EnvLoader.Source
