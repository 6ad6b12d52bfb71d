import EnvLoader.Source.ItemReader

/-! The grammar, closed over itself. Each layer reads nested constructs with the layer
below; the lowest refuses everything. A construct that nests another takes a token before
it does so, up to a fixed number of steps, so a sequence of tokens needs no more layers
than a multiple of its length. -/
namespace EnvLoader.Source

/-- The grammar that refuses everything. -/
def CodeGrammar.empty : CodeGrammar where
  type _ := failure
  path _ := failure
  param := failure
  expression := failure
  block := failure
  pattern := failure
  expr _ := failure
  unary _ := failure
  climb _ _ _ := failure
  early := failure
  statements := failure
  item := failure

/-- The grammar whose constructs nest those of the given one. -/
def CodeGrammar.layer (inner : CodeGrammar) : CodeGrammar where
  type allowPlus := inner.anyType allowPlus
  path inExpression := inner.wholePath inExpression
  param := inner.genericParam
  expression := do
    let _ ← inner.expr true
  block := do
    let _ ← inner.blockBody
  pattern := inner.single
  expr allowRecord := do
    let first ← inner.unary allowRecord
    inner.climb allowRecord first .any
  unary allowRecord := inner.operand allowRecord
  climb allowRecord left base := inner.climbFrom allowRecord left base
  early := inner.earlyExpr
  statements := inner.statementList
  item := inner.anyItem

/-- The grammar with a given number of layers. -/
def grammarOfDepth (depth : Nat) : CodeGrammar :=
  Nat.repeat CodeGrammar.layer depth CodeGrammar.empty

/-- The layers that suffice for a sequence of tokens. -/
def depthFor (tokens : List Token) : Nat := 4 * countOf tokens + 16

/-- Reads a whole sequence by a rule of the grammar. -/
def parse? {α : Type} (rule : CodeGrammar → Reader α) (tokens : List Token) : Option α :=
  readAll? (rule (grammarOfDepth (depthFor tokens))) tokens

/-- Reads a whole text by a rule of the grammar. -/
def parseText? {α : Type} (rule : CodeGrammar → Reader α) (text : String) : Option α := do
  parse? rule (← lex? text)

/-- The type that a sequence of tokens writes. -/
def typeOf? : List Token → Option TypeExpr := parse? (·.type true)

/-- The type that a text writes. -/
def typeOfText? (text : String) : Option TypeExpr := do typeOf? (← lex? text)

/-- The name that a text is, white space and comments aside. -/
def nameOfText? (text : String) : Option String := readText? takeName text

/-- The import tree that a text is. -/
def useTreeOfText? (text : String) : Option UseTree := readText? (useTree false) text

/-- The file that a sequence of tokens makes up. -/
def fileOf? : List Token → Option File := parse? (·.file)

/-- The source of a file after a first line that names its interpreter. A line that would
be an inner attribute is none. -/
def withoutInterpreter (text : List Char) : List Char :=
  match text with
  | '#' :: '!' :: rest =>
    match skipBlanks rest.length rest with
    | '[' :: _ => text
    | _ => text.dropWhile (· ≠ '\n')
  | _ => text

/-- The file that a text makes up. -/
def fileOfText? (text : String) : Option File := do
  fileOf? (← lex? (String.ofList (withoutInterpreter (withoutMark text.toList))))

end EnvLoader.Source
