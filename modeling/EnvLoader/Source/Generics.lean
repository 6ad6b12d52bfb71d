import EnvLoader.Source.Pattern

/-! Parts of declarations: visibility, type parameters and their bounds, parameters of
functions, and fields. -/
namespace EnvLoader.Source

/-- Who sees a declaration: everyone, a place named by a single word, or the inside of a
module. -/
inductive Visibility where
  | inherited
  | exported
  | restricted (scope : String)
  | inside (module : ModulePath)
  deriving DecidableEq, Inhabited

/-- A condition on the parameters. -/
inductive WherePredicate where
  | lifetime (name : String) (bounds : List String)
  | type (binder : Option Binder) (type : TypeExpr) (bounds : List Bound)

/-- The parameters of a declaration and the conditions on them. -/
structure Generics where
  params : List GenericParam := []
  conditions : List WherePredicate := []
  deriving Inhabited

/-- A parameter of a function. -/
inductive FnParam where
  | receiver (attributes : List Attribute) (reference : Option (Option String)) (isMut : Bool)
      (type : Option TypeExpr)
  | typed (attributes : List Attribute) (pattern : Pattern) (type : TypeExpr)
  | variadic (attributes : List Attribute) (pattern : Option Pattern)

/-- The head of a function. -/
structure Signature where
  isConst : Bool
  isAsync : Bool
  qualifier : Option String
  abi : Option (Option String)
  name : String
  generics : Generics
  params : List FnParam
  output : Option TypeExpr

/-- A field of a record; one without a name stands for its position. -/
structure FieldDecl where
  attributes : List Attribute
  visibility : Visibility
  name : Option String
  type : TypeExpr

/-- The fields of a record. -/
inductive Fields where
  | named (fields : List FieldDecl)
  | unnamed (fields : List FieldDecl)
  | unit

/-- The fields in declared order. -/
def Fields.toList : Fields → List FieldDecl
  | .named fields => fields
  | .unnamed fields => fields
  | .unit => []

namespace PatternGrammar
variable (grammar : PatternGrammar)

/-- A visibility. Brackets after `pub` belong to it only if they hold a scope. -/
def visibility : Reader Visibility := do
  if !(← optWord "pub") then return .inherited
  match (← get).input with
  | .group .paren [.ident scope] :: _ =>
    if ["crate", "self", "super"].contains scope then
      let _ ← anyTree
      return .restricted scope
    else return .exported
  | .group .paren (.ident "in" :: _) :: _ =>
    inGroup .paren do
      takeWord "in"
      return .inside (← modulePath)
  | _ => return .exported

/-- A parameter of a declaration; one that is only an underscore may have no bounds. -/
def declaredParam : Reader GenericParam := do
  let unnamed : Reader GenericParam := do
    let attributes ← grammar.attributes
    takeWord "_"
    return .type attributes "_" [] false none
  if (← lookingAhead unnamed).isSome then unnamed else grammar.param

/-- The parameters of a declaration, if brackets for them follow. -/
def genericParams : Reader (List GenericParam) := do
  let (params, _) ← normalized (fun (params, trailing) => genericsTokens params trailing) do
    if ← optMark "<" then
      let params ← listUntil (atMark ">") "," grammar.declaredParam
      takeMark ">"
      return params
    else return ([], false)
  return params

/-- Where a list of bounds in a condition ends. -/
def atConditionEnd : Ahead := fun tokens =>
  atEnd tokens || atGroup .brace tokens || atMarkOf [",", ";", "="] tokens
    || (atMark ":" tokens && !atMark "::" tokens)

/-- A condition on parameters. -/
def wherePredicate : Reader WherePredicate := do
  if ← ahead fun tokens => atLifetime tokens && second (atMark ":") tokens then
    let name ← takeLifetime
    takeMark ":"
    return .lifetime name (← lifetimesUntil atConditionEnd).1
  else
    let binder ← grammar.optBinder
    let type ← grammar.type true
    takeMark ":"
    return .type binder type (← grammar.boundsUntil atConditionEnd).1

/-- The conditions after `where`, which itself vanishes without any. Parameters have no place
there. -/
def whereConditions : Reader (List WherePredicate) :=
  rewriting (fun conditions tokens => if conditions.isEmpty then [] else tokens) do
    takeWord "where"
    require (!(← ahead atGenerics))
    return (← listWhile atConditionEnd "," grammar.wherePredicate).1

/-- The conditions, if there are any. -/
def optConditions : Reader (List WherePredicate) := do
  if ← ahead (atWord "where") then grammar.whereConditions else return []

/-- The receiver of a method. -/
def receiver (attributes : List Attribute) : Reader FnParam := do
  let reference ← if ← optMark "&" then pure (some (← optLifetime)) else pure none
  let isMut ← optWord "mut"
  takeWord "self"
  let type ←
    if ← optMarkIf reference.isNone ":" then pure (some (← grammar.type true)) else pure none
  return .receiver attributes reference isMut type

/-- Whether a receiver follows rather than a pattern, which may start alike. -/
def atReceiver : Reader Bool := do
  let isSelf ← lookingAhead do
    if ← optMark "&" then let _ ← optLifetime
    let _ ← optWord "mut"
    ahead fun tokens => atWord "self" tokens && !second (atMark "::") tokens
  return isSelf.getD false

/-- A parameter of a function. A type with arguments may lack its pattern, and dots stand
for a number of further parameters that is not fixed. -/
def fnParam (attributes : List Attribute) : Reader FnParam := do
  if ← atReceiver then grammar.receiver attributes
  else if ← optMark "..." then return .variadic attributes none
  else if ← ahead fun tokens => atName tokens && second (atMark "<") tokens then
    passOn (.ident "_" :: mark ":")
    return .typed attributes .wild (← grammar.type true)
  else
    let pattern ← grammar.pattern
    takeMark ":"
    if ← optMark "..." then return .variadic attributes (some pattern)
    else return .typed attributes pattern (← grammar.type true)

/-- The parameters of a function. A receiver comes first, and nothing follows dots. -/
def fnParams : Nat → Bool → Reader (List FnParam)
  | 0, _ => failure
  | fuel + 1, isFirst => do
    if ← ahead atEnd then return []
    let param ← grammar.fnParam (← grammar.attributes)
    match param with
    | .receiver _ _ _ _ => require isFirst
    | .variadic _ _ =>
      let _ ← optMark ","
      return [param]
    | .typed _ _ _ => pure ()
    if ← ahead atEnd then return [param]
    takeMark ","
    return param :: (← fnParams fuel false)

/-- The head of a function. -/
def signature (allowSafe : Bool) : Reader Signature := do
  let isConst ← optWord "const"
  let isAsync ← optWord "async"
  let qualifier ←
    if ← optWord "unsafe" then pure (some "unsafe")
    else if ← optWordIf allowSafe "safe" then pure (some "safe")
    else pure none
  let abi ← optAbi
  takeWord "fn"
  let name ← takeName
  let params ← grammar.genericParams
  let inputs ← inGroup .paren do grammar.fnParams ((← get).input.length + 1) true
  let output ← grammar.output true
  let conditions ← grammar.optConditions
  return ⟨isConst, isAsync, qualifier, abi, name, ⟨params, conditions⟩, inputs, output⟩

/-- Whether the head of a function follows, qualifiers included. -/
def atSignature (allowSafe : Bool) : Reader Bool := do
  let head : Reader Unit := do
    let _ ← optWord "const"
    let _ ← optWord "async"
    if !(← optWordIf allowSafe "safe") then
      let _ ← optWord "unsafe"
    let _ ← optAbi
    takeWord "fn"
  return (← lookingAhead head).isSome

/-- A field with a name. -/
def namedField (fields : Reader Unit) : Reader FieldDecl := do
  let attributes ← grammar.attributes
  let visibility ← visibility
  let isUnnamed ← ahead (atWord "_")
  let name ← if isUnnamed then anyWord else takeName
  takeMark ":"
  let isNested ← ahead fun tokens =>
    atWord "struct" tokens || atWord "union" tokens && second (atGroup .brace) tokens
  if isUnnamed && isNested then
    let tokens ← written do
      let _ ← anyWord
      fields
    return ⟨attributes, visibility, some name, .verbatim tokens⟩
  else return ⟨attributes, visibility, some name, ← grammar.type true⟩

/-- Fields with names, nested no deeper than the given bound. -/
def namedFields : Nat → Reader (List FieldDecl)
  | 0 => failure
  | fuel + 1 => inGroup .brace do
    return (← commaList (grammar.namedField do let _ ← namedFields fuel)).1

/-- A field without a name. -/
def unnamedField : Reader FieldDecl := do
  let attributes ← grammar.attributes
  let visibility ← visibility
  return ⟨attributes, visibility, none, ← grammar.type true⟩

/-- Fields in curly brackets. -/
def recordFields : Reader (List FieldDecl) := do
  grammar.namedFields (countOf (← get).input + 1)

/-- Fields in round brackets. -/
def tupleFields : Reader (List FieldDecl) := do
  return (← inGroup .paren (commaList grammar.unnamedField)).1

/-- The body of a record after its parameters: conditions and fields. The conditions stand
before fields with names and after those without. -/
def recordBody : Reader (List WherePredicate × Fields) := do
  let hasConditions ← ahead (atWord "where")
  let conditions ← grammar.optConditions
  if !hasConditions && (← ahead (atGroup .paren)) then
    let fields ← grammar.tupleFields
    let conditions ← grammar.optConditions
    takeMark ";"
    return (conditions, .unnamed fields)
  else if ← ahead (atGroup .brace) then
    return (conditions, .named (← grammar.recordFields))
  else
    takeMark ";"
    return (conditions, .unit)

end PatternGrammar
end EnvLoader.Source
