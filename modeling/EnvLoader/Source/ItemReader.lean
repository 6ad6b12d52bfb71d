import EnvLoader.Source.ExprReader

/-! Reading items. What kind of item follows is decided by the words after its attributes
and visibility. An item may have a form that has no meaning yet, such as a function at the
top of a file without a body; a reader then gives none, and the item is kept as tokens. -/
namespace EnvLoader.Source

namespace CodeGrammar
variable (grammar : CodeGrammar)

/-- A function with a body or a semicolon. -/
def functionItem (container : Container) (attributes : List Attribute) (visibility : Visibility)
    (isDefault : Bool) : Reader (Option Item) := do
  let signature ← grammar.signature (container == .foreign)
  let body ← if ← optMark ";" then pure none else some <$> grammar.blockBody
  let isKnown : Bool :=
    match container with
    | .file | .implementation => body.isSome
    | .trait => visibility == .inherited && !isDefault
    | .foreign => body.isNone && signature.qualifier != some "safe"
  return if isKnown then some (.function attributes visibility isDefault signature body) else none

/-- The value after an equals sign, if there is one. -/
def optValue : Reader (Option Expr) := do
  if ← optMark "=" then return some (← grammar.expr true) else return none

/-- A constant. -/
def constantItem (container : Container) (attributes : List Attribute) (visibility : Visibility)
    (isDefault : Bool) : Reader (Option Item) := do
  takeWord "const"
  let name ← if ← ahead (atWord "_") then anyWord else takeName
  let hasParams ← ahead (atMark "<")
  let _ ← grammar.genericParams
  takeMark ":"
  let type ← grammar.type true
  let value ← grammar.optValue
  let hasConditions ← ahead (atWord "where")
  let _ ← grammar.optConditions
  takeMark ";"
  let isKnown : Bool := !hasParams && !hasConditions &&
    if container == .trait then visibility == .inherited && !isDefault else value.isSome
  return if isKnown then some (.constant attributes visibility isDefault name type value) else none

/-- A static variable. -/
def variableItem (attributes : List Attribute) (visibility : Visibility) :
    Reader (Option Item) := do
  takeWord "static"
  let isMut ← optWord "mut"
  let name ← takeName
  let type ← if ← optMark ":" then some <$> grammar.type true else pure none
  let value ← grammar.optValue
  require (type.isSome || value.isSome)
  takeMark ";"
  return do return .variable attributes visibility isMut name (← type) (some (← value))

/-- A static variable that is defined elsewhere. -/
def foreignVariable (attributes : List Attribute) (visibility : Visibility) :
    Reader (Option Item) := do
  let isQualified ← ahead (atWordOf ["unsafe", "safe"])
  if isQualified then let _ ← anyWord
  takeWord "static"
  let isMut ← optWord "mut"
  let name ← takeName
  takeMark ":"
  let type ← grammar.type true
  let value ← grammar.optValue
  takeMark ";"
  return if isQualified || value.isSome then none
    else some (.variable attributes visibility isMut name type none)

/-- An alias of a type, or an associated type. Conditions stand before the type at the top of
a file, after it in an implementation or a trait, and in one of both places elsewhere. -/
def typeItem (container : Container) (attributes : List Attribute) (visibility : Visibility)
    (isDefault : Bool) : Reader (Option Item) := do
  takeWord "type"
  let name ← takeName
  let params ← grammar.genericParams
  let hasBounds ← ahead (atMark ":")
  let bounds ← rewriting (fun bounds tokens => if bounds.isEmpty then [] else tokens) do
    if ← optMark ":" then
      return (← grammar.boundsUntil fun tokens =>
        atWord "where" tokens || atMarkOf ["=", ";"] tokens).1
    else return []
  let isEarly := container == .file || container == .foreign
  let hasEarly ← ahead (atWord "where")
  let before ← if isEarly then grammar.optConditions else pure []
  let type ← if ← optMark "=" then some <$> grammar.type true else pure none
  let isLate := container != .file && !(isEarly && hasEarly)
  let after ← if isLate then grammar.optConditions else pure []
  takeMark ";"
  let isKnown : Bool :=
    match container with
    | .file | .implementation => type.isSome && !hasBounds
    | .trait => visibility == .inherited && !isDefault
    | .foreign => type.isNone && !hasBounds
  return if isKnown then
      some (.typeAlias attributes visibility isDefault name ⟨params, before ++ after⟩ bounds type)
    else none

/-- A call of a macro where an item may stand, which may give a name at the top of a file.
Without curly brackets it ends in a semicolon. -/
def macroItem (container : Container) (attributes : List Attribute) : Reader Item := do
  let path ← modulePath
  takeMark "!"
  let atDeclared : Ahead := fun tokens => atName tokens || atWord "try" tokens
  let name ←
    if container == .file && (← ahead atDeclared) then some <$> anyWord else pure none
  let (delimiter, body) ← anyGroup
  if delimiter != .brace then takeMark ";"
  return .macroCall attributes path name delimiter body

/-- Whether a path to a macro starts here. -/
def atMacroPath : Ahead := fun tokens =>
  atName tokens || atWordOf ["self", "super", "crate"] tokens || atMark "::" tokens

/-- A macro by example in its second form. -/
def macroDefinition : Reader Unit := do
  takeWord "macro"
  let _ ← takeName
  if ← ahead (atGroup .paren) then inGroup .paren (do let _ ← allTrees)
  inGroup .brace (do let _ ← allTrees)

/-- An item within an implementation or a trait. -/
def associatedItem (container : Container) : Reader Item := orWritten .verbatim do
  let attributes ← grammar.attributes
  let visibility ← PatternGrammar.visibility
  let isDefault ←
    if ← ahead fun tokens =>
        atWord "default" tokens && (container == .trait || !second (atMark "!") tokens) then
      optWord "default"
    else pure false
  if ← PatternGrammar.atSignature false then
    grammar.functionItem container attributes visibility isDefault
  else if ← ahead (atWord "const") then
    grammar.constantItem container attributes visibility isDefault
  else if ← ahead (atWord "type") then grammar.typeItem container attributes visibility isDefault
  else
    require (visibility == .inherited && !isDefault && (← ahead atMacroPath))
    return some (← macroItem container attributes)

/-- A declaration of something defined elsewhere. -/
def foreignItem : Reader Item := orWritten .verbatim do
  let attributes ← grammar.attributes
  let visibility ← PatternGrammar.visibility
  if ← PatternGrammar.atSignature true then
    grammar.functionItem .foreign attributes visibility false
  else if ← ahead fun tokens => atWord "static" tokens
      || atWordOf ["unsafe", "safe"] tokens && second (atWord "static") tokens then
    grammar.foreignVariable attributes visibility
  else if ← ahead (atWord "type") then grammar.typeItem .foreign attributes visibility false
  else
    require (visibility == .inherited && (← ahead atMacroPath))
    return some (← macroItem .foreign attributes)

/-- Items in curly brackets, after inner attributes. -/
def itemsInBraces (item : Reader Item) : Reader (List Attribute × List Item) := inGroup .brace do
  let attributes ← innerAttributes grammar.expression
  return (attributes, ← whileAhead (!atEnd ·) item)

/-- What an implementation is for, after its parameters: the trait, if there is one, and the
type. Only the implementation of a trait may be negated. The trait is none if it is no path,
and then no form that is known. -/
def implementationTarget : Reader (Option (Option (Bool × Path)) × TypeExpr) := do
  let isNegative ←
    if ← ahead fun tokens => atMark "!" tokens && !second (atGroup .brace) tokens then optMark "!"
    else pure false
  let first ← grammar.type true
  if ← optWord "for" then
    let target ← grammar.type true
    match first with
    | .path path => return (some (some (isNegative, path)), target)
    | _ => return (none, target)
  else
    require (!isNegative)
    return (some none, first)

/-- An implementation. -/
def implementationItem (attributes : List Attribute) (visibility : Visibility) :
    Reader (Option Item) := do
  let isDefault ← optWord "default"
  let isUnsafe ← optWord "unsafe"
  takeWord "impl"
  let params ← if ← ahead atGenerics then grammar.genericParams else pure []
  let isConst ← ahead fun tokens =>
    atWord "const" tokens || atMark "?" tokens && second (atWord "const") tokens
  if isConst then
    let _ ← optMark "?"
    takeWord "const"
  let (trait?, target) ← grammar.implementationTarget
  let conditions ← grammar.optConditions
  let (inner, items) ← grammar.itemsInBraces (grammar.associatedItem .implementation)
  return if isConst || visibility != .inherited then none
    else trait?.map fun trait =>
      .implementation (attributes ++ inner) isDefault isUnsafe ⟨params, conditions⟩ trait target
        items

/-- A trait, or an alias of one. -/
def traitItem (attributes : List Attribute) (visibility : Visibility) : Reader Item := do
  let isUnsafe ← optWord "unsafe"
  let isAuto ← optWord "auto"
  takeWord "trait"
  let name ← takeName
  let params ← grammar.genericParams
  if ← optMarkIf (!isUnsafe && !isAuto) "=" then
    let (bounds, _) ← listWhile (fun tokens => atWord "where" tokens || atMark ";" tokens) "+"
      (grammar.bound false false)
    let conditions ← grammar.optConditions
    takeMark ";"
    return .traitAlias attributes visibility name ⟨params, conditions⟩ bounds
  else
    let bounds ← rewriting (fun bounds tokens => if bounds.isEmpty then [] else tokens) do
      if ← optMark ":" then
        return (← grammar.boundsUntil fun tokens =>
          atWord "where" tokens || atGroup .brace tokens).1
      else return []
    let conditions ← grammar.optConditions
    let (inner, items) ← grammar.itemsInBraces (grammar.associatedItem .trait)
    return .trait (attributes ++ inner) visibility isUnsafe isAuto name ⟨params, conditions⟩
      bounds items

/-- A choice of an enumeration. -/
def variant : Reader Variant := do
  let attributes ← grammar.attributes
  let _ ← apart PatternGrammar.visibility
  let name ← takeName
  let fields ←
    if ← ahead (atGroup .brace) then pure (Fields.named (← grammar.recordFields))
    else if ← ahead (atGroup .paren) then pure (Fields.unnamed (← grammar.tupleFields))
    else pure Fields.unit
  return .mk attributes name fields (← grammar.optValue)

/-- A record declaration. -/
def recordItem (attributes : List Attribute) (visibility : Visibility) : Reader Item := do
  takeWord "struct"
  let name ← takeName
  let params ← grammar.genericParams
  let (conditions, fields) ← grammar.recordBody
  return .record attributes visibility name ⟨params, conditions⟩ fields

/-- A declaration of choices. -/
def enumerationItem (attributes : List Attribute) (visibility : Visibility) : Reader Item := do
  takeWord "enum"
  let name ← takeName
  let params ← grammar.genericParams
  let conditions ← grammar.optConditions
  let (variants, _) ← inGroup .brace (commaList grammar.variant)
  return .enumeration attributes visibility name ⟨params, conditions⟩ variants

/-- A union declaration. -/
def unionItem (attributes : List Attribute) (visibility : Visibility) : Reader Item := do
  takeWord "union"
  let name ← takeName
  let params ← grammar.genericParams
  let conditions ← grammar.optConditions
  return .union attributes visibility name ⟨params, conditions⟩ (← grammar.recordFields)

/-- A module, with its items or a semicolon. -/
def moduleItem (attributes : List Attribute) (visibility : Visibility) : Reader Item := do
  let isUnsafe ← optWord "unsafe"
  takeWord "mod"
  let name ← if ← ahead (atWord "try") then anyWord else takeName
  if ← optMark ";" then return .module attributes visibility isUnsafe name none
  else
    let (inner, items) ← grammar.itemsInBraces grammar.item
    return .module (attributes ++ inner) visibility isUnsafe name (some items)

/-- Declarations of something defined elsewhere. -/
def foreignItems (attributes : List Attribute) : Reader Item := do
  let isUnsafe ← optWord "unsafe"
  let some abi ← optAbi | failure
  let (inner, items) ← grammar.itemsInBraces grammar.foreignItem
  return .foreign (attributes ++ inner) isUnsafe abi items

/-- An import. -/
def importItem (attributes : List Attribute) (visibility : Visibility) : Reader (Option Item) := do
  takeWord "use"
  let leading ← optMark "::"
  let tree ← useTree (!leading)
  takeMark ";"
  return if tree.hasRoot then none else some (.imports attributes visibility leading tree)

/-- An import of a crate. -/
def externCrateItem (attributes : List Attribute) (visibility : Visibility) : Reader Item := do
  takeWord "extern"
  takeWord "crate"
  let name ← if ← ahead (atWord "self") then anyWord else takeName
  let newName ←
    if ← optWord "as" then
      require (← ahead fun tokens => atName tokens || atWord "_" tokens)
      some <$> anyWord
    else pure none
  takeMark ";"
  return .externCrate attributes visibility name newName

/-- An item. -/
def anyItem : Reader Item := orWritten .verbatim do
  let attributes ← grammar.attributes
  let visibility ← PatternGrammar.visibility
  let tokens := (← get).input
  if ← PatternGrammar.atSignature false then
    grammar.functionItem .file attributes visibility false
  else if atWord "extern" tokens then
    if second (atWord "crate") tokens then some <$> externCrateItem attributes visibility
    else
      require (visibility == .inherited)
      some <$> grammar.foreignItems attributes
  else if atWord "use" tokens then importItem attributes visibility
  else if atWord "static" tokens then grammar.variableItem attributes visibility
  else if atWord "const" tokens then grammar.constantItem .file attributes visibility false
  else if atWord "unsafe" tokens then
    if second (atWord "trait") tokens
        || second (atWord "auto") tokens && third (atWord "trait") tokens then
      some <$> grammar.traitItem attributes visibility
    else if second (atWord "impl") tokens then grammar.implementationItem attributes visibility
    else if second (atWord "extern") tokens then
      require (visibility == .inherited)
      some <$> grammar.foreignItems attributes
    else if second (atWord "mod") tokens then some <$> grammar.moduleItem attributes visibility
    else failure
  else if atWord "mod" tokens then some <$> grammar.moduleItem attributes visibility
  else if atWord "type" tokens then grammar.typeItem .file attributes visibility false
  else if atWord "struct" tokens then some <$> grammar.recordItem attributes visibility
  else if atWord "enum" tokens then some <$> grammar.enumerationItem attributes visibility
  else if atWord "union" tokens && second atName tokens then
    some <$> grammar.unionItem attributes visibility
  else if atWord "trait" tokens || atWord "auto" tokens && second (atWord "trait") tokens then
    some <$> grammar.traitItem attributes visibility
  else if atWord "impl" tokens || atWord "default" tokens && !second (atMark "!") tokens then
    grammar.implementationItem attributes visibility
  else if atWord "macro" tokens then
    macroDefinition
    return none
  else
    require (visibility == .inherited && atMacroPath tokens)
    return some (← macroItem .file attributes)

/-- A file. -/
def file : Reader File := do
  let attributes ← innerAttributes grammar.expression
  return ⟨attributes, ← whileAhead (!atEnd ·) grammar.item⟩

end CodeGrammar
end EnvLoader.Source
