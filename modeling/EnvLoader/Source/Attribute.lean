import EnvLoader.Source.ModulePath

/-! Attributes: a path without arguments, alone, with a bracketed list, or with a value. -/
namespace EnvLoader.Source

/-- What follows the path of an attribute. -/
inductive AttributeInput where
  | bare
  | list (delimiter : Delimiter) (body : List Token)
  | value (tokens : List Token)
  deriving Repr, Inhabited

/-- An attribute, of the item that follows or, if inner, of the one around it. -/
structure Attribute where
  isInner : Bool
  path : ModulePath
  input : AttributeInput
  deriving Repr, Inhabited

/-- The tokens of an attribute. -/
def Attribute.tokens (attr : Attribute) : List Token :=
  let input :=
    match attr.input with
    | .bare => []
    | .list delimiter body => [.group delimiter body]
    | .value tokens => mark "=" ++ tokens
  mark "#" ++ (if attr.isInner then mark "!" else []) ++
    [.group .bracket (attr.path.tokens ++ input)]

/-- The tokens of several attributes. -/
def attributesTokens (attributes : List Attribute) : List Token := attributes.flatMap (·.tokens)

/-- Whether the attribute's path is a single given name. -/
def Attribute.isNamed (attr : Attribute) (name : String) : Bool :=
  attr.path.word? == some name

/-- The text of a documentation attribute. -/
def Attribute.doc? (attr : Attribute) : Option String :=
  if attr.isNamed "doc" then
    match attr.input with
    | .value [.literal text] => stringValue? text
    | _ => none
  else none

/-- Reads the inside of an attribute. -/
def attributeBody (expression : Reader Unit) : Reader (ModulePath × AttributeInput) := do
  let path ←
    if ← ahead (atWord "unsafe") then
      takeWord "unsafe"
      pure (ModulePath.ofWord "unsafe")
    else modulePath
  match (← get).input with
  | .group _ _ :: _ =>
    let (delimiter, body) ← anyGroup
    return (path, .list delimiter body)
  | _ =>
    if ← optMark "=" then
      if ← ahead fun tokens => atMark "#" tokens && second (atGroup .bracket) tokens then failure
      return (path, .value (← captured expression))
    else return (path, .bare)

/-- Reads an attribute of what follows. -/
def outerAttribute (expression : Reader Unit) : Reader Attribute := do
  takeMark "#"
  let (path, input) ← inGroup .bracket (attributeBody expression)
  return ⟨false, path, input⟩

/-- Reads an attribute of what is around it. -/
def innerAttribute (expression : Reader Unit) : Reader Attribute := do
  takeMark "#"
  takeMark "!"
  let (path, input) ← inGroup .bracket (attributeBody expression)
  return ⟨true, path, input⟩

/-- Reads all attributes of what follows. -/
def outerAttributes (expression : Reader Unit) : Reader (List Attribute) :=
  whileAhead (atMark "#") (outerAttribute expression)

/-- Reads all attributes of what is around. -/
def innerAttributes (expression : Reader Unit) : Reader (List Attribute) :=
  whileAhead (fun tokens => atMark "#" tokens && second (atMark "!") tokens)
    (innerAttribute expression)

end EnvLoader.Source
