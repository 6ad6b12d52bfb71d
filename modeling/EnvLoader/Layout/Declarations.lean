import EnvLoader.Layout.Patterns
import EnvLoader.Source.Generics
import EnvLoader.Source.UseTree

/-! Layout of what declarations are made of: type parameters with their conditions,
parameters of functions, fields, and import trees. -/
namespace EnvLoader.Layout
open Source

/-- Layout of a visibility. -/
def visibilityDoc : Visibility → List Doc
  | .inherited => []
  | .exported => word "pub "
  | .restricted scope => word ("pub(" ++ scope ++ ") ")
  | .inside path =>
    word "pub(" ++ optWord (!(path.word?.any ["self", "super", "crate"].contains)) "in" ++
      modulePathDoc path ++ word ") "

/-- Layout of the parameters of a declaration, lifetimes first. -/
def genericsDoc (embedded : Embedded) (generics : Generics) : List Doc :=
  if generics.params.isEmpty then []
  else
    let inOrder := generics.params.filter (·.isLifetime) ++ generics.params.filter (!·.isLifetime)
    word "<" ++
      cbox 0 (shifted (zeroGap ++ commaItems (inOrder.map (paramDoc embedded)))) ++ word ">"

/-- Layout of a condition. -/
def conditionDoc (embedded : Embedded) : WherePredicate → List Doc
  | .lifetime name bounds =>
    lifetimeDoc name ++ word ":" ++ ibox step (boundList nbsp (bounds.map lifetimeDoc))
  | .type binder type bounds =>
    optBinderDoc embedded binder ++ typeDoc embedded type ++ word ":" ++
      ibox (if bounds.length = 1 then 0 else step) (boundList nbsp (boundsDocs embedded bounds))

/-- Conditions on lines of their own; `last` closes the last one. -/
def conditionLines (last : List Doc) : List (List Doc) → List Doc
  | [] => []
  | [condition] => condition ++ last
  | condition :: rest => condition ++ word "," ++ newline ++ conditionLines last rest

/-- Layout of the conditions before a body. -/
def conditionsBeforeBody (embedded : Embedded) (conditions : List WherePredicate) : List Doc :=
  if conditions.isEmpty then nbsp
  else
    shifted newline ++ word "where" ++ newline ++
      conditionLines (word "," ++ shifted newline) (conditions.map (conditionDoc embedded))

/-- Layout of the conditions at the end of a declaration without a body. -/
def conditionsAtEnd (embedded : Embedded) (conditions : List WherePredicate) : List Doc :=
  if conditions.isEmpty then word ";"
  else
    shifted newline ++ word "where" ++ newline ++
      conditionLines (word ";") (conditions.map (conditionDoc embedded))

/-- Conditions that may share a line; `last` closes the last one. -/
def conditionItems (last : List Doc) : List (List Doc) → List Doc
  | [] => []
  | [condition] => condition ++ last
  | condition :: rest => condition ++ commaOrSpace false ++ conditionItems last rest

/-- Layout of the conditions of an alias, before its type. -/
def conditionsBeforeType (embedded : Embedded) (conditions : List WherePredicate) : List Doc :=
  if conditions.isEmpty then nbsp
  else
    shifted space ++ word "where" ++ space ++
      conditionItems (shifted (commaOrSpace true)) (conditions.map (conditionDoc embedded))

/-- Layout of the conditions of an associated type, at its end. -/
def conditionsAfterType (embedded : Embedded) (conditions : List WherePredicate) : List Doc :=
  if conditions.isEmpty then word ";"
  else
    shifted space ++ word "where" ++ space ++
      conditionItems (word ";") (conditions.map (conditionDoc embedded))

/-- Layout of a parameter of a function. -/
def fnParamDoc (embedded : Embedded) : FnParam → List Doc
  | .receiver attributes reference isMut type =>
    outerDocs embedded attributes ++
      (match reference with
      | some (some life) => word "&" ++ lifetimeDoc life ++ nbsp
      | some none => word "&"
      | none => []) ++ optWord isMut "mut" ++ word "self" ++
      (match type with
      | some type => word ": " ++ typeDoc embedded type
      | none => [])
  | .typed attributes pattern type =>
    outerDocs embedded attributes ++ patternDoc embedded pattern ++ word ": " ++
      typeDoc embedded type
  | .variadic attributes pattern =>
    outerDocs embedded attributes ++
      (match pattern with
      | some pattern => patternDoc embedded pattern ++ word ": "
      | none => []) ++ word "..."

/-- Layout of the parameters of a function. -/
def fnParamsDoc (embedded : Embedded) (params : List FnParam) : List Doc :=
  let items := params.map (fnParamDoc embedded)
  match params.getLast?, items.getLast? with
  | some (.variadic _ _), some last =>
    items.dropLast.flatMap (· ++ comma false) ++ last ++ zeroGap
  | _, _ => commaItems items

/-- Layout of the head of a function. -/
def signatureDoc (embedded : Embedded) (signature : Signature) : List Doc :=
  optWord signature.isConst "const" ++ optWord signature.isAsync "async" ++
    (match signature.qualifier with
    | some qualifier => word (qualifier ++ " ")
    | none => []) ++
    abiDoc signature.abi ++ word "fn " ++ word signature.name ++
    genericsDoc embedded signature.generics ++ word "(" ++ noGap ++
    cbox 0 (shifted (zeroGap ++ fnParamsDoc embedded signature.params)) ++ word ")" ++
    cbox (-step) (outputDoc embedded signature.output)

/-- Layout of a field. -/
def fieldDoc (embedded : Embedded) (field : FieldDecl) : List Doc :=
  outerDocs embedded field.attributes ++ visibilityDoc field.visibility ++
    (match field.name with
    | some name => word (name ++ ": ")
    | none => []) ++ typeDoc embedded field.type

/-- Layout of fields with names, each on a line of its own. -/
def fieldLines (embedded : Embedded) (fields : List FieldDecl) : List Doc :=
  fields.flatMap fun field => fieldDoc embedded field ++ word "," ++ newline

/-- Layout of fields without names. -/
def tupleFieldsDoc (embedded : Embedded) (fields : List FieldDecl) : List Doc :=
  word "(" ++ shifted (zeroGap ++ commaItems (fields.map (fieldDoc embedded))) ++ word ")"

/-- Whether a tree ends in a group. -/
def endsInGroup : UseTree → Bool
  | .path _ rest => endsInGroup rest
  | .group _ _ => true
  | _ => false

/-- Whether a tree keeps its brackets where it is alone in a group. -/
def isSelfTree : UseTree → Bool
  | .name name | .rename name _ => name == "self"
  | _ => false

/-- A tree of a group. -/
structure UseItem where
  isSelf : Bool
  endsInGroup : Bool
  docs : List Doc

/-- The trees of a group with commas between them. A tree that ends in a group ends its
line. -/
def useItems : List UseItem → List Doc
  | [] => []
  | [last] => last.docs
  | item :: rest =>
    item.docs ++ word "," ++ (if item.endsInGroup then newline else space) ++ useItems rest

mutual
/-- Layout of an import tree. -/
def useTreeDoc : UseTree → List Doc
  | .path name rest => word name ++ word "::" ++ useTreeDoc rest
  | .name name => word name
  | .rename name newName => word name ++ word " as " ++ word newName
  | .glob => word "*"
  | .rooted tree => word "::" ++ useTreeDoc tree
  | .group trees _ =>
    match useTreesDocs trees with
    | [⟨false, _, item⟩] => item
    | items =>
      word "\x7b" ++
        cbox step (zeroGap ++ ibox 0 (useItems items) ++ shifted (comma true)) ++ word "\x7d"

/-- Layout of each tree of a group. -/
def useTreesDocs : List UseTree → List UseItem
  | [] => []
  | tree :: rest => ⟨isSelfTree tree, endsInGroup tree, useTreeDoc tree⟩ :: useTreesDocs rest
end

end EnvLoader.Layout
