import EnvLoader.Layout.Tokens
import EnvLoader.Source.Attribute
import EnvLoader.Text.CharClass

/-! Layout of attributes. Documentation is written as a comment wherever reading the comment
gives the same text back. The value of an attribute is an expression that is kept as tokens,
so what lays it out is a parameter. -/
namespace EnvLoader.Layout
open Source

/-- What lays out an expression that is kept as tokens. -/
abbrev Embedded := List Token → List Doc

/-- Items joined by a text where no line ends. -/
def joined (separator : String) : List (List Doc) → List Doc
  | [] => []
  | [last] => last
  | item :: rest => item ++ word separator ++ joined separator rest

/-- A path that names a module, an attribute or a macro. -/
def modulePathDoc (path : ModulePath) : List Doc :=
  (if path.leading then word "::" else []) ++ joined "::" (path.words.map word)

/-- A text without the spaces at its end. -/
def withoutFinalSpaces (text : List Char) : List Char :=
  (text.reverse.dropWhile (· = ' ')).reverse

/-- Lines without the spaces at their ends, except for the last one. -/
def withoutInnerSpaces : List (List Char) → List (List Char)
  | [] => []
  | [last] => [last]
  | line :: rest => withoutFinalSpaces line :: withoutInnerSpaces rest

/-- Whether the ends of comments within a text match their beginnings, at a given depth. -/
def commentsMatch : Nat → List Char → Bool
  | depth, '/' :: '*' :: rest => commentsMatch (depth + 1) rest
  | 0, '*' :: '/' :: _ => false
  | depth + 1, '*' :: '/' :: rest => commentsMatch depth rest
  | depth, _ :: rest => commentsMatch depth rest
  | depth, [] => depth == 0

/-- Whether a text can stand in a comment with an end mark. -/
def canBeBlockComment (text : List Char) : Bool :=
  commentsMatch 0 text && text.getLast? != some '/'

/-- A comment, if the text can be one: up to the end of the line, or with an end mark if
it holds several lines. `guard` says which beginnings would change its meaning. -/
def commentDoc? (lineMark blockMark text : String) (lineGuard blockGuard : List Char) :
    Option (List Doc) :=
  let chars := text.toList
  let startsIn (guarded : List Char) := chars.head?.any guarded.contains
  if !chars.contains '\n' && !startsIn lineGuard then
    some (word lineMark ++ word (String.ofList (withoutFinalSpaces chars)) ++ newline)
  else if canBeBlockComment chars && !startsIn blockGuard then
    let lines := withoutInnerSpaces (Text.splitAt '\n' chars)
    some (word blockMark ++ word (String.ofList (['\n'].intercalate lines)) ++ word "*/" ++ newline)
  else none

/-- The text an attribute gives to a name. -/
def attributeText? (attr : Attribute) (name : String) : Option String :=
  if attr.isNamed name then
    match attr.input with
    | .value [.literal text] => stringValue? text
    | _ => none
  else none

/-- Layout of an attribute. Documentation becomes a comment if it can. -/
def attributeDoc (embedded : Embedded) (attr : Attribute) : List Doc :=
  let comment :=
    match attributeText? attr "doc" with
    | some text =>
      if attr.isInner then commentDoc? "//!" "/*!" text [] []
      else commentDoc? "///" "/**" text ['/'] ['*', '/']
    | none =>
      match attributeText? attr "comment" with
      | some text => commentDoc? "//" "/*" text [] ['*', '!']
      | none => none
  match comment with
  | some docs => docs
  | none =>
    let input :=
      match attr.input with
      | .bare => []
      | .list delimiter body => attributeTokens false true [.group delimiter body]
      | .value tokens => word " = " ++ embedded tokens
    word (if attr.isInner then "#!" else "#") ++ word "[" ++ modulePathDoc attr.path ++ input ++
      word "]" ++ space

/-- Layout of the attributes of what follows. -/
def outerDocs (embedded : Embedded) (attributes : List Attribute) : List Doc :=
  (attributes.filter (!·.isInner)).flatMap (attributeDoc embedded)

/-- Layout of the attributes of what is around. -/
def innerDocs (embedded : Embedded) (attributes : List Attribute) : List Doc :=
  (attributes.filter (·.isInner)).flatMap (attributeDoc embedded)

end EnvLoader.Layout
