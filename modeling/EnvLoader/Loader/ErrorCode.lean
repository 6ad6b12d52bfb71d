import EnvLoader.Key
import EnvLoader.Loader.ErrorEnum
import EnvLoader.Loader.Format
import EnvLoader.Source.Literal

/-! The error enumeration of a loader as code: the variants that its tokens declare, and what the
methods in them do with a value. The code is taken for what the language makes of it, a match goes on
with the first arm that takes the value. -/
namespace EnvLoader.Loader
open Source

/-! ### Code -/

/-- A declared variant, with the tokens of the type of its source if it has one. -/
structure VariantCode where
  doc : String
  name : String
  source : Option (List Token)

/-- What an arm of a match takes: every value, or those of a variant, whose fields get names. -/
inductive ArmPattern where
  | any
  | variant (name : String) (fields : List String)

/-- An arm of a match. -/
structure MatchArm where
  pattern : ArmPattern
  body : List Token

/-- The body of a method: a match on the error, or an expression alone. -/
inductive MethodCode where
  | matching (arms : List MatchArm)
  | plain (body : List Token)

/-- The code of an error enumeration: its name, its variants, the method that shows an error and the
one that gives its source. -/
structure ErrorCode where
  name : String
  variants : List VariantCode
  display : MethodCode
  source : MethodCode

/-! ### Reading -/

/-- Cuts code at its first curly brackets: what stands in front of them, in them and behind them. -/
def cutBraces? : List Token → Option (List Token × List Token × List Token)
  | .group .brace body :: rest => some ([], body, rest)
  | token :: rest => (cutBraces? rest).map fun (front, after) => (token :: front, after)
  | [] => none

/-- Cuts an arm at its arrow. -/
def cutArrow? : List Token → Option (List Token × List Token)
  | .punct '=' .joint :: .punct '>' .alone :: body => some ([], body)
  | token :: rest => (cutArrow? rest).map fun (front, body) => (token :: front, body)
  | [] => none

/-- Whether a token is a comma. -/
def isComma : Token → Bool
  | .punct ',' _ => true
  | _ => false

/-- What stands between commas. A comma at the end is not followed by anything. -/
def commaParts (tokens : List Token) : List (List Token) :=
  let parts := tokens.splitOnP isComma
  if parts.getLast?.any (·.isEmpty) then parts.dropLast else parts

/-- Whether two pieces of code are spelled alike. -/
def spelledAlike (first second : List Token) : Bool := first.map Token.text == second.map Token.text

/-- The name at the end of code, behind tokens that it has to follow. -/
def nameBehind? (front tokens : List Token) : Option String :=
  match tokens.reverse with
  | .ident name :: before =>
    if spelledAlike (before.take front.length) front.reverse then some name else none
  | _ => none

/-- The names between commas. -/
def namesBetween? (tokens : List Token) : Option (List String) :=
  (commaParts tokens).mapM fun
    | [.ident name] => some name
    | _ => none

/-- Reads the declaration of a variant: its documentation, its name, and the types of its fields, of
which the first is the text of the context. -/
def variantCode? : List Token → Option VariantCode
  | [.punct '#' _, .group .bracket [.ident "doc", .punct '=' _, .literal doc], .ident name,
      .group .paren (.ident "String" :: fields)] => do
    let source ←
      match fields with
      | [] => some none
      | .punct ',' _ :: type => some (some type)
      | _ => none
    return ⟨← stringValue? doc, name, source⟩
  | _ => none

/-- Reads the pattern of an arm. -/
def armPattern? : List Token → Option ArmPattern
  | [.ident "_"] => some .any
  | [.ident "Self", .punct ':' .joint, .punct ':' _, .ident name, .group .paren fields] =>
    (namesBetween? fields).map (.variant name)
  | _ => none

/-- Reads an arm. -/
def matchArm? (tokens : List Token) : Option MatchArm := do
  let (pattern, body) ← cutArrow? tokens
  return ⟨← armPattern? pattern, body⟩

/-- Reads the body of a method. There is a value behind every reference, as far as a match can tell, so
a match on the reference itself needs an arm. One on what it refers to could not hand out its fields. -/
def methodCode? : List Token → Option MethodCode
  | [.ident "match", .ident "self", .group .brace arms] =>
    if arms.isEmpty then none else ((commaParts arms).mapM matchArm?).map .matching
  | [.ident "match", .punct '*' _, .ident "self", .group .brace arms] =>
    if arms.isEmpty then some (.matching []) else none
  | body => some (.plain body)

/-- The head of the method that shows an error. -/
def displayHead : List Token :=
  code ("fn fmt (& self , f : & mut :: std :: fmt :: Formatter < '_ >) " ++
    "-> :: std :: fmt :: Result")

/-- The head of the method that gives the source of an error. -/
def sourceHead : List Token :=
  code ("fn source (& self) -> Option < & (dyn :: std :: error :: Error + 'static) >")

/-- Reads the implementation of a trait for a type, which has a single method. -/
def methodOf? (trait : List Token) (name : String) (head front body : List Token) :
    Option MethodCode := do
  let (methodHead, method, rest) ← cutBraces? body
  if nameBehind? trait front = some name ∧ spelledAlike methodHead head ∧ rest.isEmpty then
    methodCode? method
  else none

/-- Reads an error enumeration and what makes it an error. -/
def errorCode? (tokens : List Token) : Option ErrorCode := do
  let (front, variants, rest) ← cutBraces? tokens
  let name ← nameBehind? (word "enum") front
  let variants ← (commaParts variants).mapM variantCode?
  let (front, body, rest) ← cutBraces? rest
  let display ← methodOf? (code "impl :: std :: fmt :: Display for") name displayHead front body
  let (front, body, rest) ← cutBraces? rest
  let source ← methodOf? (code "impl :: std :: error :: Error for") name sourceHead front body
  if rest.isEmpty then some ⟨name, variants, display, source⟩ else none

/-! ### Running -/

/-- A value of an error enumeration: of a variant, with a context, and with a cause as it is shown if
the variant has a source. -/
structure ErrorValue where
  variant : String
  context : String
  cause : Option String

/-- Whether two names are the same, which does not depend on a mark that makes them raw. -/
def sameName (first second : String) : Bool :=
  withoutRawMark first.toList == withoutRawMark second.toList

/-- The fields of a value as they are shown. -/
def ErrorValue.fields (value : ErrorValue) : List String := value.context :: value.cause.toList

/-- Names that stand for what is shown of a value. -/
abbrev Captured := List (String × String)

/-- What a name stands for. An underscore is not a name. -/
def Captured.find? (captured : Captured) (name : String) : Option String :=
  if name = "_" then none else captured.lookup name

/-- The names that a pattern gives to the fields of a value, if it takes the value. -/
def ArmPattern.captured? (value : ErrorValue) : ArmPattern → Option Captured
  | .any => some []
  | .variant name fields =>
    if sameName name value.variant ∧ fields.length = value.fields.length then
      some (fields.zip value.fields)
    else none

/-- Whether an arm takes a value. -/
def MatchArm.takes (arm : MatchArm) (value : ErrorValue) : Bool :=
  (arm.pattern.captured? value).isSome

/-- What a method goes on with for a value. -/
def MethodCode.body? (value : ErrorValue) : MethodCode → Option (Captured × List Token)
  | .matching arms => arms.findSome? fun arm => (arm.pattern.captured? value).map (·, arm.body)
  | .plain body => some ([], body)

/-- The text that code writes. -/
def written? (captured : Captured) : List Token → Option String
  | [.ident "write", .punct '!' _, .group .paren [.ident "f", .punct ',' _, .literal format]] => do
    formatWith captured.find? (← stringValue? format)
  | _ => none

/-- The error that code gives, as it is shown. What is stored behind a pointer is given without it. -/
def given? (captured : Captured) : List Token → Option (Option String)
  | [.ident "None"] => some none
  | [.ident "Some", .group .paren [.ident name]] => (captured.find? name).map some
  | [.ident "Some", .group .paren [.punct '&' _, .punct '*' _, .punct '*' _, .ident name]] =>
    (captured.find? name).map some
  | _ => none

namespace ErrorCode

/-- A value of the enumeration: it is of a declared variant, and has a cause if that has a source. -/
def Holds (error : ErrorCode) (value : ErrorValue) : Prop :=
  ∃ variant ∈ error.variants,
    value.variant = variant.name ∧ value.cause.isSome = variant.source.isSome

/-- How a value is shown. -/
def shown? (error : ErrorCode) (value : ErrorValue) : Option String := do
  let (captured, body) ← error.display.body? value
  written? captured body

/-- The source of a value. -/
def source? (error : ErrorCode) (value : ErrorValue) : Option (Option String) := do
  let (captured, body) ← error.source.body? value
  given? captured body

end ErrorCode
end EnvLoader.Loader
