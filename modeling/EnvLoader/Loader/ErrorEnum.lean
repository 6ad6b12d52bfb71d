import EnvLoader.Source.Fragment

/-! The error enumeration of a generated loader. Every variant carries a context, mostly
the name of a variable, and some also the error that caused it. -/
namespace EnvLoader.Loader
open Source

/-- A variant of the error enumeration. -/
structure ErrorCase where
  name : String
  /-- What the error says before its context. -/
  message : String
  /-- The type of the error that caused it. -/
  source : Option TypeExpr

/-- The error enumeration. -/
structure ErrorEnum where
  name : String
  cases : List ErrorCase

/-- A text as it stands in a format string, where a brace is written twice. -/
def escapeBraces (text : String) : String :=
  String.ofList (text.toList.flatMap fun c => if c = '\x7b' ∨ c = '\x7d' then [c, c] else [c])

/-- A captured variable in a format string. -/
def placeholder (name : String) : String := "\x7b" ++ name ++ "\x7d"

/-- The format string that shows a case. -/
def ErrorCase.displayFormat (case : ErrorCase) : String :=
  escapeBraces case.message ++ ": " ++ placeholder "context" ++
    (if case.source.isSome then ": " ++ placeholder "source" else "")

/-- Whether a source is stored behind a pointer of its own. -/
def isBoxed : TypeExpr → Bool
  | .path path => path.segments.getLast?.any (·.name = "Box")
  | .qualified _ _ segments => segments.getLast?.any (·.name = "Box")
  | _ => false

/-- The declaration of a case. -/
def ErrorCase.declaration (case : ErrorCase) : List Token :=
  docTokens (" " ++ case.message ++ ".") ++ word case.name ++
    inParens (word "String" ++
      (match case.source with
      | some type => mark "," ++ type.tokens
      | none => []))

/-- The arm that shows a case. -/
def ErrorCase.displayArm (case : ErrorCase) : List Token :=
  member "Self" case.name ++
    inParens (code (if case.source.isSome then "context , source" else "context")) ++
    mark "=>" ++ code "write !" ++
    inParens (word "f" ++ mark "," ++ quoted case.displayFormat)

/-- The arm that gives the source of a case that has one. -/
def ErrorCase.sourceArm? (case : ErrorCase) : Option (List Token) :=
  case.source.map fun type =>
    member "Self" case.name ++ inParens (code "_ , source") ++ mark "=>" ++ word "Some" ++
      inParens (code (if isBoxed type then "& * * source" else "source")) ++ mark ","

/-- The body that shows an error. An enumeration without cases is matched by no arm. -/
def ErrorEnum.displayBody (error : ErrorEnum) : List Token :=
  if error.cases.isEmpty then code "match * self" ++ inBraces []
  else code "match self" ++ inBraces (commaTokens true (error.cases.map (·.displayArm)))

/-- The body that gives the source of an error. Cases without one share the last arm. -/
def ErrorEnum.sourceBody (error : ErrorEnum) : List Token :=
  let arms := error.cases.filterMap (·.sourceArm?)
  if arms.isEmpty then word "None"
  else
    code "match self" ++
      inBraces (arms.flatten ++
        (if arms.length = error.cases.length then [] else code "_ => None ,"))

/-- The tokens of the enumeration and of what makes it an error. -/
def ErrorEnum.tokens (error : ErrorEnum) : List Token :=
  rawDocTokens " Errors returned while loading configuration from the environment." ++
    code "# [derive (Debug)] pub enum" ++ word error.name ++
    inBraces (commaTokens true (error.cases.map (·.declaration))) ++
    code "impl :: std :: fmt :: Display for" ++ word error.name ++
    inBraces (code ("fn fmt (& self , f : & mut :: std :: fmt :: Formatter < '_ >) " ++
      "-> :: std :: fmt :: Result") ++ inBraces error.displayBody) ++
    code "impl :: std :: error :: Error for" ++ word error.name ++
    inBraces (code ("fn source (& self) -> " ++
      "Option < & (dyn :: std :: error :: Error + 'static) >") ++ inBraces error.sourceBody)

end EnvLoader.Loader
