import EnvLoader.Loader.ErrorEnum

/-! The functions of a generated loader that build a record: one that reads its fields,
and, where a field selects between others, one that builds what is selected. -/
namespace EnvLoader.Loader
open Source

/-- The name of the variable to read: known, or made of the prefix at run time by a
format string. -/
inductive KeyExpr where
  | literal (key : String)
  | formatted (format : String)
  deriving DecidableEq, Repr, Inhabited

/-- The format string that puts a key below the prefix. -/
def prefixedFormat (key : String) : String := placeholder "prefix" ++ "_" ++ escapeBraces key

/-- The tokens of a key. -/
def KeyExpr.tokens : KeyExpr → List Token
  | .literal key => quoted key
  | .formatted format => code "& format !" ++ inParens (quoted format)

/-- The value of a member. -/
inductive ValueExpr where
  /-- Reads a variable that has to be set. -/
  | required (parser : String) (key : KeyExpr)
  /-- Reads a variable that may be unset, with or without a default. -/
  | optional (parser : String) (default : Option String) (key : KeyExpr)
  /-- Reads a variable, and takes the type's own default where nothing is found. -/
  | orDefault (parser : String) (default : Option String) (key : KeyExpr)
  /-- Builds a nested record below a prefix. -/
  | nested (record : String) (key : KeyExpr)
  /-- Builds a nested record that is always there. -/
  | some (value : ValueExpr)
  /-- Takes a value only if the selector names it. -/
  | guarded (label : String) (value : ValueExpr)
  deriving DecidableEq, Repr, Inhabited

/-- The variable that holds the selector's value. -/
def selectedName : String := "selected"

/-- The tokens of an optional text. -/
def optionalText : Option String → List Token
  | none => word "None"
  | some text => word "Some" ++ inParens (quoted text)

/-- The tokens of a value. -/
def ValueExpr.tokens : ValueExpr → List Token
  | .required parser key => word parser ++ inParens key.tokens ++ mark "?"
  | .optional parser default key =>
    word parser ++ inParens (optionalText default ++ mark "," ++ key.tokens) ++ mark "?"
  | .orDefault parser default key =>
    word parser ++ inParens (optionalText default ++ mark "," ++ key.tokens) ++ mark "?" ++
      code ". unwrap_or_default ()"
  | .nested record key =>
    member record "from_env_with_prefix" ++ inParens key.tokens ++ mark "?"
  | .some value => word "Some" ++ inParens value.tokens
  | .guarded label value =>
    word "if" ++ word selectedName ++ mark "==" ++ quoted label ++
      inBraces (word "Some" ++ inParens value.tokens) ++ word "else" ++ inBraces (word "None")

/-- A member of a record: a name, or a position. -/
inductive MemberName where
  | name (name : String)
  | position (index : Nat)
  deriving DecidableEq, Repr, Inhabited

/-- The token of a member. -/
def MemberName.tokens : MemberName → List Token
  | .name text => word text
  | .position index => [.literal (toString index)]

/-- The function that reads a record. -/
structure Constructor where
  record : String
  docs : String
  /-- The root is read from fixed keys, every other record below a prefix. -/
  isRoot : Bool
  /-- The members in the order of the literal, the selector's excepted. -/
  members : List (MemberName × ValueExpr)
  /-- The selector, which is read first and moved into the literal last. -/
  selector : Option (MemberName × ValueExpr)
  deriving DecidableEq, Repr, Inhabited

/-- Whether the record has no members; it can then be built at compile time. -/
def Constructor.isConst (constructor : Constructor) : Bool :=
  constructor.members.isEmpty && constructor.selector.isNone

/-- The statement that reads the selector. -/
def Constructor.prelude (constructor : Constructor) : List Token :=
  match constructor.selector with
  | some (_, value) => word "let" ++ word selectedName ++ mark "=" ++ value.tokens ++ mark ";"
  | none => []

/-- The members of the literal. -/
def Constructor.literal (constructor : Constructor) : List Token :=
  let plain := constructor.members.map fun (name, value) => name.tokens ++ mark ":" ++ value.tokens
  let moved :=
    match constructor.selector with
    | some (name, _) => [name.tokens ++ mark ":" ++ word selectedName]
    | none => []
  commaTokens true (plain ++ moved)

/-- The paragraph about the errors of a constructor. -/
def constructorErrors : List String :=
  ["", " # Errors", "",
    " Returns an error when a required key is missing or a value fails to parse."]

/-- The tokens of a constructor. -/
def Constructor.tokens (constructor : Constructor) (error : String) : List Token :=
  let docs := if constructor.docs.isEmpty then "" else "\n\n" ++ constructor.docs
  let summary :=
    if constructor.isRoot then s!" Loads [`{constructor.record}`] from the environment." ++ docs
    else s!" Loads [`{constructor.record}`] from keys starting with `prefix`." ++ docs
  let head :=
    if constructor.isRoot then word "from_env" ++ inParens []
    else
      word "from_env_with_prefix" ++
        inParens (word (if constructor.isConst then "_prefix" else "prefix") ++ code ": & str")
  docTokens summary ++ rawDocLines constructorErrors ++ word "pub" ++
    wordIf constructor.isConst "const" ++ word "fn" ++ head ++ mark "->" ++
    applied "Result" [word "Self", word error] ++
    inBraces (constructor.prelude ++ word "Ok" ++
      inParens (word "Self" ++ inBraces constructor.literal))

/-- A choice of a dispatcher: the label that selects a member, and the method that
converts it. -/
structure Choice where
  label : String
  member : MemberName
  method : String
  deriving DecidableEq, Repr, Inhabited

/-- The function that builds what the selector names. -/
structure Dispatcher where
  /-- The type to build, as it was given. -/
  targetText : String
  target : TypeExpr
  /-- The name of the selector. -/
  selector : String
  selectorMember : MemberName
  choices : List Choice

/-- The selector's value, to be kept in an error. -/
def Dispatcher.selectorClone (dispatcher : Dispatcher) : List Token :=
  code "self ." ++ dispatcher.selectorMember.tokens ++ code ". clone ()"

/-- The arm of a choice. -/
def Dispatcher.arm (dispatcher : Dispatcher) (error : String) (choice : Choice) : List Token :=
  quoted choice.label ++ mark "=>" ++ code "self ." ++ choice.member.tokens ++
    code ". as_ref () . ok_or_else" ++
    inParens (mark "||" ++ member error "InvalidChoice" ++ inParens dispatcher.selectorClone) ++
    mark "?" ++ mark "." ++ word choice.method ++ code "() . map (Into :: into) . map_err" ++
    inParens (code "| source |" ++ member error "Build" ++
      inParens (dispatcher.selectorClone ++ code ", source . into ()"))

/-- The paragraph about the errors of a dispatcher. -/
def dispatcherErrors : List String :=
  ["", " # Errors", "",
    " Returns an error when the selected configuration is absent, the",
    " selector names no known choice, or the selected builder fails."]

/-- The tokens of a dispatcher. -/
def Dispatcher.tokens (dispatcher : Dispatcher) (error : String) : List Token :=
  docTokens s!" Builds the `{dispatcher.targetText}` named by `{dispatcher.selector}`." ++
    rawDocLines dispatcherErrors ++ code "pub fn build (& self) ->" ++
    applied "Result" [dispatcher.target.tokens, word error] ++
    inBraces (code "match self ." ++ dispatcher.selectorMember.tokens ++ code ". as_str ()" ++
      inBraces (commaTokens true (dispatcher.choices.map (dispatcher.arm error)) ++
        code "other => Err" ++
        inParens (member error "InvalidChoice" ++ code "(other . to_owned ())") ++ mark ","))

/-- What is generated for a record. -/
structure Implementation where
  record : String
  constructor : Constructor
  dispatcher : Option Dispatcher

/-- The tokens of an implementation. -/
def Implementation.tokens (implementation : Implementation) (error : String) : List Token :=
  word "impl" ++ word implementation.record ++
    inBraces (implementation.constructor.tokens error ++
      (match implementation.dispatcher with
      | some dispatcher => dispatcher.tokens error
      | none => []))

end EnvLoader.Loader
