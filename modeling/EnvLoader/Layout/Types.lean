import EnvLoader.Layout.Attributes
import EnvLoader.Source.TypeExpr

/-! Layout of types, bounds and paths. Expressions within them are kept as tokens, so what
lays those out is a parameter. -/
namespace EnvLoader.Layout
open Source

/-- Items with commas between them, and one after the last if its line ends there. -/
def commaItems : List (List Doc) → List Doc
  | [] => []
  | [last] => last ++ comma true
  | item :: rest => item ++ comma false ++ commaItems rest

/-- A list between brackets, on one line or with each item on a line of its own. -/
def bracketed (opening : String) (items : List (List Doc)) (closing : String) : List Doc :=
  word opening ++ cbox step (shifted (zeroGap ++ commaItems items)) ++ word closing

/-- A tuple; a single item keeps its comma. -/
def tupleDoc : List (List Doc) → List Doc
  | [item] => word "(" ++ cbox step (zeroGap ++ item ++ word "," ++ shifted zeroGap) ++ word ")"
  | items => bracketed "(" items ")"

/-- A word and a space, or nothing. -/
def optWord (condition : Bool) (text : String) : List Doc :=
  if condition then word (text ++ " ") else []

/-- A lifetime. -/
def lifetimeDoc (name : String) : List Doc := word ("'" ++ name)

/-- Bounds with plus signs before all but the first, between which lines may end. `first`
comes before the first one. -/
def boundList (first : List Doc) : List (List Doc) → List Doc
  | [] => []
  | bound :: rest => first ++ bound ++ boundList (space ++ word "+ ") rest

/-- What an opaque type captures. -/
def capturedDoc : CapturedParam → List Doc
  | .lifetime name => lifetimeDoc name
  | .param name => word name

/-- The calling convention of a function. -/
def abiDoc : Option (Option String) → List Doc
  | none => []
  | some none => word "extern "
  | some (some name) => word "extern " ++ word name ++ nbsp

/-- Whether tokens are a literal, with its sign. -/
def isLiteralTokens : List Token → Bool
  | [.literal _] | [.punct '-' _, .literal _] => true
  | [.ident name] => name == "true" || name == "false"
  | _ => false

/-- Whether tokens are a block. -/
def isBlockTokens : List Token → Bool
  | [.group .brace _] => true
  | _ => false

/-- A literal, with its sign. -/
def literalDoc (tokens : List Token) : List Doc := word (String.join (tokens.map spellingOf))

mutual
/-- Layout of a type. -/
def typeDoc (embedded : Embedded) : TypeExpr → List Doc
  | .array element length =>
    word "[" ++ typeDoc embedded element ++ word "; " ++ embedded length ++ word "]"
  | .slice element => word "[" ++ typeDoc embedded element ++ word "]"
  | .tuple elements _ => tupleDoc (typesDocs embedded elements)
  | .paren inner => word "(" ++ typeDoc embedded inner ++ word ")"
  | .grouped inner => typeDoc embedded inner
  | .path path => pathDoc embedded false path
  | .qualified base trait segments =>
    word "<" ++ typeDoc embedded base ++
      (match trait with
      | some path => word " as " ++ pathDoc embedded false path
      | none => []) ++
      word ">" ++ segmentsDoc embedded false true segments
  | .reference life isMut target =>
    word "&" ++
      (match life with
      | some name => lifetimeDoc name ++ nbsp
      | none => []) ++ optWord isMut "mut" ++ typeDoc embedded target
  | .pointer isMut target =>
    word (if isMut then "*mut " else "*const ") ++ typeDoc embedded target
  | .function binder isUnsafe abi inputs _ variadic output =>
    let items := inputsDocs embedded inputs
    let body :=
      match variadic with
      | none => zeroGap ++ commaItems items
      | some variadic =>
        zeroGap ++ items.flatMap (· ++ comma false) ++ outerDocs embedded variadic.attributes ++
          (match variadic.name with
          | some name => word (name ++ ": ")
          | none => []) ++ word "..." ++ zeroGap
    optBinderDoc embedded binder ++ optWord isUnsafe "unsafe" ++ abiDoc abi ++ word "fn(" ++
      cbox step (shifted body) ++ word ")" ++
      (match output with
      | some type => word " -> " ++ typeDoc embedded type
      | none => [])
  | .traitObject _ bounds _ => word "dyn " ++ joined " + " (boundsDocs embedded bounds)
  | .implTrait bounds _ => word "impl " ++ joined " + " (boundsDocs embedded bounds)
  | .macroCall path delimiter body => macroDoc (modulePathDoc path) delimiter body
  | .never => word "!"
  | .infer => word "_"
  | .verbatim tokens => word (textOf tokens)

/-- Layout of each type. -/
def typesDocs (embedded : Embedded) : List TypeExpr → List (List Doc)
  | [] => []
  | type :: rest => typeDoc embedded type :: typesDocs embedded rest

/-- Layout of a parameter of a function pointer. -/
def inputDoc (embedded : Embedded) : FnInput → List Doc
  | .mk attributes name type =>
    outerDocs embedded attributes ++
      (match name with
      | some name => word (name ++ ": ")
      | none => []) ++ typeDoc embedded type

/-- Layout of each parameter. -/
def inputsDocs (embedded : Embedded) : List FnInput → List (List Doc)
  | [] => []
  | input :: rest => inputDoc embedded input :: inputsDocs embedded rest

/-- Layout of `for<…>`. -/
def binderDoc (embedded : Embedded) : Binder → List Doc
  | .mk params _ => word "for<" ++ joined ", " (paramsDocs embedded params) ++ word "> "

/-- Layout of an optional `for<…>`. -/
def optBinderDoc (embedded : Embedded) : Option Binder → List Doc
  | some binder => binderDoc embedded binder
  | none => []

/-- Layout of a parameter of a declaration or of `for<…>`. -/
def paramDoc (embedded : Embedded) : GenericParam → List Doc
  | .lifetime attributes name bounds _ =>
    outerDocs embedded attributes ++ lifetimeDoc name ++
      (if bounds.isEmpty then [] else word ": " ++ joined " + " (bounds.map lifetimeDoc))
  | .type attributes name bounds _ default =>
    outerDocs embedded attributes ++ word name ++
      ibox step (boundList (word ": ") (boundsDocs embedded bounds) ++
        (match default with
        | some type => space ++ word "= " ++ typeDoc embedded type
        | none => []))
  | .const attributes name type default =>
    outerDocs embedded attributes ++ word ("const " ++ name ++ ": ") ++ typeDoc embedded type ++
      (if default.isEmpty then [] else word " = " ++ embedded default)

/-- Layout of each parameter. -/
def paramsDocs (embedded : Embedded) : List GenericParam → List (List Doc)
  | [] => []
  | param :: rest => paramDoc embedded param :: paramsDocs embedded rest

/-- Layout of a bound. -/
def boundDoc (embedded : Embedded) : Bound → List Doc
  | .lifetime name => lifetimeDoc name
  | .trait isParen isMaybe binder path =>
    let inner :=
      (if isMaybe then word "?" else []) ++ optBinderDoc embedded binder ++
        pathDoc embedded false path
    if isParen then word "(" ++ inner ++ word ")" else inner
  | .capture params _ => word "use<" ++ joined ", " (params.map capturedDoc) ++ word ">"
  | .verbatim tokens => word (textOf tokens)

/-- Layout of each bound. -/
def boundsDocs (embedded : Embedded) : List Bound → List (List Doc)
  | [] => []
  | bound :: rest => boundDoc embedded bound :: boundsDocs embedded rest

/-- Layout of a path. In an expression, arguments need a `::` before them. -/
def pathDoc (embedded : Embedded) (inExpr : Bool) : Path → List Doc
  | .mk leading segments => segmentsDoc embedded inExpr leading segments

/-- Layout of segments, with or without a leading `::`. -/
def segmentsDoc (embedded : Embedded) (inExpr : Bool) (leading : Bool) : List Segment → List Doc
  | [] => []
  | segment :: rest =>
    (if leading then word "::" else []) ++ segmentDoc embedded inExpr segment ++
      segmentsDoc embedded inExpr true rest

/-- Layout of a segment. -/
def segmentDoc (embedded : Embedded) (inExpr : Bool) : Segment → List Doc
  | .mk name arguments => word name ++ argumentsDoc embedded inExpr arguments

/-- Layout of arguments, lifetimes first. -/
def argumentsDoc (embedded : Embedded) (inExpr : Bool) : Arguments → List Doc
  | .none => []
  | .angle _ arguments _ =>
    let items := argumentDocs embedded true arguments ++ argumentDocs embedded false arguments
    if items.isEmpty then []
    else (if inExpr then word "::" else []) ++ bracketed "<" items ">"
  | .inputs types _ output =>
    cbox step (word "(" ++ shifted (zeroGap ++ commaItems (typesDocs embedded types)) ++ word ")" ++
      (match output with
      | some type => word " -> " ++ typeDoc embedded type
      | none => []))

/-- Layout of those arguments that are, or are not, lifetimes. -/
def argumentDocs (embedded : Embedded) (lifetimes : Bool) : List Argument → List (List Doc)
  | [] => []
  | argument :: rest =>
    if argument.isLifetime = lifetimes then
      argumentDoc embedded argument :: argumentDocs embedded lifetimes rest
    else argumentDocs embedded lifetimes rest

/-- Layout of an argument. A constant that is neither a literal nor a block is put into
brackets, without which it could be taken for a type. -/
def argumentDoc (embedded : Embedded) : Argument → List Doc
  | .lifetime name => lifetimeDoc name
  | .type type => typeDoc embedded type
  | .const value =>
    if isLiteralTokens value then literalDoc value
    else if isBlockTokens value then embedded value
    else word "\x7b" ++ embedded value ++ word "\x7d"
  | .assocType name generics type =>
    word name ++ argumentsDoc embedded false generics ++ word " = " ++ typeDoc embedded type
  | .assocConst name generics value =>
    word name ++ argumentsDoc embedded false generics ++ word " = " ++ embedded value
  | .constraint name generics bounds _ =>
    word name ++ argumentsDoc embedded false generics ++
      ibox step (boundList (word ": ") (boundsDocs embedded bounds))
end

/-- Layout of a path as an expression or a pattern has it. -/
def placeDoc (embedded : Embedded) : TypeExpr → List Doc
  | .path path => pathDoc embedded true path
  | .qualified base trait segments =>
    word "<" ++ typeDoc embedded base ++
      (match trait with
      | some path => word " as " ++ pathDoc embedded false path
      | none => []) ++
      word ">" ++ segmentsDoc embedded true true segments
  | other => typeDoc embedded other

/-- What a function gives. -/
def outputDoc (embedded : Embedded) : Option TypeExpr → List Doc
  | some type => word " -> " ++ typeDoc embedded type
  | none => []

end EnvLoader.Layout
