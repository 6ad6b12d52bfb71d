import EnvLoader.Source.Attribute

/-! Type expressions and paths, as a tree, with the tokens they are written as. Lengths of
arrays and constant arguments stay token sequences, since no question about a type
depends on what they compute. -/
namespace EnvLoader.Source

/-- A number of further parameters that is not fixed, announced by dots at the end of the
parameters of a function pointer. -/
structure VariadicInput where
  attributes : List Attribute
  name : Option String
  trailing : Bool
  deriving Repr, Inhabited

/-- What an opaque type may capture. -/
inductive CapturedParam where
  | lifetime (name : String)
  | param (name : String)
  deriving DecidableEq, Repr, Inhabited

mutual
/-- A type as it is written. Lists remember whether a separator follows their last item. -/
inductive TypeExpr where
  | array (element : TypeExpr) (length : List Token)
  | slice (element : TypeExpr)
  | tuple (elements : List TypeExpr) (trailing : Bool)
  | paren (inner : TypeExpr)
  /-- Brackets that are not written but hold a type together. -/
  | grouped (inner : TypeExpr)
  | path (path : Path)
  /-- A path that starts at a type: `<T as Trait>::A::B`. -/
  | qualified (base : TypeExpr) (trait : Option Path) (segments : List Segment)
  | reference (lifetime : Option String) (isMut : Bool) (target : TypeExpr)
  | pointer (isMut : Bool) (target : TypeExpr)
  | function (binder : Option Binder) (isUnsafe : Bool) (abi : Option (Option String))
      (inputs : List FnInput) (trailing : Bool) (variadic : Option VariadicInput)
      (output : Option TypeExpr)
  | traitObject (hasDyn : Bool) (bounds : List Bound) (trailing : Bool)
  | implTrait (bounds : List Bound) (trailing : Bool)
  | macroCall (path : ModulePath) (delimiter : Delimiter) (body : List Token)
  | never
  | infer
  | verbatim (tokens : List Token)

/-- A parameter of a function pointer. -/
inductive FnInput where
  | mk (attributes : List Attribute) (name : Option String) (type : TypeExpr)

/-- The parameters that `for<…>` binds. -/
inductive Binder where
  | mk (params : List GenericParam) (trailing : Bool)

/-- A parameter of a declaration or of `for<…>`. -/
inductive GenericParam where
  | lifetime (attributes : List Attribute) (name : String) (bounds : List String)
      (trailing : Bool)
  | type (attributes : List Attribute) (name : String) (bounds : List Bound) (trailing : Bool)
      (default : Option TypeExpr)
  | const (attributes : List Attribute) (name : String) (type : TypeExpr) (default : List Token)

/-- A bound on a type. -/
inductive Bound where
  | lifetime (name : String)
  | trait (isParen : Bool) (isMaybe : Bool) (binder : Option Binder) (path : Path)
  /-- The list of what an opaque type captures: `use<…>`. -/
  | capture (params : List CapturedParam) (trailing : Bool)
  | verbatim (tokens : List Token)

/-- A path: segments separated by `::`, with or without a leading one. -/
inductive Path where
  | mk (leading : Bool) (segments : List Segment)

/-- A segment of a path. -/
inductive Segment where
  | mk (name : String) (arguments : Arguments)

/-- The arguments of a segment: none, in angle brackets, or as of a function. -/
inductive Arguments where
  | none
  | angle (turbofish : Bool) (arguments : List Argument) (trailing : Bool)
  | inputs (types : List TypeExpr) (trailing : Bool) (output : Option TypeExpr)

/-- An argument in angle brackets. -/
inductive Argument where
  | lifetime (name : String)
  | type (type : TypeExpr)
  | const (value : List Token)
  | assocType (name : String) (generics : Arguments) (type : TypeExpr)
  | assocConst (name : String) (generics : Arguments) (value : List Token)
  | constraint (name : String) (generics : Arguments) (bounds : List Bound) (trailing : Bool)
end

instance : Inhabited TypeExpr := ⟨.infer⟩
instance : Inhabited Path := ⟨.mk false []⟩

/-- Whether a path starts with `::`. -/
def Path.leading : Path → Bool
  | .mk leading _ => leading

/-- The segments of a path. -/
def Path.segments : Path → List Segment
  | .mk _ segments => segments

/-- The name of a segment. -/
def Segment.name : Segment → String
  | .mk name _ => name

/-- The arguments of a segment. -/
def Segment.arguments : Segment → Arguments
  | .mk _ arguments => arguments

/-- Whether a segment has no arguments. -/
def Arguments.isNone : Arguments → Bool
  | .none => true
  | _ => false

/-- Whether nothing stands between the brackets of the arguments, if there are any. -/
def Arguments.isEmpty : Arguments → Bool
  | .none => true
  | .angle _ arguments _ => arguments.isEmpty
  | .inputs _ _ _ => false

/-- The only name of a path that is no more than that. -/
def Path.name? : Path → Option String
  | .mk false [.mk name .none] => some name
  | _ => none

/-- Whether no segment has arguments. -/
def Path.isPlain (path : Path) : Bool := path.segments.all (·.arguments.isNone)

/-- The path of words that a path without arguments is. -/
def Path.module? (path : Path) : Option ModulePath :=
  if path.isPlain then some ⟨path.leading, path.segments.map (·.name)⟩ else none

/-- The tokens of `extern` with an optional name. -/
def abiTokens : Option (Option String) → List Token
  | none => []
  | some none => [.ident "extern"]
  | some (some name) => [.ident "extern", .literal name]

/-- Whether a parameter is a lifetime; those are written first. -/
def GenericParam.isLifetime : GenericParam → Bool
  | .lifetime _ _ _ _ => true
  | _ => false

/-- Lifetimes are written before the other arguments. -/
def Argument.isLifetime : Argument → Bool
  | .lifetime _ => true
  | _ => false

/-- Whether what opaque types capture is a lifetime; those are written first. -/
def CapturedParam.isLifetime : CapturedParam → Bool
  | .lifetime _ => true
  | .param _ => false

/-- The tokens of what an opaque type captures. -/
def CapturedParam.tokens : CapturedParam → List Token
  | .lifetime name => Source.lifetime name
  | .param name => [.ident name]

/-- Whether a comma follows the last item of a list once its lifetimes are put in front. An
item that was not the last one brings its comma along. `areLifetimes` tells for each item
whether it is one, and `trailing` whether a comma followed the last item. -/
def endsInComma (areLifetimes : List Bool) (trailing : Bool) : Bool :=
  trailing || (areLifetimes.getLast? == some true && areLifetimes.contains false)

/-- The tokens of `use<…>`. -/
def captureTokens (params : List CapturedParam) (trailing : Bool) : List Token :=
  let inOrder := params.filter (·.isLifetime) ++ params.filter (!·.isLifetime)
  .ident "use" :: mark "<" ++
    commaTokens (endsInComma (params.map (·.isLifetime)) trailing) (inOrder.map (·.tokens)) ++
    mark ">"

/-- The tokens of dots at the end of parameters. -/
def VariadicInput.tokens (variadic : VariadicInput) : List Token :=
  attributesTokens variadic.attributes ++
    (match variadic.name with
    | some name => .ident name :: mark ":"
    | none => []) ++ mark "..." ++ (if variadic.trailing then mark "," else [])

/-- The tokens of a list of lifetimes after a colon, or of no list. -/
def lifetimeBoundsTokens (bounds : List String) (trailing : Bool) : List Token :=
  if bounds.isEmpty then [] else mark ":" ++ plusTokens trailing (bounds.map lifetime)

mutual
/-- The tokens of a type. -/
def TypeExpr.tokens : TypeExpr → List Token
  | .array element length => [.group .bracket (element.tokens ++ mark ";" ++ length)]
  | .slice element => [.group .bracket element.tokens]
  | .tuple elements trailing => [.group .paren (commaTokens trailing (typesTokens elements))]
  | .paren inner => [.group .paren inner.tokens]
  | .grouped inner => inner.tokens
  | .path path => path.tokens
  | .qualified base trait segments =>
    mark "<" ++ base.tokens ++
      (match trait with
      | some path => .ident "as" :: path.tokens
      | none => []) ++
      mark ">" ++ mark "::" ++ separatedBy (mark "::") false (segmentsTokens segments)
  | .reference life isMut target =>
    mark "&" ++
      (match life with
      | some name => lifetime name
      | none => []) ++ wordIf isMut "mut" ++ target.tokens
  | .pointer isMut target =>
    mark "*" ++ [.ident (if isMut then "mut" else "const")] ++ target.tokens
  | .function binder isUnsafe abi inputs trailing variadic output =>
    binderTokens binder ++ wordIf isUnsafe "unsafe" ++ abiTokens abi ++ [.ident "fn"] ++
      [.group .paren (commaTokens (trailing || variadic.isSome) (inputsTokens inputs) ++
        (match variadic with
        | some variadic => variadic.tokens
        | none => []))] ++
      (match output with
      | some type => mark "->" ++ type.tokens
      | none => [])
  | .traitObject hasDyn bounds trailing =>
    wordIf hasDyn "dyn" ++ plusTokens trailing (boundsTokens bounds)
  | .implTrait bounds trailing =>
    .ident "impl" :: plusTokens trailing (boundsTokens bounds)
  | .macroCall path delimiter body => path.tokens ++ mark "!" ++ [.group delimiter body]
  | .never => mark "!"
  | .infer => [.ident "_"]
  | .verbatim tokens => tokens

/-- The tokens of each type. -/
def typesTokens : List TypeExpr → List (List Token)
  | [] => []
  | type :: rest => type.tokens :: typesTokens rest

/-- The tokens of a parameter of a function pointer. -/
def FnInput.tokens : FnInput → List Token
  | .mk attributes name type =>
    attributesTokens attributes ++
      (match name with
      | some name => .ident name :: mark ":"
      | none => []) ++ type.tokens

/-- The tokens of each parameter. -/
def inputsTokens : List FnInput → List (List Token)
  | [] => []
  | input :: rest => input.tokens :: inputsTokens rest

/-- The tokens of `for<…>`. -/
def Binder.tokens : Binder → List Token
  | .mk params trailing =>
    .ident "for" :: mark "<" ++ commaTokens trailing (paramsTokens params) ++ mark ">"

/-- The tokens of an optional `for<…>`. -/
def binderTokens : Option Binder → List Token
  | some binder => binder.tokens
  | none => []

/-- The tokens of a parameter. An empty list of bounds loses its colon. -/
def GenericParam.tokens : GenericParam → List Token
  | .lifetime attributes name bounds trailing =>
    attributesTokens attributes ++ lifetime name ++ lifetimeBoundsTokens bounds trailing
  | .type attributes name bounds trailing default =>
    attributesTokens attributes ++ .ident name ::
      (if bounds.isEmpty then [] else mark ":" ++ plusTokens trailing (boundsTokens bounds)) ++
      (match default with
      | some type => mark "=" ++ type.tokens
      | none => [])
  | .const attributes name type default =>
    attributesTokens attributes ++ [.ident "const", .ident name] ++ mark ":" ++ type.tokens ++
      (if default.isEmpty then [] else mark "=" ++ default)

/-- The tokens of each parameter. -/
def paramsTokens : List GenericParam → List (List Token)
  | [] => []
  | param :: rest => param.tokens :: paramsTokens rest

/-- The tokens of a bound. -/
def Bound.tokens : Bound → List Token
  | .lifetime name => lifetime name
  | .trait isParen isMaybe binder path =>
    let inner := (if isMaybe then mark "?" else []) ++ binderTokens binder ++ path.tokens
    if isParen then [.group .paren inner] else inner
  | .capture params trailing => captureTokens params trailing
  | .verbatim tokens => tokens

/-- The tokens of each bound. -/
def boundsTokens : List Bound → List (List Token)
  | [] => []
  | bound :: rest => bound.tokens :: boundsTokens rest

/-- The tokens of a path. -/
def Path.tokens : Path → List Token
  | .mk leading segments =>
    (if leading then mark "::" else []) ++ separatedBy (mark "::") false (segmentsTokens segments)

/-- The tokens of a segment. -/
def Segment.tokens : Segment → List Token
  | .mk name arguments => .ident name :: arguments.tokens

/-- The tokens of each segment. -/
def segmentsTokens : List Segment → List (List Token)
  | [] => []
  | segment :: rest => segment.tokens :: segmentsTokens rest

/-- The tokens of a segment's arguments, lifetimes first. -/
def Arguments.tokens : Arguments → List Token
  | .none => []
  | .angle turbofish arguments trailing =>
    let inOrder := argumentsTokens true arguments ++ argumentsTokens false arguments
    (if turbofish then mark "::" else []) ++ mark "<" ++
      commaTokens (endsInComma (arguments.map (·.isLifetime)) trailing) inOrder ++ mark ">"
  | .inputs types trailing output =>
    .group .paren (commaTokens trailing (typesTokens types)) ::
      (match output with
      | some type => mark "->" ++ type.tokens
      | none => [])

/-- The tokens of those arguments that are, or are not, lifetimes. -/
def argumentsTokens (lifetimes : Bool) : List Argument → List (List Token)
  | [] => []
  | argument :: rest =>
    if argument.isLifetime = lifetimes then argument.tokens :: argumentsTokens lifetimes rest
    else argumentsTokens lifetimes rest

/-- The tokens of an argument. -/
def Argument.tokens : Argument → List Token
  | .lifetime name => lifetime name
  | .type type => type.tokens
  | .const value => value
  | .assocType name generics type => .ident name :: generics.tokens ++ mark "=" ++ type.tokens
  | .assocConst name generics value => .ident name :: generics.tokens ++ mark "=" ++ value
  | .constraint name generics bounds trailing =>
    .ident name :: generics.tokens ++ mark ":" ++ plusTokens trailing (boundsTokens bounds)
end

/-- The tokens of the parameters of a declaration, lifetimes first. Without parameters the
brackets are not written. -/
def genericsTokens (params : List GenericParam) (trailing : Bool) : List Token :=
  let inOrder := params.filter (·.isLifetime) ++ params.filter (!·.isLifetime)
  if params.isEmpty then []
  else mark "<" ++
    commaTokens (endsInComma (params.map (·.isLifetime)) trailing) (inOrder.map (·.tokens)) ++
    mark ">"

/-- The token string of a type. -/
def TypeExpr.text (type : TypeExpr) : String := textOf type.tokens

end EnvLoader.Source
