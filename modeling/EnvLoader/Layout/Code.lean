import EnvLoader.Layout.Declarations
import EnvLoader.Source.Code

/-! Layout of expressions, statements and items. Calls and accesses that follow one another
form a chain, which is a single box: its links go on lines of their own, or none does. -/
namespace EnvLoader.Layout
open Source

/-- Whether an expression is written as a statement with a semicolon of its own. -/
def addsSemicolon : Expr → Bool
  | .attributed _ expr => addsSemicolon expr
  | .assign _ _ | .jump _ _ _ => true
  | .binary _ operator _ =>
    ["+=", "-=", "*=", "/=", "%=", "^=", "&=", "|=", "<<=", ">>="].contains operator
  | _ => false

/-- Whether the semicolon after an expression is left out. -/
def dropsSemicolon : Expr → Bool
  | .attributed _ expr => dropsSemicolon expr
  | .forLoop _ _ _ _ | .whileLoop _ _ _ => true
  | .ifElse _ _ none => true
  | .ifElse _ _ (some otherwise) => dropsSemicolon otherwise
  | _ => false

/-- Whether an expression brings brackets of its own, so that none around it are needed. -/
def isBlockLike : Expr → Bool
  | .array _ | .block _ _ _ | .closure _ _ _ _ _ | .record _ _ _ | .tuple _ => true
  | _ => false

/-- Whether an expression is a name no longer than a step of indentation. -/
def isShortName : Expr → Bool
  | .path (.path path) => path.name?.any fun name => (name.utf8ByteSize : Int) ≤ step
  | _ => false

/-- Whether the bracket after a condition goes on a line of its own if the condition takes
several. -/
def wrapsBracket : Expr → Bool
  | .attributed _ expr => wrapsBracket expr
  | .assign _ _ | .await _ | .binary _ _ _ | .cast _ _ | .field _ _ | .index _ _
  | .methodCall _ _ _ _ => true
  | .jump _ _ (some inner) | .call inner _ | .letBinding _ inner | .paren inner
  | .range _ _ (some inner) | .reference _ inner | .attempt inner | .unary _ inner =>
    wrapsBracket inner
  | _ => false

/-- Whether an expression may stand as a statement in curly brackets. -/
def fitsStatement : Expr → Bool
  | .attributed _ expr => fitsStatement expr
  | .assign inner _ | .binary inner _ _ | .call inner _ | .cast inner _ | .index inner _
  | .range (some inner) _ _ => inner.needsSemicolon && fitsStatement inner
  | .await inner | .field inner _ | .methodCall inner _ _ _ | .attempt inner => fitsStatement inner
  | .letBinding _ _ => false
  | _ => true

/-- Whether the body of a closure is put into curly brackets if it takes several lines. -/
def needsBraces : Expr → Bool
  | .matching _ _ _ | .call _ _ => false
  | body => !isBlockLike body

/-- Whether an element of an array is short, so that it may share its line: a character, an
integer or a truth value. -/
def isSmall : Expr → Bool
  | .attributed _ expr => isSmall expr
  | .literal [.literal text] =>
    match text.toList with
    | '\'' :: _ | 'b' :: '\'' :: _ => true
    | _ => (integer? text).isSome
  | .literal [.ident _] => true
  | _ => false

/-- Whether an expression is a range without a lower end. -/
def isOpenBelow : Expr → Bool
  | .range none _ _ => true
  | _ => false

/-- What parts an expression from dots right before it: a range that starts with dots itself
could be mistaken for more of them. -/
def apartFromDots (expr : Expr) : List Doc := if isOpenBelow expr then nbsp else []

/-- What parts an expression from a dot right after it: a number may end in one. -/
def apartFromDot : Expr → List Doc
  | .literal tokens => if endsInDot (literalDoc tokens) then nbsp else []
  | _ => []

/-- Where an expression stands. -/
inductive Place where
  | inner
  | lineStart
  /-- Before a link of a chain, which starts a line or does not. -/
  | link (atStart : Bool)
  /-- After the arrow of an arm. -/
  | arm
  deriving DecidableEq, Repr

/-- The body of an arm. If it does not fit, it is put into curly brackets. -/
def armDoc (body : Expr) (docs : List Doc) : List Doc :=
  let isStatement := fitsStatement body
  noGap ++
    cbox step ([.gap { before := if isStatement then "\x7b" else "(" }] ++ docs ++
      [.gap {
        shift := -step
        before := if isStatement && addsSemicolon body then ";" else ""
        after := if isStatement then "\x7d" else "),"
        inline := if body.needsComma then "," else "" }])

/-- The body of a closure. If it does not fit, it is put into curly brackets. -/
def closureBody (body : Expr) (docs : List Doc) : List Doc :=
  if needsBraces body then
    let isStatement := fitsStatement body
    cbox step ([.gap { before := if isStatement then "\x7b" else "(" }] ++ docs ++
      [.gap {
        shift := -step
        before := if isStatement && addsSemicolon body then ";" else ""
        after := if isStatement then "\x7d" else ")" }])
  else docs

/-- An expression that is no chain, at its place. -/
def Place.settle (place : Place) (expr : Expr) (docs : List Doc) : List Doc :=
  match place with
  | .inner | .lineStart => docs
  | .link _ => cbox (-step) docs
  | .arm => armDoc expr docs

/-- A chain at its place. `links` gives it for a start of a line or elsewhere, and as a whole
or as the beginning of a longer chain. -/
def Place.settleChain (place : Place) (expr : Expr) (links : Bool → Bool → List Doc) : List Doc :=
  match place with
  | .inner => cbox step (links false true)
  | .lineStart => cbox step (links true true)
  | .link atStart => links atStart false
  | .arm => armDoc expr (cbox step (links true true))

/-- The place of what an index or a question mark is applied to. -/
def Place.base : Place → Place
  | .inner => .inner
  | .lineStart | .arm => .lineStart
  | .link atStart => .link atStart

/-- The place of what is called. -/
def Place.callee : Place → Place
  | .link _ => .link false
  | _ => .inner

/-- An expression with something applied to it, at its place. -/
def Place.settleApplied (place : Place) (expr : Expr) (docs : List Doc) : List Doc :=
  match place with
  | .arm => armDoc expr docs
  | _ => docs

/-- The place before a link, and its dot. A short name at the start of a line keeps its first
link. -/
def linkDot (atStart : Bool) (base : Expr) : List Doc :=
  (if atStart && isShortName base then [] else zeroGap) ++ apartFromDot base ++ word "."

/-- The arguments of a call. -/
def callDoc (arguments : List Expr) (docs : List (List Doc)) : List Doc :=
  match arguments, docs with
  | [argument], [doc] =>
    if isBlockLike argument then word "(" ++ doc ++ word ")" else bracketed "(" docs ")"
  | _, _ => bracketed "(" docs ")"

/-- A condition and the space before its body. -/
def conditionPart (condition : Expr) (docs : List Doc) : List Doc :=
  cbox 0 (docs ++ (if wrapsBracket condition then space else nbsp))

/-- Lines in curly brackets; the inner box begins after the opening one. -/
def bracedLines (lines : List Doc) : List Doc :=
  word "\x7b" ++ noGap ++ cbox step (shifted (newlineIfMore ++ lines)) ++ word "\x7d"

/-- A label. -/
def labelDoc : Option String → List Doc
  | some name => lifetimeDoc name ++ word ": "
  | none => []

/-- The parameters of a closure between bars, with the space before its body. -/
def closureParams (params : List (List Doc)) (output : Option (List Doc)) : List Doc :=
  let gapped := if params.isEmpty then [] else zeroGap
  let items := params.dropLast.flatMap (· ++ word "," ++ space) ++ params.getLast?.getD []
  match output with
  | none => cbox step (word "|" ++ gapped ++ items ++ word "|" ++ shifted space) ++ noGap
  | some type =>
    cbox step (word "|" ++ gapped ++ items ++
      (if params.isEmpty then [] else shifted (comma true)) ++ word "|") ++ type ++ nbsp ++ noGap

mutual
/-- Layout of an expression at a place. -/
def exprDoc (embedded : Embedded) (place : Place) : Expr → List Doc
  | .attributed attributes expr =>
    match place, expr with
    | .arm, .block "" label (.mk inner statements) =>
      labelDoc label ++ bracedLines (innerDocs embedded inner ++ stmtsDoc embedded statements)
    | place, .range low isClosed high =>
      place.settle expr
        (outerDocs embedded attributes ++ word "(" ++
          exprDoc embedded .inner (.range low isClosed high) ++ word ")")
    | .arm, expr => armDoc expr (outerDocs embedded attributes ++ exprDoc embedded .lineStart expr)
    | place, expr => outerDocs embedded attributes ++ exprDoc embedded place expr
  | .literal tokens => place.settle (.literal tokens) (literalDoc tokens)
  | .path name => place.settle (.path name) (placeDoc embedded name)
  | .macroCall path delimiter body =>
    place.settle (.macroCall path delimiter body) (macroDoc (modulePathDoc path) delimiter body)
  | .record name fields rest =>
    place.settle (.record name fields rest)
      (narrowBox 34 step (ibox (-step) (placeDoc embedded name) ++ word " \x7b" ++
        shifted (spaceIfMore ++ fieldValuesDoc embedded rest.isSome fields ++
          (match rest with
          | some base => word ".." ++ apartFromDots base ++ exprDoc embedded .inner base ++ space
          | none => []))) ++ word "\x7d")
  | .array elements =>
    let docs := exprsDocs embedded elements
    place.settle (.array elements)
      (if elements.isEmpty then word "[]"
      else if elements.all isSmall then
        cbox step (word "[" ++ zeroGap ++
          ibox 0 (docs.dropLast.flatMap (· ++ word "," ++ space) ++ docs.getLast?.getD []) ++
          shifted (comma true) ++ word "]")
      else bracketed "[" docs "]")
  | .repeated element length =>
    place.settle (.repeated element length)
      (word "[" ++ exprDoc embedded .inner element ++ word "; " ++ exprDoc embedded .inner length ++
        word "]")
  | .tuple elements =>
    match place, elements with
    | .arm, [] => bracedLines []
    | place, elements => place.settle (.tuple elements) (tupleDoc (exprsDocs embedded elements))
  | .paren expr =>
    place.settle (.paren expr) (word "(" ++ exprDoc embedded .inner expr ++ word ")")
  | .call function arguments =>
    place.settleApplied (.call function arguments)
      (exprDoc embedded place.callee function ++ callDoc arguments (exprsDocs embedded arguments))
  | .methodCall receiver method generics arguments =>
    place.settleChain (.methodCall receiver method generics arguments) fun atStart isWhole =>
      exprDoc embedded (.link atStart) receiver ++ linkDot atStart receiver ++ word method ++
        argumentsDoc embedded true generics ++
        cbox (if isWhole && atStart && isShortName receiver then -step else 0)
          (callDoc arguments (exprsDocs embedded arguments))
  | .field base member =>
    place.settleChain (.field base member) fun atStart _ =>
      exprDoc embedded (.link atStart) base ++ linkDot atStart base ++ word member
  | .await base =>
    place.settleChain (.await base) fun atStart _ =>
      exprDoc embedded (.link atStart) base ++ linkDot atStart base ++ word "await"
  | .index base index =>
    place.settleApplied (.index base index)
      (exprDoc embedded place.base base ++ word "[" ++ exprDoc embedded .inner index ++ word "]")
  | .attempt base =>
    place.settleApplied (.attempt base) (exprDoc embedded place.base base ++ word "?")
  | .unary operator operand =>
    place.settle (.unary operator operand) (word operator ++ exprDoc embedded .inner operand)
  | .reference kind operand =>
    place.settle (.reference kind operand)
      (word "&" ++ word kind ++ exprDoc embedded .inner operand)
  | .binary left operator right =>
    place.settle (.binary left operator right)
      (ibox step (ibox (-step) (exprDoc embedded .inner left) ++ space ++ word operator ++ nbsp ++
        exprDoc embedded .inner right))
  | .assign left right =>
    place.settle (.assign left right)
      (ibox 0 (exprDoc embedded .inner left ++ word " = " ++ noGap ++
        exprDoc embedded .inner right))
  | .cast operand type =>
    place.settle (.cast operand type)
      (ibox step (ibox (-step) (exprDoc embedded .inner operand) ++ space ++ word "as " ++
        typeDoc embedded type))
  | .range low isClosed high =>
    place.settle (.range low isClosed high)
      ((match low with
        | some expr => exprDoc embedded .inner expr
        | none => []) ++ word (rangeMark isClosed) ++
        (match high with
        | some expr =>
          (if isClosed then [] else apartFromDots expr) ++ exprDoc embedded .inner expr
        | none => []))
  | .letBinding pattern value =>
    place.settle (.letBinding pattern value)
      (ibox 0 (word "let " ++ ibox 0 (patternDoc embedded pattern) ++ word " = " ++ noGap ++
        exprDoc embedded .inner value))
  | .block keyword label body =>
    match place, keyword, label, body with
    | .arm, "", none, .mk [] [.expr expr false] => exprDoc embedded .arm expr
    | .arm, "", label, .mk attributes statements =>
      labelDoc label ++ bracedLines (innerDocs embedded attributes ++ stmtsDoc embedded statements)
    | place, keyword, label, body =>
      place.settle (.block keyword label body)
        (labelDoc label ++ optWord (!keyword.isEmpty) keyword ++ cbox step (blockDoc embedded body))
  | .ifElse condition body otherwise =>
    place.settle (.ifElse condition body otherwise)
      (cbox step (word "if " ++
        cbox (-step) (conditionPart condition (exprDoc embedded .inner condition)) ++
        (match otherwise with
        | some branch => blockDoc embedded body ++ elseDoc embedded branch
        | none =>
          match body with
          | .mk _ [] => word "\x7b\x7d"
          | .mk _ statements =>
            word "\x7b" ++ shifted (newline ++ stmtsDoc embedded statements) ++ word "\x7d")))
  | .matching scrutinee attributes arms =>
    place.settle (.matching scrutinee attributes arms)
      (ibox 0 (word "match " ++ conditionPart scrutinee (exprDoc embedded .inner scrutinee) ++
        bracedLines (innerDocs embedded attributes ++ armsDoc embedded arms)))
  | .whileLoop label condition body =>
    place.settle (.whileLoop label condition body)
      (labelDoc label ++ word "while " ++
        conditionPart condition (exprDoc embedded .inner condition) ++
        bracedLines (bodyDoc embedded body))
  | .forLoop label pattern iterated body =>
    place.settle (.forLoop label pattern iterated body)
      (ibox 0 (labelDoc label ++ word "for " ++ patternDoc embedded pattern ++ word " in " ++
        noGap ++
        conditionPart iterated (exprDoc embedded .inner iterated) ++
        bracedLines (bodyDoc embedded body)))
  | .loop label body =>
    place.settle (.loop label body)
      (labelDoc label ++ word "loop \x7b" ++
        cbox step (shifted (newlineIfMore ++ bodyDoc embedded body)) ++ word "\x7d")
  | .closure binder qualifiers params output body =>
    place.settle (.closure binder qualifiers params output body)
      (ibox 0 (optBinderDoc embedded binder ++ qualifiers.flatMap (optWord true) ++
        closureParams (patternsDocs embedded params)
          (output.map fun type => word " -> " ++ typeDoc embedded type) ++
        (if output.isNone then closureBody body (exprDoc embedded .inner body)
        else exprDoc embedded .inner body)))
  | .jump keyword label value =>
    place.settle (.jump keyword label value)
      (word keyword ++
        (match label with
        | some name => nbsp ++ lifetimeDoc name
        | none => []) ++
        (match value with
        | some expr => nbsp ++ exprDoc embedded .inner expr
        | none => []))
  | .infer => place.settle .infer (word "_")
  | .verbatim tokens => place.settle (.verbatim tokens) (word (textOf tokens))

/-- Layout of each expression. -/
def exprsDocs (embedded : Embedded) : List Expr → List (List Doc)
  | [] => []
  | expr :: rest => exprDoc embedded .inner expr :: exprsDocs embedded rest

/-- Layout of the fields of a record expression. `hasRest` says whether more follows. -/
def fieldValuesDoc (embedded : Embedded) (hasRest : Bool) : List FieldValue → List Doc
  | [] => []
  | .mk attributes member value :: rest =>
    outerDocs embedded attributes ++ word member ++
      (match value with
      | some expr => word ": " ++ ibox 0 (exprDoc embedded .inner expr)
      | none => []) ++
      commaOrSpace (rest.isEmpty && !hasRest) ++ fieldValuesDoc embedded hasRest rest

/-- Layout of the arms of a match. -/
def armsDoc (embedded : Embedded) : List Arm → List Doc
  | [] => []
  | .mk attributes pattern guard body :: rest =>
    let before := outerDocs embedded attributes
    before ++
      ibox 0 ((if endsInDot before && startsWithDots pattern then nbsp else []) ++
        patternDoc embedded pattern ++
        (match guard with
        | some condition => word " if " ++ exprDoc embedded .inner condition
        | none => []) ++
        word " => " ++ exprDoc embedded .arm body) ++ newline ++ armsDoc embedded rest

/-- Layout of a block that may stay on its line. -/
def blockDoc (embedded : Embedded) : Block → List Doc
  | .mk attributes [] =>
    if attributes.isEmpty then word "\x7b\x7d"
    else word "\x7b" ++ shifted (space ++ innerDocs embedded attributes) ++ word "\x7d"
  | .mk attributes [.expr expr false] =>
    word "\x7b" ++ space ++ innerDocs embedded attributes ++
      ibox 0 (exprDoc embedded .lineStart expr) ++ shifted space ++ word "\x7d"
  | .mk attributes statements =>
    word "\x7b" ++ shifted (space ++ innerDocs embedded attributes ++
      stmtsDoc embedded statements) ++
      word "\x7d"

/-- Layout of what is in a block. -/
def bodyDoc (embedded : Embedded) : Block → List Doc
  | .mk attributes statements => innerDocs embedded attributes ++ stmtsDoc embedded statements

/-- Layout of what follows when a condition does not hold. -/
def elseDoc (embedded : Embedded) : Expr → List Doc
  | .ifElse condition body otherwise =>
    word " else if " ++
      cbox (-step) (conditionPart condition (exprDoc embedded .inner condition)) ++
      blockDoc embedded body ++
      (match otherwise with
      | some branch => elseDoc embedded branch
      | none => [])
  | .block _ _ body => word " else " ++ blockDoc embedded body
  | _ => []

/-- Layout of statements, each on a line of its own. -/
def stmtsDoc (embedded : Embedded) : List Stmt → List Doc
  | [] => []
  | stmt :: rest => stmtDoc embedded stmt ++ stmtsDoc embedded rest

/-- Layout of a statement. -/
def stmtDoc (embedded : Embedded) : Stmt → List Doc
  | .binding attributes pattern value otherwise =>
    let head := word "let " ++ patternDoc embedded pattern ++
      (match value with
      | some expr => word " = " ++ noGap ++ exprDoc embedded .inner expr
      | none => [])
    outerDocs embedded attributes ++
      (match otherwise with
      | some block =>
        ibox 0 (head ++ space ++ word "else ") ++ noGap ++ cbox step (blockDoc embedded block)
      | none => ibox 0 head) ++ word ";" ++ newline
  | .item item => itemDoc embedded .file item
  | .expr expr false =>
    ibox 0 (exprDoc embedded .lineStart expr ++ (if addsSemicolon expr then word ";" else [])) ++
      newline
  | .expr expr true =>
    ibox 0 (exprDoc embedded .lineStart expr ++ (if dropsSemicolon expr then [] else word ";")) ++
      newline
  | .macroCall attributes path delimiter body semicolon =>
    outerDocs embedded attributes ++ macroDoc (modulePathDoc path) delimiter body ++
      (if semicolon then word ";" else []) ++ newline
  | .empty => []

/-- Layout of the choices of an enumeration. -/
def variantsDoc (embedded : Embedded) : List Variant → List Doc
  | [] => []
  | .mk attributes name fields value :: rest =>
    outerDocs embedded attributes ++ word name ++
      (match fields with
      | .named fields =>
        word " \x7b" ++
          cbox step (shifted (space ++ fields.dropLast.flatMap (fieldDoc embedded · ++
            commaOrSpace false) ++
            (match fields.getLast? with
            | some last => fieldDoc embedded last ++ commaOrSpace true
            | none => []))) ++ word "\x7d"
      | .unnamed fields => cbox step (tupleFieldsDoc embedded fields)
      | .unit => []) ++
      (match value with
      | some expr => word " = " ++ exprDoc embedded .inner expr
      | none => []) ++ word "," ++ newline ++ variantsDoc embedded rest

/-- Layout of the items that something holds. -/
def itemsDoc (embedded : Embedded) (container : Container) : List Item → List Doc
  | [] => []
  | item :: rest => itemDoc embedded container item ++ itemsDoc embedded container rest

/-- Layout of an item. -/
def itemDoc (embedded : Embedded) (container : Container) : Item → List Doc
  | .record attributes visibility name generics fields =>
    let head :=
      visibilityDoc visibility ++ word ("struct " ++ name) ++ genericsDoc embedded generics
    outerDocs embedded attributes ++
      (match fields with
      | .named fields =>
        cbox step (head ++ conditionsBeforeBody embedded generics.conditions ++ word "\x7b" ++
          shifted (newlineIfMore ++ fieldLines embedded fields)) ++ word "\x7d"
      | .unnamed fields =>
        cbox step (head ++ tupleFieldsDoc embedded fields ++
          conditionsAtEnd embedded generics.conditions)
      | .unit => cbox step (head ++ conditionsAtEnd embedded generics.conditions)) ++ newline
  | .enumeration attributes visibility name generics variants =>
    outerDocs embedded attributes ++
      cbox step (visibilityDoc visibility ++ word ("enum " ++ name) ++
        genericsDoc embedded generics ++
        conditionsBeforeBody embedded generics.conditions ++ word "\x7b" ++
        shifted (newlineIfMore ++ variantsDoc embedded variants)) ++ word "\x7d" ++ newline
  | .union attributes visibility name generics fields =>
    outerDocs embedded attributes ++
      cbox step (visibilityDoc visibility ++ word ("union " ++ name) ++
        genericsDoc embedded generics ++
        conditionsBeforeBody embedded generics.conditions ++ word "\x7b" ++
        shifted (newlineIfMore ++ fieldLines embedded fields)) ++ word "\x7d" ++ newline
  | .function attributes visibility isDefault signature body =>
    let head :=
      visibilityDoc visibility ++ optWord isDefault "default" ++ signatureDoc embedded signature
    outerDocs embedded attributes ++
      (match body with
      | some block =>
        cbox step (head ++ conditionsBeforeBody embedded signature.generics.conditions ++
          word "\x7b" ++
          shifted (newlineIfMore ++ bodyDoc embedded block)) ++ word "\x7d"
      | none => cbox step (head ++ conditionsAtEnd embedded signature.generics.conditions)) ++
        newline
  | .implementation attributes isDefault isUnsafe generics trait target items =>
    outerDocs embedded attributes ++
      cbox step (ibox (-step)
          (cbox step (optWord isDefault "default" ++ optWord isUnsafe "unsafe" ++ word "impl" ++
            genericsDoc embedded generics) ++ nbsp ++
            (match trait with
            | some (isNegative, path) =>
              (if isNegative then word "!" else []) ++ pathDoc embedded false path ++ space ++
                word "for "
            | none => []) ++ typeDoc embedded target) ++
        conditionsBeforeBody embedded generics.conditions ++ word "\x7b" ++
        shifted (newlineIfMore ++ innerDocs embedded attributes ++
          itemsDoc embedded .implementation items)) ++
      word "\x7d" ++ newline
  | .trait attributes visibility isUnsafe isAuto name generics bounds items =>
    outerDocs embedded attributes ++
      cbox step (visibilityDoc visibility ++ optWord isUnsafe "unsafe" ++ optWord isAuto "auto" ++
        word ("trait " ++ name) ++ genericsDoc embedded generics ++
        (if bounds.isEmpty then [] else word ": " ++ joined " + " (boundsDocs embedded bounds)) ++
        conditionsBeforeBody embedded generics.conditions ++ word "\x7b" ++
        shifted (newlineIfMore ++ innerDocs embedded attributes ++
          itemsDoc embedded .trait items)) ++
      word "\x7d" ++ newline
  | .traitAlias attributes visibility name generics bounds =>
    outerDocs embedded attributes ++
      cbox step (visibilityDoc visibility ++ word ("trait " ++ name) ++
        genericsDoc embedded generics ++
        word " = " ++ noGap ++ boundList [] (boundsDocs embedded bounds) ++
        conditionsAtEnd embedded generics.conditions) ++ newline
  | .module attributes visibility isUnsafe name items =>
    let head := visibilityDoc visibility ++ optWord isUnsafe "unsafe" ++ word ("mod " ++ name)
    outerDocs embedded attributes ++
      (match items with
      | some items =>
        cbox step (head ++ word " \x7b" ++
          shifted (newlineIfMore ++ innerDocs embedded attributes ++
            itemsDoc embedded .file items)) ++
          word "\x7d"
      | none => cbox step (head ++ word ";")) ++ newline
  | .foreign attributes isUnsafe abi items =>
    outerDocs embedded attributes ++
      cbox step (optWord isUnsafe "unsafe" ++ abiDoc (some abi) ++ word "\x7b" ++
        shifted (newlineIfMore ++ innerDocs embedded attributes ++
          itemsDoc embedded .foreign items)) ++
      word "\x7d" ++ newline
  | .imports attributes visibility leading tree =>
    outerDocs embedded attributes ++ visibilityDoc visibility ++ word "use " ++
      (if leading then word "::" else []) ++ useTreeDoc tree ++ word ";" ++ newline
  | .externCrate attributes visibility name newName =>
    outerDocs embedded attributes ++ visibilityDoc visibility ++ word ("extern crate " ++ name) ++
      (match newName with
      | some newName => word (" as " ++ newName)
      | none => []) ++ word ";" ++ newline
  | .constant attributes visibility isDefault name type value =>
    outerDocs embedded attributes ++
      cbox 0 (visibilityDoc visibility ++ optWord isDefault "default" ++
        word ("const " ++ name ++ ": ") ++ typeDoc embedded type ++
        (match value with
        | some expr => word " = " ++ noGap ++ exprDoc embedded .inner expr
        | none => []) ++ word ";") ++ newline
  | .variable attributes visibility isMut name type value =>
    outerDocs embedded attributes ++
      cbox 0 (visibilityDoc visibility ++ word "static " ++ optWord isMut "mut" ++
        word (name ++ ": ") ++ typeDoc embedded type ++
        (match value with
        | some expr => word " = " ++ noGap ++ exprDoc embedded .inner expr
        | none => []) ++ word ";") ++ newline
  | .typeAlias attributes visibility isDefault name generics bounds type =>
    let head := visibilityDoc visibility ++ optWord isDefault "default" ++ word ("type " ++ name) ++
      genericsDoc embedded generics
    let target :=
      match type with
      | some type => noGap ++ ibox (-step) (typeDoc embedded type)
      | none => []
    outerDocs embedded attributes ++
      (match container with
      | .file =>
        cbox step (head ++ conditionsBeforeType embedded generics.conditions ++ word "= " ++
          target ++ word ";")
      | .foreign => cbox 0 (head ++ word ";")
      | .implementation | .trait =>
        cbox step (head ++ boundList (word ": ") (boundsDocs embedded bounds) ++
          (if type.isSome then word " = " ++ target else []) ++
          conditionsAfterType embedded generics.conditions)) ++ newline
  | .macroCall attributes path name delimiter body =>
    outerDocs embedded attributes ++
      (match name with
      | some name =>
        if path.word? = some "macro_rules" then
          word ("macro_rules! " ++ name ++ " \x7b") ++
            cbox step (shifted (newlineIfMore ++ macroRules .pattern body)) ++ word "\x7d"
        else
          modulePathDoc path ++ word ("! " ++ name) ++ (if delimiter == .brace then nbsp else []) ++
            word (openingOf delimiter) ++
            macroBody (if delimiter == .brace then newline else zeroGap) false body ++
            word (closingOf delimiter) ++ (if delimiter == .brace then [] else word ";")
      | none =>
        macroDoc (modulePathDoc path) delimiter body ++
          (if delimiter == .brace then [] else word ";")) ++ newline
  | .verbatim tokens => word (textOf tokens) ++ newline
end

end EnvLoader.Layout
