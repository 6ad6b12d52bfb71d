import EnvLoader.Source.Generics
import EnvLoader.Source.UseTree

/-! Expressions, statements and items, as a tree. -/
namespace EnvLoader.Source

mutual
/-- An expression. A member of a record is a name or the digits of a position. -/
inductive Expr where
  | attributed (attributes : List Attribute) (expr : Expr)
  | literal (tokens : List Token)
  | path (place : TypeExpr)
  | macroCall (path : ModulePath) (delimiter : Delimiter) (body : List Token)
  | record (place : TypeExpr) (fields : List FieldValue) (rest : Option Expr)
  | array (elements : List Expr)
  | repeated (element length : Expr)
  | tuple (elements : List Expr)
  | paren (inner : Expr)
  | call (function : Expr) (arguments : List Expr)
  | methodCall (receiver : Expr) (method : String) (generics : Arguments) (arguments : List Expr)
  | field (base : Expr) (member : String)
  | index (base index : Expr)
  | attempt (inner : Expr)
  | await (inner : Expr)
  | unary (operator : String) (inner : Expr)
  | reference (kind : String) (inner : Expr)
  | binary (left : Expr) (operator : String) (right : Expr)
  | assign (left right : Expr)
  | cast (inner : Expr) (type : TypeExpr)
  | range (low : Option Expr) (isClosed : Bool) (high : Option Expr)
  | letBinding (pattern : Pattern) (value : Expr)
  | block (keyword : String) (label : Option String) (body : Block)
  | ifElse (condition : Expr) (body : Block) (otherwise : Option Expr)
  | matching (scrutinee : Expr) (attributes : List Attribute) (arms : List Arm)
  | whileLoop (label : Option String) (condition : Expr) (body : Block)
  | forLoop (label : Option String) (pattern : Pattern) (iterated : Expr) (body : Block)
  | loop (label : Option String) (body : Block)
  | closure (binder : Option Binder) (qualifiers : List String) (params : List Pattern)
      (output : Option TypeExpr) (body : Expr)
  | jump (keyword : String) (label : Option String) (value : Option Expr)
  | infer
  | verbatim (tokens : List Token)

/-- A field of a record expression; without a value of its own it takes the variable of
its name. -/
inductive FieldValue where
  | mk (attributes : List Attribute) (member : String) (value : Option Expr)

/-- An arm of a match. -/
inductive Arm where
  | mk (attributes : List Attribute) (pattern : Pattern) (guard : Option Expr) (body : Expr)

/-- Statements in curly brackets. -/
inductive Block where
  | mk (attributes : List Attribute) (statements : List Stmt)

/-- A statement. -/
inductive Stmt where
  | binding (attributes : List Attribute) (pattern : Pattern) (value : Option Expr)
      (otherwise : Option Block)
  | item (item : Item)
  | expr (expr : Expr) (semicolon : Bool)
  | macroCall (attributes : List Attribute) (path : ModulePath) (delimiter : Delimiter)
      (body : List Token) (semicolon : Bool)
  | empty

/-- A choice of an enumeration. -/
inductive Variant where
  | mk (attributes : List Attribute) (name : String) (fields : Fields) (value : Option Expr)

/-- A declaration, at the top of a file or within another one. -/
inductive Item where
  | record (attributes : List Attribute) (visibility : Visibility) (name : String)
      (generics : Generics) (fields : Fields)
  | enumeration (attributes : List Attribute) (visibility : Visibility) (name : String)
      (generics : Generics) (variants : List Variant)
  | union (attributes : List Attribute) (visibility : Visibility) (name : String)
      (generics : Generics) (fields : List FieldDecl)
  | function (attributes : List Attribute) (visibility : Visibility) (isDefault : Bool)
      (signature : Signature) (body : Option Block)
  | implementation (attributes : List Attribute) (isDefault isUnsafe : Bool) (generics : Generics)
      (trait : Option (Bool × Path)) (target : TypeExpr) (items : List Item)
  | trait (attributes : List Attribute) (visibility : Visibility) (isUnsafe isAuto : Bool)
      (name : String) (generics : Generics) (bounds : List Bound) (items : List Item)
  | traitAlias (attributes : List Attribute) (visibility : Visibility) (name : String)
      (generics : Generics) (bounds : List Bound)
  | module (attributes : List Attribute) (visibility : Visibility) (isUnsafe : Bool)
      (name : String) (items : Option (List Item))
  | foreign (attributes : List Attribute) (isUnsafe : Bool) (abi : Option String)
      (items : List Item)
  | imports (attributes : List Attribute) (visibility : Visibility) (leading : Bool)
      (tree : UseTree)
  | externCrate (attributes : List Attribute) (visibility : Visibility) (name : String)
      (newName : Option String)
  | constant (attributes : List Attribute) (visibility : Visibility) (isDefault : Bool)
      (name : String) (type : TypeExpr) (value : Option Expr)
  | variable (attributes : List Attribute) (visibility : Visibility) (isMut : Bool)
      (name : String) (type : TypeExpr) (value : Option Expr)
  | typeAlias (attributes : List Attribute) (visibility : Visibility) (isDefault : Bool)
      (name : String) (generics : Generics) (bounds : List Bound) (type : Option TypeExpr)
  | macroCall (attributes : List Attribute) (path : ModulePath) (name : Option String)
      (delimiter : Delimiter) (body : List Token)
  /-- A declaration in a form that has no meaning yet. -/
  | verbatim (tokens : List Token)
end

instance : Inhabited Expr := ⟨.infer⟩
instance : Inhabited Block := ⟨.mk [] []⟩
instance : Inhabited Item := ⟨.verbatim []⟩

/-- What holds items: a file or a module, or a declaration that gives them a meaning of their
own. -/
inductive Container where
  | file
  | implementation
  | trait
  | foreign
  deriving DecidableEq, Repr

/-- A file: the attributes of the whole, and its items. -/
structure File where
  attributes : List Attribute
  items : List Item

/-- The statements of a block. -/
def Block.statements : Block → List Stmt
  | .mk _ statements => statements

/-- The attributes inside a block. -/
def Block.attributes : Block → List Attribute
  | .mk attributes _ => attributes

/-- An expression with attributes in front, if there are any. -/
def Expr.withAttributes (attributes : List Attribute) (expr : Expr) : Expr :=
  if attributes.isEmpty then expr else .attributed attributes expr

/-- The first operand of an expression with operators. -/
def Expr.first : Expr → Expr
  | .assign left _ => left.first
  | .binary left _ _ => left.first
  | .cast inner _ => inner.first
  | expr => expr

/-- An expression with attributes in front of its first operand. -/
def Expr.attributeFirst (attributes : List Attribute) : Expr → Expr
  | .assign left right => .assign (left.attributeFirst attributes) right
  | .binary left operator right => .binary (left.attributeFirst attributes) operator right
  | .cast inner type => .cast (inner.attributeFirst attributes) type
  | .attributed inner expr => .attributed (attributes ++ inner) expr
  | expr => .attributed attributes expr

/-- Whether an expression is a range. -/
def Expr.isRange : Expr → Bool
  | .range _ _ _ => true
  | _ => false

/-- Whether an expression that ends a match arm needs a comma after it. -/
def Expr.needsComma : Expr → Bool
  | .ifElse _ _ _ | .matching _ _ _ | .whileLoop _ _ _ | .forLoop _ _ _ _ | .loop _ _ => false
  | .block keyword _ _ => ["async", "async move"].contains keyword
  | .attributed _ expr => expr.needsComma
  | _ => true

/-- Whether an expression needs a semicolon to stand as a statement. -/
def Expr.needsSemicolon : Expr → Bool
  | .macroCall _ delimiter _ => delimiter != .brace
  | .attributed _ expr => expr.needsSemicolon
  | expr => expr.needsComma

/-- Whether an expression is a block and nothing but its curly brackets says so. -/
def Expr.isBareBlock : Expr → Bool
  | .block "" none (.mk [] _) => true
  | _ => false

/-- An expression that stands before a body in curly brackets, with round brackets around a
block at its end, which could be missing there and would then be taken for the body. None if
it does not end in such a block. -/
def Expr.beforeBody? : Expr → Option Expr
  | .attributed attributes expr => expr.beforeBody?.map (.attributed attributes)
  | .assign left right => right.beforeBody?.map (.assign left)
  | .binary left operator right => right.beforeBody?.map (.binary left operator)
  | .unary operator inner => inner.beforeBody?.map (.unary operator)
  | .reference kind inner => inner.beforeBody?.map (.reference kind)
  | .letBinding pattern value => value.beforeBody?.map (.letBinding pattern)
  | .closure binder qualifiers params none body =>
    body.beforeBody?.map (.closure binder qualifiers params none)
  | .range low isClosed (some high) =>
    if high.isBareBlock then some (.range low isClosed (some (.paren high)))
    else high.beforeBody?.map fun high => .range low isClosed (some high)
  | .jump keyword label (some value) =>
    if value.isBareBlock then some (.jump keyword label (some (.paren value))) else none
  | _ => none

/-- Whether an expression starts with a label. -/
def Expr.startsWithLabel : Expr → Bool
  | .attributed _ expr => expr.startsWithLabel
  | .block _ label _ => label.isSome
  | .whileLoop label _ _ => label.isSome
  | .forLoop label _ _ _ => label.isSome
  | .loop label _ => label.isSome
  | .assign left _ => left.startsWithLabel
  | .binary left _ _ => left.startsWithLabel
  | .await inner => inner.startsWithLabel
  | .call function _ => function.startsWithLabel
  | .cast inner _ => inner.startsWithLabel
  | .field base _ => base.startsWithLabel
  | .index base _ => base.startsWithLabel
  | .methodCall receiver _ _ _ => receiver.startsWithLabel
  | .range (some low) _ _ => low.startsWithLabel
  | .attempt inner => inner.startsWithLabel
  | _ => false

/-- Whether tokens end in a curly bracket. -/
def endsInBraceToken (tokens : List Token) : Bool :=
  match tokens.getLast? with
  | some (.group .brace _) => true
  | _ => false

mutual
/-- Whether a type ends in a curly bracket. -/
def typeEndsInBrace : TypeExpr → Bool
  | .path path => pathEndsInBrace path
  | .qualified _ _ segments => segmentsEndInBrace segments
  | .reference _ _ target => typeEndsInBrace target
  | .pointer _ target => typeEndsInBrace target
  | .function _ _ _ _ _ _ (some output) => typeEndsInBrace output
  | .traitObject _ bounds _ => boundsEndInBrace bounds
  | .implTrait bounds _ => boundsEndInBrace bounds
  | .macroCall _ delimiter _ => delimiter == .brace
  | .verbatim tokens => endsInBraceToken tokens
  | _ => false

/-- Whether a path ends in a curly bracket. -/
def pathEndsInBrace : Path → Bool
  | .mk _ segments => segmentsEndInBrace segments

/-- Whether the last of several segments ends in a curly bracket. -/
def segmentsEndInBrace : List Segment → Bool
  | [] => false
  | [.mk _ (.inputs _ _ (some output))] => typeEndsInBrace output
  | [_] => false
  | _ :: next :: rest => segmentsEndInBrace (next :: rest)

/-- Whether the last of several bounds ends in a curly bracket. Brackets around it do not
count. -/
def boundsEndInBrace : List Bound → Bool
  | [] => false
  | [.trait _ _ _ path] => pathEndsInBrace path
  | [.verbatim tokens] => endsInBraceToken tokens
  | [_] => false
  | _ :: next :: rest => boundsEndInBrace (next :: rest)
end

/-- Whether an expression ends in a curly bracket. -/
def Expr.endsInBrace : Expr → Bool
  | .attributed _ expr => expr.endsInBrace
  | .block _ _ _ | .ifElse _ _ _ | .matching _ _ _ | .whileLoop _ _ _ | .forLoop _ _ _ _
  | .loop _ _ | .record _ _ _ => true
  | .assign _ right => right.endsInBrace
  | .binary _ _ right => right.endsInBrace
  | .cast _ type => typeEndsInBrace type
  | .closure _ _ _ _ body => body.endsInBrace
  | .letBinding _ value => value.endsInBrace
  | .macroCall _ delimiter _ => delimiter == .brace
  | .range _ _ (some high) => high.endsInBrace
  | .reference _ inner => inner.endsInBrace
  | .unary _ inner => inner.endsInBrace
  | .jump _ _ (some value) => value.endsInBrace
  | .verbatim tokens => endsInBraceToken tokens
  | _ => false

end EnvLoader.Source
