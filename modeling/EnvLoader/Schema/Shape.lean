import EnvLoader.Source.TypeExpr

/-! Shapes of field types. A shape is what the loader can do with a type as it is
written: take a name, take it inside an option or a list, or nothing. -/
namespace EnvLoader
open Source

/-- The shape of a declared type. Names are the segments of a path joined with `::`. -/
inductive Shape where
  /-- A name of one segment. -/
  | named (name : String)
  /-- `Option` of a name. -/
  | optional (name : String)
  /-- `Vec` of a name. -/
  | sequence (name : String)
  /-- A name of several segments. -/
  | qualified (name : String)
  /-- Anything else, as its token string. -/
  | unrecognized (text : String)
  deriving DecidableEq, Repr, Inhabited

/-- The segments of a path joined with `::`, if none has arguments. A leading `::` is lost. -/
def joinedName? (path : Path) : Option String :=
  if path.isPlain then some ("::".intercalate (path.segments.map (·.name))) else none

/-- The joined name of a type that is, brackets aside, such a path. -/
def plainName? : TypeExpr → Option String
  | .paren inner => plainName? inner
  | .grouped inner => plainName? inner
  | .path path => joinedName? path
  | _ => none

/-- The type in angle brackets, if it is the only argument there. -/
def soleArgument? : Arguments → Option TypeExpr
  | .angle _ [.type type] _ => some type
  | _ => none

/-- The shape of a path. -/
def shapeOfPath (path : Path) : Shape :=
  let unrecognized := Shape.unrecognized (textOf path.tokens)
  match path.segments.getLast? with
  | none => unrecognized
  | some last =>
    match soleArgument? last.arguments with
    | some inner =>
      match plainName? inner with
      | some name =>
        if last.name = "Option" then .optional name
        else if last.name = "Vec" then .sequence name
        else unrecognized
      | none => unrecognized
    | none =>
      match joinedName? path with
      | some name => if path.segments.length = 1 then .named name else .qualified name
      | none => unrecognized

/-- The shape of a type, which brackets around it do not change. -/
def classify : TypeExpr → Shape
  | .paren inner => classify inner
  | .grouped inner => classify inner
  | .path path => shapeOfPath path
  | other => .unrecognized other.text

end EnvLoader
