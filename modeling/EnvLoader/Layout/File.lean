import EnvLoader.Layout.Code
import EnvLoader.Source.Grammar

/-! Layout of whole files. -/
namespace EnvLoader.Layout
open Source

/-- Layout of expressions that are kept as tokens, to a depth. Each level takes at least a
bracket, so the number of tokens bounds how deep they nest. -/
def embeddedToDepth : Nat → Embedded
  | 0 => fun tokens => word (textOf tokens)
  | depth + 1 => fun tokens =>
    match parse? (·.expr true) tokens with
    | some expr => exprDoc (embeddedToDepth depth) .inner expr
    | none => word (textOf tokens)

/-- Layout of a file. -/
def fileDoc (embedded : Embedded) (file : File) : List Doc :=
  cbox 0 (innerDocs embedded file.attributes ++ itemsDoc embedded .file file.items)

/-- The text of the file that a sequence of tokens makes up. -/
def formatted? (tokens : List Token) : Option String :=
  (fileOf? tokens).map fun file => textOfDocs (fileDoc (embeddedToDepth (countOf tokens)) file)

end EnvLoader.Layout
