import EnvLoader.Loader.Constructor
import EnvLoader.Loader.ParserFn
import EnvLoader.Source.UseTree

/-! A whole generated loader. -/
namespace EnvLoader.Loader
open Source

/-- A generated loader: imports, the error enumeration, one implementation per record, and
the functions that read single variables. -/
structure Program where
  imports : List UseTree
  error : ErrorEnum
  implementations : List Implementation
  parsers : List ParserFn

/-- The tokens of an import. -/
def importTokens (tree : UseTree) : List Token := word "use" ++ tree.tokens ++ mark ";"

/-- The tokens of the loader. -/
def Program.tokens (program : Program) : List Token :=
  program.imports.flatMap importTokens ++ program.error.tokens ++
    program.implementations.flatMap (·.tokens program.error.name) ++
    program.parsers.flatMap (·.tokens program.error.name)

end EnvLoader.Loader
