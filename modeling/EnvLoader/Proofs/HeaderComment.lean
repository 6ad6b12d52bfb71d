import EnvLoader.Proofs.AssembledRun
import EnvLoader.Proofs.WordNames

/-! What the header of a generated file is to a reader of the file. The header is put in front of
the text unchecked, so it is a comment up to its first line feed only: that line is read as blanks
are, and what comes behind it as code. Where neither the root nor the source's label breaks the line,
nothing but white space is left of the header. -/
namespace EnvLoader.HeaderComment
open Source Outcomes WordNames AssembledRun

variable {fuel : Nat} {line rest text body : List Char} {schema : Schema} {config : Config}
  {converters : Converters} {generated : Generated}

/-! ### Skipping blanks -/

end EnvLoader.HeaderComment
