import EnvLoader.Source.Reader

/-! Paths that name a module, an attribute or a macro: words without arguments. -/
namespace EnvLoader.Source

/-- Words joined by `::`, with or without a leading one. -/
structure ModulePath where
  leading : Bool
  words : List String
  deriving DecidableEq, Repr, Inhabited

/-- The path of a single word. -/
def ModulePath.ofWord (word : String) : ModulePath := ⟨false, [word]⟩

/-- The only word of a path that is no more than that. -/
def ModulePath.word? (path : ModulePath) : Option String :=
  match path.leading, path.words with
  | false, [word] => some word
  | _, _ => none

/-- The tokens of a path. -/
def ModulePath.tokens (path : ModulePath) : List Token :=
  (if path.leading then mark "::" else []) ++
    separatedBy (mark "::") false (path.words.map fun word => [.ident word])

/-- Reads a path. Reserved words for places in the module tree may stand in it, and it does
not end in a separator. -/
def modulePath : Reader ModulePath := do
  let leading ← optMark "::"
  let atPathWord : Ahead := fun tokens =>
    atName tokens || atWordOf ["super", "self", "Self", "crate"] tokens
  let (words, trailing) ← listWhile (fun tokens => !atPathWord tokens) "::" anyWord
  require (!trailing)
  return ⟨leading, words⟩

end EnvLoader.Source
