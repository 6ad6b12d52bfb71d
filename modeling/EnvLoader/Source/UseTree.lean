import EnvLoader.Source.Reader

/-! Trees of imported names, as they stand after `use`. -/
namespace EnvLoader.Source

/-- The names an import brings in. -/
inductive UseTree where
  | path (name : String) (rest : UseTree)
  | name (name : String)
  | rename (name newName : String)
  | glob
  | group (trees : List UseTree) (trailing : Bool)
  /-- A tree within a group that starts over at the root of a crate. -/
  | rooted (tree : UseTree)
  deriving Inhabited

mutual
/-- Whether a tree within a group starts over at the root of a crate. -/
def UseTree.hasRoot : UseTree → Bool
  | .path _ rest => rest.hasRoot
  | .group trees _ => haveRoot trees
  | .rooted _ => true
  | .name _ | .rename _ _ | .glob => false

/-- Whether one of several trees starts over at the root of a crate. -/
def haveRoot : List UseTree → Bool
  | [] => false
  | tree :: rest => tree.hasRoot || haveRoot rest
end

mutual
/-- The tokens of an import tree. -/
def UseTree.tokens : UseTree → List Token
  | .path name rest => .ident name :: mark "::" ++ rest.tokens
  | .name name => [.ident name]
  | .rename name newName => [.ident name, .ident "as", .ident newName]
  | .glob => mark "*"
  | .group trees trailing => [.group .brace (treesTokens trailing trees)]
  | .rooted tree => mark "::" ++ tree.tokens

/-- The tokens of a list of import trees, with commas. -/
def treesTokens (trailing : Bool) : List UseTree → List Token
  | [] => []
  | [tree] => tree.tokens ++ (if trailing then mark "," else [])
  | tree :: next :: rest => tree.tokens ++ mark "," ++ treesTokens trailing (next :: rest)
end

/-- Reads an import tree. `allowRoot` says whether trees of a group may start with `::`. -/
def readUseTree (allowRoot : Bool) : Nat → Reader UseTree
  | 0 => failure
  | fuel + 1 => do
    if ← ahead fun tokens => atName tokens || atWordOf ["self", "super", "crate", "try"] tokens then
      let name ← anyWord
      if ← optMark "::" then return .path name (← readUseTree false fuel)
      else if ← optWord "as" then
        require (← ahead fun tokens => atName tokens || atWord "_" tokens)
        return .rename name (← anyWord)
      else return .name name
    else if ← optMark "*" then return .glob
    else inGroup .brace do
      let (trees, trailing) ← commaList do
        if ← optMarkIf allowRoot "::" then return .rooted (← readUseTree false fuel)
        else readUseTree allowRoot fuel
      return .group trees trailing

/-- Reads an import tree of any depth. -/
def useTree (allowRoot : Bool) : Reader UseTree := do
  readUseTree allowRoot (countOf (← get).input + 1)

end EnvLoader.Source
