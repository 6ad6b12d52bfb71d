import EnvLoader.Source.Literal

/-! Reading token sequences. A reader takes tokens from the front of a sequence, or
refuses it, and passes on what it took in normal form: a mark is joined to nothing but
its own characters, however closely the source was set. Words that the language
reserves are no identifiers. -/
namespace EnvLoader.Source

/-- The tokens still to read, and those taken so far, last one first. -/
structure ReadState where
  input : List Token
  taken : List Token

/-- A reader of token sequences. -/
abbrev Reader := StateT ReadState Option

/-- The reserved words. -/
def reservedWords : List String :=
  ["_", "abstract", "as", "async", "await", "become", "box", "break", "const", "continue",
    "crate", "do", "dyn", "else", "enum", "extern", "false", "final", "fn", "for", "if",
    "impl", "in", "let", "loop", "macro", "match", "mod", "move", "mut", "override", "priv",
    "pub", "ref", "return", "Self", "self", "static", "struct", "super", "trait", "true",
    "try", "type", "typeof", "unsafe", "unsized", "use", "virtual", "where", "while", "yield"]

/-- Whether a word may serve as a name. -/
def isName (word : String) : Bool := !reservedWords.contains word

/-- The rest of a sequence after a mark: all its characters but the last are joint. -/
def afterMark? : List Char → List Token → Option (List Token)
  | [], tokens => some tokens
  | [last], .punct c _ :: rest => if c = last then some rest else none
  | char :: chars, .punct c .joint :: rest => if c = char then afterMark? chars rest else none
  | _, _ => none

/-- A test of what comes next. -/
abbrev Ahead := List Token → Bool

/-- A mark comes next, perhaps as the beginning of a longer one. -/
def atMark (text : String) : Ahead := fun tokens => (afterMark? text.toList tokens).isSome

/-- A given word comes next. -/
def atWord (word : String) : Ahead
  | .ident name :: _ => name == word
  | _ => false

/-- Some identifier or reserved word comes next. -/
def atAnyWord : Ahead
  | .ident _ :: _ => true
  | _ => false

/-- An identifier comes next. -/
def atName : Ahead
  | .ident name :: _ => isName name
  | _ => false

/-- A group with given brackets comes next. -/
def atGroup (delimiter : Delimiter) : Ahead
  | .group found _ :: _ => found == delimiter
  | _ => false

/-- A lifetime comes next. -/
def atLifetime : Ahead
  | .punct '\'' .joint :: .ident _ :: _ => true
  | _ => false

/-- A literal comes next: a token of that kind, a truth value or a negative number. -/
def atLiteral : Ahead
  | .literal _ :: _ => true
  | .ident name :: _ => name == "true" || name == "false"
  | .punct '-' _ :: .literal text :: _ => isNumber text
  | _ => false

/-- Nothing comes next. -/
def atEnd : Ahead := List.isEmpty

/-- One of several words comes next. -/
def atWordOf (words : List String) : Ahead := fun tokens => words.any (atWord · tokens)

/-- One of several marks comes next. -/
def atMarkOf (marks : List String) : Ahead := fun tokens => marks.any (atMark · tokens)

/-- A sequence without its first token; a lifetime counts as one. -/
def skipOne : List Token → List Token
  | .punct '\'' .joint :: .ident _ :: rest => rest
  | _ :: rest => rest
  | [] => []

/-- The test holds after one token. -/
def second (test : Ahead) : Ahead := fun tokens => test (skipOne tokens)

/-- The test holds after two tokens. -/
def third (test : Ahead) : Ahead := fun tokens => test (skipOne (skipOne tokens))

/-- Looks at what comes next. -/
def ahead (test : Ahead) : Reader Bool := return test (← get).input

/-- Refuses the input unless a condition holds. -/
def require (condition : Bool) : Reader Unit := if condition then pure () else failure

/-- Moves on past tokens that were recognised, passing on their normal form. -/
def advance (rest : List Token) (normal : List Token) : Reader Unit :=
  modify fun state => ⟨rest, normal.reverse ++ state.taken⟩

/-- Takes a mark. -/
def takeMark (text : String) : Reader Unit := do
  advance (← (afterMark? text.toList (← get).input : Option _)) (mark text)

/-- Takes a mark if it comes next. -/
def optMark (text : String) : Reader Bool := do
  match afterMark? text.toList (← get).input with
  | some rest => advance rest (mark text); return true
  | none => return false

/-- Takes a given word. -/
def takeWord (word : String) : Reader Unit := do
  match (← get).input with
  | .ident name :: rest => if name = word then advance rest [.ident name] else failure
  | _ => failure

/-- Takes a given word if it comes next. -/
def optWord (word : String) : Reader Bool := do
  if ← ahead (atWord word) then takeWord word; return true
  else return false

/-- Takes a mark if a condition holds and it comes next. -/
def optMarkIf (condition : Bool) (text : String) : Reader Bool := do
  if condition then optMark text else return false

/-- Takes a given word if a condition holds and it comes next. -/
def optWordIf (condition : Bool) (word : String) : Reader Bool := do
  if condition then optWord word else return false

/-- Takes an identifier or reserved word. -/
def anyWord : Reader String := do
  match (← get).input with
  | .ident name :: rest => advance rest [.ident name]; return name
  | _ => failure

/-- Takes an identifier. -/
def takeName : Reader String := do
  require (← ahead atName)
  anyWord

/-- Takes a lifetime and gives its name without the quote. -/
def takeLifetime : Reader String := do
  match (← get).input with
  | .punct '\'' .joint :: .ident name :: rest => advance rest (lifetime name); return name
  | _ => failure

/-- Takes a lifetime if one comes next. -/
def optLifetime : Reader (Option String) := do
  if ← ahead atLifetime then return some (← takeLifetime) else return none

/-- Takes a literal: one token, or a minus sign and a number. -/
def takeLiteral : Reader (List Token) := do
  require (← ahead atLiteral)
  match (← get).input with
  | .punct '-' _ :: number :: rest =>
    let tokens := [.punct '-' .alone, number]
    advance rest tokens; return tokens
  | token :: rest => advance rest [token]; return [token]
  | [] => failure

/-- Takes one token tree as it stands. -/
def anyTree : Reader Token := do
  match (← get).input with
  | token :: rest => advance rest [token]; return token
  | [] => failure

/-- Takes all the remaining tokens as they stand. -/
def allTrees : Reader (List Token) := do
  let tokens := (← get).input
  advance [] tokens
  return tokens

/-- Reads a group, whose inside a reader has to take completely. -/
def inGroup {α : Type} (delimiter : Delimiter) (inside : Reader α) : Reader α := do
  match (← get).input with
  | .group found body :: rest =>
    if found = delimiter then
      let (value, state) ← (inside.run ⟨body, []⟩ : Option _)
      require state.input.isEmpty
      advance rest [.group delimiter state.taken.reverse]
      return value
    else failure
  | _ => failure

/-- Takes a group with any brackets as it stands. -/
def anyGroup : Reader (Delimiter × List Token) := do
  match ← anyTree with
  | .group delimiter body => return (delimiter, body)
  | _ => failure

/-- Runs a reader by itself and gives its value with the normal form of what it takes. -/
def apart {α : Type} (reader : Reader α) : Reader (α × List Token) := do
  let before ← get
  let (value, after) ← (reader.run ⟨before.input, []⟩ : Option _)
  set (⟨after.input, before.taken⟩ : ReadState)
  return (value, after.taken.reverse)

/-- Passes on tokens as taken. -/
def passOn (tokens : List Token) : Reader Unit :=
  modify fun state => { state with taken := tokens.reverse ++ state.taken }

/-- The normal form of what a reader takes. -/
def captured {α : Type} (reader : Reader α) : Reader (List Token) := do
  let (_, tokens) ← apart reader
  passOn tokens
  return tokens

/-- Changes the normal form of what a reader takes, in a way that depends on what it gives. -/
def rewriting {α : Type} (change : α → List Token → List Token) (reader : Reader α) :
    Reader α := do
  let (value, tokens) ← apart reader
  passOn (change value tokens)
  return value

/-- What a reader gives, with the tokens written from that as its normal form. -/
def normalized {α : Type} (write : α → List Token) (reader : Reader α) : Reader α :=
  rewriting (fun value _ => write value) reader

/-- What a reader gives. Where it gives nothing, what it takes is kept, with the spacing that
it has in the source. -/
def orWritten {α : Type} (keep : List Token → α) (reader : Reader (Option α)) : Reader α := do
  let before := (← get).input
  let (value?, normal) ← apart reader
  match value? with
  | some value =>
    passOn normal
    return value
  | none =>
    let tokens := before.take (before.length - (← get).input.length)
    passOn tokens
    return keep tokens

/-- What a reader takes, with the spacing that it has in the source. -/
def written (reader : Reader Unit) : Reader (List Token) := orWritten id do
  reader
  return none

/-- Reads without moving on. -/
def lookingAhead {α : Type} (reader : Reader α) : Reader (Option α) := do
  return (reader.run (← get)).map (·.1)

/-- Repeats a reader while a test holds, at most as often as there are tokens. -/
def whileAhead {α : Type} (test : Ahead) (item : Reader α) : Reader (List α) := do
  go ((← get).input.length)
where
  go : Nat → Reader (List α)
    | 0 => do
      require (!(← ahead test))
      return []
    | fuel + 1 => do
      if ← ahead test then return (← item) :: (← go fuel)
      else return []

/-- Reads items between separators up to a stop, which may follow an item or a separator.
Gives the items, and whether the last of them was followed by a separator. -/
def listUntil {α : Type} (stop : Ahead) (separator : String) (item : Reader α) :
    Reader (List α × Bool) := do
  go ((← get).input.length + 1) true
where
  go : Nat → Bool → Reader (List α × Bool)
    | 0, _ => failure
    | fuel + 1, separated => do
      if ← ahead stop then return ([], separated)
      let first ← item
      if ← ahead stop then return ([first], false)
      takeMark separator
      let (rest, trailing) ← go fuel true
      return (first :: rest, trailing)

/-- Reads items as long as separators follow them; after a separator a stop ends the list. -/
def listWhile {α : Type} (stop : Ahead) (separator : String) (item : Reader α) :
    Reader (List α × Bool) := do
  go ((← get).input.length + 1) true
where
  go : Nat → Bool → Reader (List α × Bool)
    | 0, _ => failure
    | fuel + 1, separated => do
      if ← ahead stop then return ([], separated)
      let first ← item
      if !(← optMark separator) then return ([first], false)
      let (rest, trailing) ← go fuel true
      return (first :: rest, trailing)

/-- Reads a list with commas that fills a group; the last comma is optional. -/
def commaList {α : Type} (item : Reader α) : Reader (List α × Bool) := listUntil atEnd "," item

/-- Runs a reader on a whole sequence. -/
def readAll? {α : Type} (reader : Reader α) (tokens : List Token) : Option α := do
  let (value, state) ← reader.run ⟨tokens, []⟩
  if state.input.isEmpty then some value else none

/-- Runs a reader on a whole text. -/
def readText? {α : Type} (reader : Reader α) (text : String) : Option α := do
  readAll? reader (← lex? text)

end EnvLoader.Source
