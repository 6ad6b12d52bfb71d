/-! Token trees of Rust source: the form in which code is read, assembled and compared.
A token string puts one space between tokens, except after a punctuation character
that is joined to its successor. -/
namespace EnvLoader.Source

/-- The brackets of a group. -/
inductive Delimiter where
  | paren
  | bracket
  | brace
  deriving DecidableEq, Repr, Inhabited

/-- Whether a punctuation character is joined to the one after it. -/
inductive Spacing where
  | alone
  | joint
  deriving DecidableEq, Repr, Inhabited

/-- A token, or a bracketed group of tokens. Identifiers keep a leading `r#`, literals
their spelling. A lifetime is a joint quote followed by an identifier. -/
inductive Token where
  | ident (name : String)
  | punct (char : Char) (spacing : Spacing)
  | literal (text : String)
  | group (delimiter : Delimiter) (body : List Token)
  deriving Repr, Inhabited

/-- Whether the next token follows without a space. -/
def Token.isJoint : Token → Bool
  | .punct _ .joint => true
  | _ => false

/-- The opening bracket as written before a token string. -/
def Delimiter.opening : Delimiter → String
  | .paren => "("
  | .bracket => "["
  | .brace => "\x7b "

/-- The closing bracket as written after a token string that is or is not empty. -/
def Delimiter.closing (isEmpty : Bool) : Delimiter → String
  | .paren => ")"
  | .bracket => "]"
  | .brace => if isEmpty then "\x7d" else " \x7d"

mutual
/-- The text of a single token tree. -/
def Token.text : Token → String
  | .ident name => name
  | .punct char _ => char.toString
  | .literal text => text
  | .group delimiter body =>
    delimiter.opening ++ textOf body ++ delimiter.closing body.isEmpty

/-- The token string of a sequence. -/
def textOf : List Token → String
  | [] => ""
  | [token] => token.text
  | token :: next :: rest =>
    token.text ++ (if token.isJoint then "" else " ") ++ textOf (next :: rest)
end

mutual
/-- The number of tokens in a tree, brackets counted as one. -/
def Token.count : Token → Nat
  | .group _ body => countOf body + 1
  | _ => 1

/-- The number of tokens in a sequence of trees. -/
def countOf : List Token → Nat
  | [] => 0
  | token :: rest => token.count + countOf rest
end

/-- A punctuation mark of one or several characters, joined to one another only. -/
def mark (chars : String) : List Token :=
  go chars.toList
where
  go : List Char → List Token
    | [] => []
    | [last] => [.punct last .alone]
    | char :: rest => .punct char .joint :: go rest

/-- A lifetime, given without its quote. -/
def lifetime (name : String) : List Token := [.punct '\'' .joint, .ident name]

/-- A word that may be absent. -/
def wordIf (condition : Bool) (word : String) : List Token :=
  if condition then [.ident word] else []

/-- Joins token sequences by a separator, which may also follow the last one. -/
def separatedBy (separator : List Token) (trailing : Bool) : List (List Token) → List Token
  | [] => []
  | [last] => last ++ (if trailing then separator else [])
  | first :: rest => first ++ separator ++ separatedBy separator trailing rest

/-- The tokens of a list with commas. -/
def commaTokens (trailing : Bool) (items : List (List Token)) : List Token :=
  separatedBy (mark ",") trailing items

/-- The tokens of a list with plus signs. -/
def plusTokens (trailing : Bool) (items : List (List Token)) : List Token :=
  separatedBy (mark "+") trailing items

end EnvLoader.Source
