import EnvLoader.Source.TypeExpr
import EnvLoader.Source.Lexer

/-! Building blocks of generated code. Fixed parts of it are given as token strings, the
parts that vary as tokens. -/
namespace EnvLoader.Source

/-- The tokens of a fixed token string. -/
def code (text : String) : List Token := (lex? text).getD []

/-- Tokens in round brackets. -/
def inParens (body : List Token) : List Token := [.group .paren body]

/-- Tokens in curly brackets. -/
def inBraces (body : List Token) : List Token := [.group .brace body]

/-- An identifier. -/
def word (name : String) : List Token := [.ident name]

/-- The string literal of a text. -/
def quoted (text : String) : List Token := [.literal (Text.stringLiteral text)]

/-- A documentation attribute that holds the text as a string literal. -/
def docTokens (text : String) : List Token :=
  mark "#" ++ [.group .bracket (word "doc" ++ mark "=" ++ quoted text)]

/-- A documentation attribute that holds the text as a raw string literal. -/
def rawDocTokens (text : String) : List Token :=
  mark "#" ++ [.group .bracket (word "doc" ++ mark "=" ++ [.literal ("r\"" ++ text ++ "\"")])]

/-- Documentation of several lines, each as a raw string literal. -/
def rawDocLines (lines : List String) : List Token := lines.flatMap rawDocTokens

/-- A path of two names. -/
def member (base name : String) : List Token := word base ++ mark "::" ++ word name

/-- A type applied to arguments. -/
def applied (name : String) (arguments : List (List Token)) : List Token :=
  word name ++ mark "<" ++ commaTokens false arguments ++ mark ">"

end EnvLoader.Source
