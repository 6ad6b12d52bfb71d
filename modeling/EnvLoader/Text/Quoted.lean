import EnvLoader.Text.CharClass

/-! Quoted texts. A quoted text shows every character: what has no shape of its own on
a page, and what would change the reading of the quotes, is written as an escape. -/
namespace EnvLoader.Text

/-- The escape of a character by its code point, in lower-case hexadecimal. -/
def codePointEscape (c : Char) : List Char :=
  ['\\', 'u', '\x7b'] ++ Nat.toDigits 16 c.toNat ++ ['\x7d']

/-- How a character stands between double quotes. -/
def escapeChar (c : Char) : List Char :=
  if c = '\x00' then ['\\', '0']
  else if c = '\t' then ['\\', 't']
  else if c = '\r' then ['\\', 'r']
  else if c = '\n' then ['\\', 'n']
  else if c = '\\' ∨ c = '"' then ['\\', c]
  else if extendsGrapheme c || !isPrintable c then codePointEscape c
  else [c]

/-- A text between double quotes. -/
def quote (text : List Char) : List Char := '"' :: text.flatMap escapeChar ++ ['"']

/-- The body of a string literal. It differs from a quoted text in one place: a NUL
before an octal digit is spelled so that the two cannot be read as one octal escape. -/
def literalBody : List Char → List Char
  | [] => []
  | c :: rest =>
    let escaped :=
      match c, rest with
      | '\x00', next :: _ => if '0' ≤ next ∧ next ≤ '7' then ['\\', 'x', '0', '0'] else escapeChar c
      | _, _ => escapeChar c
    escaped ++ literalBody rest

/-- The string literal that stands for a text. -/
def stringLiteral (text : String) : String :=
  String.ofList ('"' :: literalBody text.toList ++ ['"'])

end EnvLoader.Text
