import EnvLoader.Source.Lexer

/-! The values of literals. -/
namespace EnvLoader.Source
open Text

/-- The text of a quoted literal, from after its opening quote on. -/
def quotedText? : Nat → List Char → Option (List Char)
  | 0, _ => none
  | fuel + 1, text => do
    match ← piece? .text text with
    | (.closed, _) => some []
    | (.char c, rest) => return c :: (← quotedText? fuel rest)
    | (.byte value, rest) => return Char.ofNat value :: (← quotedText? fuel rest)
    | (.continued, rest) => quotedText? fuel rest

/-- The value of a literal token, if it is a string. -/
def stringValue? (literal : String) : Option String :=
  match literal.toList with
  | '"' :: rest => (quotedText? (rest.length + 1) rest).map String.ofList
  | 'r' :: rest => (rawQuoted? .text rest).map fun (content, _) => String.ofList content
  | _ => none

/-- Whether a literal token is a number, which a minus sign may precede. -/
def isNumber (literal : String) : Bool :=
  match literal.toList with
  | c :: _ => isDigit c
  | [] => false

/-- Whether a whole text may follow the digits of a number: nothing, or an identifier. -/
def isSuffix (text : List Char) : Bool :=
  match text with
  | [] => true
  | _ => (plainIdent? text).any (·.2.isEmpty)

/-- Whether an `e` after decimal digits begins an exponent, given what follows it: a sign, or
digits up to the end or up to a suffix. -/
def isExponent : Bool → List Char → Bool
  | hasDigit, [] => hasDigit
  | hasDigit, c :: rest =>
    if c == '_' then isExponent hasDigit rest
    else if c == '-' || c == '+' then true
    else if isDigit c then isExponent true rest
    else hasDigit && isSuffix (c :: rest)

/-- The value of the digits of an integer in a base, with the suffix after them. `value` is
that of the digits read so far, if there are any. -/
def integerDigits? (base : Nat) : Option Nat → List Char → Option (Nat × List Char)
  | value, [] => value.map (·, [])
  | value, c :: rest =>
    if c == '_' then integerDigits? base value rest
    else if base ≤ 10 && !isDigit c then
      if base = 10 && (c == '.' || (c == 'e' || c == 'E') && isExponent false rest) then none
      else if isSuffix (c :: rest) then value.map (·, c :: rest)
      else none
    else
      match hexValue? c with
      | some digit =>
        if digit < base then integerDigits? base (some (value.getD 0 * base + digit)) rest else none
      | none => if isSuffix (c :: rest) then value.map (·, c :: rest) else none

/-- The value of an integer literal, with its suffix. Suffixes are not checked, so `1f32`
counts as an integer. -/
def integer? (literal : String) : Option (Nat × List Char) :=
  match literal.toList with
  | '0' :: 'x' :: rest => integerDigits? 16 none rest
  | '0' :: 'o' :: rest => integerDigits? 8 none rest
  | '0' :: 'b' :: rest => integerDigits? 2 none rest
  | c :: rest => if isDigit c then integerDigits? 10 none (c :: rest) else none
  | [] => none

end EnvLoader.Source
