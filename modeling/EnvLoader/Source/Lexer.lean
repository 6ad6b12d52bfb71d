import EnvLoader.Source.Token
import EnvLoader.Text.CharClass
import EnvLoader.Text.Quoted

/-! Reading Rust text as token trees. The text is first cut into lexemes, each the
longest its kind allows; then brackets are matched. Text that is no lexeme, or a
bracket without a partner, refuses the whole text. Comments are skipped, except that
documentation comments are read as the attributes they stand for. -/
namespace EnvLoader.Source
open Text

/-- What the cutting of a text yields: a token, a doc attribute, or half a group. -/
inductive Lexeme where
  | leaf (token : Token)
  | doc (isInner : Bool) (text : String)
  | opening (delimiter : Delimiter)
  | closing (delimiter : Delimiter)
  deriving Repr, Inhabited

/-- The rest of a text after a beginning that it has to have. -/
def after? : List Char → List Char → Option (List Char)
  | [], text => some text
  | _ :: _, [] => none
  | expected :: beginning, c :: text => if expected = c then after? beginning text else none

/-- Whether a text begins with another. -/
def startsWith (beginning : String) (text : List Char) : Bool :=
  (after? beginning.toList text).isSome

/-- Splits a line off a text: its characters, and the rest from its line feed on. A
carriage return before the line feed belongs to neither. -/
def cutLine : List Char → List Char × List Char
  | [] => ([], [])
  | '\n' :: rest => ([], '\n' :: rest)
  | '\r' :: '\n' :: rest => ([], '\n' :: rest)
  | c :: rest => let (line, after) := cutLine rest; (c :: line, after)

/-- Splits a text after the end of the block comment at the given nesting depth. -/
def cutComment : Nat → List Char → Option (List Char × List Char)
  | depth, '/' :: '*' :: rest =>
    (cutComment (depth + 1) rest).map fun (body, after) => ('/' :: '*' :: body, after)
  | depth, '*' :: '/' :: rest =>
    if depth ≤ 1 then some (['*', '/'], rest)
    else (cutComment (depth - 1) rest).map fun (body, after) => ('*' :: '/' :: body, after)
  | depth, c :: rest => (cutComment depth rest).map fun (body, after) => (c :: body, after)
  | _, [] => none

/-- White space between tokens; direction marks count as such. -/
def isTokenBlank (c : Char) : Bool := isBlank c || c.toNat == 0x200e || c.toNat == 0x200f

/-- Skips white space and plain comments. A block comment that does not end is left. -/
def skipBlanks : Nat → List Char → List Char
  | 0, text => text
  | fuel + 1, text =>
    if startsWith "//" text && (!startsWith "///" text || startsWith "////" text)
        && !startsWith "//!" text then
      skipBlanks fuel (cutLine text).2
    else if startsWith "/**/" text then
      skipBlanks fuel (text.drop 4)
    else if startsWith "/*" text && (!startsWith "/**" text || startsWith "/***" text)
        && !startsWith "/*!" text then
      match cutComment 0 text with
      | some (_, rest) => skipBlanks fuel rest
      | none => text
    else
      match text with
      | c :: rest => if isTokenBlank c then skipBlanks fuel rest else text
      | [] => []

/-- A carriage return may stand in a doc comment only before a line feed. -/
def hasBareReturn : List Char → Bool
  | [] => false
  | '\r' :: '\n' :: rest => hasBareReturn rest
  | '\r' :: _ => true
  | _ :: rest => hasBareReturn rest

/-- The text between the marks of a block comment, given from after its first two
characters on and including its last two. -/
def commentBody (text : List Char) : String := String.ofList ((text.drop 1).take (text.length - 3))

/-- Reads a documentation comment. -/
def docComment? (text : List Char) : Option (Lexeme × List Char) := do
  let (isInner, body, rest) ←
    if startsWith "//!" text then
      let (line, rest) := cutLine (text.drop 3)
      some (true, String.ofList line, rest)
    else if startsWith "/*!" text then
      let (comment, rest) ← cutComment 1 (text.drop 2)
      some (true, commentBody comment, rest)
    else if startsWith "///" text && !startsWith "////" text then
      let (line, rest) := cutLine (text.drop 3)
      some (false, String.ofList line, rest)
    else if startsWith "/**" text && !startsWith "/***" text then
      let (comment, rest) ← cutComment 1 (text.drop 2)
      some (false, commentBody comment, rest)
    else none
  if hasBareReturn body.toList then none else some (.doc isInner body, rest)

/-- Reads an identifier that is not raw. -/
def plainIdent? : List Char → Option (List Char × List Char)
  | c :: rest =>
    if isIdentStart c then
      some (c :: rest.takeWhile isIdentContinue, rest.dropWhile isIdentContinue)
    else none
  | [] => none

/-- Identifiers that have no raw form. -/
def unrawable : List String := ["_", "super", "self", "Self", "crate"]

/-- Reads an identifier, raw or not. -/
def anyIdent? (text : List Char) : Option (String × List Char) :=
  match after? ['r', '#'] text with
  | some rest => do
    let (name, rest) ← plainIdent? rest
    if unrawable.contains (String.ofList name) then none
    else some ("r#" ++ String.ofList name, rest)
  | none => (plainIdent? text).map fun (name, rest) => (String.ofList name, rest)

/-- Beginnings of literals, which no identifier may have. -/
def literalOpenings : List String :=
  ["r\"", "r#\"", "r##", "b\"", "b'", "br\"", "br#", "c\"", "cr\"", "cr#"]

/-- Reads an identifier where a literal was not found. -/
def ident? (text : List Char) : Option (String × List Char) :=
  if literalOpenings.any (startsWith · text) then none else anyIdent? text

/-- Skips the suffix of a literal, if it has one. -/
def skipSuffix (text : List Char) : List Char :=
  match plainIdent? text with
  | some (_, rest) => rest
  | none => text

/-- The value of a hexadecimal digit. -/
def hexValue? (c : Char) : Option Nat :=
  if isDigit c then some (c.toNat - '0'.toNat)
  else if 'a' ≤ c ∧ c ≤ 'f' then some (10 + c.toNat - 'a'.toNat)
  else if 'A' ≤ c ∧ c ≤ 'F' then some (10 + c.toNat - 'A'.toNat)
  else none

/-- The three kinds of quoted literals. -/
inductive StringKind where
  | text
  | bytes
  | cstring
  deriving DecidableEq, Repr

/-- Reads the two digits of an escape by code, whose value the kind of literal bounds. -/
def hexEscape? (kind : StringKind) : List Char → Option (Nat × List Char)
  | high :: low :: rest => do
    let value := 16 * (← hexValue? high) + (← hexValue? low)
    match kind with
    | .text => if value < 128 then some (value, rest) else none
    | .bytes => some (value, rest)
    | .cstring => if value = 0 then none else some (value, rest)
  | _ => none

/-- Reads the digits of an escape by code point, up to the closing brace. -/
def codePointDigits? : Nat → Nat → List Char → Option (Nat × List Char)
  | _, _, [] => none
  | seen, value, c :: rest =>
    if c = '_' ∧ 0 < seen then codePointDigits? seen value rest
    else if c = '\x7d' ∧ 0 < seen then some (value, rest)
    else
      match hexValue? c with
      | some digit =>
        if seen = 6 then none else codePointDigits? (seen + 1) (16 * value + digit) rest
      | none => none

/-- Reads an escape by code point, from its opening brace on. -/
def codePointEscape? : List Char → Option (Char × List Char)
  | '\x7b' :: text => do
    let (value, rest) ← codePointDigits? 0 0 text
    if value < 0xd800 ∨ (0xdfff < value ∧ value < 0x110000) then some (Char.ofNat value, rest)
    else none
  | _ => none

/-- Skips the white space after a backslash at the end of a line. Carriage returns have
to stand before line feeds, and something has to follow. -/
def skipContinuation : List Char → Option (List Char)
  | '\r' :: '\n' :: rest => skipContinuation rest
  | '\r' :: _ => none
  | ' ' :: rest => skipContinuation rest
  | '\t' :: rest => skipContinuation rest
  | '\n' :: rest => skipContinuation rest
  | [] => none
  | rest => some rest

/-- One step within a quoted literal: its end, a character, a byte given by its code, or
a line end that is no part of the text. -/
inductive Piece where
  | closed
  | char (c : Char)
  | byte (value : Nat)
  | continued

/-- Reads one piece of a quoted literal. -/
def piece? (kind : StringKind) : List Char → Option (Piece × List Char)
  | '"' :: rest => some (.closed, rest)
  | '\r' :: '\n' :: rest => some (.char '\n', rest)
  | '\r' :: _ => none
  | '\\' :: 'x' :: rest => (hexEscape? kind rest).map fun (value, rest) => (.byte value, rest)
  | '\\' :: 'n' :: rest => some (.char '\n', rest)
  | '\\' :: 'r' :: rest => some (.char '\r', rest)
  | '\\' :: 't' :: rest => some (.char '\t', rest)
  | '\\' :: '\\' :: rest => some (.char '\\', rest)
  | '\\' :: '\'' :: rest => some (.char '\'', rest)
  | '\\' :: '"' :: rest => some (.char '"', rest)
  | '\\' :: '0' :: rest => if kind = .cstring then none else some (.char '\x00', rest)
  | '\\' :: 'u' :: rest =>
    if kind = .bytes then none
    else do
      let (c, rest) ← codePointEscape? rest
      if kind = .cstring ∧ c = '\x00' then none else some (.char c, rest)
  | '\\' :: '\n' :: rest => (skipContinuation ('\n' :: rest)).map ((.continued, ·))
  | '\\' :: '\r' :: rest => (skipContinuation ('\r' :: rest)).map ((.continued, ·))
  | '\\' :: _ => none
  | c :: rest =>
    if kind = .bytes ∧ !isAscii c then none
    else if kind = .cstring ∧ c = '\x00' then none
    else some (.char c, rest)
  | [] => none

/-- Skips a quoted literal from after its opening quote on. -/
def skipQuoted (kind : StringKind) : Nat → List Char → Option (List Char)
  | 0, _ => none
  | fuel + 1, text => do
    match ← piece? kind text with
    | (.closed, rest) => some rest
    | (_, rest) => skipQuoted kind fuel rest

/-- Splits a raw literal's content from the rest, at a quote that `hashes` signs follow. -/
def cutRaw (kind : StringKind) (hashes : List Char) : List Char → Option (List Char × List Char)
  | '"' :: rest =>
    match after? hashes rest with
    | some after => some ([], after)
    | none => (cutRaw kind hashes rest).map fun (body, after) => ('"' :: body, after)
  | '\r' :: '\n' :: rest =>
    (cutRaw kind hashes rest).map fun (body, after) => ('\r' :: '\n' :: body, after)
  | '\r' :: _ => none
  | c :: rest =>
    if kind = .bytes ∧ !isAscii c then none
    else if kind = .cstring ∧ c = '\x00' then none
    else (cutRaw kind hashes rest).map fun (body, after) => (c :: body, after)
  | [] => none

/-- Reads a raw literal from after its letters on: the signs, then the content in quotes. -/
def rawQuoted? (kind : StringKind) (text : List Char) : Option (List Char × List Char) :=
  let hashes := text.takeWhile (· = '#')
  match text.dropWhile (· = '#') with
  | '"' :: rest => if 255 < hashes.length then none else cutRaw kind hashes rest
  | _ => none

/-- Skips a string, byte string or C string literal with its suffix. -/
def skipString (text : List Char) : Option (List Char) :=
  let cooked (kind : StringKind) (rest : List Char) :=
    (skipQuoted kind (rest.length + 1) rest).map skipSuffix
  let raw (kind : StringKind) (rest : List Char) :=
    (rawQuoted? kind rest).map fun (_, rest) => skipSuffix rest
  match text with
  | '"' :: rest => cooked .text rest
  | 'r' :: rest => raw .text rest
  | 'b' :: '"' :: rest => cooked .bytes rest
  | 'b' :: 'r' :: rest => raw .bytes rest
  | 'c' :: '"' :: rest => cooked .cstring rest
  | 'c' :: 'r' :: rest => raw .cstring rest
  | _ => none

/-- Skips a character or byte literal from after its opening quote on. -/
def skipCharacter (kind : StringKind) (text : List Char) : Option (List Char) := do
  let rest ←
    match text with
    | '\\' :: 'x' :: rest => (hexEscape? kind rest).map (·.2)
    | '\\' :: 'u' :: rest => if kind = .bytes then none else (codePointEscape? rest).map (·.2)
    | '\\' :: c :: rest =>
      if ['n', 'r', 't', '\\', '0', '\'', '"'].contains c then some rest else none
    | '\\' :: [] => none
    | c :: rest => if kind = .bytes ∧ !isAscii c then none else some rest
    | [] => none
  match rest with
  | '\'' :: rest => some (skipSuffix rest)
  | _ => none

/-- A number ends where an identifier could not go on. -/
def atWordBreak (text : List Char) : Option (List Char) :=
  match text with
  | c :: _ => if isIdentContinue c then none else some text
  | [] => some text

/-- Skips a number's suffix and makes sure that the number ends there. -/
def endNumber (text : List Char) : Option (List Char) :=
  match text with
  | c :: _ => if isIdentStart c then (plainIdent? text).bind (atWordBreak ·.2) else atWordBreak text
  | [] => some []

/-- Digits and underscores, as they may stand within a number. -/
def isDigitOrUnderscore (c : Char) : Bool := isDigit c || c == '_'

/-- Skips an exponent from after its letter on; there has to be a digit. -/
def skipExponent (text : List Char) : Option (List Char) :=
  let beforeSign := text.takeWhile (· = '_')
  let unsigned :=
    match text.drop beforeSign.length with
    | '+' :: rest => rest
    | '-' :: rest => rest
    | rest => rest
  if (unsigned.takeWhile isDigitOrUnderscore).any isDigit then
    some (unsigned.dropWhile isDigitOrUnderscore)
  else none

/-- Skips the digits, point and exponent of a floating-point literal. An exponent without
digits is no part of the number, which then has to have a point. -/
def skipFloatDigits : List Char → Option (List Char)
  | c :: text =>
    if !isDigit c then none
    else
      let fraction? : Option (Bool × List Char) :=
        match text.dropWhile isDigitOrUnderscore with
        | '.' :: rest =>
          match rest with
          | next :: _ => if next = '.' ∨ isIdentStart next then none else some (true, rest)
          | [] => some (true, rest)
        | rest => some (false, rest)
      match fraction? with
      | none => none
      | some (hasPoint, rest) =>
        let rest := if hasPoint then rest.dropWhile isDigitOrUnderscore else rest
        match rest with
        | e :: exponent =>
          if e = 'e' ∨ e = 'E' then
            match skipExponent exponent with
            | some after => some after
            | none => if hasPoint then some rest else none
          else if hasPoint then some rest else none
        | [] => if hasPoint then some [] else none
  | [] => none

/-- Skips the digits of an integer in a base. A letter that is no digit ends them; a
decimal digit that the base lacks is an error. -/
def skipIntDigits (base : Nat) : Bool → List Char → Option (List Char)
  | isEmpty, c :: rest =>
    if c = '_' then
      if isEmpty ∧ base = 10 then none else skipIntDigits base isEmpty rest
    else
      match hexValue? c with
      | some value =>
        if value < base then skipIntDigits base false rest
        else if isDigit c || isEmpty then none
        else some (c :: rest)
      | none => if isEmpty then none else some (c :: rest)
  | isEmpty, [] => if isEmpty then none else some []

/-- Skips an integer literal with its suffix. -/
def skipInt (text : List Char) : Option (List Char) :=
  let digits :=
    match text with
    | '0' :: 'x' :: rest => skipIntDigits 16 true rest
    | '0' :: 'o' :: rest => skipIntDigits 8 true rest
    | '0' :: 'b' :: rest => skipIntDigits 2 true rest
    | _ => skipIntDigits 10 true text
  digits.bind endNumber

/-- Skips a literal of any kind. -/
def skipLiteral (text : List Char) : Option (List Char) :=
  let byte :=
    match text with
    | 'b' :: '\'' :: rest => skipCharacter .bytes rest
    | _ => none
  let character :=
    match text with
    | '\'' :: rest => skipCharacter .text rest
    | _ => none
  skipString text <|> byte <|> character <|> (skipFloatDigits text).bind endNumber <|> skipInt text

/-- The characters that are punctuation. -/
def punctuation : List Char := "~!@#$%^&*-=+|;:,<.>/?'".toList

/-- Whether punctuation stands at the start of a text; a comment's slash is none. -/
def punctStart (text : List Char) : Bool :=
  match text with
  | c :: _ => punctuation.contains c && !startsWith "//" text && !startsWith "/*" text
  | [] => false

/-- Reads a punctuation character. A quote is one only before an identifier that no
other quote follows. -/
def punct? (text : List Char) : Option (Token × List Char) :=
  match text with
  | '\'' :: rest => do
    let (_, after) ← anyIdent? rest
    match after with
    | '\'' :: _ => none
    | '#' :: _ => if startsWith "r#" rest then some (.punct '\'' .joint, rest) else none
    | _ => some (.punct '\'' .joint, rest)
  | c :: rest =>
    if punctStart text then some (.punct c (if punctStart rest then .joint else .alone), rest)
    else none
  | [] => none

/-- The spelling that stands for code which could not be produced; it counts as a literal. -/
def errorLiteral : String := "(/*ERROR*/)"

/-- The bracket a character opens. -/
def openingOf? : Char → Option Delimiter
  | '(' => some .paren
  | '[' => some .bracket
  | '\x7b' => some .brace
  | _ => none

/-- The bracket a character closes. -/
def closingOf? : Char → Option Delimiter
  | ')' => some .paren
  | ']' => some .bracket
  | '\x7d' => some .brace
  | _ => none

/-- Reads one lexeme from a text that starts with neither white space nor a comment. -/
def lexeme? (text : List Char) : Option (Lexeme × List Char) :=
  match docComment? text with
  | some found => some found
  | none =>
    match text with
    | [] => none
    | c :: rest =>
      if startsWith errorLiteral text then
        some (.leaf (.literal errorLiteral), text.drop errorLiteral.length)
      else
        match openingOf? c, closingOf? c with
        | some delimiter, _ => some (.opening delimiter, rest)
        | none, some delimiter => some (.closing delimiter, rest)
        | none, none =>
          match skipLiteral text with
          | some rest =>
            some (.leaf (.literal (String.ofList (text.take (text.length - rest.length)))), rest)
          | none =>
            match punct? text with
            | some (token, rest) => some (.leaf token, rest)
            | none => (ident? text).map fun (name, rest) => (.leaf (.ident name), rest)

/-- Cuts a text into lexemes. Each takes a character, so the text's length bounds the run. -/
def lexemes? : Nat → List Char → Option (List Lexeme)
  | 0, _ => none
  | fuel + 1, text =>
    match skipBlanks fuel text with
    | [] => some []
    | start => do
      let (lexeme, rest) ← lexeme? start
      return lexeme :: (← lexemes? fuel rest)

/-- The attribute that a documentation comment stands for. -/
def docAttribute (isInner : Bool) (text : String) : List Token :=
  .punct '#' .alone :: (if isInner then [.punct '!' .alone] else []) ++
    [.group .bracket
      [.ident "doc", .punct '=' .alone, .literal (Text.stringLiteral text)]]

/-- Matches brackets. `open_` holds the groups that are open, innermost first, each with
the tokens before it; `done` holds the tokens of the current group in reverse. -/
def nest? : List (Delimiter × List Token) → List Token → List Lexeme → Option (List Token)
  | [], done, [] => some done.reverse
  | _ :: _, _, [] => none
  | outer, done, .leaf token :: rest => nest? outer (token :: done) rest
  | outer, done, .doc isInner text :: rest =>
    nest? outer ((docAttribute isInner text).reverse ++ done) rest
  | outer, done, .opening delimiter :: rest => nest? ((delimiter, done) :: outer) [] rest
  | [], _, .closing _ :: _ => none
  | (opened, before) :: outer, done, .closing delimiter :: rest =>
    if opened = delimiter then nest? outer (.group delimiter done.reverse :: before) rest else none

/-- A text without its byte order mark. -/
def withoutMark : List Char → List Char
  | '\ufeff' :: rest => rest
  | text => text

/-- The token trees of a text, if it is well-formed. -/
def lex? (text : String) : Option (List Token) := do
  let chars := withoutMark text.toList
  nest? [] [] (← lexemes? (chars.length + 1) chars)

end EnvLoader.Source
