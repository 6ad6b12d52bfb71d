import EnvLoader.Text.AlphanumericTable
import EnvLoader.Text.LetterCaseTable
import EnvLoader.Text.IdentifierTable
import EnvLoader.Text.PrintableTable
import EnvLoader.Text.UppercaseTable

/-! Classes of characters. Each class is decided directly on ASCII, where almost every
input lies and where proofs compute, and by its Unicode table beyond. -/
namespace EnvLoader.Text

/-- What all characters of a list have is decided on the list, not over all characters there are. -/
instance decidableAll (chars : List Char) (p : Char → Prop) [DecidablePred p] :
    Decidable (∀ c ∈ chars, p c) :=
  List.decidableBAll p chars

/-- White space: the Unicode property White_Space. -/
def isBlank (c : Char) : Bool :=
  let code := c.toNat
  (9 ≤ code && code ≤ 13) || code == 0x20 || code == 0x85 || code == 0xa0 || code == 0x1680 ||
    (0x2000 ≤ code && code ≤ 0x200a) || code == 0x2028 || code == 0x2029 || code == 0x202f ||
    code == 0x205f || code == 0x3000

/-- Whether the character is in the ASCII range. -/
def isAscii (c : Char) : Bool := c.toNat < 128

/-- An ASCII digit. -/
def isDigit (c : Char) : Bool := '0' ≤ c && c ≤ '9'

/-- An ASCII lower-case letter. -/
def isAsciiLower (c : Char) : Bool := 'a' ≤ c && c ≤ 'z'

/-- An ASCII upper-case letter. -/
def isAsciiUpper (c : Char) : Bool := 'A' ≤ c && c ≤ 'Z'

/-- An ASCII letter. -/
def isAsciiLetter (c : Char) : Bool := isAsciiLower c || isAsciiUpper c

/-- A letter, letter-like mark or number. -/
def isAlphanumeric (c : Char) : Bool :=
  if isAscii c then isAsciiLetter c || isDigit c else alphanumericSet.contains c

/-- A lower-case character. -/
def isLower (c : Char) : Bool :=
  if isAscii c then isAsciiLower c else lowercaseSet.contains c

/-- An upper-case character. -/
def isUpper (c : Char) : Bool :=
  if isAscii c then isAsciiUpper c else uppercaseSet.contains c

/-- The upper case of an ASCII letter; other characters stay. -/
def asciiUpper (c : Char) : Char :=
  if isAsciiLower c then Char.ofNat (c.toNat - 32) else c

/-- The lower case of an ASCII letter; other characters stay. -/
def asciiLower (c : Char) : Char :=
  if isAsciiUpper c then Char.ofNat (c.toNat + 32) else c

/-- The full upper case of a character, which may be several characters. -/
def upperCase (c : Char) : List Char :=
  if isAscii c then [asciiUpper c]
  else
    match upperExpansions.find? (·.1 == c.toNat) with
    | some (_, codes) => codes.map Char.ofNat
    | none =>
      match upperRuns.find? (·.contains c.toNat) with
      | some run => [Char.ofNat (c.toNat + run.shift).toNat]
      | none => [c]

/-- A character that may start an identifier. -/
def isIdentStart (c : Char) : Bool :=
  c == '_' || if isAscii c then isAsciiLetter c else xidStartSet.contains c

/-- A character that may continue an identifier. -/
def isIdentContinue (c : Char) : Bool :=
  if isAscii c then isAsciiLetter c || isDigit c || c == '_' else xidContinueSet.contains c

/-- A character that attaches itself to the character before it. -/
def extendsGrapheme (c : Char) : Bool :=
  !isAscii c && graphemeExtendSet.contains c

/-- A character that shows on a page. -/
def isPrintable (c : Char) : Bool :=
  if isAscii c then 0x20 ≤ c.toNat && c.toNat != 0x7f else !unprintableSet.contains c

/-- Drops the white space at the end. -/
def trimEnd (text : List Char) : List Char := (text.reverse.dropWhile isBlank).reverse

/-- Drops the white space at the start. -/
def trimStart (text : List Char) : List Char := text.dropWhile isBlank

/-- Drops the white space at both ends. -/
def trim (text : List Char) : List Char := trimEnd (trimStart text)

/-- Splits a text at each occurrence of a character; there is one piece more than occurrences. -/
def splitAt (separator : Char) : List Char → List (List Char)
  | [] => [[]]
  | c :: rest =>
    if c = separator then [] :: splitAt separator rest
    else
      match splitAt separator rest with
      | [] => [[c]]
      | piece :: pieces => (c :: piece) :: pieces

end EnvLoader.Text
