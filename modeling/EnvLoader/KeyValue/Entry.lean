import EnvLoader.Text.Lines
import EnvLoader.Text.Quoted

/-! Entries of a key-value store, and how they stand in a file: one line each, the key
before the first equals sign. -/
namespace EnvLoader.KeyValue
open Text

/-- Whether a character ends a line or may be part of what ends it. -/
def isLineBreak (c : Char) : Bool := c == '\n' || c == '\r'

/-- A key under which a value can be stored: it has characters, and none of them is an
equals sign or a line break. -/
def isValidKey (key : List Char) : Bool :=
  !key.isEmpty && key.all fun c => c != '=' && !isLineBreak c

/-- A value that can be stored: it has no line breaks. -/
def isValidValue (value : List Char) : Bool := value.all (!isLineBreak ·)

/-- Whether a value can be stored under a key. -/
def isValidEntry (key value : String) : Bool := isValidKey key.toList && isValidValue value.toList

/-- An entry as it stands on a line. -/
def entryText (key value : String) : String := key ++ "=" ++ value

/-- The line of an entry. -/
def entryLine (key value : String) : String := entryText key value ++ "\n"

/-- The entry on a line. A line without an equals sign holds none. -/
def entryOfLine? (line : List Char) : Option (String × String) :=
  (splitOnce '=' line).map fun (key, value) => (String.ofList key, String.ofList value)

/-- The entries of a text in order. -/
def entriesOf (text : String) : List (String × String) :=
  (lines text.toList).filterMap entryOfLine?

end EnvLoader.KeyValue
