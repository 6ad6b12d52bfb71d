import EnvLoader.Text.Lines

/-! Byte strings, told apart by whether they are text. Names and values come from outside
as bytes, and most of what is done with them asks for text. -/
namespace EnvLoader
open Text

/-- A byte string: text, or bytes that are the encoding of no text. -/
inductive Bytes where
  | text (content : String)
  | raw (bytes : List UInt8)
  deriving DecidableEq, Inhabited

namespace Bytes

/-- Reads bytes as text where they are. -/
def ofList (bytes : List UInt8) : Bytes :=
  match String.fromUTF8? ⟨bytes.toArray⟩ with
  | some content => .text content
  | none => .raw bytes

/-- The bytes themselves. -/
def toList : Bytes → List UInt8
  | .text content => content.toUTF8.toList
  | .raw bytes => bytes

/-- The text, if it is one. -/
def text? : Bytes → Option String
  | .text content => some content
  | .raw _ => none

/-- Adds text at the end. What is no text does not become one by that. -/
def append : Bytes → String → Bytes
  | .text content, added => .text (content ++ added)
  | .raw bytes, added => .raw (bytes ++ added.toUTF8.toList)

/-- The lines, some of which may be no text. -/
def lines : Bytes → List Bytes
  | .text content => (Text.lines content.toList).map fun line => .text (String.ofList line)
  | .raw bytes =>
    (linesWith (10 : UInt8) 13 bytes).map ofList

end Bytes
end EnvLoader
