import EnvLoader.Text.Words

/-! External keys: the names of environment variables, and the keys that field names give
rise to. -/
namespace EnvLoader
open Text

/-- What stands before the first `::` of a text. -/
def beforeColons : List Char → List Char
  | ':' :: ':' :: _ => []
  | c :: rest => c :: beforeColons rest
  | [] => []

/-- The last segment of a name: what stands after its last `::`. -/
def lastSegment (name : List Char) : List Char := (beforeColons name.reverse).reverse

/-- An identifier without the mark that makes it raw. -/
def withoutRawMark : List Char → List Char
  | 'r' :: '#' :: rest => rest
  | name => name

/-- The part of a name that its key is made of. -/
def keyBase (name : String) : List Char := withoutRawMark (lastSegment name.toList)

/-- The key of a field or type: the words of the last segment of its name, in upper case
and joined with underscores. -/
def deriveKey (name : String) : String := String.ofList (shoutySnake (keyBase name))

/-- A key below a prefix. -/
def joinKey (keyPrefix key : String) : String := keyPrefix ++ "_" ++ key

/-- A key at the root, or below a prefix. -/
def fullKey : Option String → String → String
  | none, key => key
  | some keyPrefix, key => joinKey keyPrefix key

end EnvLoader
