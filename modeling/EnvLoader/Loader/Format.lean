import EnvLoader.Loader.Constructor

/-! Reading format strings. A brace that is written twice stands for itself, and a single
pair of braces holds the name of a captured variable. -/
namespace EnvLoader.Loader

/-- Fills in a format string. Within a placeholder, `name` is the name read so far in
reverse. Braces that do not pair up, and names that are not captured, have no reading. -/
def fillFormat (value? : String → Option String) (name : Option (List Char)) :
    List Char → Option (List Char)
  | [] => if name.isNone then some [] else none
  | c :: rest =>
    match name, c, rest with
    | some name, '\x7d', rest => do
      return (← value? (String.ofList name.reverse)).toList ++ (← fillFormat value? none rest)
    | some name, c, rest => fillFormat value? (some (c :: name)) rest
    | none, '\x7b', '\x7b' :: rest => (fillFormat value? none rest).map ('\x7b' :: ·)
    | none, '\x7b', rest => fillFormat value? (some []) rest
    | none, '\x7d', '\x7d' :: rest => (fillFormat value? none rest).map ('\x7d' :: ·)
    | none, '\x7d', _ => none
    | none, c, rest => (fillFormat value? none rest).map (c :: ·)

/-- The text that a format string makes of captured variables. -/
def formatWith (value? : String → Option String) (format : String) : Option String :=
  (fillFormat value? none format.toList).map String.ofList

/-- The name of the variable that a key expression asks for, below a prefix if there is one. -/
def KeyExpr.name? (keyPrefix : Option String) : KeyExpr → Option String
  | .literal key => some key
  | .formatted format =>
    formatWith (fun name => if name = "prefix" then keyPrefix else none) format

end EnvLoader.Loader
