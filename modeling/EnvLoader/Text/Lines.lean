/-! Lines and the pieces of a line. -/
namespace EnvLoader.Text

/-- The stretches that a terminator ends, without it, and what is left after the last. -/
def terminated {α : Type} [DecidableEq α] (terminator : α) : List α → List (List α) × List α
  | [] => ([], [])
  | c :: rest =>
    let (stretches, left) := terminated terminator rest
    if c = terminator then ([] :: stretches, left)
    else
      match stretches with
      | [] => ([], c :: left)
      | stretch :: stretches => ((c :: stretch) :: stretches, left)

/-- Drops an element at the end. -/
def dropLast? {α : Type} [DecidableEq α] (last : α) (line : List α) : List α :=
  if line.getLast? = some last then line.dropLast else line

/-- The lines of a text. A line ends with a line feed, and a carriage return before it
belongs to the ending. The last line may lack its ending. -/
def linesWith {α : Type} [DecidableEq α] (feed carriage : α) (text : List α) : List (List α) :=
  let (ended, left) := terminated feed text
  ended.map (dropLast? carriage) ++ if left.isEmpty then [] else [left]

/-- The lines of a text of characters. -/
def lines (text : List Char) : List (List Char) := linesWith '\n' '\r' text

/-- What stands before and after the first occurrence of a character. -/
def splitOnce (separator : Char) : List Char → Option (List Char × List Char)
  | [] => none
  | c :: rest =>
    if c = separator then some ([], rest)
    else (splitOnce separator rest).map fun (before, after) => (c :: before, after)

end EnvLoader.Text
