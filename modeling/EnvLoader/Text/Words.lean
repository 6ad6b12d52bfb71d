import EnvLoader.Text.CharClass

/-! Splitting identifiers into words at separators and at changes of letter case, and
joining the words in upper case with underscores. -/
namespace EnvLoader.Text

/-- The case of the letters seen last within the current word. -/
inductive CaseMode where
  | boundary
  | lower
  | upper
  deriving DecidableEq, Repr

/-- The mode after a character: digits and caseless letters keep the current one. -/
def CaseMode.after (mode : CaseMode) (c : Char) : CaseMode :=
  if isLower c then .lower else if isUpper c then .upper else mode

/-- Cuts a run of alphanumeric characters into words. A word ends after a lower-case
stretch that an upper-case letter follows, and before an upper-case letter that comes
after an upper-case stretch and begins a lower-case one. `word` is the word so far. -/
def cutAtCase (mode : CaseMode) (word : List Char) : List Char → List (List Char)
  | [] => []
  | [c] => [word ++ [c]]
  | c :: next :: rest =>
    if mode.after c = .lower ∧ isUpper next then
      (word ++ [c]) :: cutAtCase .boundary [] (next :: rest)
    else if mode = .upper ∧ isUpper c ∧ isLower next then
      word :: cutAtCase .boundary [c] (next :: rest)
    else
      cutAtCase (mode.after c) (word ++ [c]) (next :: rest)

/-- The maximal runs of alphanumeric characters, possibly empty ones between two separators. -/
def alphanumericRuns : List Char → List (List Char)
  | [] => [[]]
  | c :: rest =>
    match isAlphanumeric c, alphanumericRuns rest with
    | true, run :: runs => (c :: run) :: runs
    | true, [] => [[c]]
    | false, runs => [] :: runs

/-- The words of a text. -/
def words (text : List Char) : List (List Char) :=
  (alphanumericRuns text).flatMap (cutAtCase .boundary [])

/-- The words of a text in upper case, joined with underscores. -/
def shoutySnake (text : List Char) : List Char :=
  ['_'].intercalate ((words text).map (·.flatMap upperCase))

end EnvLoader.Text
