import EnvLoader.RecordPlan
import EnvLoader.Text.Lines

/-! The example environment: an entry for every variable that a loader reads, with its
documentation and the value it would take. -/
namespace EnvLoader
open Text

/-- A comment line. -/
def commentLine (text : String) : String := if text.isEmpty then "#\n" else "# " ++ text ++ "\n"

/-- The comment lines of a documentation. -/
def commentLines (docs : String) : String :=
  String.join ((lines docs.toList).map fun line => commentLine (String.ofList line))

/-- Whether a value cannot stand in an example without quotes. -/
def needsQuotes (value : String) : Bool :=
  value.toList.any fun c => isBlank c || c == '#' || c == '"'

/-- A character as it stands between quotes, where quotes and backslashes are escaped. -/
def quotedChar (c : Char) : List Char :=
  if c = '\\' ∨ c = '"' then ['\\', c] else [c]

/-- A value as it stands in an example, in quotes only when it needs them. -/
def quoteValue (value : String) : String :=
  if needsQuotes value then
    String.ofList ('"' :: value.toList.flatMap quotedChar ++ ['"'])
  else value

/-- An entry of an example. -/
structure ExampleEntry where
  key : String
  value : String
  /-- The variable may be left unset, and the entry is no more than a comment. -/
  isComment : Bool
  docs : String
  /-- The labels a selector chooses from. -/
  labels : Option (List String)
  /-- The selector and the label that the entry hangs on, as an assignment. -/
  guard : Option String
  deriving DecidableEq, Repr, Inhabited

/-- A line group of an example: an entry, or the head of the entries of a nested record. -/
inductive ExamplePart where
  | setting (content : ExampleEntry)
  | heading (docs : String)
  deriving DecidableEq, Repr, Inhabited

/-- The text of an entry. -/
def ExampleEntry.text (entry : ExampleEntry) : String :=
  commentLines entry.docs ++
    (match entry.labels with
    | some labels => commentLine ("one of: " ++ ", ".intercalate labels)
    | none => "") ++
    (match entry.guard with
    | some guard => commentLine ("used when " ++ guard)
    | none => "") ++
    (if entry.isComment then "# " ++ entry.key ++ "=\n" else entry.key ++ "=" ++ entry.value ++
      "\n")

/-- The text of a part. -/
def ExamplePart.text : ExamplePart → String
  | .setting content => content.text
  | .heading docs => "\n" ++ commentLines docs

/-- The entry of a setting that is read from a single variable. -/
def exampleEntry (converters : Converters) (plan : RecordPlan) (key : String)
    (guard : Option String) (setting : Setting) : ExampleEntry where
  key := key
  value :=
    match setting.default with
    | some value => quoteValue value
    | none => ((converters.find? setting.type).map (·.zero)).getD ""
  isComment := setting.isOptional && setting.default.isNone
  docs := setting.docs
  labels := if setting.isSelector then some (plan.candidates.map (·.key)) else none
  guard := guard

/-- The plan of a record. -/
def planOf? (plans : List RecordPlan) (name : String) : Option RecordPlan :=
  plans.find? (·.name = name)

/-- The parts for a record below a prefix. Records nest no deeper than there are plans,
since none nests itself. -/
def exampleParts (plans : List RecordPlan) (converters : Converters) :
    Nat → RecordPlan → Option String → Option String → List ExamplePart
  | 0, _, _, _ => []
  | fuel + 1, plan, keyPrefix, guard =>
    let selectorKey := plan.selector?.map fun selector => fullKey keyPrefix selector.key
    plan.settings.flatMap fun setting =>
      let key := fullKey keyPrefix setting.key
      if setting.isNested then
        match planOf? plans setting.type with
        | none => []
        | some nested =>
          let nestedGuard :=
            match selectorKey, setting.isGuarded with
            | some selector, true => some (selector ++ "=" ++ setting.key)
            | _, _ => guard
          .heading setting.docs :: exampleParts plans converters fuel nested (some key) nestedGuard
      else [.setting (exampleEntry converters plan key guard setting)]

/-- The first line of an example. -/
def exampleHeader (root : String) : String :=
  "# Environment for `" ++ root ++ "`, generated by envgen.\n"

/-- The example environment of a root among analysed records. -/
def renderExample (root : String) (plans : List RecordPlan) (converters : Converters) : String :=
  exampleHeader root ++
    (match planOf? plans root with
    | some plan =>
      String.join ((exampleParts plans converters plans.length plan none none).map (·.text))
    | none => "")

end EnvLoader
