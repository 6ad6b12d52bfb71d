import EnvLoader.Schema.Record
import EnvLoader.Source.Grammar

/-! Reading the options and the documentation of a field from its attributes. -/
namespace EnvLoader
open Source Text

/-- The attribute that holds options. -/
def optionAttribute : String := "env"

/-- The names of the options. -/
inductive OptionName where
  | default
  | key
  | build
  | buildWith
  deriving DecidableEq, Repr, Inhabited

/-- The word an option is written as. -/
def OptionName.word : OptionName → String
  | .default => "default"
  | .key => "key"
  | .build => "build"
  | .buildWith => "build_with"

/-- The option that a word names. -/
def OptionName.ofWord? (word : String) : Option OptionName :=
  [OptionName.default, .key, .build, .buildWith].find? (·.word = word)

/-- The value given for an option. -/
def Options.get? (options : Options) : OptionName → Option String
  | .default => options.default
  | .key => options.key
  | .build => options.build
  | .buildWith => options.buildWith

/-- The options with the value of one of them replaced. -/
def Options.set (options : Options) (name : OptionName) (value : String) : Options :=
  match name with
  | .default => { options with default := some value }
  | .key => { options with key := some value }
  | .build => { options with build := some value }
  | .buildWith => { options with buildWith := some value }

/-- What can be wrong with the options of a record. -/
inductive OptionFault where
  /-- The tokens do not follow the grammar. -/
  | malformed
  /-- An option is named by a path of several segments. -/
  | notAName
  | unknown (word : String)
  | duplicate (name : OptionName)
  | notAString (name : OptionName)
  | empty (name : OptionName)
  /-- The record itself has options. -/
  | onRecord
  /-- The record takes parameters. -/
  | generic
  deriving DecidableEq, Repr, Inhabited

/-- The list of option names in messages. -/
def knownOptions : String := "`default`, `key`, `build`, `build_with`"

/-- The text of a fault; faults of grammar have none of their own. -/
def OptionFault.message? : OptionFault → Option String
  | .malformed => none
  | .notAName => some s!"expected one of {knownOptions}"
  | .unknown word => some s!"unknown env option `{word}`; expected one of {knownOptions}"
  | .duplicate name => some s!"duplicate env option `{name.word}`"
  | .notAString name => some s!"{name.word} must be a string"
  | .empty name => some s!"env option `{name.word}` must not be empty"
  | .onRecord => some "env options are only supported on fields"
  | .generic => some "generic structs cannot be loaded from the environment"

/-- Takes the path that names an option; every word may stand in it. -/
def optionPath : Reader ModulePath := do
  let leading ← optMark "::"
  let first ← anyWord
  let rest ← whileAhead (atMark "::") do
    takeMark "::"
    anyWord
  return ⟨leading, first :: rest⟩

/-- Takes the value of an option: an equals sign and a literal. -/
def optionValue : Reader (List Token) := do
  takeMark "="
  takeLiteral

/-- Reads one option from the front of a list of them, and gives what follows it. The
name is judged before the value is looked at, and the value's kind before its length. -/
def readOption (options : Options) (tokens : List Token) :
    Except OptionFault (Options × List Token) := do
  let some (path, rest) := optionPath.run ⟨tokens, []⟩ | throw .malformed
  let some word := path.word? | throw .notAName
  let some name := OptionName.ofWord? word | throw (.unknown word)
  if (options.get? name).isSome then throw (.duplicate name)
  let some (literal, rest) := optionValue.run rest | throw .malformed
  let value? :=
    match literal with
    | [.literal text] => stringValue? text
    | _ => none
  let some value := value? | throw (.notAString name)
  if value.isEmpty && name != .default then throw (.empty name)
  return (options.set name value, rest.input)

/-- Reads a list of options with commas; the last comma is optional. -/
def readOptions : Nat → Options → List Token → Except OptionFault Options
  | 0, _, _ => throw .malformed
  | fuel + 1, options, tokens => do
    let (options, rest) ← readOption options tokens
    if rest.isEmpty then return options
    match afterMark? [','] rest with
    | none => throw .malformed
    | some [] => return options
    | some rest => readOptions fuel options rest

/-- Adds the options of one attribute. -/
def addOptions (options : Options) (attr : Attribute) : Except OptionFault Options :=
  match attr.input with
  | .list _ [] => return options
  | .list _ body => readOptions (body.length + 1) options body
  | _ => throw .malformed

/-- The options that a field's attributes give together. -/
def fieldOptions (attributes : List Attribute) : Except OptionFault Options :=
  (attributes.filter (·.isNamed optionAttribute)).foldlM addOptions {}

/-- The documentation of a declaration: the text of each line without the space in front
and the blanks at the end, and the whole without blank lines around it. -/
def docText (attributes : List Attribute) : String :=
  let line (text : String) : List Char :=
    trimEnd (match text.toList with
      | ' ' :: rest => rest
      | chars => chars)
  String.ofList (trim (['\n'].intercalate ((attributes.filterMap (·.doc?)).map line)))

end EnvLoader
