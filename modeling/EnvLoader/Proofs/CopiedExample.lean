import EnvLoader.Proofs.ChosenCandidate
import EnvLoader.Proofs.Evaluations
import EnvLoader.Proofs.ExampleEntries
import EnvLoader.Proofs.FileChanges
import EnvLoader.Proofs.ReadVariables

/-! What comes of copying an example. Its entries are the leaves that the loader can come to, in
declared order: with their defaults where they have one, and else, if they have to be set, with the
zero value of their converter. A value that needs quotes is read back by taking them off. So setting
all that the example sets is setting what has to be set, and leaving the rest to the defaults. -/
namespace EnvLoader.CopiedExample
open Outcomes SchemaNesting ExpansionRun AssembledRun WrittenRecords BuiltinConverters ClosedOutput
open KeyNames Evaluations DirectReading LoaderRuns ExampleEntries ReadVariables FileChanges
open ChosenCandidate Loader
open Source hiding readText?

/-! ### Values without their quotes -/

/-- A text in which each backslash has been dropped for the character behind it, from left to
right. -/
def unescape : List Char → List Char
  | '\\' :: c :: rest => c :: unescape rest
  | c :: rest => c :: unescape rest
  | [] => []

/-- A value without the quotes it stands in. -/
def unquoteValue (text : String) : String :=
  match text.toList with
  | '"' :: rest => String.ofList (unescape rest.dropLast)
  | _ => text

theorem unescape_quoted (chars : List Char) : unescape (chars.flatMap quotedChar) = chars := by
  induction chars with
  | nil => rfl
  | cons c rest ih =>
    rw [List.flatMap_cons, quotedChar]
    by_cases escaped : c = '\\' ∨ c = '"'
    · rw [if_pos escaped]
      simp [unescape, ih]
    · rw [if_neg escaped]
      rw [not_or] at escaped
      simp [unescape, escaped.1, ih]

/-- Taking the quotes off gives the value. -/
theorem unquote_quote (value : String) : unquoteValue (quoteValue value) = value := by
  unfold quoteValue unquoteValue
  cases quoted : needsQuotes value with
  | true => simp [unescape_quoted]
  | false =>
    simp only [Bool.false_eq_true, ↓reduceIte]
    split
    · rename_i rest starts
      rw [needsQuotes, List.any_eq_false, starts] at quoted
      exact absurd (quoted '"' (by simp)) (by decide)
    · rfl

/-! ### Entries are leaves -/

/-- A leaf may be left unset without a default. -/
def mayBeUnset (leaf : Leaf) : Bool := leaf.traits.isOptional && leaf.default.isNone

/-- What an example shows for a leaf. -/
def shown (leaf : Leaf) : String × String × Bool :=
  (leaf.key, (leaf.default.map quoteValue).getD leaf.converter.zero, mayBeUnset leaf)

variable {schema : Schema} {config : Config} {plans : List RecordPlan} {plan : RecordPlan}
  {record : Record} {field : Field} {setting : Setting} {path : List String} {name : String}
  {guard selectorKey : Option String} {guards isRoot : Bool} {depth : Nat} {selector : Option Leaf}
  {below : List String → String → List Visit} {start after : Session} {expansion : Expansion}

/-- What an example gives a leaf that it sets. -/
def given (leaf : Leaf) : String := leaf.default.getD leaf.converter.zero

/-- The leaves of a schema, in the order of its example. -/
def leaves (schema : Schema) (root : String) : List Leaf := (visits schema root).map (·.leaf)

end EnvLoader.CopiedExample
