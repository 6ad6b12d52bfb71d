import EnvLoader.Proofs.RecordWriting
import EnvLoader.Proofs.RequestNames
import EnvLoader.Proofs.VariantUse
import EnvLoader.Text.Integer

/-! What the builtin converters have in common. Their names and types are code as they stand,
no two of them give their parser functions the same name, and the variants that they ask for
are those that their code constructs. -/
namespace EnvLoader.BuiltinConverters
open Loader Source RequestNames VariantUse

/-- All variants that a run with the builtin converters can ask for. -/
def builtinVariants : List ErrorVariant :=
  [.keyNotFound, .notUnicode, .invalidBool, .invalidInt, .invalidFloat, .invalidDuration,
    .invalidChoice, .build]

variable {converter : Converter} {type : String} {first second request : ParserRequest}

theorem find?_builtin (found : Converters.builtin.find? type = some converter) :
    converter ∈ Converter.builtin := by
  obtain ⟨entry, isEntry, rfl⟩ := Option.map_eq_some_iff.mp found
  have member := List.mem_of_find?_eq_some isEntry
  have listed : ∀ entry ∈ Converters.builtin.entries, entry.2 ∈ Converter.builtin := by
    decide
  exact listed entry member

/-- The type of a converter reads as what it is written as. -/
theorem type_written {type : TypeExpr} (builtin : converter ∈ Converter.builtin)
    (reads : typeOfText? converter.typeText = some type) :
    textOf type.tokens = converter.typeText := by
  have all : ∀ converter ∈ Converter.builtin,
      (typeOfText? converter.typeText).map (fun type => textOf type.tokens) =
        some converter.typeText := by
    decide +kernel
  have one := all converter builtin
  rw [reads, Option.map_some] at one
  exact Option.some.inj one

/-- Integers are those of a known type. -/
theorem integer_known (builtin : converter ∈ Converter.builtin)
    (integers : converter.conversion = .int) :
    ∃ type, Text.IntegerType.ofName? converter.typeText = some type := by
  have all : ∀ converter ∈ Converter.builtin, converter.conversion = .int →
      (Text.IntegerType.ofName? converter.typeText).isSome = true := by
    decide
  exact Option.isSome_iff_exists.mp (all converter builtin integers)

/-- What is declared as text is read as text. -/
theorem text_converter {shape : Shape} (isText : shape.isText = true) :
    ∃ traits, shape.traits = .ok traits ∧ traits.isList = false ∧ traits.isOptional = false ∧
      Converters.builtin.find? traits.type = some .string := by
  have names : ∀ name, decide (name = "String" ∨ name = "std::string::String") = true →
      Converters.builtin.find? name = some .string := by
    intro name isName
    rcases of_decide_eq_true isName with rfl | rfl <;> decide
  cases shape with
  | named name | qualified name =>
    exact ⟨_, rfl, rfl, rfl, names name (by simpa [Shape.isText] using isText)⟩
  | optional _ | sequence _ | unrecognized _ => exact nomatch isText

/-- The name of a parser function is read as it is written. -/
theorem request_named {name : String} (builtin : request.converter ∈ Converter.builtin)
    (named : nameOfText? request.name = some name) : name = request.name := by
  have plain : ∀ converter ∈ Converter.builtin, ¬ "//".toList <:+: converter.name.toList := by
    decide
  exact name_read (plain _ builtin) named

/-- The names of parser functions tell them apart. -/
theorem request_apart (one : first.converter ∈ Converter.builtin)
    (other : second.converter ∈ Converter.builtin) (same : first.name = second.name) :
    first = second := by
  have distinct : (Converter.builtin.map (·.name)).Nodup := by decide
  have single : ∀ converter ∈ Converter.builtin, ¬ "_slice".toList <:+ converter.name.toList := by
    decide
  have unmistakable : ∀ lists request : ParserRequest, request.converter ∈ Converter.builtin →
      ¬ Mistakable lists request := by
    rintro lists request builtin ⟨-, -, isName⟩
    refine single _ builtin ⟨lists.converter.name.toList, ?_⟩
    rw [isName, String.toList_append]
  obtain ⟨required, ⟨sameName, sameList⟩ | mistaken | mistaken⟩ := name_eq_iff.mp same
  · have sameConverter := List.inj_on_of_nodup_map distinct one other sameName
    cases first
    cases second
    cases sameConverter
    cases sameList
    cases required
    rfl
  · exact absurd mistaken (unmistakable _ _ other)
  · exact absurd mistaken (unmistakable _ _ one)

theorem variant_named {variant : ErrorVariant} (builtin : variant ∈ builtinVariants) :
    nameOfText? variant.name = some variant.name := by
  have all : ∀ variant ∈ builtinVariants, nameOfText? variant.name = some variant.name := by
    decide
  exact all variant builtin

theorem errors_builtin (builtin : converter ∈ Converter.builtin) :
    converter.errors ⊆ builtinVariants ∧
      converter.errors.map (·.name) = conversionVariants converter.conversion := by
  have all : ∀ converter ∈ Converter.builtin,
      (∀ variant ∈ converter.errors, variant ∈ builtinVariants) ∧
        converter.errors.map (·.name) = conversionVariants converter.conversion := by
    decide
  exact all converter builtin

end EnvLoader.BuiltinConverters
