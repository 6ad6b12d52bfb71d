import EnvLoader.Proofs.CopiedExample
import EnvLoader.Proofs.StringLiterals

/-! Texts that are written with some of their characters escaped: keys in format strings, where
braces are doubled, and values in examples, where backslashes and quotes follow a backslash. Both are
written by two replacements, one after the other. The second one must not touch what the first one
wrote; then they are one replacement, and a scan from left to right takes both of them back. -/
namespace EnvLoader.EscapedTexts
open Source Loader KeyNames CopiedExample StringLiterals

/-- A text with another text in the place of each occurrence of a character. -/
def replaceChar (c : Char) (replacement text : List Char) : List Char :=
  text.flatMap fun other => if other = c then replacement else [other]

/-- A key with its opening braces doubled, and then its closing ones. -/
def doubledBraces (key : String) : String :=
  String.ofList (replaceChar '\x7d' ['\x7d', '\x7d'] (replaceChar '\x7b' ['\x7b', '\x7b'] key.toList))

/-- A value with its backslashes doubled, and then a backslash before each of its quotes. -/
def backslashed (value : String) : String :=
  String.ofList (replaceChar '"' ['\\', '"'] (replaceChar '\\' ['\\', '\\'] value.toList))

/-- The text of a format string where the prefix is all that is captured. -/
def filledBelow (outer format : String) : Option String :=
  formatWith (fun name => if name = "prefix" then some outer else none) format

/-- A character that a value without quotes has none of. -/
def NeedsQuotes (c : Char) : Prop := Text.isBlank c = true ∨ c = '#' ∨ c = '"'

variable {first second : Char} {before after text : List Char} {value other : String}

/-! ### Two replacements -/

theorem replaceChar_free (free : first ∉ text) : replaceChar first before text = text := by
  unfold replaceChar
  induction text with
  | nil => rfl
  | cons c text ih =>
    rw [List.mem_cons, not_or] at free
    rw [List.flatMap_cons, if_neg (Ne.symm free.1), ih free.2]
    rfl

/-- A second replacement that finds nothing to do in what the first one wrote goes together with it,
character by character. -/
theorem replaceChar_twice (apart : second ∉ before) :
    replaceChar second after (replaceChar first before text) = text.flatMap fun c =>
      if c = first then before else if c = second then after else [c] := by
  induction text with
  | nil => rfl
  | cons c text ih =>
    have split : replaceChar second after (replaceChar first before (c :: text)) =
        replaceChar second after (if c = first then before else [c]) ++
          replaceChar second after (replaceChar first before text) := by
      simp only [replaceChar, List.flatMap_cons, List.flatMap_append]
    rw [split, ih, List.flatMap_cons]
    by_cases isFirst : c = first
    · rw [if_pos isFirst, if_pos isFirst, replaceChar_free apart]
    · rw [if_neg isFirst, if_neg isFirst]
      simp [replaceChar]

theorem escapeBraces_doubled (key : String) : escapeBraces key = doubledBraces key := by
  unfold escapeBraces doubledBraces
  rw [replaceChar_twice (by decide)]
  refine congrArg String.ofList (List.flatMap_congr fun c _ => ?_)
  by_cases opening : c = '\x7b'
  · simp [opening]
  · by_cases closing : c = '\x7d'
    · simp [closing]
    · simp [opening, closing]

theorem quotedChar_backslashed (value : String) :
    String.ofList (value.toList.flatMap quotedChar) = backslashed value := by
  unfold backslashed quotedChar
  rw [replaceChar_twice (by decide)]
  refine congrArg String.ofList (List.flatMap_congr fun c _ => ?_)
  by_cases backslash : c = '\\'
  · simp [backslash]
  · by_cases quote : c = '"'
    · simp [quote]
    · simp [backslash, quote]

/-! ### Keys in format strings -/

/-- The key of a setting below the root is written as a format string. What the format string makes
of a prefix is the prefix, an underscore and the key, as an example has it. -/
theorem nested_key_formatted (setting : Setting) (outer : String) : ∃ literal format,
    (setting.keyExpr false).tokens = code "& format !" ++ inParens [.literal literal] ∧
      stringValue? literal = some format ∧
      format = "\x7bprefix\x7d_" ++ doubledBraces setting.key ∧
      filledBelow outer format = some (outer ++ "_" ++ setting.key) ∧
      fullKey (some outer) setting.key = outer ++ "_" ++ setting.key := by
  have isFormat : prefixedFormat setting.key = "\x7bprefix\x7d_" ++ doubledBraces setting.key := by
    rw [← escapeBraces_doubled]
    rfl
  exact ⟨_, prefixedFormat setting.key, rfl, stringValue?_stringLiteral _, isFormat,
    prefixedFormat_name outer setting.key, rfl⟩

/-! ### Values in examples -/

theorem needsQuotes_iff : needsQuotes value = true ↔ ∃ c ∈ value.toList, NeedsQuotes c := by
  simp only [needsQuotes, List.any_eq_true, Bool.or_eq_true, beq_iff_eq, NeedsQuotes, or_assoc]

theorem quoteValue_quoted (needs : needsQuotes value = true) :
    quoteValue value = "\"" ++ backslashed value ++ "\"" := by
  rw [quoteValue, if_pos needs, ← quotedChar_backslashed]
  apply String.toList_injective
  simp

theorem quoteValue_plain (plain : needsQuotes value = false) : quoteValue value = value := by
  rw [quoteValue, plain]
  rfl

/-- A value that stands without quotes does not begin with one. -/
theorem plain_start (plain : needsQuotes value = false) (rest : List Char) :
    value.toList ≠ '"' :: rest := by
  intro starts
  have needs : needsQuotes value = true :=
    needsQuotes_iff.mpr ⟨'"', by simp [starts], .inr (.inr rfl)⟩
  exact Bool.false_ne_true (plain.symm.trans needs)

/-- A value in an example begins with a quote just if it stands between quotes, and the value is what
is left of the text between them when each backslash is dropped for the character behind it. Any
other value stands as it is, and has no character that needs quotes. So different values are written
differently. -/
theorem written_values_read :
    (∀ value rest, (quoteValue value).toList = '"' :: rest →
      quoteValue value = "\"" ++ backslashed value ++ "\"" ∧
        ∃ inside, rest = inside ++ ['"'] ∧ unescape inside = value.toList) ∧
    (∀ value, (∀ rest, (quoteValue value).toList ≠ '"' :: rest) →
      quoteValue value = value ∧ ∀ c ∈ (quoteValue value).toList, ¬ NeedsQuotes c) ∧
    (∀ value, unquoteValue (quoteValue value) = value) ∧
    Function.Injective quoteValue := by
  refine ⟨?_, ?_, unquote_quote, ?_⟩
  · intro value rest starts
    cases needs : needsQuotes value with
    | false =>
      rw [quoteValue_plain needs] at starts
      exact absurd starts (plain_start needs rest)
    | true =>
      refine ⟨quoteValue_quoted needs, value.toList.flatMap quotedChar, ?_, unescape_quoted _⟩
      rw [quoteValue, if_pos needs, String.toList_ofList] at starts
      exact (List.cons.inj starts).2.symm
  · intro value other
    cases needs : needsQuotes value with
    | false =>
      have same := quoteValue_plain needs
      refine ⟨same, fun c listed special => ?_⟩
      rw [same] at listed
      have quoted := needsQuotes_iff.mpr ⟨c, listed, special⟩
      exact Bool.false_ne_true (needs.symm.trans quoted)
    | true =>
      refine absurd ?_ (other (value.toList.flatMap quotedChar ++ ['"']))
      rw [quoteValue, if_pos needs, String.toList_ofList]
      rfl
  · intro first second same
    rw [← unquote_quote first, same, unquote_quote second]

/-- A value with blanks and quotes stands between quotes, and one with a backslash as it is. -/
theorem greeting_read :
    (quoteValue "say \"hi\"").toList = '"' :: "say \\\"hi\\\"\"".toList ∧
      (∃ inside, "say \\\"hi\\\"\"".toList = inside ++ ['"'] ∧
        unescape inside = "say \"hi\"".toList) ∧
      (∀ rest, (quoteValue "a\\b").toList ≠ '"' :: rest) ∧ quoteValue "a\\b" = "a\\b" := by
  have quoted : (quoteValue "say \"hi\"").toList = '"' :: "say \\\"hi\\\"\"".toList := by
    decide +kernel
  have plain : ∀ rest, (quoteValue "a\\b").toList ≠ '"' :: rest :=
    plain_start (by decide +kernel)
  exact ⟨quoted, (written_values_read.1 _ _ quoted).2, plain, (written_values_read.2.1 _ plain).1⟩

end EnvLoader.EscapedTexts
