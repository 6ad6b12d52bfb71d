import EnvLoader.Proofs.DerivedKeys
import EnvLoader.Proofs.OptionLists
import EnvLoader.Proofs.SchemaHistory
import EnvLoader.Setting

/-! Fields without a key. A key that is given for a field is not empty, for an empty one is refused
when the field is read. A key that is derived is not checked: it is empty for a name in which there is
neither a letter nor a digit, as a name of underscores is. No other field of a source text goes without
a key. -/
namespace EnvLoader.FieldKeys
open Source (Attribute FieldDecl Token fileOfText?)
open Outcomes OptionLists SchemaHistory DerivedKeys
open Text (isAlphanumeric)

/-- No option is empty but a default. -/
def Filled (options : Options) : Prop := ∀ name, options.get? name = some "" → name = .default

variable {options after : Options} {tokens rest : List Token} {attr : Attribute}
  {attributes : List Attribute} {schema known : Schema} {converters : Converters}
  {origin text record : String} {declaration : Declaration} {field : Field} {setting : Setting}

/-! ### Options that are read -/

theorem filled_none : Filled {} := fun name given => by cases name <;> exact nomatch given

theorem filled_set {name : OptionName} {value : String} (filled : Filled options)
    (nonempty : value = "" → name = .default) : Filled (options.set name value) := by
  intro other given
  rw [get?_set] at given
  split at given
  · rename_i same
    cases given
    exact same.trans (nonempty rfl)
  · exact filled other given

/-- The last check of an option is that it is not empty, so what it sets is not. -/
theorem readOption_filled (filled : Filled options)
    (read : readOption options tokens = .ok (after, rest)) : Filled after := by
  unfold readOption at read
  split at read
  case h_2 => exact nomatch read
  split at read
  case h_2 => exact nomatch read
  split at read
  case h_2 => exact nomatch read
  dsimp only at read
  split at read
  case isTrue => exact nomatch read
  split at read
  case h_2 => exact nomatch read
  split at read
  case h_2 => exact nomatch read
  split at read
  case isTrue => exact nomatch read
  rename_i nonempty
  cases read
  refine filled_set filled ?_
  rintro rfl
  simpa using nonempty

theorem readOptions_filled {fuel : Nat} (filled : Filled options)
    (read : readOptions fuel options tokens = .ok after) : Filled after := by
  induction fuel generalizing options tokens with
  | zero => exact nomatch read
  | succ fuel ih =>
    rw [readOptions] at read
    obtain ⟨⟨next, behind⟩, first, read⟩ := bind_ok.mp read
    have filledNext := readOption_filled filled first
    dsimp only at read
    split at read
    · cases read
      exact filledNext
    split at read
    · cases read
    · cases read
      exact filledNext
    · exact ih filledNext read

theorem addOptions_filled (filled : Filled options) (read : addOptions options attr = .ok after) :
    Filled after := by
  unfold addOptions at read
  split at read
  · cases read
    exact filled
  · exact readOptions_filled filled read
  · exact nomatch read

theorem fieldOptions_filled (read : fieldOptions attributes = .ok options) : Filled options := by
  have keeps : ∀ (before : List Attribute) attr options next, Filled options →
      addOptions options attr = .ok next → Filled next :=
    fun _ _ _ _ filled added => addOptions_filled filled added
  exact @foldlM_ok _ _ _ _ (fun _ => Filled) _ _ _ filled_none keeps read

theorem fieldsFrom_filled {index : Nat} {declared : List FieldDecl} {fields : List Field}
    (read : fieldsFrom index declared = .ok fields) : ∀ field ∈ fields, Filled field.options := by
  induction declared generalizing index fields with
  | nil =>
    cases read
    exact fun field listed => absurd listed List.not_mem_nil
  | cons first declared ih =>
    obtain ⟨field, readFirst, read⟩ := bind_ok.mp read
    obtain ⟨others, readOthers, made⟩ := bind_ok.mp read
    cases made
    obtain ⟨options, given, made⟩ := bind_ok.mp readFirst
    cases made
    exact List.forall_mem_cons.mpr ⟨fieldOptions_filled given, ih readOthers⟩

theorem record_filled {declared : RecordItem} {read : Record}
    (isRecord : Record.ofItem declared = .ok read) : ∀ field ∈ read.fields, Filled field.options := by
  unfold Record.ofItem at isRecord
  dsimp only at isRecord
  split at isRecord
  case isTrue => exact nomatch isRecord
  split at isRecord
  case isTrue => exact nomatch isRecord
  obtain ⟨fields, readFields, made⟩ := bind_ok.mp isRecord
  cases made
  exact fieldsFrom_filled readFields

/-- What a source text adds to a schema has no empty options. -/
theorem added_filled (added : declaration ∈ (schema.addSource origin text).1.declarations)
    (new : declaration ∉ schema.declarations) :
    ∀ field ∈ declaration.record.fields, Filled field.options := by
  have ofItems : ∀ {items records}, (plain items).mapM Record.ofItem = .ok records →
      declaration ∈ (extended schema (some origin) records).declarations →
        ∀ field ∈ declaration.record.fields, Filled field.options := by
    intro items records read there
    rcases List.mem_append.mp there with before | behind
    · exact absurd before new
    · obtain ⟨record, listed, rfl⟩ := List.mem_map.mp behind
      obtain ⟨declared, -, isRecord⟩ := related_mem (mapM_ok.mp read).flip listed
      exact record_filled isRecord
  have outcome := run_outcome schema (.addSource origin text)
  simp only [Step.run] at outcome
  generalize (schema.addSource origin text).1 = after at added outcome
  generalize (schema.addSource origin text).2 = failure at outcome
  cases outcome with
  | malformed => exact absurd added new
  | read parsed adds =>
    cases adds with
    | all read => exact ofItems read added
    | stopped split read => exact ofItems read added

/-! ### Keys -/

/-- The key of a field is the one that is given for it, or else made of its name. A field of a tuple
takes the name of its type. -/
theorem ofField_key (accepted : Setting.ofField field record known converters = .ok setting) :
    setting.key = field.options.key.getD (deriveKey (field.name.getD setting.type)) := by
  obtain ⟨traits, -, rfl, -⟩ := SchemaNesting.ofField_ok.mp accepted
  rfl

theorem deriveKey_empty {name : String} :
    deriveKey name = "" ↔ ∀ c ∈ keyBase name, isAlphanumeric c = false := by
  rw [← String.toList_eq_nil_iff, deriveKey, String.toList_ofList, shoutySnake_nil]

/-- A field that a source text declares has an empty key, once it is accepted, exactly if none is given
for it and its name, of which a key is made then, has neither a letter nor a digit. -/
theorem extracted_keys (added : declaration ∈ (schema.addSource origin text).1.declarations)
    (new : declaration ∉ schema.declarations) (listed : field ∈ declaration.record.fields)
    (accepted : Setting.ofField field declaration.record.name known converters = .ok setting) :
    setting.key = "" ↔ field.options.key = none ∧
      ∀ c ∈ keyBase (field.name.getD setting.type), isAlphanumeric c = false := by
  rw [ofField_key accepted, ← deriveKey_empty]
  cases given : field.options.key with
  | none => simp
  | some key =>
    have nonempty : key ≠ "" := by
      rintro rfl
      exact nomatch added_filled added new field listed .key given
    simp [nonempty]

/-- A field of a tuple, which takes its key from a path. -/
def spanSource : String := "struct Span(std::time::Duration);"

theorem spanSource_keyed : ∃ declaration field setting,
    declaration ∈ (({} : Schema).addSource "span.rs" spanSource).1.declarations ∧
      field ∈ declaration.record.fields ∧
      Setting.ofField field declaration.record.name {} .builtin = .ok setting ∧ setting.key ≠ "" := by
  have read : (({} : Schema).addSource "span.rs" spanSource).1.declarations =
      [⟨⟨"Span", "", [⟨none, 0, .qualified "std::time::Duration", {}, ""⟩]⟩, some "span.rs"⟩] := by
    decide +kernel
  have accepts : (Setting.ofField ⟨none, 0, .qualified "std::time::Duration", {}, ""⟩ "Span" {}
      .builtin).toOption.isSome = true := by
    decide +kernel
  obtain ⟨setting, accepted⟩ := Option.isSome_iff_exists.mp accepts
  have accepted := toOption_some.mp accepted
  have added : _ ∈ (({} : Schema).addSource "span.rs" spanSource).1.declarations :=
    read ▸ List.mem_singleton_self _
  refine ⟨_, _, setting, added, List.mem_singleton_self _, accepted, fun empty => ?_⟩
  obtain ⟨-, letterless⟩ :=
    (extracted_keys added List.not_mem_nil (List.mem_singleton_self _) accepted).mp empty
  obtain ⟨traits, shaped, rfl, -⟩ := SchemaNesting.ofField_ok.mp accepted
  cases shaped
  exact absurd (letterless 'D') (by decide)

/-- A field whose name is made of underscores. -/
def underscoreSource : String := "struct Config \x7b __: u16 \x7d"

/-- Its key is empty, and it is accepted all the same. -/
theorem underscores_keyless : ∃ declaration field setting,
    declaration ∈ (({} : Schema).addSource "config.rs" underscoreSource).1.declarations ∧
      field ∈ declaration.record.fields ∧
      Setting.ofField field declaration.record.name {} .builtin = .ok setting ∧ setting.key = "" := by
  have read : (({} : Schema).addSource "config.rs" underscoreSource).1.declarations =
      [⟨⟨"Config", "", [⟨some "__", 0, .named "u16", {}, ""⟩]⟩, some "config.rs"⟩] := by
    decide +kernel
  have accepts : ((Setting.ofField ⟨some "__", 0, .named "u16", {}, ""⟩ "Config" {}
      .builtin).toOption.map (·.key)) = some "" := by
    decide +kernel
  obtain ⟨setting, accepted, keyless⟩ := toOption_map.mp accepts
  have added : _ ∈ (({} : Schema).addSource "config.rs" underscoreSource).1.declarations :=
    read ▸ List.mem_singleton_self _
  exact ⟨_, _, setting, added, List.mem_singleton_self _, accepted, keyless⟩

end EnvLoader.FieldKeys
