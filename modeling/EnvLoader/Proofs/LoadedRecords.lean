import EnvLoader.Proofs.ChosenCandidate

/-! What records look like once they are read. A field that is read from a single variable holds a
value of its type, an integer within the bounds of the type, and a record has a member for each of
its fields. So whoever takes a loaded record apart finds what the declared fields promise. -/
namespace EnvLoader.LoadedRecords
open Outcomes SchemaNesting WrittenRecords Evaluations DirectReading ChosenCandidate Loader Text

/-- A value of the type that a converter is for. -/
def OfType (converter : Converter) : Value → Prop
  | .text _ => converter.conversion = .text
  | .path _ => converter.conversion = .path
  | .bool _ => converter.conversion = .bool
  | .integer number => converter.conversion = .int ∧
      ∃ type, IntegerType.ofName? converter.typeText = some type ∧
        -(type.minimum : Int) ≤ number ∧ number ≤ type.maximum
  | .float _ => converter.conversion = .float
  | .duration _ => converter.conversion = .duration
  | .list _ | .absent | .present _ | .record _ _ => False

/-- The type of a field that is read from a single variable. -/
structure FieldType where
  converter : Converter
  isList : Bool
  isOptional : Bool
  deriving DecidableEq, Repr

/-- The type of a field, if it is read from a single variable. -/
def fieldType? (schema : Schema) (field : Field) : Option FieldType :=
  match field.shape.traits, nestedName? schema field with
  | .ok traits, none => (Converters.builtin.find? traits.type).map fun converter =>
      ⟨converter, traits.isList, traits.isOptional⟩
  | _, _ => none

/-- A value of a field's type, option or list included. -/
def FieldType.Has (type : FieldType) (value : Value) : Prop :=
  (type.isOptional = true ∧ value = .absent) ∨ ∃ content, value = held type.isOptional content ∧
    if type.isList then ∃ items, content = .list items ∧ ∀ item ∈ items, OfType type.converter item
    else OfType type.converter content

/-- What a field nests: a record, below a key. -/
structure Nesting where
  key : String
  record : String
  isOptional : Bool
  deriving DecidableEq, Repr

/-- What a field nests, if it nests a record. -/
def nesting? (schema : Schema) (field : Field) : Option Nesting :=
  match field.shape.traits, nestedName? schema field with
  | .ok traits, some name => some ⟨fieldKey field traits.type, name, traits.isOptional⟩
  | _, _ => none

variable {schema : Schema} {environment : Environment} {field : Field} {record : Record}
  {nested : List String → String → Evaluation Value} {path : List String} {choice : Option String}
  {converter : Converter} {type : FieldType} {nesting : Nesting} {key raw name : String}
  {value : Value} {member : MemberName}

/-! ### Converted texts -/

/-- Digits are read up to the bound. -/
theorem readDigits_bound {bound number result : Nat} {beyond : IntegerFault} {text : List Char}
    (below : number ≤ bound) (reads : readDigits bound beyond number text = .ok result) :
    result ≤ bound := by
  induction text generalizing number with
  | nil =>
    cases reads
    exact below
  | cons c rest ih =>
    unfold readDigits at reads
    split at reads
    · exact nomatch reads
    · split at reads
      · rename_i within
        exact ih within reads
      · exact nomatch reads

/-- An integer lies within the bounds of its type. -/
theorem readInteger_bounds {type : IntegerType} {text : List Char} {number : Int}
    (reads : readInteger type text = .ok number) :
    -(type.minimum : Int) ≤ number ∧ number ≤ type.maximum := by
  have upper : ∀ digits, (readDigits type.maximum .tooLarge 0 digits).map Int.ofNat = .ok number →
      -(type.minimum : Int) ≤ number ∧ number ≤ type.maximum := by
    intro digits reads
    obtain ⟨result, read, rfl⟩ := map_ok.mp reads
    have bound := readDigits_bound (Nat.zero_le _) read
    simp only [Int.ofNat_eq_natCast]
    omega
  have lower : ∀ digits, (readDigits type.minimum .tooSmall 0 digits).map (fun result =>
      -Int.ofNat result) = .ok number → -(type.minimum : Int) ≤ number ∧ number ≤ type.maximum := by
    intro digits reads
    obtain ⟨result, read, rfl⟩ := map_ok.mp reads
    have bound := readDigits_bound (Nat.zero_le _) read
    simp only [Int.ofNat_eq_natCast]
    omega
  unfold readInteger at reads
  split at reads
  · exact nomatch reads
  · exact nomatch reads
  · exact nomatch reads
  · exact upper _ reads
  · split at reads
    · exact lower _ reads
    · exact nomatch reads
  · exact upper _ reads

/-- A text is converted to a value of the type. -/
theorem conversion_typed
    (comes : converter.conversion.apply converter.typeText key raw = pure value) :
    OfType converter value := by
  unfold Conversion.apply at comes
  cases conversion : converter.conversion with
  | text | path =>
    rw [conversion] at comes
    cases pure_value comes
    exact conversion
  | bool | float | duration =>
    rw [conversion] at comes
    dsimp only at comes
    split at comes
    · cases pure_value comes
      exact conversion
    · exact nomatch comes
  | int =>
    rw [conversion] at comes
    obtain ⟨type, known, comes⟩ := bind_value comes
    split at comes
    · rename_i number reads
      cases pure_value comes
      exact ⟨conversion, type, ofOption_value known, readInteger_bounds reads⟩
    · exact nomatch comes

theorem convertText_typed {isList : Bool}
    (comes : convertText converter isList key raw = pure value) :
    if isList then ∃ items, value = .list items ∧ ∀ item ∈ items, OfType converter item
    else OfType converter value := by
  unfold convertText at comes
  cases isList with
  | false => exact conversion_typed comes
  | true =>
    obtain ⟨items, converted, rfl⟩ := map_value comes
    refine ⟨items, rfl, fun item listed => ?_⟩
    obtain ⟨part, comes⟩ := mapM_value converted item listed
    exact conversion_typed comes

/-! ### Single fields -/

theorem fieldType?_eq_some : fieldType? schema field = some type ↔
    ∃ traits, field.shape.traits = .ok traits ∧ nestedName? schema field = none ∧
      Converters.builtin.find? traits.type = some type.converter ∧
      type.isList = traits.isList ∧ type.isOptional = traits.isOptional := by
  obtain ⟨converter, isList, isOptional⟩ := type
  unfold fieldType?
  cases field.shape.traits with
  | error type => simp
  | ok traits => cases nestedName? schema field <;> simp [eq_comm]

/-- A field that is read from a single variable holds a value of its type. -/
theorem readField_typed (isType : fieldType? schema field = some type)
    (comes : readField schema environment nested path choice field = pure value) :
    type.Has value := by
  obtain ⟨traits, shape, flat, found, isList, isOptional⟩ := fieldType?_eq_some.mp isType
  have converted : ∀ key raw, held traits.isOptional <$>
      convertText type.converter traits.isList key raw = pure value → type.Has value := by
    intro key raw comes
    obtain ⟨content, reads, rfl⟩ := map_value comes
    refine .inr ⟨content, by rw [isOptional], ?_⟩
    rw [isList]
    exact convertText_typed reads
  unfold readField at comes
  rw [shape, flat] at comes
  simp only [found] at comes
  unfold readLeaf at comes
  dsimp only at comes
  split at comes
  · exact converted _ _ comes
  · exact nomatch comes
  · exact converted _ _ comes
  · split at comes
    · rename_i optional
      exact .inl ⟨isOptional.trans optional, (pure_value comes).symm⟩
    · exact nomatch comes

theorem nesting?_eq_some : nesting? schema field = some nesting ↔
    ∃ traits, field.shape.traits = .ok traits ∧ nestedName? schema field = some nesting.record ∧
      nesting.key = fieldKey field traits.type ∧ nesting.isOptional = traits.isOptional := by
  obtain ⟨key, name, isOptional⟩ := nesting
  unfold nesting?
  cases field.shape.traits with
  | error type => simp
  | ok traits => cases nestedName? schema field <;> simp [eq_comm, and_left_comm]

/-- A field that nests a record holds the record, which is read below the key of the field. -/
theorem readField_inner (nests : nesting? schema field = some nesting)
    (comes : readField schema environment nested path none field = pure value) :
    ∃ inner, nested (path ++ [nesting.key]) nesting.record = pure inner ∧
      value = held nesting.isOptional inner := by
  obtain ⟨traits, shape, isRecord, isKey, isOptional⟩ := nesting?_eq_some.mp nests
  unfold readField at comes
  rw [shape, isRecord] at comes
  obtain ⟨inner, reads, rfl⟩ := map_value comes
  exact ⟨inner, isKey ▸ reads, by rw [isOptional]⟩

/-- Beside a selector a field holds its record if it is chosen, and nothing if it is not. -/
theorem readField_chosen {label : String} (nests : nesting? schema field = some nesting)
    (comes : readField schema environment nested path (some label) field = pure value) :
    if label = nesting.key then
      ∃ inner, nested (path ++ [nesting.key]) nesting.record = pure inner ∧ value = .present inner
    else value = .absent := by
  obtain ⟨traits, shape, isRecord, isKey, -⟩ := nesting?_eq_some.mp nests
  unfold readField at comes
  rw [shape, isRecord] at comes
  dsimp only at comes
  rw [← isKey] at comes
  split at comes
  · rename_i same
    rw [if_pos same]
    obtain ⟨inner, reads, rfl⟩ := map_value comes
    exact ⟨inner, reads, rfl⟩
  · rename_i different
    rw [if_neg different]
    exact (pure_value comes).symm

/-! ### Records -/

/-- The fields of a record in the order of the members: the selector's is the last. -/
def memberFields (record : Record) : List Field :=
  record.fields.filter (!isSelecting ·) ++ (record.fields.find? isSelecting).toList

theorem memberFields_declared (listed : field ∈ memberFields record) : field ∈ record.fields := by
  rcases List.mem_append.mp listed with other | selects
  · exact List.mem_of_mem_filter other
  · exact List.mem_of_find?_eq_some (Option.mem_toList.mp selects)

/-- What tells the fields of a record apart tells them apart in the order of the members. -/
theorem memberFields_distinct (distinct : (record.fields.map fieldMember?).Nodup) :
    ((memberFields record).map fieldMember?).Nodup := by
  refine List.Nodup.map_on ?_ ?_
  · intro first one second other same
    exact List.inj_on_of_nodup_map distinct (memberFields_declared one) (memberFields_declared other)
      same
  · have single : (record.fields.find? isSelecting).toList.Nodup := by
      cases record.fields.find? isSelecting <;> simp
    refine List.Nodup.append (distinct.of_map.filter _) single ?_
    intro field other selects
    have selecting := List.find?_some (Option.mem_toList.mp selects)
    simpa [selecting] using (List.mem_filter.mp other).2

/-- What a field of a record has been read as, where a selector has made a choice: the selector
itself is read before that. -/
def FieldReads (schema : Schema) (environment : Environment)
    (nested : List String → String → Evaluation Value) (path : List String)
    (choice : Option String) (field : Field) (value : Value) : Prop :=
  readField schema environment nested path (if isSelecting field then none else choice) field =
    pure value

/-- The choice for what a record nests is made by its selector, if there is one. -/
def ChoiceOf (schema : Schema) (environment : Environment)
    (nested : List String → String → Evaluation Value) (path : List String) (record : Record)
    (choice : Option String) : Prop :=
  match record.fields.find? isSelecting with
  | some field => ∃ label, choice = some label ∧
      readField schema environment nested path none field = pure (.text label)
  | none => choice = none

/-- A record has been read, with a choice for what it nests: it has a member for each of its
fields. -/
structure ReadAs (schema : Schema) (environment : Environment)
    (nested : List String → String → Evaluation Value) (path : List String) (record : Record)
    (choice : Option String) (value : Value) : Prop where
  name : ∃ members, value = .record record.name members
  chosen : ChoiceOf schema environment nested path record choice
  member : ∀ field ∈ memberFields record, ∀ member, fieldMember? field = some member →
    ∃ content, value.member? member = some content ∧
      FieldReads schema environment nested path choice field content

/-- Fields that come to values have them in order. -/
theorem readFields_values {fields : List Field} {read : Field → Evaluation Value}
    {values : List (MemberName × Value)} (comes : readFields read fields = pure values) :
    List.Forall₂ (fun field value => fieldMember? field = some value.1 ∧ read field = pure value.2)
      fields values := by
  induction fields generalizing values with
  | nil =>
    cases pure_value comes
    exact .nil
  | cons field fields ih =>
    obtain ⟨member, isMember, comes⟩ := bind_value comes
    obtain ⟨content, reads, comes⟩ := bind_value comes
    obtain ⟨others, areOthers, comes⟩ := bind_value comes
    cases pure_value comes
    exact .cons ⟨ofOption_value isMember, reads⟩ (ih areOthers)

/-- Where no two fields have one member, a field's member is found in the record. -/
theorem member_found {fields : List Field} (Holds : Field → Value → Prop)
    {values : List (MemberName × Value)}
    (each : List.Forall₂ (fun field entry => fieldMember? field = some entry.1 ∧ Holds field entry.2)
      fields values)
    (distinct : (fields.map fieldMember?).Nodup) (declared : field ∈ fields)
    (named : fieldMember? field = some member) :
    ∃ content, (Value.record name values).member? member = some content ∧ Holds field content := by
  have names : fields.map fieldMember? = (values.map (·.1)).map some := by
    have same : List.Forall₂ (· = ·) (fields.map fieldMember?) ((values.map (·.1)).map some) := by
      rw [List.map_map, List.forall₂_map_left_iff, List.forall₂_map_right_iff]
      exact each.imp fun _ _ both => both.1
    rwa [List.forall₂_eq_eq_eq] at same
  rw [names] at distinct
  obtain ⟨⟨other, content⟩, listed, isMember, holds⟩ := related_mem each declared
  cases named.symm.trans isMember
  exact ⟨content, member?_listed distinct.of_map listed, holds⟩

theorem others_values {values : List (MemberName × Value)}
    (comes : readFields (readField schema environment nested path choice)
      (record.fields.filter (!isSelecting ·)) = pure values) :
    List.Forall₂ (fun field entry => fieldMember? field = some entry.1 ∧
        FieldReads schema environment nested path choice field entry.2)
      (record.fields.filter (!isSelecting ·)) values := by
  refine (((List.forall₂_and_left _ _).mpr
    ⟨fun field listed => (List.mem_filter.mp listed).2, readFields_values comes⟩).imp ?_)
  rintro field entry ⟨other, named, reads⟩
  refine ⟨named, ?_⟩
  unfold FieldReads
  rw [if_neg (by simpa using other)]
  exact reads

/-- What a record that has been read is made of. -/
theorem readBody_members (comes : readBody schema environment nested path record = pure value) :
    ∃ choice members, value = .record record.name members ∧
      ChoiceOf schema environment nested path record choice ∧
      List.Forall₂ (fun field entry => fieldMember? field = some entry.1 ∧
          FieldReads schema environment nested path choice field entry.2)
        (memberFields record) members := by
  unfold readBody at comes
  unfold ChoiceOf memberFields
  dsimp only at comes
  cases selects : record.fields.find? isSelecting with
  | none =>
    rw [selects] at comes
    obtain ⟨values, areValues, comes⟩ := bind_value comes
    refine ⟨none, values, (pure_value comes).symm, rfl, ?_⟩
    rw [Option.toList_none, List.append_nil]
    exact others_values areValues
  | some selecting =>
    rw [selects] at comes
    obtain ⟨member, isMember, comes⟩ := bind_value comes
    obtain ⟨first, reads, comes⟩ := bind_value comes
    cases first with
    | text label =>
      obtain ⟨values, areValues, comes⟩ := bind_value comes
      refine ⟨some label, _, (pure_value comes).symm, ⟨label, rfl, reads⟩, ?_⟩
      refine List.rel_append (others_values areValues) (.cons ⟨ofOption_value isMember, ?_⟩ .nil)
      unfold FieldReads
      rw [if_pos (List.find?_some selects)]
      exact reads
    | _ => exact nomatch comes

/-- A record that has been read has a member for each of its fields. -/
theorem readBody_value (distinct : (record.fields.map fieldMember?).Nodup)
    (comes : readBody schema environment nested path record = pure value) :
    ∃ choice, ReadAs schema environment nested path record choice value := by
  obtain ⟨choice, members, rfl, isChoice, each⟩ := readBody_members comes
  refine ⟨choice, ⟨members, rfl⟩, isChoice, fun field listed member named => ?_⟩
  exact member_found _ each (memberFields_distinct distinct) listed named

/-! ### Members of loaded records -/

/-- The field of a record that is read into a member. -/
def fieldOf? (record : Record) (member : String) : Option Field :=
  (memberFields record).find? (fieldMember? · = some (.name member))

/-- A member that is read from a single variable holds a value of its type. -/
theorem member_typed (readAs : ReadAs schema environment nested path record choice value)
    (typed : (fieldOf? record name).bind (fieldType? schema) = some type) :
    ∃ content, value.member? (.name name) = some content ∧ type.Has content := by
  obtain ⟨field, found, isType⟩ := Option.bind_eq_some_iff.mp typed
  have named : fieldMember? field = some (.name name) := by simpa using List.find?_some found
  obtain ⟨content, isContent, reads⟩ :=
    readAs.member field (List.mem_of_find?_eq_some found) _ named
  exact ⟨content, isContent, readField_typed isType reads⟩

/-- A member beside the selector, with what its field nests, as the choice has it. -/
theorem member_nested (readAs : ReadAs schema environment nested path record choice value)
    (nests : (fieldOf? record name).bind (fun field =>
      if isSelecting field then none else nesting? schema field) = some nesting) :
    ∃ content, value.member? (.name name) = some content ∧
      match choice with
      | none => ∃ inner, nested (path ++ [nesting.key]) nesting.record = pure inner ∧
          content = held nesting.isOptional inner
      | some label => if label = nesting.key then
            ∃ inner, nested (path ++ [nesting.key]) nesting.record = pure inner ∧
              content = .present inner
          else content = .absent := by
  obtain ⟨field, found, nests⟩ := Option.bind_eq_some_iff.mp nests
  have named : fieldMember? field = some (.name name) := by simpa using List.find?_some found
  obtain ⟨content, isContent, reads⟩ :=
    readAs.member field (List.mem_of_find?_eq_some found) _ named
  refine ⟨content, isContent, ?_⟩
  unfold FieldReads at reads
  cases selecting : isSelecting field with
  | true =>
    rw [selecting] at nests
    exact nomatch nests
  | false =>
    rw [selecting] at nests reads
    rw [if_neg (by simp)] at nests reads
    cases choice with
    | none => exact readField_inner nests reads
    | some label => exact readField_chosen nests reads

/-- Without a selector there is no choice. -/
theorem choice_none (readAs : ReadAs schema environment nested path record choice value)
    (plain : record.fields.find? isSelecting = none) : choice = none := by
  have chosen := readAs.chosen
  unfold ChoiceOf at chosen
  rwa [plain] at chosen

/-- The member of the selector holds the label that it has chosen. -/
theorem member_selector (readAs : ReadAs schema environment nested path record choice value)
    (selects : record.fields.find? isSelecting = some field)
    (named : fieldMember? field = some member) :
    ∃ label, choice = some label ∧ value.member? member = some (.text label) ∧
      readField schema environment nested path none field = pure (.text label) := by
  have chosen := readAs.chosen
  unfold ChoiceOf at chosen
  rw [selects] at chosen
  obtain ⟨label, isChoice, reads⟩ := chosen
  have listed : field ∈ memberFields record :=
    List.mem_append_right _ (Option.mem_toList.mpr selects)
  obtain ⟨content, isContent, again⟩ := readAs.member field listed member named
  unfold FieldReads at again
  rw [if_pos (List.find?_some selects), reads] at again
  exact ⟨label, isChoice, pure_value again ▸ isContent, reads⟩

end EnvLoader.LoadedRecords
