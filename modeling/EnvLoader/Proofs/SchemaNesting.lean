import EnvLoader.RecordPlan
import EnvLoader.Proofs.Outcomes
import Mathlib.Logic.Relation

/-! Which record nests which can be read off the declarations. The analysis of a record keeps
this: it makes one setting of each field in order, and the settings that it marks as nested
are those whose fields nest a record of the schema. -/
namespace EnvLoader.SchemaNesting
open Outcomes

/-- A field nests a record of the schema: its type is the record's name, or an option of it. -/
def NestedBy (schema : Schema) (field : Field) (name : String) : Prop :=
  (field.shape = .named name ∨ field.shape = .optional name) ∧ schema.contains name = true

/-- A record of the schema nests another in one of its fields. -/
def Nests (schema : Schema) (outer inner : String) : Prop :=
  ∃ record field, schema.get? outer = some record ∧ field ∈ record.fields ∧
    NestedBy schema field inner

/-- The names that nesting leads to from a root. -/
def Reachable (schema : Schema) (root : String) : String → Prop :=
  Relation.ReflTransGen (Nests schema) root

variable {schema : Schema} {converters : Converters} {field : Field} {setting : Setting}
  {record name : String} {analysis : Analysis}

theorem get?_name {declared : Record} (known : schema.get? name = some declared) :
    declared.name = name := by
  obtain ⟨declaration, found, rfl⟩ := Option.map_eq_some_iff.mp known
  simpa using List.find?_some found

theorem contains_iff : schema.contains name = true ↔ ∃ declared, schema.get? name = some declared := by
  unfold Schema.contains Schema.get?
  cases schema.find? name <;> simp

theorem contains_get? : schema.contains name = (schema.get? name).isSome := by
  unfold Schema.contains Schema.get?
  rw [Option.isSome_map]

/-- A schema knows the names that it declares. -/
theorem known_declared (known : schema.contains name = true) :
    name ∈ schema.declarations.map (·.record.name) := by
  obtain ⟨declaration, found⟩ := Option.isSome_iff_exists.mp known
  have same : declaration.record.name = name := by simpa using List.find?_some found
  exact same ▸ List.mem_map_of_mem (List.mem_of_find?_eq_some found)

/-- A schema knows at most as many names as it has declarations. -/
theorem known_length_le {names : List String} (distinct : names.Nodup)
    (known : ∀ name ∈ names, schema.contains name = true) : names.length ≤ schema.size := by
  have listed : names ⊆ schema.declarations.map (·.record.name) :=
    fun name member => known_declared (known name member)
  simpa [Schema.size] using distinct.length_le_of_subset listed

/-- Where no reachable record nests itself, none nests the root. -/
theorem nested_ne_root {root inner : String}
    (acyclic : ∀ name, Reachable schema root name → ¬ Relation.TransGen (Nests schema) name name)
    (reachable : Reachable schema root name) (nests : Nests schema name inner) : inner ≠ root := by
  rintro rfl
  exact acyclic _ .refl (.tail' reachable nests)

/-- Where no reachable record nests itself, the records on a way down are different. So what a
depth has for a record if the depth below has it for all that the record nests, a depth has for the
root if it is no less than the number of reachable records. -/
theorem nesting_induction {root : String} {size depth : Nat} (Holds : Nat → String → Prop)
    (acyclic : ∀ name, Reachable schema root name → ¬ Relation.TransGen (Nests schema) name name)
    (bound : ∀ names : List String, names.Nodup → (∀ name ∈ names, Reachable schema root name) →
      names.length ≤ size)
    (step : ∀ depth name, Reachable schema root name →
      (∀ inner, Nests schema name inner → Holds depth inner) → Holds (depth + 1) name)
    (enough : size ≤ depth) : Holds depth root := by
  suffices descent : ∀ (above : List String) name, above.Nodup →
      (∀ outer ∈ above, Reachable schema root outer ∧ Relation.TransGen (Nests schema) outer name) →
      Reachable schema root name → size ≤ depth + above.length → Holds depth name from
    descent [] root .nil nofun .refl enough
  clear enough
  induction depth with
  | zero =>
    intro above name distinct nesting reachable enough
    have new : name ∉ above := fun member => acyclic name reachable (nesting name member).2
    have short := bound (name :: above) (List.nodup_cons.mpr ⟨new, distinct⟩) (by
      intro other member
      rcases List.mem_cons.mp member with rfl | member
      · exact reachable
      · exact (nesting other member).1)
    rw [List.length_cons] at short
    omega
  | succ depth ih =>
    intro above name distinct nesting reachable enough
    have new : name ∉ above := fun member => acyclic name reachable (nesting name member).2
    refine step depth name reachable fun inner nests => ?_
    refine ih (name :: above) inner (List.nodup_cons.mpr ⟨new, distinct⟩) ?_ (reachable.tail nests)
      (by rw [List.length_cons]; omega)
    intro outer member
    rcases List.mem_cons.mp member with rfl | member
    · exact ⟨reachable, .single nests⟩
    · exact ⟨(nesting outer member).1, (nesting outer member).2.tail nests⟩

/-! ### Fields and settings -/

/-- The setting of a field whose shape has the given traits. -/
def settingOf (schema : Schema) (field : Field) (traits : ShapeTraits) : Setting where
  name := field.name.getD traits.type
  member :=
    match field.name with
    | some name => .name name
    | none => .position field.index
  type := traits.type
  isRequired := !traits.isOptional && field.options.default.isNone
  isList := traits.isList
  isNested := traits.mayNest && schema.contains traits.type
  isOptional := traits.isOptional
  key := field.options.key.getD (deriveKey (field.name.getD traits.type))
  default := if traits.mayNest && schema.contains traits.type then none else field.options.default
  selects := field.options.build
  buildMethod := field.options.buildWith.getD defaultBuildMethod
  isGuarded := false
  docs := field.docs

/-- A field is analysed if its shape is recognised and its type is a record or has a
converter. -/
theorem ofField_ok : Setting.ofField field record schema converters = .ok setting ↔
    ∃ traits, field.shape.traits = .ok traits ∧ setting = settingOf schema field traits ∧
      (setting.isNested = true ∨ converters.contains setting.type = true) := by
  unfold Setting.ofField
  cases field.shape.traits with
  | error type => exact ⟨nofun, fun ⟨_, impossible, _⟩ => nomatch impossible⟩
  | ok traits =>
    dsimp only
    split
    · rename_i unknown
      refine ⟨nofun, fun ⟨_, same, isSetting, known⟩ => ?_⟩
      cases same
      cases isSetting
      simp only [Bool.and_eq_true, Bool.not_eq_true'] at unknown
      rcases known with nested | converted
      · exact absurd (nested.symm.trans unknown.1) nofun
      · exact absurd (converted.symm.trans unknown.2) nofun
    · rename_i known
      rw [pure_ok]
      simp only [Bool.and_eq_true, Bool.not_eq_true', not_and_or, Bool.not_eq_false] at known
      constructor
      · rintro rfl
        exact ⟨traits, rfl, rfl, known.imp_left Bool.and_eq_true_iff.mpr⟩
      · rintro ⟨_, same, rfl, -⟩
        cases same
        rfl

/-- A setting is marked as nested exactly when its field nests a record, whose name is then
the type of the setting. -/
theorem settingOf_nested {traits : ShapeTraits} (shape : field.shape.traits = .ok traits) :
    (settingOf schema field traits).isNested = true ∧ (settingOf schema field traits).type = name ↔
      NestedBy schema field name := by
  unfold NestedBy settingOf
  cases declared : field.shape with
  | named type | optional type =>
    cases shape.symm.trans (congrArg Shape.traits declared)
    simp only [Bool.true_and, Shape.named.injEq, Shape.optional.injEq, reduceCtorEq, or_false,
      false_or]
    exact ⟨fun ⟨known, same⟩ => ⟨same, same ▸ known⟩, fun ⟨same, known⟩ => ⟨same ▸ known, same⟩⟩
  | sequence type | qualified type =>
    cases shape.symm.trans (congrArg Shape.traits declared)
    simp
  | unrecognized type => exact nomatch shape.symm.trans (congrArg Shape.traits declared)

/-- The name of the record that a field nests. -/
def nestedName? (schema : Schema) (field : Field) : Option String :=
  match field.shape with
  | .named name | .optional name => if schema.contains name then some name else none
  | _ => none

theorem nestedName?_eq_some : nestedName? schema field = some name ↔ NestedBy schema field name := by
  unfold nestedName? NestedBy
  cases field.shape with
  | named type | optional type =>
    simp only [Option.ite_none_right_eq_some, Option.some.injEq, Shape.named.injEq,
      Shape.optional.injEq, reduceCtorEq, or_false, false_or]
    exact ⟨fun ⟨known, same⟩ => ⟨same, same ▸ known⟩, fun ⟨same, known⟩ => ⟨same ▸ known, same⟩⟩
  | sequence type | qualified type | unrecognized type => simp

/-! ### Records and plans -/

/-- A field selects between others of its record. -/
def isSelecting (field : Field) : Bool := field.options.build.isSome

/-- The setting that a field has in the plan of its record. A selector guards what is nested. -/
def Analysed (schema : Schema) (converters : Converters) (guards : Bool) (field : Field)
    (setting : Setting) : Prop :=
  ∃ traits, field.shape.traits = .ok traits ∧
    setting = { settingOf schema field traits with
      isGuarded := guards && (settingOf schema field traits).isNested } ∧
    (setting.isNested = true ∨ converters.contains setting.type = true)

/-- What the analysis of a record settles. -/
structure PlanOf (schema : Schema) (converters : Converters) (record : Record) (isRoot : Bool)
    (plan : RecordPlan) : Prop where
  name : plan.name = record.name
  isRoot : plan.isRoot = isRoot
  settings : List.Forall₂ (Analysed schema converters (record.fields.any isSelecting))
    record.fields plan.settings
  selector : plan.selectorIndex = record.fields.findIdx? isSelecting
  single : (record.fields.filter isSelecting).length ≤ 1
  text : ∀ field ∈ record.fields, isSelecting field = true → field.shape.isText = true
  optional : record.fields.any isSelecting = true →
    ∀ setting ∈ plan.settings, setting.isNested = true → setting.isOptional = true
  chooses : record.fields.any isSelecting = true →
    ∃ setting ∈ plan.settings, setting.isNested = true

/-- What is settled after some of the fields of a record. -/
structure FieldsAnalysed (schema : Schema) (converters : Converters) (record : String)
    (fields : List Field) (analysis : Analysis) : Prop where
  settings : List.Forall₂ (fun field setting =>
    Setting.ofField field record schema converters = .ok setting) fields analysis.settings
  selector : analysis.selector.map (·.1) = fields.findIdx? isSelecting
  single : (fields.filter isSelecting).length ≤ 1
  text : ∀ field ∈ fields, isSelecting field = true → field.shape.isText = true

private theorem ofField_isSelector (analysed : Setting.ofField field record schema converters = .ok setting) :
    setting.isSelector = isSelecting field := by
  obtain ⟨traits, -, rfl, -⟩ := ofField_ok.mp analysed
  rfl

/-- One more field keeps what is settled. -/
theorem addField_analysed {fields : List Field} {next : Analysis}
    (before : FieldsAnalysed schema converters record fields analysis)
    (added : analysis.addField schema converters record field = .ok next) :
    FieldsAnalysed schema converters record (fields ++ [field]) next := by
  unfold Analysis.addField at added
  obtain ⟨setting, analysed, added⟩ := bind_ok.mp added
  have selects := ofField_isSelector analysed
  have settings := List.rel_append before.settings
    (List.Forall₂.cons analysed List.Forall₂.nil)
  cases selecting : isSelecting field with
  | false =>
    simp only [selects, selecting, Bool.false_eq_true, ↓reduceIte, pure_ok] at added
    subst added
    refine ⟨settings, ?_, by simpa [selecting] using before.single, ?_⟩
    · simp [before.selector, List.findIdx?_append, selecting]
    · simpa [or_imp, forall_and, selecting] using before.text
  | true =>
    simp only [selects, selecting, ↓reduceIte] at added
    cases first : analysis.selector with
    | some first =>
      simp only [first] at added
      exact nomatch added
    | none =>
      have none := before.selector
      rw [first, Option.map_none, eq_comm, List.findIdx?_eq_none_iff] at none
      cases isText : field.shape.isText with
      | false =>
        simp only [first, isText] at added
        exact nomatch added
      | true =>
        simp only [first, isText, Bool.not_true, Bool.false_eq_true, ↓reduceIte, pure_ok] at added
        cases added
        refine ⟨settings, ?_, ?_, ?_⟩
        · have unfound := List.findIdx?_eq_none_iff.mpr none
          simp [List.findIdx?_append, unfound, selecting, before.settings.length_eq]
        · have unselected : fields.filter isSelecting = [] :=
            List.filter_eq_nil_iff.mpr (by simpa using none)
          simp [unselected, selecting]
        · simpa [or_imp, forall_and, isText] using before.text

/-- Guarding succeeds if everything nested is optional and there is something nested, and then
marks it. -/
private theorem guardCandidates_ok {selector : Setting} {settings guarded : List Setting}
    (guards : guardCandidates record selector settings = .ok guarded) :
    (∀ setting ∈ settings, setting.isNested = true → setting.isOptional = true) ∧
      (∃ setting ∈ settings, setting.isNested = true) ∧
      guarded = settings.map fun setting => { setting with isGuarded := setting.isNested } := by
  unfold guardCandidates at guards
  cases found : settings.find? fun setting => setting.isNested && !setting.isOptional with
  | some setting =>
    rw [found] at guards
    exact nomatch guards
  | none =>
    rw [found] at guards
    cases flat : settings.all (!·.isNested) with
    | true =>
      simp only [flat, ↓reduceIte] at guards
      exact nomatch guards
    | false =>
      simp only [flat, Bool.false_eq_true, ↓reduceIte, pure_ok] at guards
      refine ⟨fun setting member nested => ?_, by simpa using flat, guards.symm⟩
      simpa [nested] using List.find?_eq_none.mp found setting member

/-- A record that is analysed has a plan as its declaration says. -/
theorem ofRecord_ok {declared : Record} {isRoot : Bool} {plan : RecordPlan}
    (analysed : RecordPlan.ofRecord declared isRoot schema converters = .ok plan) :
    PlanOf schema converters declared isRoot plan := by
  unfold RecordPlan.ofRecord at analysed
  obtain ⟨analysis, folded, analysed⟩ := bind_ok.mp analysed
  have fields : FieldsAnalysed schema converters declared.name declared.fields analysis :=
    foldlM_ok ⟨.nil, rfl, by simp, by simp⟩ (fun _ _ _ _ => addField_analysed) folded
  have selector := fields.selector
  cases selects : analysis.selector with
  | none =>
    simp only [selects, pure_bind, pure_ok] at analysed
    subst analysed
    rw [selects, Option.map_none, eq_comm, List.findIdx?_eq_none_iff] at selector
    have unselected : declared.fields.any isSelecting = false := by simpa using selector
    refine ⟨rfl, rfl, ?_, selects ▸ fields.selector, fields.single, fields.text,
      by simp [unselected], by simp [unselected]⟩
    refine fields.settings.imp fun field setting analysed => ?_
    obtain ⟨traits, shape, rfl, known⟩ := ofField_ok.mp analysed
    exact ⟨traits, shape, by rw [unselected]; rfl, known⟩
  | some selection =>
    simp only [selects] at analysed
    obtain ⟨settings, guarded, made⟩ := bind_ok.mp analysed
    cases pure_ok.mp made
    obtain ⟨optional, ⟨candidate, listed, nested⟩, rfl⟩ := guardCandidates_ok guarded
    rw [selects, Option.map_some, eq_comm, List.findIdx?_eq_some_iff_getElem] at selector
    obtain ⟨inside, selecting, -⟩ := selector
    have selected : declared.fields.any isSelecting = true :=
      List.any_eq_true.mpr ⟨_, List.getElem_mem inside, selecting⟩
    refine ⟨rfl, rfl, ?_, selects ▸ fields.selector, fields.single, fields.text, fun _ => ?_,
      fun _ => ⟨_, List.mem_map_of_mem listed, nested⟩⟩
    · rw [List.forall₂_map_right_iff]
      refine fields.settings.imp fun field setting analysed => ?_
      obtain ⟨traits, shape, rfl, known⟩ := ofField_ok.mp analysed
      exact ⟨traits, shape, by rw [selected]; rfl, known⟩
    · intro setting member
      obtain ⟨unguarded, listed, rfl⟩ := List.mem_map.mp member
      exact optional unguarded listed

theorem analysed_nested {guards : Bool} (analysed : Analysed schema converters guards field setting) :
    setting.isNested = true ∧ setting.type = name ↔ NestedBy schema field name := by
  obtain ⟨traits, shape, rfl, -⟩ := analysed
  exact settingOf_nested shape

/-- The record that a field nests is the type of its setting. -/
theorem nestedName?_analysed {guards : Bool}
    (analysed : Analysed schema converters guards field setting) :
    nestedName? schema field = if setting.isNested then some setting.type else none := by
  cases isNested : setting.isNested with
  | true => exact nestedName?_eq_some.mpr ((analysed_nested analysed).mp ⟨isNested, rfl⟩)
  | false =>
    refine Option.eq_none_iff_forall_ne_some.mpr fun name named => ?_
    have nested := ((analysed_nested analysed).mpr (nestedName?_eq_some.mp named)).1
    exact nomatch isNested.symm.trans nested

private theorem settings_nested {guards : Bool} {fields : List Field} {settings : List Setting}
    (analysed : List.Forall₂ (Analysed schema converters guards) fields settings) :
    (settings.filter (·.isNested)).map (·.type) = fields.filterMap (nestedName? schema) := by
  induction analysed with
  | nil => rfl
  | @cons field setting fields settings analysed _ ih =>
    rw [List.filter_cons, List.filterMap_cons, nestedName?_analysed analysed]
    cases setting.isNested with
    | true => simp [ih]
    | false => simpa using ih

/-- A plan nests what the fields of its record nest, in their order. -/
theorem planOf_nested {declared : Record} {isRoot : Bool} {plan : RecordPlan}
    (planned : PlanOf schema converters declared isRoot plan) :
    plan.nested = declared.fields.filterMap (nestedName? schema) :=
  settings_nested planned.settings

/-- The selector of a plan is the setting of the field that selects. -/
theorem selector_setting {declared : Record} {isRoot : Bool} {plan : RecordPlan}
    (planned : PlanOf schema converters declared isRoot plan) :
    Option.Rel (Analysed schema converters (declared.fields.any isSelecting))
      (declared.fields.find? isSelecting) plan.selector? := by
  unfold RecordPlan.selector?
  rw [planned.selector, List.find?_eq_bind_findIdx?_getElem?]
  cases found : declared.fields.findIdx? isSelecting with
  | none => exact .none
  | some index =>
    obtain ⟨inside, -⟩ := List.findIdx?_eq_some_iff_getElem.mp found
    have bound : index < plan.settings.length := planned.settings.length_eq ▸ inside
    simp only [Option.bind_some, List.getElem?_eq_getElem inside, List.getElem?_eq_getElem bound]
    exact .some (planned.settings.get inside bound)

theorem selector_isSome {declared : Record} {isRoot : Bool} {plan : RecordPlan}
    (planned : PlanOf schema converters declared isRoot plan) :
    plan.selector?.isSome = declared.fields.any isSelecting := by
  have selects := selector_setting planned
  generalize plan.selector? = selector at selects
  cases search : declared.fields.find? isSelecting with
  | none =>
    rw [search] at selects
    cases selects
    exact (List.any_eq_false.mpr (List.find?_eq_none.mp search)).symm
  | some field =>
    rw [search] at selects
    cases selects
    exact (List.any_eq_true.mpr
      ⟨field, List.mem_of_find?_eq_some search, List.find?_some search⟩).symm

/-- A selector nests nothing: it is text, and what is nested beside it is an option. -/
theorem selector_flat {declared : Record} {isRoot : Bool} {plan : RecordPlan}
    (planned : PlanOf schema converters declared isRoot plan) (listed : field ∈ declared.fields)
    (selecting : isSelecting field = true) : nestedName? schema field = none := by
  obtain ⟨setting, isListed, analysed⟩ := related_mem planned.settings listed
  rw [nestedName?_analysed analysed]
  cases isNested : setting.isNested with
  | false => rfl
  | true =>
    have selected : declared.fields.any isSelecting = true :=
      List.any_eq_true.mpr ⟨field, listed, selecting⟩
    have optional := planned.optional selected setting isListed isNested
    have text := planned.text field listed selecting
    obtain ⟨traits, shape, rfl, -⟩ := analysed
    cases kind : field.shape with
    | named type | qualified type | sequence type =>
      rw [kind] at shape
      cases shape
      exact nomatch optional
    | optional type =>
      rw [kind] at text
      exact nomatch text
    | unrecognized type =>
      rw [kind] at shape
      exact nomatch shape

end EnvLoader.SchemaNesting
