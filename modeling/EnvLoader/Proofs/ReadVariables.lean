import EnvLoader.Proofs.DirectReading
import EnvLoader.Proofs.Evaluations

/-! Which variables the reading of a schema consults. Going down the nesting as the reading does,
one finds the leaves, each with the choices that have to be made on the way to it. What is read is
settled by the leaves whose choices are made, and an error is always the error of one of these. -/
namespace EnvLoader.ReadVariables
open Relation SchemaNesting WrittenRecords KeyNames Evaluations DirectReading Loader

/-- A field that is read from a single variable, with the key of the variable. -/
structure Leaf where
  key : String
  converter : Converter
  traits : ShapeTraits
  default : Option String
  deriving DecidableEq, Repr

/-- What a leaf comes to. -/
def Leaf.read (leaf : Leaf) (environment : Environment) : Evaluation Value :=
  readLeaf environment leaf.converter leaf.traits leaf.default leaf.key

/-- A leaf together with the choices on the way to it: selectors, and the labels that they have to
have. -/
structure Visit where
  leaf : Leaf
  choices : List (Leaf × String)
  deriving DecidableEq, Repr

/-- The visit as a part of a record that is read only if a selector, if there is one, has a label. -/
def Visit.under (selector : Option Leaf) (label : String) (visit : Visit) : Visit :=
  match selector with
  | some selector => { visit with choices := (selector, label) :: visit.choices }
  | none => visit

/-- All choices on the way to a leaf are made. -/
def Visit.Made (environment : Environment) (visit : Visit) : Prop :=
  ∀ choice ∈ visit.choices, choice.1.read environment = pure (.text choice.2)

/-- The leaf that a field of the record at a path is. -/
def leafOf? (schema : Schema) (path : List String) (field : Field) : Option Leaf :=
  match field.shape.traits, nestedName? schema field with
  | .ok traits, none =>
    (Converters.builtin.find? traits.type).map fun converter =>
      ⟨pathKey (path ++ [fieldKey field traits.type]), converter, traits, field.options.default⟩
  | _, _ => none

/-- The visits that a field leads to, given those of nested records and the selector of the
record. -/
def fieldVisits (schema : Schema) (below : List String → String → List Visit) (path : List String)
    (selector : Option Leaf) (field : Field) : List Visit :=
  match field.shape.traits, nestedName? schema field with
  | .ok traits, some name =>
    let key := fieldKey field traits.type
    (below (path ++ [key]) name).map (Visit.under selector key)
  | _, _ => (leafOf? schema path field).toList.map fun leaf => ⟨leaf, []⟩

/-- The leaf that selects between the others of a record. -/
def selectorLeaf? (schema : Schema) (path : List String) (record : Record) : Option Leaf :=
  (record.fields.find? isSelecting).bind (leafOf? schema path)

/-- The visits below the record that a path leads to, in declared order, so many levels deep. -/
def recordVisits (schema : Schema) : Nat → List String → String → List Visit
  | 0, _, _ => []
  | depth + 1, path, name =>
    match schema.get? name with
    | some record => record.fields.flatMap
        (fieldVisits schema (recordVisits schema depth) path (selectorLeaf? schema path record))
    | none => []

/-- The visits from the root of a schema on. -/
def visits (schema : Schema) (root : String) : List Visit :=
  recordVisits schema schema.size [] root

variable {schema : Schema} {environment other : Environment} {field : Field} {record : Record}
  {nested nested' : List String → String → Evaluation Value} {path : List String}
  {below below' : List String → String → List Visit} {choice : Option String}
  {name root label : String} {traits : ShapeTraits} {leaf : Leaf} {selector : Option Leaf}
  {visit : Visit} {error : LoadError}

/-! ### The visits go by what is nested -/

theorem recordVisits_known {depth : Nat} (known : schema.get? name = some record) :
    recordVisits schema (depth + 1) path name = record.fields.flatMap
      (fieldVisits schema (recordVisits schema depth) path (selectorLeaf? schema path record)) := by
  rw [recordVisits, known]

theorem leafOf?_eq_some : leafOf? schema path field = some leaf ↔
    ∃ traits converter, field.shape.traits = .ok traits ∧ nestedName? schema field = none ∧
      Converters.builtin.find? traits.type = some converter ∧
      leaf = ⟨pathKey (path ++ [fieldKey field traits.type]), converter, traits,
        field.options.default⟩ := by
  unfold leafOf?
  cases field.shape.traits with
  | error type => simp
  | ok traits => cases nestedName? schema field <;> simp [eq_comm]

/-- A leaf is read from its variable, whatever was chosen. -/
theorem readField_leaf (isLeaf : leafOf? schema path field = some leaf) :
    readField schema environment nested path choice field = leaf.read environment := by
  obtain ⟨traits, converter, shape, flat, found, rfl⟩ := leafOf?_eq_some.mp isLeaf
  unfold readField
  rw [shape, flat]
  simp only [found]
  rfl

/-- What is neither a leaf nor nested cannot be read. -/
theorem readField_stuck (noLeaf : leafOf? schema path field = none)
    (flat : nestedName? schema field = none) :
    readField schema environment nested path choice field = Evaluation.stuck := by
  unfold leafOf? at noLeaf
  unfold readField
  rw [flat] at noLeaf ⊢
  cases shape : field.shape.traits with
  | error type => rfl
  | ok traits =>
    rw [shape] at noLeaf
    have unknown : Converters.builtin.find? traits.type = none := by simpa using noLeaf
    simp only [unknown]

theorem leaf_visit (isLeaf : leafOf? schema path field = some leaf) :
    fieldVisits schema below path selector field = [⟨leaf, []⟩] := by
  obtain ⟨traits, converter, shape, flat, -, -⟩ := leafOf?_eq_some.mp isLeaf
  unfold fieldVisits
  rw [shape, flat, isLeaf]
  rfl

theorem nested_visits (shape : field.shape.traits = .ok traits)
    (nests : nestedName? schema field = some name) :
    fieldVisits schema below path selector field =
      (below (path ++ [fieldKey field traits.type]) name).map
        (Visit.under selector (fieldKey field traits.type)) := by
  unfold fieldVisits
  rw [shape, nests]

theorem leaf_under : (visit.under selector label).leaf = visit.leaf := by
  cases selector <;> rfl

theorem made_under : (visit.under selector label).Made environment ↔
    (∀ leaf ∈ selector, leaf.read environment = pure (.text label)) ∧ visit.Made environment := by
  cases selector with
  | none => simp [Visit.under]
  | some selector => simp [Visit.under, Visit.Made]

/-- What a selector has been read as, if there is one. -/
def Chosen (environment : Environment) (selector : Option Leaf) (choice : Option String) : Prop :=
  ∀ leaf ∈ selector, ∃ label, choice = some label ∧ leaf.read environment = pure (.text label)

/-- Where a nested record is read, the choice of its key is made. -/
theorem chosen_key (chosen : Chosen environment selector choice)
    (same : ∀ label, choice = some label → label = name) :
    ∀ leaf ∈ selector, leaf.read environment = pure (.text name) := by
  intro leaf selects
  obtain ⟨label, isChoice, reads⟩ := chosen leaf selects
  rw [reads, same label isChoice]

/-! ### What is read is settled by the visits -/

/-- Two environments give the same for every leaf among visits whose choices are made. -/
def Agree (environment other : Environment) (visits : List Visit) : Prop :=
  ∀ visit ∈ visits, visit.Made environment → visit.leaf.read environment = visit.leaf.read other

theorem agree_under (selected : ∀ leaf ∈ selector, leaf.read environment = pure (.text label))
    {visits : List Visit} (agree : Agree environment other (visits.map (Visit.under selector label))) :
    Agree environment other visits := by
  intro visit listed made
  have same := agree _ (List.mem_map_of_mem listed) (made_under.mpr ⟨selected, made⟩)
  rwa [leaf_under] at same

theorem readField_agrees
    (chosen : nestedName? schema field ≠ none → Chosen environment selector choice)
    (agree : Agree environment other (fieldVisits schema below path selector field))
    (inner : ∀ path name, Agree environment other (below path name) →
      nested path name = nested' path name) :
    readField schema environment nested path choice field =
      readField schema other nested' path choice field := by
  cases nests : nestedName? schema field with
  | none =>
    cases isLeaf : leafOf? schema path field with
    | none => rw [readField_stuck isLeaf nests, readField_stuck isLeaf nests]
    | some leaf =>
      rw [leaf_visit isLeaf] at agree
      rw [readField_leaf isLeaf, readField_leaf isLeaf]
      exact agree ⟨leaf, []⟩ (by simp) (by simp [Visit.Made])
  | some name =>
    have chosen := chosen (by simp [nests])
    unfold readField
    cases shape : field.shape.traits with
    | error type => rfl
    | ok traits =>
      rw [nested_visits shape nests] at agree
      have below : (∀ label, choice = some label → label = fieldKey field traits.type) →
          nested (path ++ [fieldKey field traits.type]) name =
            nested' (path ++ [fieldKey field traits.type]) name :=
        fun same => inner _ _ (agree_under (chosen_key chosen same) agree)
      cases choice with
      | none => simp only [nests, below nofun]
      | some label =>
        by_cases same : label = fieldKey field traits.type
        · simp only [nests, same, ↓reduceIte, below (by simp [same])]
        · simp only [nests, same, ↓reduceIte]

theorem selectorLeaf?_none (flat : record.fields.find? isSelecting = none) :
    selectorLeaf? schema path record = none := by
  rw [selectorLeaf?, flat]
  rfl

/-- What the selector has been read as is the choice for the fields beside it. -/
theorem chosen_beside {selecting : Field} (selects : record.fields.find? isSelecting = some selecting)
    (reads : readField schema environment nested path none selecting = pure (.text label)) :
    Chosen environment (selectorLeaf? schema path record) (some label) := by
  intro leaf isLeaf
  rw [selectorLeaf?, selects] at isLeaf
  exact ⟨label, rfl, (readField_leaf isLeaf).symm.trans reads⟩

/-- Before the selector is read there is no choice, and the selector hangs on none. -/
theorem chosen_first {selecting : Field} (selects : record.fields.find? isSelecting = some selecting)
    (nests : nestedName? schema selecting ≠ none) :
    Chosen environment (selectorLeaf? schema path record) none := by
  intro leaf isLeaf
  rw [selectorLeaf?, selects] at isLeaf
  obtain ⟨_, _, -, flat, -⟩ := leafOf?_eq_some.mp isLeaf
  exact absurd flat nests

theorem readBody_agrees
    (agree : ∀ field ∈ record.fields, Agree environment other
      (fieldVisits schema below path (selectorLeaf? schema path record) field))
    (inner : ∀ path name, Agree environment other (below path name) →
      nested path name = nested' path name) :
    readBody schema environment nested path record =
      readBody schema other nested' path record := by
  have others : ∀ choice, Chosen environment (selectorLeaf? schema path record) choice →
      readFields (readField schema environment nested path choice)
          (record.fields.filter (!isSelecting ·)) =
        readFields (readField schema other nested' path choice)
          (record.fields.filter (!isSelecting ·)) :=
    fun choice chosen => readFields_congr fun field listed =>
      readField_agrees (fun _ => chosen) (agree field (List.mem_of_mem_filter listed)) inner
  unfold readBody
  cases selects : record.fields.find? isSelecting with
  | none =>
    have none : Chosen environment (selectorLeaf? schema path record) none := by
      rw [selectorLeaf?_none selects]
      exact nofun
    simp only [others _ none]
  | some selecting =>
    have first := readField_agrees (chosen_first selects)
      (agree selecting (List.mem_of_find?_eq_some selects)) inner
    dsimp only
    rw [← first]
    refine bind_congr_of fun member _ => bind_congr_of fun value reads => ?_
    cases value with
    | text label => simp only [others _ (chosen_beside selects reads)]
    | _ => rfl

/-- Two environments that agree on the visits read the same. -/
theorem readRecord_agrees {depth : Nat}
    (agree : Agree environment other (recordVisits schema depth path name)) :
    readRecord schema environment depth path name = readRecord schema other depth path name := by
  induction depth generalizing path name with
  | zero => rfl
  | succ depth ih =>
    rw [readRecord, readRecord]
    cases known : schema.get? name with
    | none =>
      change (Evaluation.stuck : Evaluation Value) = Evaluation.stuck
      rfl
    | some record =>
      rw [recordVisits_known known] at agree
      refine readBody_agrees (fun field declared visit listed => ?_) fun path name => ih
      exact agree visit (List.mem_flatMap.mpr ⟨field, declared, listed⟩)

end EnvLoader.ReadVariables
