import EnvLoader.Proofs.AssembledRun
import Mathlib.Data.Prod.Lex

/-! The order of the records. The root comes first, and any other record has the place of the
field that first nests it: the position of that field's record among the records, then the
position of the field. The queue is filled in the order of these places, and keeps a name at
its least. -/
namespace EnvLoader.BreadthFirst
open Outcomes SchemaNesting ExpansionRun AssembledRun DiscoveryOrder

/-- A record is nested at a place: by a record of a list, in one of its fields. -/
def NestedAt (schema : Schema) (records : List String) (name : String) (place : ℕ ×ₗ ℕ) : Prop :=
  ∃ outer record field, records[(ofLex place).1]? = some outer ∧
    schema.get? outer = some record ∧ record.fields[(ofLex place).2]? = some field ∧
    NestedBy schema field name

/-- The first of the places at which a record is nested. -/
def FirstNestedAt (schema : Schema) (records : List String) (name : String) (place : ℕ ×ₗ ℕ) :
    Prop :=
  NestedAt schema records name place ∧
    ∀ other, NestedAt schema records name other → place ≤ other

/-- A list of records is that of a breadth-first search from a root. -/
structure Ordered (schema : Schema) (root : String) (records : List String) : Prop where
  first : records.head? = some root
  distinct : records.Nodup
  exact : ∀ name, name ∈ records ↔ Reachable schema root name
  placed : ∀ name ∈ records.tail, ∃ place, FirstNestedAt schema records name place
  ascending : records.tail.Pairwise fun earlier later => ∃ place next,
    FirstNestedAt schema records earlier place ∧ FirstNestedAt schema records later next ∧
      place < next

variable {schema : Schema} {config : Config} {converters : Converters} {name : String}
  {records : List String} {start after : Session} {expansion : Expansion}

/-- The records that the fields of a record nest, each with its place. -/
def fieldPlaces (schema : Schema) (index : ℕ) (fields : List Field) : List (String × (ℕ ×ₗ ℕ)) :=
  fields.zipIdx.filterMap fun (field, position) =>
    (nestedName? schema field).map fun name => (name, toLex (index, position))

/-- The fields of a record of the schema. -/
def fieldsOf (schema : Schema) (name : String) : List Field :=
  ((schema.get? name).map (·.fields)).getD []

/-- All places at which the records of a list nest something, in order. -/
def places (schema : Schema) (records : List String) : List (String × (ℕ ×ₗ ℕ)) :=
  records.zipIdx.flatMap fun (name, index) => fieldPlaces schema index (fieldsOf schema name)

private theorem mem_fieldPlaces {index : ℕ} {fields : List Field} {place : ℕ ×ₗ ℕ} :
    (name, place) ∈ fieldPlaces schema index fields ↔ (ofLex place).1 = index ∧
      ∃ field, fields[(ofLex place).2]? = some field ∧ NestedBy schema field name := by
  simp only [fieldPlaces, List.mem_filterMap, List.mem_zipIdx_iff_getElem?, Prod.exists,
    Option.map_eq_some_iff, nestedName?_eq_some]
  constructor
  · rintro ⟨field, position, found, _, nested, same⟩
    cases same
    exact ⟨rfl, field, found, nested⟩
  · rintro ⟨rfl, field, found, nested⟩
    exact ⟨field, _, found, name, nested, rfl⟩

theorem mem_places {place : ℕ ×ₗ ℕ} :
    (name, place) ∈ places schema records ↔ NestedAt schema records name place := by
  simp only [places, List.mem_flatMap, List.mem_zipIdx_iff_getElem?, Prod.exists, mem_fieldPlaces,
    NestedAt, fieldsOf]
  constructor
  · rintro ⟨outer, _, listed, rfl, field, found, nested⟩
    cases known : schema.get? outer with
    | none => simp [known] at found
    | some record => exact ⟨outer, record, field, listed, known, by simpa [known] using found, nested⟩
  · rintro ⟨outer, record, field, listed, known, found, nested⟩
    exact ⟨outer, _, listed, rfl, field, by simpa [known] using found, nested⟩

private theorem zipIdx_ascending {α : Type} (items : List α) :
    items.zipIdx.Pairwise fun first second => first.2 < second.2 := by
  have positions : (items.zipIdx.map (·.2)).Pairwise (· < ·) := by
    rw [List.zipIdx_map_snd]
    exact List.pairwise_lt_range'
  exact List.pairwise_map.mp positions

theorem places_ascending (schema : Schema) (records : List String) :
    (places schema records).Pairwise fun first second => first.2 < second.2 := by
  refine List.pairwise_flatMap.mpr ⟨fun entry _ => ?_, (zipIdx_ascending records).imp ?_⟩
  · refine List.pairwise_filterMap.mpr ((zipIdx_ascending _).imp fun less first isFirst second isSecond => ?_)
    obtain ⟨_, -, rfl⟩ := Option.map_eq_some_iff.mp isFirst
    obtain ⟨_, -, rfl⟩ := Option.map_eq_some_iff.mp isSecond
    exact Prod.Lex.toLex_lt_toLex.mpr (.inr ⟨rfl, less⟩)
  · rintro _ _ less ⟨_, place⟩ isFirst ⟨_, later⟩ isSecond
    obtain ⟨index, -⟩ := mem_fieldPlaces.mp isFirst
    obtain ⟨next, -⟩ := mem_fieldPlaces.mp isSecond
    exact Prod.Lex.lt_iff.mpr (.inl (index ▸ next ▸ less))

private theorem fieldPlaces_names (index : ℕ) (fields : List Field) :
    (fieldPlaces schema index fields).map (·.1) = fields.filterMap (nestedName? schema) := by
  have named : fields.filterMap (nestedName? schema) =
      (fields.zipIdx.map (·.1)).filterMap (nestedName? schema) := by rw [List.zipIdx_map_fst]
  rw [named, fieldPlaces, List.map_filterMap, List.filterMap_map]
  exact List.filterMap_congr fun entry _ => by
    cases nested : nestedName? schema entry.1 <;> simp [nested]

private theorem places_names (records : List String) :
    (places schema records).map (·.1) =
      records.flatMap fun name => (fieldsOf schema name).filterMap (nestedName? schema) := by
  have named : (records.flatMap fun name => (fieldsOf schema name).filterMap (nestedName? schema)) =
      (records.zipIdx.map (·.1)).flatMap fun name =>
        (fieldsOf schema name).filterMap (nestedName? schema) := by rw [List.zipIdx_map_fst]
  rw [named, places, List.map_flatMap, List.flatMap_map]
  simp only [fieldPlaces_names]

/-- The names at the places are those that the plans nest. -/
theorem places_nested (grown : Grown schema start expansion after) :
    (places schema (expansion.plans.map (·.name))).map (·.1) =
      expansion.plans.flatMap (·.nested) := by
  rw [places_names, List.flatMap_map]
  refine List.flatMap_congr fun plan member => ?_
  obtain ⟨implementation, -, ready⟩ := plan_written grown member
  obtain ⟨record, known, analysed, -⟩ := written_ok.mp ready
  rw [planOf_nested (ofRecord_ok analysed), fieldsOf, known]
  rfl

/-- A run through the whole schema goes breadth first. -/
theorem completed_ordered (completed : Completed schema config converters start expansion after) :
    Ordered schema config.root (expansion.plans.map (·.name)) := by
  obtain ⟨isConfig, -⟩ := start_kept completed.started
  have names := expanded_names completed.grown completed.empty
  have discovered := completed.grown.discovered
  rw [← places_nested completed.grown, isConfig, ← names] at discovered
  obtain ⟨rest, listed, placed, ordered⟩ := addAll_tagged (places_ascending schema _)
  rw [← discovered] at listed
  have least : ∀ {name place}, LeastTag (places schema (expansion.plans.map (·.name))) name place ↔
      FirstNestedAt schema (expansion.plans.map (·.name)) name place := by
    simp only [LeastTag, FirstNestedAt, mem_places, implies_true]
  simp only [least] at placed ordered
  have tail : (expansion.plans.map (·.name)).tail = rest := by rw [listed]; rfl
  exact {
    first := by rw [listed]; rfl
    distinct := names ▸ grown_nodup completed.grown
    exact := fun name => by rw [mem_expanded completed.grown completed.empty, isConfig]
    placed := by rwa [tail]
    ascending := by rwa [tail] }

/-- Expanding a schema ends, without any bound on the rounds and whatever cycles there are, and
it never meets a record that the schema does not know. A run that succeeds tells of the
records that are reachable from the root in breadth-first order. -/
theorem expansion_ends_breadth_first (schema : Schema) (config : Config) (converters : Converters) :
    (∀ start, Session.start config converters = .ok start → schema.contains config.root = true →
      ∃ outcome after, Expands schema {} (rooted start) outcome after ∧
        (expandAll schema config.root).run start = (outcome, after) ∧
        ∀ name, outcome ≠ .error (.recordNotFound name)) ∧
    (∀ name, generate schema config converters ≠ .error (.recordNotFound name)) ∧
    ∀ generated, generate schema config converters = .ok generated →
      Ordered schema config.root generated.records := by
  refine ⟨fun start started known => ?_, fun name fails => ?_, fun generated ran => ?_⟩
  · obtain ⟨outcome, after, ran, expands, ends⟩ := expandAll_run started known
    refine ⟨outcome, after, expands, ran, fun name fails => ?_⟩
    subst fails
    obtain ⟨other, reachable, fails⟩ := ends
    obtain ⟨isConfig, -⟩ := start_kept started
    have inSchema := reachable_known known (isConfig ▸ reachable)
    exact (written_confined inSchema _ fails).1 name rfl
  · have wide : ¬ Confined (.recordNotFound name) := fun confined => confined.1 name rfl
    obtain ⟨_, _, _, _, -, -, impossible⟩ := assemble_error wide ((generate_error wide).mp fails)
    exact nomatch impossible
  · obtain ⟨assembly, assembled, -, records⟩ := generate_ok ran
    obtain ⟨start, expansion, after, completed, -, -, plans⟩ := assemble_ok assembled
    rw [records, plans]
    exact completed_ordered completed

/-- The two records of a small schema are told of in breadth-first order. -/
theorem twoRecords_breadth_first : ∃ generated,
    generate twoRecords { root := "Config" } .builtin = .ok generated ∧
      Ordered twoRecords "Config" generated.records := by
  obtain ⟨generated, ran⟩ := twoRecords_generate
  exact ⟨generated, ran,
    (expansion_ends_breadth_first twoRecords { root := "Config" } .builtin).2.2 generated ran⟩

end EnvLoader.BreadthFirst
