import EnvLoader.Schema.Extract
import EnvLoader.Proofs.AlikeSchemas
import Mathlib.Data.List.Infix

/-! What building up a schema leaves behind, whatever was tried on it. Records are put in one by one
or read from source texts, and a step that fails may have come half way through a file. Each step
adds records of one origin at the end, none of them known before, and what it adds is told by the
text alone up to where it stopped. So names stay unique, declarations stay where they are, and the
origin of a record tells which step it came from. -/
namespace EnvLoader.SchemaHistory
open Source (fileOfText? Item)
open Outcomes SchemaNesting

/-! ### Steps -/

/-- One call that builds up a schema. -/
inductive Step
  | insert (record : Record)
  | addSource (origin text : String)

/-- The schema after a step, and what the step failed with. A record that is refused leaves the
schema that was there. -/
def Step.run (schema : Schema) : Step → Schema × Option GenerationError
  | .insert record =>
    match schema.insert record none with
    | .ok after => (after, none)
    | .error error => (schema, some error)
  | .addSource origin text => schema.addSource origin text

/-- The origin of what a step adds. -/
def Step.origin? : Step → Option String
  | .insert _ => none
  | .addSource origin _ => some origin

/-- The schema that steps build up from nothing. Those that fail are steps like others. -/
def built (steps : List Step) : Schema :=
  steps.foldl (fun schema step => (step.run schema).1) {}

/-- One of the steps read a record of this name from a source of this origin: the name was unknown
before the step, and was known after it. -/
def AddedFrom (steps : List Step) (name origin : String) : Prop :=
  ∃ front text rest, steps = front ++ .addSource origin text :: rest ∧
    (built front).contains name = false ∧
    (built (front ++ [.addSource origin text])).contains name = true

/-! ### What a step comes to -/

/-- A schema with records of one origin at its end. -/
def extended (schema : Schema) (origin : Option String) (records : List Record) : Schema :=
  ⟨schema.declarations ++ records.map (Declaration.mk · origin)⟩

/-- The records that items declare without parameters. -/
def plain (items : List Item) : List RecordItem :=
  (items.filterMap RecordItem.ofItem?).filter (·.generics.params.isEmpty)

/-- Records of different names that a schema does not know. -/
def Fresh (schema : Schema) (records : List Record) : Prop :=
  (records.map (·.name)).Nodup ∧ ∀ record ∈ records, schema.contains record.name = false

/-- A declaration at which reading stops: it cannot be read, or a record of its name is there. -/
inductive Offends (schema : Schema) (origin : String) (declared : RecordItem) : GenerationError → Prop
  | unreadable {fault : OptionFault} (unread : Record.ofItem declared = .error fault) :
      Offends schema origin declared (.unreadable origin fault)
  | known {record : Record} (read : Record.ofItem declared = .ok record)
      (known : schema.contains record.name = true) :
      Offends schema origin declared (.duplicateRecord record.name)

/-- What reading items comes to. Either all the records without parameters are added, or those
before one that offends, and nothing else. -/
inductive Adds (schema : Schema) (origin : String) (items : List Item) :
    Schema → Option GenerationError → Prop
  | all {records : List Record} (read : (plain items).mapM Record.ofItem = .ok records)
      (fresh : Fresh schema records) :
      Adds schema origin items (extended schema (some origin) records) none
  | stopped {front rest : List Item} {offender : Item} {declared : RecordItem}
      {records : List Record} {error : GenerationError}
      (split : items = front ++ offender :: rest)
      (read : (plain front).mapM Record.ofItem = .ok records) (fresh : Fresh schema records)
      (declares : RecordItem.ofItem? offender = some declared)
      (concrete : declared.generics.params.isEmpty = true)
      (offends : Offends (extended schema (some origin) records) origin declared error) :
      Adds schema origin items (extended schema (some origin) records) (some error)

/-- What a step comes to. It leaves the schema as it was when it is refused a record or when the text
is no file; a text that is a file adds what its items add. -/
inductive Outcome (schema : Schema) : Step → Schema → Option GenerationError → Prop
  | inserted {record : Record} (fresh : schema.contains record.name = false) :
      Outcome schema (.insert record) (extended schema none [record]) none
  | refused {record : Record} (known : schema.contains record.name = true) :
      Outcome schema (.insert record) schema (some (.duplicateRecord record.name))
  | malformed {origin text : String} (unread : fileOfText? text = none) :
      Outcome schema (.addSource origin text) schema (some (.unreadable origin .malformed))
  | read {origin text : String} {file : Source.File} {after : Schema}
      {failure : Option GenerationError} (parsed : fileOfText? text = some file)
      (adds : Adds schema origin file.items after failure) :
      Outcome schema (.addSource origin text) after failure

variable {schema after : Schema} {record : Record} {records : List Record} {declared : RecordItem}
  {origin : Option String} {source name : String} {item : Item} {items : List Item}
  {step : Step} {steps : List Step} {failure : Option GenerationError}

/-! ### Adding at the end -/

theorem extended_nil : extended schema origin [] = schema := by
  simp [extended]

theorem extended_cons : extended (extended schema origin [record]) origin records =
    extended schema origin (record :: records) := by
  simp [extended]

theorem find?_extended : (extended schema origin records).find? name =
    (schema.find? name).or ((records.find? (·.name = name)).map (Declaration.mk · origin)) := by
  simp only [Schema.find?, extended, List.find?_append, List.find?_map]
  rfl

theorem contains_extended : (extended schema origin records).contains name =
    (schema.contains name || records.any (·.name = name)) := by
  simp only [Schema.contains, find?_extended, Option.isSome_or, Option.isSome_map, List.isSome_find?]

/-- What is added has the origin of the step, and what was there keeps its own. -/
theorem origin?_extended : (extended schema origin records).origin? name =
    if schema.contains name then schema.origin? name
    else if records.any (·.name = name) then origin else none := by
  simp only [Schema.origin?, Schema.contains, find?_extended, ← List.isSome_find?]
  cases schema.find? name with
  | some declaration => rfl
  | none => cases records.find? (·.name = name) <;> rfl

/-- Fresh records in front of fresh ones. -/
theorem fresh_cons (unknown : schema.contains record.name = false)
    (fresh : Fresh (extended schema origin [record]) records) : Fresh schema (record :: records) := by
  have apart : ∀ other ∈ records, schema.contains other.name = false ∧ record.name ≠ other.name := by
    intro other listed
    simpa [contains_extended] using fresh.2 other listed
  refine ⟨List.nodup_cons.mpr ⟨fun twice => ?_, fresh.1⟩, ?_⟩
  · obtain ⟨other, listed, same⟩ := List.mem_map.mp twice
    exact (apart other listed).2 same.symm
  · rintro other (_ | ⟨_, listed⟩)
    · exact unknown
    · exact (apart other listed).1

/-- Names stay unique where the records that are added are fresh. -/
theorem extended_distinct (distinct : (schema.records.map (·.name)).Nodup)
    (fresh : Fresh schema records) :
    ((extended schema origin records).records.map (·.name)).Nodup := by
  have same : (extended schema origin records).records = schema.records ++ records := by
    simp [Schema.records, extended, Function.comp_def]
  rw [same, List.map_append]
  refine distinct.append fresh.1 fun name before added => ?_
  obtain ⟨record, listed, rfl⟩ := List.mem_map.mp added
  obtain ⟨other, there, alike⟩ := List.mem_map.mp before
  have known := (AlikeSchemas.get?_iff distinct).mpr ⟨there, alike⟩
  exact absurd (contains_iff.mpr ⟨other, known⟩) (by simp [fresh.2 record listed])

/-! ### One step -/

theorem insert_cases (schema : Schema) (record : Record) (given : Option String) :
    (schema.contains record.name = false ∧
      schema.insert record given = .ok (extended schema given [record])) ∨
    (schema.contains record.name = true ∧
      schema.insert record given = .error (.duplicateRecord record.name)) := by
  unfold Schema.insert
  cases known : schema.contains record.name with
  | false => exact .inl ⟨rfl, rfl⟩
  | true => exact .inr ⟨rfl, rfl⟩

theorem plain_skipped (skipped : ∀ declared, RecordItem.ofItem? item = some declared →
    declared.generics.params.isEmpty = false) : plain (item :: items) = plain items := by
  unfold plain
  cases declares : RecordItem.ofItem? item with
  | none => rw [List.filterMap_cons_none declares]
  | some declared =>
    rw [List.filterMap_cons_some declares, List.filter_cons_of_neg (by simp [skipped _ declares])]

theorem plain_cons (declares : RecordItem.ofItem? item = some declared)
    (concrete : declared.generics.params.isEmpty = true) :
    plain (item :: items) = declared :: plain items := by
  simp only [plain, List.filterMap_cons_some declares, List.filter_cons, concrete, ↓reduceIte]

/-- An item that declares no record, or one with parameters, changes nothing. -/
theorem adds_skipped (skipped : ∀ declared, RecordItem.ofItem? item = some declared →
      declared.generics.params.isEmpty = false)
    (adds : Adds schema source items after failure) :
    Adds schema source (item :: items) after failure := by
  cases adds with
  | all read fresh => exact .all (by rwa [plain_skipped skipped]) fresh
  | stopped split read fresh declares concrete offends =>
    exact .stopped (by rw [split, List.cons_append]) (by rwa [plain_skipped skipped]) fresh
      declares concrete offends

/-- A record that is read and inserted comes before what the items behind it add. -/
theorem adds_cons (declares : RecordItem.ofItem? item = some declared)
    (concrete : declared.generics.params.isEmpty = true)
    (read : Record.ofItem declared = .ok record) (unknown : schema.contains record.name = false)
    (adds : Adds (extended schema (some source) [record]) source items after failure) :
    Adds schema source (item :: items) after failure := by
  have together : ∀ {items : List Item} {records : List Record},
      (plain items).mapM Record.ofItem = .ok records →
        (plain (item :: items)).mapM Record.ofItem = .ok (record :: records) := by
    intro items records others
    rw [plain_cons declares concrete]
    exact mapM_ok.mpr (.cons read (mapM_ok.mp others))
  cases adds with
  | all others fresh =>
    rw [extended_cons]
    exact .all (together others) (fresh_cons unknown fresh)
  | stopped split others fresh offender plainOffender offends =>
    rw [extended_cons] at offends ⊢
    exact .stopped (by rw [split, List.cons_append]) (together others) (fresh_cons unknown fresh)
      offender plainOffender offends

/-- An item that offends stops the reading before anything is added. -/
theorem adds_offender {error : GenerationError} (declares : RecordItem.ofItem? item = some declared)
    (concrete : declared.generics.params.isEmpty = true)
    (offends : Offends schema source declared error) :
    Adds schema source (item :: items) schema (some error) := by
  have nothing : Adds schema source (item :: items) (extended schema (some source) []) (some error) :=
    .stopped (List.nil_append _).symm rfl ⟨List.nodup_nil, nofun⟩ declares concrete
      (by rwa [extended_nil])
  rwa [extended_nil] at nothing

theorem addItems_adds (schema : Schema) (source : String) (items : List Item) :
    Adds schema source items (schema.addItems source items).1 (schema.addItems source items).2 := by
  induction items generalizing schema with
  | nil =>
    have nothing : Adds schema source [] (extended schema (some source) []) none :=
      .all rfl ⟨List.nodup_nil, nofun⟩
    rwa [extended_nil] at nothing
  | cons item rest ih =>
    unfold Schema.addItems
    cases declares : RecordItem.ofItem? item with
    | none => exact adds_skipped (by simp [declares]) (ih schema)
    | some declared =>
      cases concrete : declared.generics.params.isEmpty with
      | false =>
        simp only [concrete, Bool.not_false, ↓reduceIte]
        refine adds_skipped (fun other same => ?_) (ih schema)
        cases declares.symm.trans same
        exact concrete
      | true =>
        simp only [concrete, Bool.not_true, Bool.false_eq_true, ↓reduceIte]
        cases read : Record.ofItem declared with
        | error fault => exact adds_offender declares concrete (.unreadable read)
        | ok record =>
          obtain ⟨unknown, inserted⟩ | ⟨known, inserted⟩ := insert_cases schema record (some source)
          · simp only [inserted]
            exact adds_cons declares concrete read unknown (ih _)
          · simp only [inserted]
            exact adds_offender declares concrete (.known read known)

theorem run_outcome (schema : Schema) (step : Step) :
    Outcome schema step (step.run schema).1 (step.run schema).2 := by
  cases step with
  | insert record =>
    obtain ⟨unknown, inserted⟩ | ⟨known, inserted⟩ := insert_cases schema record none
    · simp only [Step.run, inserted]
      exact .inserted unknown
    · simp only [Step.run, inserted]
      exact .refused known
  | addSource origin text =>
    rw [Step.run]
    -- its equation lemma would be proved by reading a text
    delta Schema.addSource
    cases parsed : fileOfText? text with
    | none =>
      exact .malformed parsed
    | some file =>
      exact .read parsed (addItems_adds schema origin file.items)

/-- Whatever comes of a step, it added fresh records of its origin at the end. -/
theorem outcome_extends (outcome : Outcome schema step after failure) :
    ∃ records, after = extended schema step.origin? records ∧ Fresh schema records := by
  have nothing : Fresh schema [] := ⟨List.nodup_nil, nofun⟩
  cases outcome with
  | inserted unknown => exact ⟨_, rfl, List.nodup_singleton _, by simpa using unknown⟩
  | refused | malformed => exact ⟨[], extended_nil.symm, nothing⟩
  | read _ adds =>
    cases adds with
    | all _ fresh => exact ⟨_, rfl, fresh⟩
    | stopped _ _ fresh => exact ⟨_, rfl, fresh⟩

theorem run_extends (schema : Schema) (step : Step) :
    ∃ records, (step.run schema).1 = extended schema step.origin? records ∧ Fresh schema records :=
  outcome_extends (run_outcome schema step)

/-! ### All steps -/

theorem built_append (more : List Step) : built (steps ++ more) =
    more.foldl (fun schema step => (step.run schema).1) (built steps) :=
  List.foldl_append

theorem built_step : built (steps ++ [step]) = (step.run (built steps)).1 :=
  built_append [step]

theorem built_distinct (steps : List Step) : ((built steps).records.map (·.name)).Nodup := by
  induction steps using List.reverseRecOn with
  | nil => exact List.nodup_nil
  | append_singleton steps step ih =>
    obtain ⟨records, grown, fresh⟩ := run_extends (built steps) step
    rw [built_step, grown]
    exact extended_distinct ih fresh

/-- Steps keep the declarations that are there in front. -/
theorem built_kept (steps more : List Step) :
    (built steps).declarations <+: (built (steps ++ more)).declarations := by
  induction more using List.reverseRecOn with
  | nil => rw [List.append_nil]
  | append_singleton more step ih =>
    obtain ⟨records, grown, -⟩ := run_extends (built (steps ++ more)) step
    rw [← List.append_assoc, built_step, grown]
    exact ih.trans (List.prefix_append _ _)

/-- A record came from an origin with the steps so far, or the last one read it from there. -/
theorem addedFrom_step {given : String} : AddedFrom (steps ++ [step]) name given ↔
    AddedFrom steps name given ∨ step.origin? = some given ∧
      (built steps).contains name = false ∧ (built (steps ++ [step])).contains name = true := by
  constructor
  · rintro ⟨front, text, rest, split, before, behind⟩
    obtain rfl | ⟨rest, last, rfl⟩ := List.eq_nil_or_concat' rest
    · obtain ⟨rfl, same⟩ := List.append_inj' split rfl
      cases same
      exact .inr ⟨rfl, before, behind⟩
    · rw [← List.cons_append, ← List.append_assoc] at split
      exact .inl ⟨front, text, rest, (List.append_inj' split rfl).1, before, behind⟩
  · rintro (⟨front, text, rest, rfl, before, behind⟩ | ⟨reads, before, behind⟩)
    · exact ⟨front, text, rest ++ [step], by simp, before, behind⟩
    · cases step with
      | insert record => exact nomatch reads
      | addSource origin text =>
        cases reads
        exact ⟨steps, text, [], rfl, before, behind⟩

theorem origin?_known {given : String} (known : schema.origin? name = some given) :
    schema.contains name = true := by
  unfold Schema.origin? at known
  obtain ⟨declaration, found, -⟩ := Option.bind_eq_some_iff.mp known
  exact Option.isSome_of_eq_some found

theorem built_origin (steps : List Step) (name given : String) :
    (built steps).origin? name = some given ↔ AddedFrom steps name given := by
  induction steps using List.reverseRecOn with
  | nil =>
    refine ⟨nofun, ?_⟩
    rintro ⟨front, text, rest, split, -⟩
    exact absurd split (by simp)
  | append_singleton steps step ih =>
    obtain ⟨records, grown, -⟩ := run_extends (built steps) step
    rw [addedFrom_step, ← ih, built_step, grown, origin?_extended, contains_extended]
    cases known : (built steps).contains name with
    | true => simp
    | false =>
      have absent : (built steps).origin? name ≠ some given :=
        fun there => absurd (origin?_known there) (by simp [known])
      cases records.any (·.name = name) <;> simp [absent]

/-- What any steps build up, failing ones included. Each record is there under its own name and under
no other, and no name comes twice. More steps keep the declarations in their places and add others
behind them. A record has an origin if and only if a source of that origin brought it. And the next
step comes to its `Outcome`: refused a record or given no file it changes nothing, and a file that
fails adds the records without parameters in front of the one that offends. -/
theorem built_history (steps : List Step) :
    ((built steps).records.map (·.name)).Nodup ∧
      (∀ name record, (built steps).get? name = some record ↔
        record ∈ (built steps).records ∧ record.name = name) ∧
      (∀ more, (built steps).declarations <+: (built (steps ++ more)).declarations) ∧
      (∀ name origin, (built steps).origin? name = some origin ↔ AddedFrom steps name origin) ∧
      ∀ step : Step, ∃ failure, step.run (built steps) = (built (steps ++ [step]), failure) ∧
        Outcome (built steps) step (built (steps ++ [step])) failure := by
  refine ⟨built_distinct steps, fun _ _ => AlikeSchemas.get?_iff (built_distinct steps),
    built_kept steps, built_origin steps, fun step => ⟨(step.run (built steps)).2, ?_, ?_⟩⟩
  · rw [built_step]
  · rw [built_step]
    exact run_outcome (built steps) step

/-- A file that declares a record twice: the plain ones in front of the second one stay. -/
example : (built [.addSource "a.rs" "struct A; struct B<T>(T); struct C; struct A; struct D;"]
    ).records.map (·.name) = ["A", "C"] := by decide +kernel

end EnvLoader.SchemaHistory
