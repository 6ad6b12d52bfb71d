import EnvLoader.Proofs.RecordFaults

/-! A whole run: it starts, expands the records from the root on, looks for a cycle among
them, and only then puts the loader together. What each of these parts can fail with is
settled here, and what is known once all of them have succeeded. -/
namespace EnvLoader.AssembledRun
open Outcomes RecordWriting SchemaNesting ExpansionRun RecordFaults Loader

/-- An error about a single record or about code: neither about a record that the schema does
not know nor about a cycle. -/
def Confined (error : GenerationError) : Prop :=
  (∀ name, error ≠ .recordNotFound name) ∧ ∀ cycle, error ≠ .cyclic cycle

variable {schema : Schema} {config : Config} {converters : Converters} {root name : String}
  {start after : Session} {expansion : Expansion} {plan : RecordPlan} {assembly : Assembly}

/-! ### What the parts fail with -/

private theorem recordFault_confined {record : Record} (error : GenerationError)
    (fault : RecordFault record error) : Confined error := by
  cases fault <;> exact ⟨nofun, nofun⟩

private theorem ownCode_confined (error : GenerationError) (own : OwnCode error) :
    Confined error := by
  obtain ⟨part, -, text, rfl⟩ := own
  exact ⟨nofun, nofun⟩

/-- Writing a record that the schema knows fails with an error of its own. -/
theorem written_confined (known : schema.contains name = true) :
    FailsWith Confined (written schema converters root name) := by
  obtain ⟨record, found⟩ := contains_iff.mp known
  exact failsWith_weaken recordFault_confined (written_faults found)

theorem start_confined : FailsWith Confined (Session.start config converters) :=
  failsWith_weaken ownCode_confined start_faults

/-- Putting the loader together fails with an error about code. -/
theorem program_confined (implementations : List Implementation) :
    FailsWith Confined (after.program implementations) :=
  failsWith_weaken ownCode_confined (program_faults after implementations)

private theorem fileText_confined (header : String) (tokens : List Source.Token) :
    FailsWith Confined (fileText header tokens) := by
  unfold fileText
  split
  · exact failsWith_ok _
  · exact failsWith_error ⟨nofun, nofun⟩

/-! ### How a run goes -/

/-- A run that expanded all that it discovered. -/
structure Completed (schema : Schema) (config : Config) (converters : Converters)
    (start : Session) (expansion : Expansion) (after : Session) : Prop where
  started : Session.start config converters = .ok start
  known : schema.contains config.root = true
  grown : Grown schema start expansion after
  empty : after.queue.pop? = none

theorem start_kept (started : Session.start config converters = .ok start) :
    start.config = config ∧ start.converters = converters := by
  obtain ⟨error, -, rfl⟩ := start_ok started
  exact ⟨rfl, rfl⟩

/-- What comes after the expansion. -/
def finish (expansion : Expansion) (after : Session) : Except GenerationError Assembly :=
  match expansion.nesting.findCycle with
  | some cycle => throw (.cyclic cycle)
  | none => do return ⟨← after.program expansion.implementations, expansion.plans⟩

/-- Once it has started from a known root, a run expands and then finishes. -/
theorem assemble_run (started : Session.start config converters = .ok start)
    (known : schema.contains config.root = true) {outcome : Except GenerationError Expansion}
    (ran : (expandAll schema config.root).run start = (outcome, after)) :
    assemble schema config converters = outcome >>= fun expansion => finish expansion after := by
  have opened : assemble schema config converters =
      ((expandAll schema config.root).run start).1 >>= fun expansion =>
        finish expansion ((expandAll schema config.root).run start).2 := by
    unfold assemble
    rw [known, started]
    refine congrArg (((expandAll schema config.root).run start).1 >>= ·) (funext fun expansion => ?_)
    unfold finish
    cases expansion.nesting.findCycle <;> rfl
  rw [opened, ran]

theorem assemble_unknown (unknown : schema.contains config.root = false) :
    assemble schema config converters = .error (.rootNotFound config.root) := by
  simp only [assemble, unknown]
  rfl

theorem assemble_unstarted {error : GenerationError}
    (known : schema.contains config.root = true)
    (fails : Session.start config converters = .error error) :
    assemble schema config converters = .error error := by
  simp only [assemble, known, fails]
  rfl

/-- A run finds that the root is unknown, or cannot start, or fails as the writing of a
reachable record does, or goes through the whole schema. -/
theorem assemble_cases (schema : Schema) (config : Config) (converters : Converters) :
    (schema.contains config.root = false ∧
      assemble schema config converters = .error (.rootNotFound config.root)) ∨
    (∃ error, Session.start config converters = .error error ∧
      assemble schema config converters = .error error) ∨
    (∃ error name, schema.contains config.root = true ∧ Reachable schema config.root name ∧
      written schema converters config.root name = .error error ∧
      assemble schema config converters = .error error) ∨
    ∃ start expansion after, Completed schema config converters start expansion after ∧
      assemble schema config converters = finish expansion after := by
  cases known : schema.contains config.root with
  | false => exact .inl ⟨rfl, assemble_unknown known⟩
  | true =>
    cases started : Session.start config converters with
    | error error => exact .inr (.inl ⟨error, rfl, assemble_unstarted known started⟩)
    | ok start =>
      obtain ⟨isConfig, isConverters⟩ := start_kept started
      obtain ⟨outcome, after, ran, -, ends⟩ := expandAll_run started known
      have assembled := assemble_run started known ran
      cases outcome with
      | error error =>
        obtain ⟨name, reachable, fails⟩ := ends
        rw [isConfig] at reachable fails
        rw [isConverters] at fails
        exact .inr (.inr (.inl ⟨error, name, rfl, reachable, fails, assembled⟩))
      | ok expansion =>
        exact .inr (.inr (.inr ⟨start, expansion, after, ⟨started, known, ends.1, ends.2⟩, assembled⟩))

/-- A loader comes from a run through the whole schema that met no cycle. -/
theorem assemble_ok (assembled : assemble schema config converters = .ok assembly) :
    ∃ start expansion after, Completed schema config converters start expansion after ∧
      expansion.nesting.findCycle = none ∧
      after.program expansion.implementations = .ok assembly.program ∧
      assembly.plans = expansion.plans := by
  obtain ⟨-, unknown⟩ | ⟨_, -, fails⟩ | ⟨_, _, -, -, -, fails⟩ | ⟨start, expansion, after, completed, ran⟩ :=
    assemble_cases schema config converters
  · exact nomatch assembled.symm.trans unknown
  · exact nomatch assembled.symm.trans fails
  · exact nomatch assembled.symm.trans fails
  · refine ⟨start, expansion, after, completed, ?_⟩
    rw [ran, finish] at assembled
    cases search : expansion.nesting.findCycle with
    | some cycle =>
      rw [search] at assembled
      exact nomatch assembled
    | none =>
      rw [search] at assembled
      obtain ⟨program, made, same⟩ := bind_ok.mp assembled
      cases pure_ok.mp same
      exact ⟨rfl, made, rfl⟩

theorem generate_ok {generated : Generated}
    (ran : generate schema config converters = .ok generated) :
    ∃ assembly, assemble schema config converters = .ok assembly ∧
      fileText (fileHeader config.root config.sourceLabel) assembly.program.tokens =
        .ok generated.source ∧
      generated.records = assembly.plans.map (·.name) := by
  obtain ⟨assembly, assembled, made⟩ := bind_ok.mp ran
  obtain ⟨source, written, same⟩ := bind_ok.mp made
  cases pure_ok.mp same
  exact ⟨assembly, assembled, written, rfl⟩

theorem generate_succeeds
    (succeeds : (generate schema config converters).toOption.isSome = true) :
    ∃ generated, generate schema config converters = .ok generated := by
  cases ran : generate schema config converters with
  | error error =>
    rw [ran] at succeeds
    exact absurd succeeds Bool.false_ne_true
  | ok generated => exact ⟨generated, rfl⟩

/-- A small schema: a root that nests a record of one field. -/
def twoRecords : Schema where
  declarations := [
    ⟨⟨"Config", "", [⟨some "store", 0, .named "Store", {}, ""⟩]⟩, none⟩,
    ⟨⟨"Store", "", [⟨some "name", 0, .named "String", {}, ""⟩]⟩, none⟩]

/-- It has a loader. -/
theorem twoRecords_generate :
    ∃ generated, generate twoRecords { root := "Config" } .builtin = .ok generated := by
  exact generate_succeeds (by decide +kernel)

/-- A schema with a selector: the root chooses whether to nest a record of one field. -/
def chosenStore : Schema where
  declarations := [
    ⟨⟨"Config", "", [⟨some "kind", 0, .named "String", { build := some "Store" }, ""⟩,
      ⟨some "file", 1, .optional "FileStore", {}, ""⟩]⟩, none⟩,
    ⟨⟨"FileStore", "", [⟨some "path", 0, .named "String", {}, ""⟩]⟩, none⟩]

/-- The only error that is not about a single record or about code is a cycle that a run through
the whole schema has met. -/
theorem assemble_error {error : GenerationError} (wide : ¬ Confined error)
    (fails : assemble schema config converters = .error error) :
    ∃ start expansion after cycle, Completed schema config converters start expansion after ∧
      expansion.nesting.findCycle = some cycle ∧ error = .cyclic cycle := by
  obtain ⟨-, ran⟩ | ⟨other, stops, ran⟩ | ⟨other, name, known, reachable, stops, ran⟩ |
      ⟨start, expansion, after, completed, ran⟩ := assemble_cases schema config converters
  · cases fails.symm.trans ran
    exact absurd ⟨nofun, nofun⟩ wide
  · cases fails.symm.trans ran
    exact absurd (start_confined _ stops) wide
  · cases fails.symm.trans ran
    exact absurd (written_confined (reachable_known known reachable) _ stops) wide
  · rw [ran, finish] at fails
    cases search : expansion.nesting.findCycle with
    | some cycle =>
      rw [search] at fails
      cases fails
      exact ⟨start, expansion, after, cycle, completed, search, rfl⟩
    | none =>
      rw [search] at fails
      refine absurd ?_ wide
      exact failsWith_bind (program_confined _) (fun _ _ => failsWith_ok _) error fails

/-- An error that is no matter of code comes from the assembly. -/
theorem generate_error {error : GenerationError} (wide : ¬ Confined error) :
    generate schema config converters = .error error ↔
      assemble schema config converters = .error error := by
  unfold generate
  cases assemble schema config converters with
  | error other => exact ⟨fun fails => by cases fails; rfl, fun fails => by cases fails; rfl⟩
  | ok assembly =>
    refine ⟨fun fails => absurd ?_ wide, nofun⟩
    refine failsWith_bind (fileText_confined _ _) (fun _ _ => failsWith_ok _) error fails

end EnvLoader.AssembledRun
