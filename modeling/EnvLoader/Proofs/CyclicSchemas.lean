import EnvLoader.Proofs.AssembledRun
import EnvLoader.Proofs.NestingCycles

/-! Which schemas a run refuses as cyclic. The edges that a run notes are those of the nesting
among the reachable records. So the search for a cycle, which is right about the edges it was
told of, is right about the schema. -/
namespace EnvLoader.CyclicSchemas
open Relation RecordWriting SchemaNesting NestingCycles ExpansionRun AssembledRun Loader

/-- A record is analysed and written without error, wherever in a run that happens. -/
def WrittenInRun (schema : Schema) (config : Config) (converters : Converters) (name : String) :
    Prop :=
  ∃ start record, Session.start config converters = .ok start ∧ schema.get? name = some record ∧
    ∀ session : Session, session.converters = start.converters →
      ∃ plan implementation middle after,
        (Session.analyze record (name == config.root) schema).run session = (.ok plan, middle) ∧
        (Session.implement plan).run middle = (.ok implementation, after)

/-- What a plan notes. -/
def notesOf (plan : RecordPlan) : List Note := .touch plan.name :: plan.nested.map (.add plan.name)

variable {schema : Schema} {config : Config} {converters : Converters} {name outer inner : String}
  {start after : Session} {expansion : Expansion} {error : GenerationError}

/-- A record is written in a run if a run starts and the record has code. -/
theorem writtenInRun_iff : WrittenInRun schema config converters name ↔
    (∃ start, Session.start config converters = .ok start) ∧
      ∃ plan implementation, written schema converters config.root name = .ok (plan, implementation) := by
  constructor
  · rintro ⟨start, record, started, known, writes⟩
    obtain ⟨isConfig, isConverters⟩ := start_kept started
    obtain ⟨plan, implementation, middle, after, analysed, implemented⟩ := writes start rfl
    obtain ⟨isPlan, rfl⟩ := gives_ran (analyze_gives _) analysed
    obtain ⟨isImplementation, -⟩ := gives_ran (implement_gives _) implemented
    rw [isConverters] at isPlan isImplementation
    exact ⟨⟨start, started⟩, plan, implementation,
      written_ok.mpr ⟨record, known, isPlan, isImplementation⟩⟩
  · rintro ⟨⟨start, started⟩, plan, implementation, ready⟩
    obtain ⟨isConfig, isConverters⟩ := start_kept started
    obtain ⟨record, known, isPlan, isImplementation⟩ := written_ok.mp ready
    refine ⟨start, record, started, known, fun session kept => ?_⟩
    rw [isConverters] at kept
    have analysed := @analyze_gives schema session record (name == config.root)
    have implemented := @implement_gives { session with queue := session.queue.addAll plan.nested } plan
    rw [kept, isPlan] at analysed
    rw [kept, isImplementation] at implemented
    exact ⟨plan, implementation, _, _, analysed, implemented⟩

/-! ### The edges of a run -/

theorem addPlan_noted (nesting : Nesting) (plan : RecordPlan) :
    nesting.addPlan plan = (notesOf plan).foldl Note.apply nesting := by
  rw [notesOf, List.foldl_cons, List.foldl_map]
  rfl

theorem addPlans_noted (plans : List RecordPlan) :
    plans.foldl Nesting.addPlan {} = noted (plans.flatMap notesOf) := by
  rw [noted, List.foldl_flatMap]
  congr 1
  funext nesting plan
  exact addPlan_noted nesting plan

/-- The edges that a run notes lead from the reachable records to those they nest. -/
theorem edge_completed (completed : Completed schema config converters start expansion after) :
    Edge expansion.nesting outer inner ↔
      Reachable schema config.root outer ∧ Nests schema outer inner := by
  obtain ⟨isConfig, -⟩ := start_kept completed.started
  rw [completed.grown.nesting, addPlans_noted, edge_noted, ← isConfig,
    ← mem_expanded completed.grown completed.empty]
  simp only [Recorded, notesOf, List.mem_flatMap, List.mem_cons, reduceCtorEq, List.mem_map,
    Note.add.injEq, false_or]
  constructor
  · rintro ⟨plan, member, _, nested, rfl, rfl⟩
    obtain ⟨implementation, -, ready⟩ := plan_written completed.grown member
    exact ⟨⟨plan, member, rfl⟩, (mem_nested ready).mp nested⟩
  · rintro ⟨⟨plan, member, rfl⟩, nests⟩
    obtain ⟨implementation, -, ready⟩ := plan_written completed.grown member
    exact ⟨plan, member, inner, (mem_nested ready).mpr nests, rfl, rfl⟩

/-- The rounds among these edges are those of the nesting that can be reached. -/
theorem round_completed (completed : Completed schema config converters start expansion after) :
    TransGen (Edge expansion.nesting) name name ↔
      Reachable schema config.root name ∧ TransGen (Nests schema) name name := by
  constructor
  · intro round
    obtain ⟨next, edge, -⟩ := TransGen.head'_iff.mp round
    exact ⟨((edge_completed completed).mp edge).1,
      TransGen.mono (fun _ _ edge => ((edge_completed completed).mp edge).2) _ _ round⟩
  · rintro ⟨reachable, round⟩
    have walks : ∀ last, TransGen (Nests schema) name last →
        TransGen (Edge expansion.nesting) name last := by
      intro last walk
      induction walk with
      | single nests => exact .single ((edge_completed completed).mpr ⟨reachable, nests⟩)
      | tail before nests ih =>
        exact ih.tail ((edge_completed completed).mpr
          ⟨reachable.trans before.to_reflTransGen, nests⟩)
    exact walks name round

/-- A run that fails with a cycle has written all that is reachable, and something reachable
reaches itself. -/
theorem cycle_refused {cycle : List String}
    (fails : generate schema config converters = .error (.cyclic cycle)) :
    (∀ name, Reachable schema config.root name → WrittenInRun schema config converters name) ∧
      ∃ name, Reachable schema config.root name ∧ TransGen (Nests schema) name name := by
  have wide : ¬ Confined (.cyclic cycle) := fun confined => confined.2 cycle rfl
  obtain ⟨start, expansion, after, walk, completed, found, -⟩ :=
    assemble_error wide ((generate_error wide).mp fails)
  obtain ⟨isConfig, isConverters⟩ := start_kept completed.started
  refine ⟨fun name reachable => ?_, ?_⟩
  · rw [← isConfig, ← mem_expanded completed.grown completed.empty] at reachable
    obtain ⟨plan, member, rfl⟩ := List.mem_map.mp reachable
    obtain ⟨implementation, -, ready⟩ := plan_written completed.grown member
    rw [isConfig, isConverters] at ready
    exact writtenInRun_iff.mpr ⟨⟨start, completed.started⟩, plan, implementation, ready⟩
  · obtain ⟨name, round⟩ := closedWalk_round ((findCycle_spec _).2 walk found)
    exact ⟨name, (round_completed completed).mp round⟩

/-- Where all that is reachable can be written and some of it reaches itself, a run fails with a
cycle. -/
theorem round_refused
    (writes : ∀ name, Reachable schema config.root name → WrittenInRun schema config converters name)
    (reachable : Reachable schema config.root name) (round : TransGen (Nests schema) name name) :
    ∃ cycle, generate schema config converters = .error (.cyclic cycle) := by
  obtain ⟨⟨start, started⟩, -⟩ := writtenInRun_iff.mp (writes config.root .refl)
  obtain ⟨-, record, -, known, -⟩ := writes config.root .refl
  obtain ⟨unknown, -⟩ | ⟨error, stops, -⟩ | ⟨error, other, -, reached, stops, -⟩ |
      ⟨start, expansion, after, completed, ran⟩ := assemble_cases schema config converters
  · exact absurd ((contains_iff.mpr ⟨record, known⟩).symm.trans unknown) nofun
  · exact nomatch started.symm.trans stops
  · obtain ⟨-, plan, implementation, ready⟩ := writtenInRun_iff.mp (writes other reached)
    exact nomatch ready.symm.trans stops
  · cases search : expansion.nesting.findCycle with
    | none =>
      exact absurd ((round_completed completed).mpr ⟨reachable, round⟩)
        ((findCycle_spec _).1.mp search name)
    | some cycle =>
      have wide : ¬ Confined (.cyclic cycle) := fun confined => confined.2 cycle rfl
      rw [finish, search] at ran
      exact ⟨cycle, (generate_error wide).mpr ran⟩

/-- The search tells whether the edges it was told of have a round, and shows one. So a run
fails with a cycle exactly when every reachable record is written without error and some
reachable record reaches itself. -/
theorem cycles_are_found (schema : Schema) (config : Config) (converters : Converters) :
    (∀ notes : List Note,
      ((noted notes).findCycle = none ↔ ∀ name, ¬ TransGen (Recorded notes) name name) ∧
      ∀ walk, (noted notes).findCycle = some walk → ClosedWalk (Recorded notes) walk) ∧
    ((∃ cycle, generate schema config converters = .error (.cyclic cycle)) ↔
      (∀ name, Reachable schema config.root name → WrittenInRun schema config converters name) ∧
        ∃ name, Reachable schema config.root name ∧ TransGen (Nests schema) name name) := by
  refine ⟨fun notes => ?_, fun ⟨cycle, fails⟩ => cycle_refused fails,
    fun ⟨writes, name, reachable, round⟩ => round_refused writes reachable round⟩
  have edges : Edge (noted notes) = Recorded notes :=
    funext fun outer => funext fun inner => propext (edge_noted notes)
  rw [← edges]
  exact findCycle_spec _

/-- A record that nests itself. -/
def selfNesting : Schema where
  declarations := [⟨⟨"Node", "", [⟨some "next", 0, .optional "Node", {}, ""⟩]⟩, none⟩]

/-- It is refused as cyclic, and it does reach itself. -/
theorem selfNesting_cyclic :
    (∃ cycle, generate selfNesting { root := "Node" } .builtin = .error (.cyclic cycle)) ∧
      ∃ name, Reachable selfNesting "Node" name ∧ TransGen (Nests selfNesting) name name := by
  have fails : ∃ cycle, generate selfNesting { root := "Node" } .builtin =
      .error (.cyclic cycle) := by
    have refused : (match generate selfNesting { root := "Node" } .builtin with
      | .error (.cyclic _) => true
      | _ => false) = true := by decide +kernel
    split at refused
    · rename_i cycle ran
      exact ⟨cycle, ran⟩
    · exact nomatch refused
  exact ⟨fails, ((cycles_are_found selfNesting { root := "Node" } .builtin).2.mp fails).2⟩

end EnvLoader.CyclicSchemas
