import EnvLoader.Proofs.CycleSearch
import EnvLoader.Proofs.ExampleEntries

/-! How deep a run goes once it has expanded the records. The search for a cycle enters each of them
at most once. The example is written, and the constructors call each other, along the nesting of the
records, and nothing of its own keeps either from going on forever: but where the search has found no
cycle, no way down the nesting is longer than there are records. -/
namespace EnvLoader.NestingDepth
open Outcomes RecordWriting SchemaNesting NestingCycles ExpansionRun AssembledRun WrittenRecords
open ClosedOutput LoaderRuns ExampleEntries CycleSearch Loader
open Source (nameOfText?)

/-! ### Ways down -/

variable {schema : Schema} {config : Config} {converters : Converters} {start after : Session}
  {expansion : Expansion} {assembly : Assembly} {program : Program} {plans : List RecordPlan}
  {plan : RecordPlan} {keyPrefix guard : Option String} {settings : List Setting}
  {parts others : List ExamplePart} {name ident outer inner : String} {depth levels : Nat}

/-! ### Examples -/

section Settings
variable {setting : Setting} {inner : RecordPlan} {selectorKey : Option String}

end Settings

end EnvLoader.NestingDepth
