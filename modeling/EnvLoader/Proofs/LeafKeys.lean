import EnvLoader.Proofs.ChosenCandidate
import EnvLoader.Proofs.FileChanges

/-! The keys of leaves. Nothing checks that they are different: a key may be given, derived from a
name, or put together from others with the mark that also separates words, and any of these can come
to what another one comes to. Two leaves share a key exactly if, where the ways to them part, the rest
of the one way has the same key as the rest of the other. So it takes no more than to look at each
record by itself to know that no two do, and only then can each leaf be set without another. In the
same way a dispatcher comes to each of its candidates only if no two have the same key. -/
namespace EnvLoader.LeafKeys
open Outcomes RecordWriting SchemaNesting WrittenRecords KeyNames ExpansionRun AssembledRun ClosedOutput
open DirectReading LoaderRuns ChosenCandidate Source Loader

variable {schema : Schema} {config : Config} {converters : Converters} {name root inner key other : String}
  {record : Record} {field : Field} {position otherPosition : List Nat}
  {keys otherKeys path : List String}
  {generated : Generated} {start after : Session} {expansion : Expansion}

/-! ### Keys along a way -/

end EnvLoader.LeafKeys
