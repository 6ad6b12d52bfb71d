import EnvLoader.Main
import EnvLoader.KeyValue.Server
import EnvLoader.Sandbox
import EnvLoader.Schema.Check
import EnvLoader.Proofs.BreadthFirst
import EnvLoader.Proofs.ChosenCandidate
import EnvLoader.Proofs.ExampleEntries
import EnvLoader.Proofs.SourceFiles
import EnvLoader.Proofs.StoreReplay
import EnvLoader.Proofs.AlikeSchemas
import EnvLoader.Proofs.ParserNames
import EnvLoader.Proofs.CopiedExample
import EnvLoader.Proofs.LoadedRecords
import EnvLoader.Proofs.ServerSettings
import EnvLoader.Proofs.WrittenFiles
import EnvLoader.Proofs.Reruns
import EnvLoader.Proofs.StoresAlike
import EnvLoader.Proofs.AnsweredLines
import EnvLoader.Proofs.ServedLines
import EnvLoader.Proofs.DeclarationChecks
import EnvLoader.Proofs.StatelessRun
import EnvLoader.Proofs.IgnoredOptions
import EnvLoader.Proofs.NestedSandboxes
import EnvLoader.Proofs.SchemaHistory
import EnvLoader.Proofs.HeaderComment
import EnvLoader.Proofs.AnalysedRecords
import EnvLoader.Proofs.OptionLists
import EnvLoader.Proofs.StructLiterals
import EnvLoader.Proofs.LeafKeys
import EnvLoader.Proofs.FieldKeys
import EnvLoader.Proofs.DeclaredErrors
import EnvLoader.Proofs.RereadShapes
import EnvLoader.Proofs.RequestForms
import EnvLoader.Proofs.BoundedStore
import EnvLoader.Proofs.ListVariables
import EnvLoader.Proofs.NestingDepth
import EnvLoader.Proofs.QueueCalls
import EnvLoader.Proofs.EscapedTexts
