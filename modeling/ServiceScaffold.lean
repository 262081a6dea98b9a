import ServiceScaffold.Main
import ServiceScaffold.Proofs.TreeGrowth
import ServiceScaffold.Proofs.Replacement
import ServiceScaffold.Proofs.TextLines
import ServiceScaffold.Proofs.Declarations
import ServiceScaffold.Proofs.MergeStep
import ServiceScaffold.Proofs.AppendOnly
import ServiceScaffold.Proofs.MergeHistory
import ServiceScaffold.Proofs.ScannedText
import ServiceScaffold.Proofs.HandlerDirectory
import ServiceScaffold.Proofs.SuccessfulRuns
import ServiceScaffold.Proofs.Routes
import ServiceScaffold.Proofs.SettledTrees
import ServiceScaffold.Proofs.Regeneration
import ServiceScaffold.Proofs.TableOnDisk
import ServiceScaffold.Proofs.SourceNames
import ServiceScaffold.Proofs.KeptHandlers
import ServiceScaffold.Proofs.HandlerContents
import ServiceScaffold.Proofs.DistinctNames
import ServiceScaffold.Proofs.Ownership
import ServiceScaffold.Proofs.MadeDirectories
import ServiceScaffold.Proofs.StoppedRuns
import ServiceScaffold.Proofs.DryRun
import ServiceScaffold.Proofs.SkippedServices
import ServiceScaffold.Proofs.WireRoundTrip
import ServiceScaffold.Proofs.OptionWords
import ServiceScaffold.Proofs.PluginParameters
import ServiceScaffold.Proofs.SharedSettings
import ServiceScaffold.Proofs.PluginAgreement
import ServiceScaffold.Proofs.ServiceOrder
import ServiceScaffold.Proofs.CanonicalRecords
import ServiceScaffold.Proofs.ParsedFiles
import ServiceScaffold.Proofs.ReadMessages
import ServiceScaffold.Proofs.RuleRoundTrip
import ServiceScaffold.Proofs.CanonicalBlocks
import ServiceScaffold.Proofs.CanonicalRules
import ServiceScaffold.Proofs.PoolDeclarations
import ServiceScaffold.Proofs.Annotations
import ServiceScaffold.Proofs.Substitution
import ServiceScaffold.Proofs.ScannedBytes
import ServiceScaffold.Proofs.StubSymbols
import ServiceScaffold.Proofs.MergedSymbols
import ServiceScaffold.Proofs.HandWrittenCode
import ServiceScaffold.Proofs.ResolverCalls
import ServiceScaffold.Proofs.ExportedNames
import ServiceScaffold.Proofs.FileNames
import ServiceScaffold.Proofs.ByteNames
import ServiceScaffold.Proofs.TypeNames
import ServiceScaffold.Proofs.ReadTables
import ServiceScaffold.Proofs.LayeredParameters
import ServiceScaffold.Proofs.Letters
import ServiceScaffold.Proofs.PackageNames
import ServiceScaffold.Proofs.ModuleDirectives
