import ManifestLint.Main
import ManifestLint.Json.Reader
import ManifestLint.Resource.Writing
import ManifestLint.Proofs.Acceptance
import ManifestLint.Proofs.FirstViolation
import ManifestLint.Proofs.ExitCode
import ManifestLint.Proofs.LoadedDocuments
import ManifestLint.Proofs.EffectiveDocuments
import ManifestLint.Proofs.DocumentPositions
import ManifestLint.Proofs.DocumentStreams
import ManifestLint.Proofs.StrippedPipelines
import ManifestLint.Proofs.TrustedRuns
import ManifestLint.Proofs.DiscoveredFiles
import ManifestLint.Proofs.WrittenResources
import ManifestLint.Proofs.ResourceMeanings
import ManifestLint.Proofs.ReportReadBack
import ManifestLint.Proofs.MergedValues
import ManifestLint.Proofs.MergeOrder
import ManifestLint.Proofs.OwnEntries
import ManifestLint.Proofs.RunAccounts
import ManifestLint.Proofs.SarifReadBack
import ManifestLint.Proofs.StyledText
import ManifestLint.Proofs.PrettyReadBack
import ManifestLint.Proofs.VerdictAgreement
import ManifestLint.Proofs.ResolvedRules
import ManifestLint.Proofs.Decoration
import ManifestLint.Proofs.ReportLines
import ManifestLint.Proofs.FileReferences
import ManifestLint.Proofs.NormalizedExtensions
