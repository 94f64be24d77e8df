import MncsForge.Errors
import MncsForge.Foundation.Dict
import MncsForge.Foundation.Json
import MncsForge.Foundation.CanonicalJson
import MncsForge.Foundation.HashChain
import MncsForge.Foundation.Digest
import MncsForge.Foundation.Lineage
import MncsForge.Foundation.Runs
import MncsForge.Records.Schema
import MncsForge.Records.Record
import MncsForge.Records.Validation
import MncsForge.Records.Frozen
import MncsForge.Records.Migration
import MncsForge.Records.Reread
import MncsForge.Ledger.Chain
import MncsForge.Native.Core
import MncsForge.Native.Lifecycle
import MncsForge.Native.Readiness
import MncsForge.Native.Bundle
import MncsForge.Native.Adapter
import MncsForge.Lifecycle.History
import MncsForge.Lifecycle.Evidence
import MncsForge.Lifecycle.Projection
import MncsForge.Lifecycle.Machine
import MncsForge.Lifecycle.Coherence
import MncsForge.Lifecycle.Reading
import MncsForge.Lifecycle.Runs
import MncsForge.Lifecycle.NativeHistory
import MncsForge.Lifecycle.NativeRuns
import MncsForge.Native.Assurance
import MncsForge.Records.Construction
import MncsForge.Lifecycle.NativeCoherence
import MncsForge.Native.Reconciliation
import MncsForge.Application.Evidence
import MncsForge.Native.ProviderPolicy
import MncsForge.Application.Providers
import MncsForge.Application.VerifierRuns
import MncsForge.Native.ReadinessExchange
import MncsForge.Native.Continuous
import MncsForge.Continuous.Supervisor
import MncsForge.Lifecycle.NativeReadiness
import MncsForge.Lifecycle.Observations
import MncsForge.Lifecycle.Preflight
import MncsForge.Application.ExecutionReceipts
import MncsForge.Application.Workflows
import MncsForge.Application.Evaluation
import MncsForge.Application.CompilerCandidates
import MncsForge.Native.ResourceOutcome
import MncsForge.Runner.ProcessEffect
import MncsForge.Paths
import MncsForge.Application.ProviderAnswers
import MncsForge.Runner.Cancellation
import MncsForge.Native.VerificationStatus
import MncsForge.Continuous.MicroVerification
import MncsForge.Continuous.ProcessEvent
import MncsForge.Continuous.Coalescing
import MncsForge.Foundation.Positions
import MncsForge.Ledger.Index
import MncsForge.Lifecycle.Ambiguity
import MncsForge.Application.EvaluationDrift
import MncsForge.Native.ResourcePolicy
import MncsForge.Runner.TransientUnits
import MncsForge.Native.ExecutionAssurance
import MncsForge.Application.Assurance
import MncsForge.Foundation.Fresh
import MncsForge.Store.Projection
import MncsForge.Store.CommitBatch
import MncsForge.Continuous.EpochReplay
import MncsForge.Foundation.Framing
import MncsForge.Foundation.Text
import MncsForge.Identity
import MncsForge.Foundation.Occurrences
import MncsForge.Application.SourceRepair
import MncsForge.Native.TriggerMatching
import MncsForge.Foundation.JsonText
import MncsForge.Application.ProviderFraming
import MncsForge.Continuous.ResultReuse
import MncsForge.Application.WriteBoundary
import MncsForge.Foundation.OrderedDict
import MncsForge.Continuous.CompactResult
import MncsForge.Continuous.Pending
import MncsForge.CompilerEvolution
import MncsForge.Runner.ObservationMerge
import MncsForge.Application.Candidates
import MncsForge.Application.ClaimStatus
import MncsForge.Foundation.WhiteSpace
import MncsForge.Application.ConceptEvaluations
import MncsForge.Application.WorkflowOutcomes
import MncsForge.LearnedSpecialists
import MncsForge.Foundation.Interruption
import MncsForge.Store.Transactions
import MncsForge.Store.Recovery
import MncsForge.Foundation.ByteLines
import MncsForge.Foundation.JsonRoundTrip
import MncsForge.Store.Files
import MncsForge.Store.Appending
import MncsForge.Store.Durability
import MncsForge.Store.History
import MncsForge.Store.Correspondence
import MncsForge.Lifecycle.Bundles
import MncsForge.Lifecycle.Coverage
import MncsForge.Lifecycle.ReadinessPaths
