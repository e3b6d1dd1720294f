import TokenStreaming.Foundation.RelationalStore
import TokenStreaming.Foundation.Footprint
import TokenStreaming.Foundation.TransitionSystem
import TokenStreaming.Foundation.IsoInstant
import TokenStreaming.Foundation.InsertionMap
import TokenStreaming.Foundation.Json
import TokenStreaming.Foundation.LeasedWork
import TokenStreaming.Foundation.LiveClaims
import TokenStreaming.Foundation.Slices
import TokenStreaming.Foundation.RootedGraph
import TokenStreaming.Domain.Validation
import TokenStreaming.Domain.SafeInput
import TokenStreaming.Domain.TextSizes
import TokenStreaming.Domain.Supplier
import TokenStreaming.Domain.SupplierHistory
import TokenStreaming.Domain.SupplierCommands
import TokenStreaming.Domain.SupplierInvariant
import TokenStreaming.Domain.SupplierEligibility
import TokenStreaming.Domain.TimeWindows
import TokenStreaming.Domain.HistoryErrors
import TokenStreaming.Domain.VerificationIds
import TokenStreaming.Domain.OfferPublication
import TokenStreaming.Domain.Settlement
import TokenStreaming.Domain.SettlementBounds
import TokenStreaming.Domain.ArtifactCancellation
import TokenStreaming.Domain.CapacityOffer
import TokenStreaming.Server.Security
import TokenStreaming.Server.Schema
import TokenStreaming.Server.FinancialInvariants
import TokenStreaming.Server.ReviewInvariants
import TokenStreaming.Server.AuthorizationLifecycle
import TokenStreaming.Server.InferenceStatements
import TokenStreaming.Server.ArtifactStatements
import TokenStreaming.Server.AgentAuthStatements
import TokenStreaming.Server.Requests
import TokenStreaming.Server.RateLimit
import TokenStreaming.Server.AuthorizationIntake
import TokenStreaming.Server.SupplierService
import TokenStreaming.Server.AuthorizationService
import TokenStreaming.Server.InferenceService
import TokenStreaming.Server.ArtifactService
import TokenStreaming.Server.AgentAuth
import TokenStreaming.Server.ArtifactWorkerService
import TokenStreaming.Server.MaintenanceService
import TokenStreaming.Server.ArtifactIntake
import TokenStreaming.Server.ArtifactEvidence
import TokenStreaming.Server.ControlPlane
import TokenStreaming.Server.Inventory
import TokenStreaming.Server.Classification
import TokenStreaming.Server.TaskLifecycle
import TokenStreaming.Server.JobLifecycle
import TokenStreaming.Server.RequestLifecycle
import TokenStreaming.Server.Precedence
import TokenStreaming.Server.Reachability
import TokenStreaming.Server.Footprints
import TokenStreaming.Server.Origins
import TokenStreaming.Server.OfferCapacity
import TokenStreaming.Server.InferenceRuns
import TokenStreaming.Foundation.SettlementBook
import TokenStreaming.Server.MarketplaceBook
import TokenStreaming.Server.Completions
import TokenStreaming.Server.Settlements
import TokenStreaming.Server.Funds
import TokenStreaming.Server.Cancellations
import TokenStreaming.Server.AuthorizationBindings
import TokenStreaming.Server.Revocations
import TokenStreaming.Server.TaskRepresentation
import TokenStreaming.Server.TaskProgress
import TokenStreaming.Server.TaskAssignments
import TokenStreaming.Server.CheckpointSettlement
import TokenStreaming.Server.LeaseFencing
import TokenStreaming.Server.StorageQuota
import TokenStreaming.Server.Credentials
import TokenStreaming.Server.CommandClaims
import TokenStreaming.Server.Reviews
import TokenStreaming.Server.LifecycleOutcomes
import TokenStreaming.Server.ApprovalEvents
import TokenStreaming.Server.SupplierLog
import TokenStreaming.Server.ServiceHistories
import TokenStreaming.Server.Runs
import TokenStreaming.Server.LifecyclePlans
import TokenStreaming.Server.AuthorizationRevisions
import TokenStreaming.Server.ApprovalEligibility
import TokenStreaming.Server.SupplyState
import TokenStreaming.Server.AuthorizationExpiry
import TokenStreaming.Server.ApprovalAdmission
import TokenStreaming.KeyLifecycle.Preflight
import TokenStreaming.KeyLifecycle.Service
import TokenStreaming.KeyLifecycle.Ledger
import TokenStreaming.SupplierNode.ReplayJournal
import TokenStreaming.SupplierNode.RefusedRequests
import TokenStreaming.SupplierNode.Signature
import TokenStreaming.SupplierAgent.PendingDeletions
import TokenStreaming.SupplierNode.JournalHistory
import TokenStreaming.SupplierNode.Runtime
import TokenStreaming.SupplierNode.RequestOnce
import TokenStreaming.SupplierNode.CapacityLimits
import TokenStreaming.SupplierNode.ArtifactSegments
import TokenStreaming.SupplierNode.ArtifactExecutor
import TokenStreaming.SupplierNode.PromptBounds
import TokenStreaming.Gateway.ExecutionEvidence
import TokenStreaming.Gateway.GatewayCall
import TokenStreaming.Gateway.ResponseSize
import TokenStreaming.Gateway.EvidenceAgreement
import TokenStreaming.Server.ChargeBounds
import TokenStreaming.Server.ResolvedKeyrings
import TokenStreaming.SupplierAgent.Profile
import TokenStreaming.Foundation.JsonScan
import TokenStreaming.Tools.PatchProposal
import TokenStreaming.Core.Names
import TokenStreaming.Core.Texts
import TokenStreaming.Core.Repository
import TokenStreaming.Cli.ParseArgs
import TokenStreaming.Cli.TaskText
import TokenStreaming.Foundation.Grouping
import TokenStreaming.Storage.SessionHistory
import TokenStreaming.Storage.Telemetry
import TokenStreaming.Storage.TelemetryConservation
import TokenStreaming.AiManifest.SimpleYaml
import TokenStreaming.AiManifest.Generator
import TokenStreaming.AiManifest.ManifestRoundTrip
import TokenStreaming.Context.SearchTerms
import TokenStreaming.Context.ContextBuilder
import TokenStreaming.Context.ContextBudgets
import TokenStreaming.Foundation.StableSort
import TokenStreaming.Providers.Factory
import TokenStreaming.Providers.ModelPolicy
import TokenStreaming.Providers.ModelRouting
import TokenStreaming.Foundation.ConsecutiveGroups
import TokenStreaming.SupplierNode.ReducePartition
import TokenStreaming.Gateway.SignedPayloads
import TokenStreaming.Runtime.RunOutcomes
import TokenStreaming.SupplierNode.ResumedExecution
