import ControlGraph.RolloutReducer
import ControlGraph.HealthEvaluator
import ControlGraph.HealthPasses
import ControlGraph.HealthStreaks
import ControlGraph.HealthClosure
import ControlGraph.LineagePolicy
import ControlGraph.JsonText
import ControlGraph.JsonRoundTrip
import ControlGraph.CanonicalCodec
import ControlGraph.StorageIdentity
import ControlGraph.LabelledRuns
import ControlGraph.ReceiptContracts
import ControlGraph.ReceiptReplacement
import ControlGraph.ReceiptStore
import ControlGraph.ReceiptLifecycle
import ControlGraph.ReceiptResolution
import ControlGraph.ExecutionRequests
import ControlGraph.WaitingPrograms
import ControlGraph.ExecutionGate
import ControlGraph.ReceiptExecution
import ControlGraph.DispatchRules
import ControlGraph.DispatchFence
import ControlGraph.OrphanGrace
import ControlGraph.VersionedTables
import ControlGraph.AuthorityTransactions
import ControlGraph.TransactionVerdicts
import ControlGraph.RootContracts
import ControlGraph.RevocationContracts
import ControlGraph.ReleaseContracts
import ControlGraph.AuthorityDatabase
import ControlGraph.EvidenceChain
import ControlGraph.HashChains
import ControlGraph.RootCreation
import ControlGraph.RevocationCommits
import ControlGraph.ClaimFence
import ControlGraph.ClaimRelease
import ControlGraph.AuthorityRuns
import ControlGraph.EpochRace
import ControlGraph.ClaimLifecycle
import ControlGraph.EvidenceIntegrity
import ControlGraph.TimelineContracts
import ControlGraph.ReplayKernel
import ControlGraph.TrafficCommands
import ControlGraph.HealthFinality
import ControlGraph.HealthBatches
import ControlGraph.MonitoringCollection
import ControlGraph.MonitoringIngestion
import ControlGraph.SecretPatterns
import ControlGraph.TimelineProjection
import ControlGraph.CalendarDays
import ControlGraph.ConsoleCodec
import ControlGraph.UtcTimestamps
import ControlGraph.CodecAgreement
import ControlGraph.TimelinePages
import ControlGraph.TimelineWire
import ControlGraph.ConsoleTimeline
import ControlGraph.ConsoleValues
import ControlGraph.TimelineReading
import ControlGraph.TimelinePageAgreement
import ControlGraph.JsonSizes
import ControlGraph.TimelinePageSizes
import ControlGraph.AbandonmentContracts
import ControlGraph.AbandonmentFence
import ControlGraph.AbandonmentStore
import ControlGraph.AbandonmentDecisions
import ControlGraph.AbandonedRecoveries
import ControlGraph.RecoveryDispatchLifecycle
import ControlGraph.RecoveryCoordination
import ControlGraph.RecoverySlot
import ControlGraph.HealthDecisions
import ControlGraph.HealthProofs
import ControlGraph.HealthAttestation
import ControlGraph.HealthVerdicts
import ControlGraph.HealthChains
import ControlGraph.CapabilityContracts
import ControlGraph.PromotionContracts
import ControlGraph.PromotionDispatchLifecycle
import ControlGraph.PromotionCoordination
import ControlGraph.PromotionExits
import ControlGraph.NamedOperations
import ControlGraph.VerifiedCanaries
import ControlGraph.CapabilityIssuance
import ControlGraph.IssuedWindows
import ControlGraph.RevocationAttempts
import ControlGraph.RevocationOutcomes
import ControlGraph.ConsoleRevocations
import ControlGraph.RevocationReadings
import ControlGraph.FlatRecords
import ControlGraph.ReadbackAdoption
import ControlGraph.CompletionBytes
import ControlGraph.CompletionExactness
import ControlGraph.Base64Url
import ControlGraph.LatencyConversion
import ControlGraph.DenialReceipts
import ControlGraph.HealthDeadlines
import ControlGraph.IdentityPreimages
import ControlGraph.DetachedSignatures
import ControlGraph.CloudRunMutations
import ControlGraph.TimestampOrder
