import Ariava.Lib.Dict
import Ariava.Lib.Effect
import Ariava.Lib.Run
import Ariava.Protocol.Timestamp
import Ariava.Protocol.Validation
import Ariava.Protocol.Encryption
import Ariava.Protocol.Commands
import Ariava.Protocol.Thrown
import Ariava.Protocol.AssociatedData
import Ariava.Protocol.Sessions
import Ariava.Protocol.Uploads
import Ariava.StateStore.State
import Ariava.StateStore.LocalSpool
import Ariava.StateStore.SessionTransitions
import Ariava.StateStore.EventTransitions
import Ariava.StateStore.CurrentSessionsTransitions
import Ariava.StateStore.Store
import Ariava.StateStore.SpoolTransactions
import Ariava.StateStore.BridgeStateStore
import Ariava.StateStore.StoreFrames
import Ariava.StateStore.StateCodec
import Ariava.StateStore.CompletionRecovery
import Ariava.StateStore.ExecutionCodec
import Ariava.StateStore.CommandTransitions
import Ariava.E2e.NodeCrypto
import Ariava.E2e.LinkKeyring
import Ariava.E2e.KeyringCodec
import Ariava.E2e.KeyringUpdates
import Ariava.E2e.KeyringInvariants
import Ariava.StateStore.PinReferences
import Ariava.E2e.CommandReceipt
import Ariava.Proofs.ReceiptConstruction
import Ariava.E2e.CommandExecution
import Ariava.Lib.ReplayGuard
import Ariava.Daemon.CommandJournal
import Ariava.Proofs.CommandReplay
import Ariava.Daemon.CommandRuntime
import Ariava.Proofs.CommandPins
import Ariava.Protocol.ProtectedContent
import Ariava.AgentAdapter.RegistryTypes
import Ariava.AgentAdapter.RegistryCodec
import Ariava.AgentAdapter.SessionTransitions
import Ariava.AgentAdapter.TerminalEventPlan
import Ariava.Lib.Lease
import Ariava.Lib.Mailbox
import Ariava.AgentAdapter.Registry
import Ariava.AgentAdapter.Server
import Ariava.AgentAdapter.RegistryFrames
import Ariava.AgentAdapter.RegistryMoves
import Ariava.AgentAdapter.RegistrySteps
import Ariava.AgentAdapter.RegistryInvariants
import Ariava.AgentAdapter.RegistryStoreFrames
import Ariava.AgentAdapter.BridgeRegistry
import Ariava.AgentAdapter.ProducerEvents
import Ariava.Proofs.OwnerLease
import Ariava.Proofs.CommandDelivery
import Ariava.Proofs.CommandExecutions
import Ariava.Proofs.RegistrationCollision
import Ariava.Proofs.ProducerOrder
import Ariava.Proofs.ProducerReplay
import Ariava.Proofs.UploadCompletion
import Ariava.E2e.UploadPreflight
import Ariava.E2e.UploadDecisions
import Ariava.Proofs.EventPublishability
import Ariava.Lib.LengthPrefix
import Ariava.Protocol.WireText
import Ariava.Protocol.ContentAssociatedData
import Ariava.Proofs.DomainSeparation
import Ariava.E2e.KeyringCases
import Ariava.E2e.KeyringRepresentation
import Ariava.E2e.KeyringMigration
import Ariava.E2e.KeyringStored
import Ariava.Proofs.KeyringAcceptance
import Ariava.Proofs.KeyringRollback
import Ariava.Proofs.KeyringIsolation
import Ariava.E2e.LocalEncryptedSpool
import Ariava.Proofs.SpoolCoherence
import Ariava.Proofs.TerminalGating
import Ariava.Protocol.JsonValue
import Ariava.Protocol.AgentAdapterContract
import Ariava.AgentAdapter.ServerInput
import Ariava.Proofs.IngressAgreement
import Ariava.Proofs.QueueAtomicity
import Ariava.Lib.RelyGuarantee
import Ariava.HostManager.ProcessAwareLock
import Ariava.Proofs.ProcessLockExclusion
import Ariava.Lib.Since
import Ariava.Extensions.PiExtension
import Ariava.Extensions.PiChanges
import Ariava.Proofs.AlertFreshness
import Ariava.Proofs.HandledReports
import Ariava.AgentAdapter.KnownEvents
import Ariava.Extensions.AgentAdapterClient
import Ariava.Proofs.PublicationAttempts
import Ariava.Proofs.PublicationCommits
import Ariava.StateStore.PendingReconciliation
import Ariava.Proofs.JournalReconciliation
import Ariava.Proofs.PublicationRevisions
import Ariava.Lib.Greatest
import Ariava.Proofs.PinRetention
import Ariava.Lib.Retention
import Ariava.Proofs.RecentEventWindow
import Ariava.Proofs.RecipientReconciliation
import Ariava.Protocol.RequestSigning
import Ariava.Daemon.RelayClient
import Ariava.Lib.DictOrder
import Ariava.Daemon.PendingHandles
import Ariava.Proofs.HandleRouting
import Ariava.Lib.Delimited
import Ariava.Lib.StableSort
import Ariava.Protocol.CodeUnits
import Ariava.Protocol.SessionSnapshots
import Ariava.Proofs.SemanticDigest
import Ariava.Daemon.ReconciliationLoop
import Ariava.Proofs.RegistryWakeups
import Ariava.E2e.KeyringFaults
import Ariava.Proofs.KeyringAtomicity
import Ariava.StateStore.RawState
import Ariava.StateStore.StateMigration
import Ariava.Proofs.StateMigration
import Ariava.E2e.UploadActions
import Ariava.Proofs.PublicationLoops
import Ariava.Proofs.PublicationRecords
import Ariava.Lib.Sextets
import Ariava.Proofs.BoundedJson
import Ariava.Proofs.CanonicalBase64Url
import Ariava.AgentAdapter.FingerprintBytes
import Ariava.E2e.CommandOpening
import Ariava.HostManager.InstallMetadata
import Ariava.HostManager.Launchd
import Ariava.Operations.HostDomainResetJournal
import Ariava.Operations.HostDomainResetPolicy
import Ariava.Proofs.LaunchdRoundTrip
import Ariava.Proofs.MetadataPreservation
import Ariava.Proofs.ProducerFingerprint
import Ariava.Proofs.ReplyBudget
import Ariava.Proofs.RequestCanonicalization
import Ariava.Lib.Numeral
import Ariava.Proofs.ProducerOrderCodec
import Ariava.Proofs.HostDomainReset
import Ariava.Proofs.RecipientCoverage
import Ariava.E2e.EventUploads
import Ariava.Proofs.EventRetention
import Ariava.Proofs.RuntimeJournals
import Ariava.Proofs.RuntimePreflight
import Ariava.Proofs.RuntimeStarts
