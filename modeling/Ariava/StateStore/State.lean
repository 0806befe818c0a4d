import Ariava.Lib.Dict
import Ariava.Protocol.Sessions

/-!
# `Ariava.StateStore.State`: the persisted Bridge state

`PersistedBridgeState` of `types.ts`, field by field. A record keyed by a string is a
`Dict`. An optional record that is absent is the empty dictionary: every reader of the
source treats the two alike, through `?? {}` and `?.[key]`.

A receipt outbox holds its `canonicalBody` as the receipt that the text encodes, because
the text is `JSON.stringify` of that receipt wherever it is built or accepted.

`StateTransition` is the result of a pure transition. `unchanged` is the case where the
source returns the same state object, which is how a transition says that nothing is to be
written.
-/

set_option autoImplicit false

namespace Ariava.StateStore

open Ariava.Lib
open Ariava.Protocol

/-- The `action` of a pending handle. -/
inductive PendingHandleAction
  | piInput
  | bridgeRecovery
deriving DecidableEq

/-- `PendingSessionHandle`. -/
structure PendingSessionHandle where
  hostId : String
  sessionId : String
  handledThroughEventId : String
  handledThroughEventCreatedAt : Option String
  handledAt : String
  action : PendingHandleAction
  updatedAt : String
deriving DecidableEq

/-- `PersistedCurrentSessionsSnapshotState`. -/
structure PersistedCurrentSessionsSnapshotState where
  lastAllocatedRevision : Nat
  lastAcceptedRevision : Nat
  lastAcceptedDigest : Option String
  lastAcceptedContentDigest : Option String
  lastAcceptedRecipientSetVersion : Option Nat
deriving DecidableEq

/-- `PersistedProducerEventReservationV1`. -/
structure PersistedProducerEventReservationV1 where
  eventId : String
  sessionId : String
  fingerprint : String
  createdAt : String
deriving DecidableEq

/-- `ProducerEventSourceCheckpointV1`. -/
structure ProducerEventSourceCheckpointV1 where
  sessionId : String
  producerEventId : String
  producerEventOrder : String
  eventId : String
  fingerprint : String
  createdAt : String
deriving DecidableEq

/-- `PersistedTerminalCancellationV1`. -/
structure PersistedTerminalCancellationV1 where
  sessionId : String
  eventId : String
  fingerprint : String
  removeSession : Bool
  createdAt : String
deriving DecidableEq

/-- `EventUploadCompletionV1`. An absent flag reads as false everywhere. -/
structure EventUploadCompletionV1 where
  eventId : String
  sessionId : String
  revision : Nat
  eventContentId : String
  sessionContentId : String
  committedAt : String
  revisionCommitted : Bool
  inflightRemoved : Bool
  sourceRemoved : Bool
deriving DecidableEq

/-- `DriverRuntimeHealth`. -/
structure DriverRuntimeHealth where
  driver : String
  count : Nat
  firstSeenAt : String
  lastSeenAt : String
  lastSuccessAt : Option String
  nextRetryAt : String
deriving DecidableEq

/-- `RelayPresenceRuntimeHealth`. -/
structure RelayPresenceRuntimeHealth where
  count : Nat
  firstSeenAt : String
  lastSeenAt : String
  lastSuccessAt : Option String
  nextRetryAt : String
deriving DecidableEq

/-- The `status` of the runtime health. -/
inductive RuntimeHealthStatus
  | healthy
  | degraded
deriving DecidableEq

/-- `BridgeRuntimeHealth`. -/
structure BridgeRuntimeHealth where
  status : RuntimeHealthStatus
  drivers : List DriverRuntimeHealth
  relayPresence : Option RelayPresenceRuntimeHealth
deriving DecidableEq

/-- `PersistedCommandPinReferenceV1`. -/
structure PersistedCommandPinReferenceV1 where
  linkId : String
  linkGeneration : Nat
  epoch : Nat
  transcriptDigest : String
  hostEncryptionKeyId : String
  watchEncryptionKeyId : String
deriving DecidableEq

/-- The `state` of a receipt outbox. -/
inductive ReceiptOutboxState
  | pending
  | acknowledged
  | undeliverable
deriving DecidableEq

/-- `PersistedCommandReceiptOutboxV1`. -/
structure PersistedCommandReceiptOutboxV1 where
  state : ReceiptOutboxState
  canonicalBody : CommandReceiptEnvelopeV1
  receiptDigest : String
deriving DecidableEq

/-- The `state` of a command execution. -/
inductive CommandExecutionState
  | claimed
  | dispatchStarted
  | outcomeUnknown
  | terminalReceiptBlocked
  | terminal
deriving DecidableEq

/-- `PersistedCommandExecutionV4`. -/
structure PersistedCommandExecutionV4 where
  originalEncryptedCommand : EncryptedCommandEnvelopeV1
  commandDigest : String
  pinReference : PersistedCommandPinReferenceV1
  watchDeviceId : String
  nonce : String
  expiresAt : CanonicalTimestamp
  state : CommandExecutionState
  claimedAt : CanonicalTimestamp
  dispatchStartedAt : Option CanonicalTimestamp
  terminalResult : Option CommandResult
  receiptOutbox : Option PersistedCommandReceiptOutboxV1
deriving DecidableEq

/-- `CommandReceiptOutboxInputV1`. -/
structure CommandReceiptOutboxInputV1 where
  canonicalBody : CommandReceiptEnvelopeV1
  receiptDigest : String
  receipt : CommandReceiptEnvelopeV1
deriving DecidableEq

/-- `PersistedBridgeState`. -/
structure PersistedBridgeState where
  runtimeResetEpoch : String
  host : Option HostProjection
  sessions : Dict String CanonicalSessionState
  sessionDrivers : Dict String String
  reconciledDrivers : Dict String Unit
  recentEvents : List CanonicalEvent
  sessionRevisions : Dict String Nat
  recipientSetVersion : Option Nat
  eventUploadCompletions : Dict String EventUploadCompletionV1
  producerEventReservations : Dict String PersistedProducerEventReservationV1
  producerEventCheckpoints : Dict String ProducerEventSourceCheckpointV1
  terminalCancellations : Dict String PersistedTerminalCancellationV1
  pendingHandles : Dict String PendingSessionHandle
  commandExecutions : Dict String PersistedCommandExecutionV4
  currentSessionsSnapshot : PersistedCurrentSessionsSnapshotState
  runtimeHealth : Option BridgeRuntimeHealth
deriving DecidableEq

/-- `EMPTY_SNAPSHOT`. -/
def emptySnapshot : PersistedCurrentSessionsSnapshotState where
  lastAllocatedRevision := 0
  lastAcceptedRevision := 0
  lastAcceptedDigest := none
  lastAcceptedContentDigest := none
  lastAcceptedRecipientSetVersion := none

/-- `emptyState`. -/
def emptyState (runtimeResetEpoch : String) : PersistedBridgeState where
  runtimeResetEpoch := runtimeResetEpoch
  host := none
  sessions := ∅
  sessionDrivers := ∅
  reconciledDrivers := ∅
  recentEvents := []
  sessionRevisions := ∅
  recipientSetVersion := none
  eventUploadCompletions := ∅
  producerEventReservations := ∅
  producerEventCheckpoints := ∅
  terminalCancellations := ∅
  pendingHandles := ∅
  commandExecutions := ∅
  currentSessionsSnapshot := emptySnapshot
  runtimeHealth := some ⟨.healthy, [], none⟩

/-- The result of a pure transition: nothing to write, or the next state to write. -/
inductive StateTransition (Result : Type)
  | unchanged (result : Result)
  | next (state : PersistedBridgeState) (result : Result)

namespace StateTransition

variable {Result : Type}

/-- The state after the transition from `state`. -/
def stateFrom (state : PersistedBridgeState) : StateTransition Result → PersistedBridgeState
  | unchanged _ => state
  | next state' _ => state'

/-- The result of the transition. -/
def result : StateTransition Result → Result
  | unchanged r => r
  | next _ r => r

/-- The state after a transition that may throw. A throw leaves the state. -/
def stateAfter (state : PersistedBridgeState) :
    Except Thrown (StateTransition Result) → PersistedBridgeState
  | .ok transition => transition.stateFrom state
  | .error _ => state

end StateTransition

end Ariava.StateStore
