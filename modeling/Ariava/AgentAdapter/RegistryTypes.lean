import Ariava.Lib.Dict
import Ariava.Lib.Effect
import Ariava.Protocol.ProtectedContent
import Ariava.StateStore.State

/-!
# `Ariava.AgentAdapter.RegistryTypes`: what the registry works on

The records of `registry-types.ts`, and `RegistryStateStore`, the store that the registry
persists through. The store is an interface in the source, so it is a record of programs
over an arbitrary store state here. Any of them may throw.

The monotonic clock is read in nanoseconds.
-/

set_option autoImplicit false

namespace Ariava.AgentAdapter

open Ariava.Lib
open Ariava.Protocol
open Ariava.StateStore

/-- `RegisteredSession` without the owner fields. -/
structure AdapterSession where
  sessionId : String
  provider : String
  projectName : String
  cwd : String
  nameText : String
  openingText : Option String
  latestActivityText : Option String
  harnessProvider : Option String
  pid : Option Int
  hostId : String
  registeredAt : String
  lastHeartbeatAt : String
  status : SessionStatus
  semanticUpdatedAt : String
  lastEventId : Option String
deriving DecidableEq

/-- `RegisteredSession`. -/
structure RegisteredSession extends AdapterSession where
  driverInstanceId : String
  ownerLease : String
  lastOwnerLeaseMonotonic : Nat
deriving DecidableEq

/-- `RegisterSessionInput`. -/
structure RegisterSessionInput where
  sessionId : String
  provider : String
  projectName : String
  cwd : String
  nameText : String
  openingText : Option String
  latestActivityText : Option String
  harnessProvider : Option String
  pid : Option Int
  status : Option SessionStatus
  driverInstanceId : String
deriving DecidableEq

/-- `SESSION_TTL_MS`. -/
def sessionTtlMs : Nat := 45000

/-- `OWNER_LEASE_TTL_MS`, on the monotonic clock. -/
def ownerLeaseTtl : Nat := 6000 * 1000000

/-- `AgentAdapterEventInput`: a canonical Event without its id and Host. -/
structure AgentAdapterEventInput where
  sessionId : String
  provider : String
  agentText : String
  humanText : Option String
  projectName : Option String
  workingDirectory : Option String
  harnessProvider : Option String
  createdAt : String
  kind : EventKind
deriving DecidableEq

/-- `PendingTerminal`. -/
structure PendingTerminal where
  event : CanonicalEvent
  session : CanonicalSessionState
deriving DecidableEq

/-- `RegistryMutationReason`. -/
inductive RegistryMutationReason
  | register
  | semantic
  | handle
  | unregister
  | ttl
deriving DecidableEq

/-- The input of `cancelTerminalEvent`. -/
structure TerminalEventCancellationInput where
  eventId : String
  sessionId : String
  fingerprint : String
  removeSession : Bool
  nextDriverName : Option String
  createdAt : String
  replacementSession : Option CanonicalSessionState
deriving DecidableEq

/-- The event id and the fingerprint of a persisted terminal cancellation. -/
structure PersistedTerminalCancellation where
  eventId : String
  fingerprint : String
deriving DecidableEq

/-- The input of `acceptProducerEventSource`. -/
structure ProducerEventSourceInput where
  reservation : PersistedProducerEventReservationV1
  checkpoint : ProducerEventSourceCheckpointV1
deriving DecidableEq

/-- `RegistryStateStore`, over a store state `ω`. -/
structure RegistryStateStore (ω : Type) where
  getSession : String → Effect Thrown ω (Option CanonicalSessionState)
  getDriverNameForSession : String → Effect Thrown ω (Option String)
  setSessionDriver : String → String → CanonicalSessionState → Effect Thrown ω Unit
  removeSession : String → Option String → Effect Thrown ω Unit
  getTerminalEventCancellation : String → Effect Thrown ω (Option PersistedTerminalCancellation)
  cancelTerminalEvent : TerminalEventCancellationInput → Effect Thrown ω Unit
  reserveProducerEventTuple :
    CanonicalEvent → CanonicalSessionState → String → Effect Thrown ω Unit
  getProducerEventTuple : String → String → Effect Thrown ω (Option PendingTerminal)
  reserveProducerEvent : PersistedProducerEventReservationV1 → Effect Thrown ω Unit
  acceptProducerEventSource : ProducerEventSourceInput → Effect Thrown ω Unit
  getProducerEventReservation :
    String → String → Effect Thrown ω (Option PersistedProducerEventReservationV1)
  listProducerEventReservations :
    String → Effect Thrown ω (List PersistedProducerEventReservationV1)
  getProducerEventCheckpoint :
    String → Effect Thrown ω (Option ProducerEventSourceCheckpointV1)
  getRecentEvent : String → Effect Thrown ω (Option CanonicalEvent)
  queuePendingEvent : CanonicalEvent → CanonicalSessionState → String → Effect Thrown ω Unit
  queuePendingSessionHandle : PendingSessionHandle → Effect Thrown ω Unit
  markCommandOutcomeUnknownIfPresent : String → Effect Thrown ω Unit

/-- The clock and id readings of one registry operation. -/
structure RegistryReadings where
  monotonicNow : Nat
  nowMs : Int
  nowIso : String
  ownerLease : String
  eventId : String
deriving DecidableEq

/-- `AgentAdapterOwnerConflictError`. -/
def ownerConflictError (sessionId : String) : Thrown :=
  ⟨.ownerConflict, "Session ID " ++ sessionId ++ " is owned by a different live driver instance"⟩

/-- `AgentAdapterStaleOwnerError`. -/
def staleOwnerError (sessionId : String) : Thrown :=
  ⟨.staleOwner, "Session ID " ++ sessionId ++ " is not owned by this driver instance and lease"⟩

/-- `AgentAdapterSessionNotFoundError`. -/
def sessionNotFoundError (sessionId : String) : Thrown :=
  ⟨.sessionNotFound, "Session ID " ++ sessionId ++ " is not registered"⟩

/-- `AgentAdapterOrderConflictError`. -/
def orderConflictError (message : String) : Thrown := ⟨.orderConflict, message⟩

/-- `AgentAdapterRequestValidationError`. -/
def requestValidationError (message : String) : Thrown := ⟨.requestValidation, message⟩

/-- `SessionIdCollisionError`. -/
def sessionIdCollisionError (sessionId : String) : Thrown :=
  ⟨.sessionIdCollision, "Session ID " ++ sessionId ++ " is already owned by a different adapter"⟩

/-- `AgentAdapterClientInputError`. -/
def clientInputError (message : String) : Thrown := ⟨.clientInput, message⟩

/-- The rethrow of a content error as a request error. -/
def asRequestValidation (thrown : Thrown) : Thrown :=
  match thrown.errorClass with
  | .protectedContentValidation => requestValidationError thrown.message
  | _ => thrown

/-- The rethrow of a content or type error as a request error. -/
def asEventRequestValidation (thrown : Thrown) : Thrown :=
  match thrown.errorClass with
  | .protectedContentValidation | .typeError => requestValidationError thrown.message
  | _ => thrown

end Ariava.AgentAdapter
