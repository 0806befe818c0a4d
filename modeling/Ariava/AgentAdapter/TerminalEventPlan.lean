import Ariava.AgentAdapter.RegistryCodec

/-!
# `Ariava.AgentAdapter.TerminalEventPlan`: what to do with a producer event

`planTerminalEvent` decides from a snapshot of the registry and the store: answer a
duplicate, stage a reserved tuple, or reserve a new one, and whether the event may be
promoted now.
-/

set_option autoImplicit false

namespace Ariava.AgentAdapter

open Ariava.Protocol
open Ariava.StateStore

/-- `TerminalEventPlan`. -/
inductive TerminalEventPlan
  | returnLiveDuplicate (promoteNow : Bool)
  | returnReservationWithoutTuple (eventId : String)
  | stageReservedTuple (tuple : PendingTerminal) (promoteNow : Bool)
  | cancelOlderAndReserve (tuple : PendingTerminal)
      (reservation : PersistedProducerEventReservationV1) (promoteNow : Bool)
  | reserveNewTuple (tuple : PendingTerminal)
      (reservation : PersistedProducerEventReservationV1) (promoteNow : Bool)
  | reject (error : Thrown)

/-- `TerminalEventPlanInput`. The Session is the registered one. -/
structure TerminalEventPlanInput where
  session : RegisteredSession
  livePending : Option PendingTerminal
  persistedReservation : Option PersistedProducerEventReservationV1
  persistedTuple : Option PendingTerminal
  hasPendingCommandWork : Bool
  input : AgentAdapterEventInput
  eventId : String

/-- The event of a new tuple. -/
def plannedEvent (snapshot : TerminalEventPlanInput) : CanonicalEvent where
  eventId := snapshot.eventId
  hostId := snapshot.session.hostId
  sessionId := snapshot.input.sessionId
  provider := snapshot.input.provider
  agentText := snapshot.input.agentText
  humanText := snapshot.input.humanText
  projectName := snapshot.input.projectName
  workingDirectory := snapshot.input.workingDirectory
  harnessProvider := snapshot.input.harnessProvider
  createdAt := snapshot.input.createdAt
  kind := snapshot.input.kind

/-- The tuple of a new event: the event and the Session it leaves. -/
def plannedTuple (snapshot : TerminalEventPlanInput) : PendingTerminal where
  event := plannedEvent snapshot
  session := toCanonicalSessionState { snapshot.session.toAdapterSession with
    status := (plannedEvent snapshot).status
    latestActivityText := some snapshot.input.agentText
    lastEventId := some snapshot.eventId
    semanticUpdatedAt := snapshot.input.createdAt }

/-- The reservation of a new event. -/
def plannedReservation (snapshot : TerminalEventPlanInput) (fingerprint : String) :
    PersistedProducerEventReservationV1 where
  eventId := snapshot.eventId
  sessionId := snapshot.session.sessionId
  fingerprint := fingerprint
  createdAt := snapshot.input.createdAt

/-- A pending terminal event has the fingerprint. -/
def hasFingerprint (text : ProtocolText) (pending : PendingTerminal) (fingerprint : String) :
    Except Thrown Bool := do
  let live ← producerEventFingerprint text (producerPart pending.event)
  return decide (live = fingerprint)

/-- The checks at the head of `planTerminalEvent`, which reject the event. -/
def planRejection (snapshot : TerminalEventPlanInput) : Except Thrown Unit := do
  throwIf (decide (snapshot.input.sessionId ≠ snapshot.session.sessionId))
    (.typeError "canonical Event sessionId does not match the request path")
  throwIf (decide (snapshot.input.provider ≠ snapshot.session.provider))
    (.typeError "canonical Event provider does not match the registered Session")
  assertProducerContextMatchesSession snapshot.input snapshot.session.toAdapterSession

/-- `planTerminalEvent`. -/
def planTerminalEvent (text : ProtocolText) (snapshot : TerminalEventPlanInput) :
    Except Thrown TerminalEventPlan := do
  match planRejection snapshot with
  | .error thrown => return .reject thrown
  | .ok () =>
    let fingerprint ← producerEventFingerprint text snapshot.input
    let isLiveDuplicate ← match snapshot.livePending with
      | some pending => hasFingerprint text pending fingerprint
      | none => pure false
    let promoteNow := !snapshot.hasPendingCommandWork
    if isLiveDuplicate then return .returnLiveDuplicate promoteNow
    else match snapshot.persistedReservation, snapshot.persistedTuple with
      | some reservation, none => return .returnReservationWithoutTuple reservation.eventId
      | some _, some tuple => return .stageReservedTuple tuple promoteNow
      | none, _ =>
          if snapshot.livePending.isSome then
            return .cancelOlderAndReserve (plannedTuple snapshot)
              (plannedReservation snapshot fingerprint) promoteNow
          else
            return .reserveNewTuple (plannedTuple snapshot)
              (plannedReservation snapshot fingerprint) promoteNow

end Ariava.AgentAdapter
