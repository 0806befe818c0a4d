import Ariava.StateStore.CommandTransitions
import Ariava.StateStore.SpoolTransactions

/-!
# `Ariava.StateStore.BridgeStateStore`: the store that the registry persists through

The methods of `BridgeStateStore` that `RegistryStateStore` asks for, as one record. The
getters read the store and change nothing.
-/

set_option autoImplicit false

namespace Ariava.StateStore

open Ariava.Lib
open Ariava.Protocol
open Ariava.AgentAdapter (PendingTerminal PersistedTerminalCancellation RegistryStateStore)

/-- `listProducerEventReservations`. -/
def reservationsOf (state : PersistedBridgeState) (sessionId : String) :
    List PersistedProducerEventReservationV1 :=
  state.producerEventReservations.values.filter fun reservation =>
    decide (reservation.sessionId = sessionId)

/-- `getRecentEvent`. -/
def recentEvent (state : PersistedBridgeState) (eventId : String) : Option CanonicalEvent :=
  state.recentEvents.find? fun event => decide (event.eventId = eventId)

/-- `getTerminalEventCancellation`: the reservation of a Session whose event is still reserved
in the spool. -/
def terminalEventCancellation (s : BridgeStore) (sessionId : String) :
    Option PersistedTerminalCancellation :=
  (s.state.producerEventReservations.values.find? fun reservation =>
      decide (reservation.sessionId = sessionId)
        && decide ((spoolGet s.items reservation.eventId).map SpoolItem.payloadKind
          = some .eventReservationV3)).map
    fun reservation => ⟨reservation.eventId, reservation.fingerprint⟩

/-- `assertCommandExecutionPinsReady`. -/
def assertCommandExecutionPinsReady : StoreEffect Unit :=
  readStore fun s => throwIf (!s.commandExecutionPinsReady)
    (.error "Bridge runtime command execution pins are unavailable before startup validation")

section
variable (text : ProtocolText)

/-- `markCommandOutcomeUnknown`. -/
def markCommandOutcomeUnknown (commandId : String) :
    StoreEffect PersistedCommandExecutionV4 := do
  assertCommandExecutionPinsReady
  commitTransition fun state => markCommandOutcomeUnknownTransition text.hash state commandId

/-- `markCommandOutcomeUnknownIfPresent`. -/
def markCommandOutcomeUnknownIfPresent (commandId : String) : StoreEffect Unit :=
  tryCatch (do let _ ← markCommandOutcomeUnknown text commandId) fun _ => pure ()

/-- `setSessionDriver`. -/
def setSessionDriver (sessionId driverName : String) (session : Option CanonicalSessionState) :
    StoreEffect Unit :=
  commitTransition fun state => setSessionDriverTransition state sessionId driverName session

/-- `removeSession`. -/
def removeSession (sessionId : String) (expectedDriverName : Option String) :
    StoreEffect Bool :=
  commitTransition fun state => .ok (removeSessionTransition state sessionId expectedDriverName)

/-- `replaceDriverSessions`. -/
def replaceDriverSessions (driverName : String) (sessions : List CanonicalSessionState) :
    StoreEffect Unit :=
  commitTransition fun state => .ok (replaceDriverSessionsTransition state driverName sessions)

/-- `acceptProducerEventSource`. -/
def acceptProducerEventSource (reservation : PersistedProducerEventReservationV1)
    (checkpoint : ProducerEventSourceCheckpointV1) : StoreEffect Unit :=
  commitTransition fun state =>
    reserveProducerEventWithCheckpointTransition state reservation checkpoint

/-- `queuePendingSessionHandle`. -/
def queuePendingSessionHandle (handle : PendingSessionHandle) : StoreEffect Unit :=
  commitTransition fun state =>
    queuePendingSessionHandleTransition text.localeCompare state handle

/-- The store as the registry sees it. -/
def bridgeStateStore : RegistryStateStore BridgeStore where
  getSession sessionId := readStore fun s => .ok (s.state.sessions.get? sessionId)
  getDriverNameForSession sessionId :=
    readStore fun s => .ok (s.state.sessionDrivers.get? sessionId)
  setSessionDriver sessionId driverName session :=
    setSessionDriver sessionId driverName (some session)
  removeSession sessionId expectedDriverName := do
    let _ ← removeSession sessionId expectedDriverName
  getTerminalEventCancellation sessionId :=
    readStore fun s => .ok (terminalEventCancellation s sessionId)
  cancelTerminalEvent := cancelTerminalEvent
  reserveProducerEventTuple := reserveProducerEventTuple
  getProducerEventTuple eventId fingerprint :=
    readStore fun s => producerEventTuple s.items eventId fingerprint
  reserveProducerEvent := reserveProducerEvent
  acceptProducerEventSource input :=
    acceptProducerEventSource input.reservation input.checkpoint
  getProducerEventReservation sessionId fingerprint :=
    readStore fun s => .ok (reservationOf s.state sessionId fingerprint)
  listProducerEventReservations sessionId :=
    readStore fun s => .ok (reservationsOf s.state sessionId)
  getProducerEventCheckpoint sessionId :=
    readStore fun s => .ok (s.state.producerEventCheckpoints.get? sessionId)
  getRecentEvent eventId := readStore fun s => .ok (recentEvent s.state eventId)
  queuePendingEvent event session fingerprint :=
    queuePendingEvent text event session (some fingerprint)
  queuePendingSessionHandle := queuePendingSessionHandle text
  markCommandOutcomeUnknownIfPresent := markCommandOutcomeUnknownIfPresent text

end

end Ariava.StateStore
