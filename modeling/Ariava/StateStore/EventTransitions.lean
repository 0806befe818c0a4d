import Ariava.StateStore.SessionTransitions

/-!
# `Ariava.StateStore.EventTransitions`: recent events, reservations and checkpoints

The pure transitions of `event-transitions.ts`, with `assertEventSessionBinding` and
`producerReservationKey` of `state-codec.ts`, which they share with the spool transactions.
A producer reservation binds the content of an event to its id. A checkpoint is the last
accepted source tuple of a Session.
-/

set_option autoImplicit false

namespace Ariava.StateStore

open Ariava.Lib
open Ariava.Protocol

/-- `producerReservationKey`. -/
def producerReservationKey (sessionId fingerprint : String) : String :=
  sessionId ++ "\n" ++ fingerprint

/-- `assertEventSessionBinding`: the Session is the one that the event leaves. -/
def assertEventSessionBinding (event : CanonicalEvent) (session : CanonicalSessionState) :
    Except Thrown Unit :=
  throwIf (decide (event.hostId ≠ session.hostId) || decide (event.sessionId ≠ session.sessionId)
      || decide (event.provider ≠ session.provider) || decide (event.status ≠ session.status)
      || decide (session.lastEventId ≠ some event.eventId))
    (.typeError "pending Event requires its corresponding terminal Session snapshot")

/-- `sameEventCompletion`. -/
def sameEventCompletion (left right : EventUploadCompletionV1) : Bool :=
  decide (left.eventId = right.eventId) && decide (left.sessionId = right.sessionId)
    && decide (left.revision = right.revision)
    && decide (left.eventContentId = right.eventContentId)
    && decide (left.sessionContentId = right.sessionContentId)

/-- `appendRecentEventTransition`. -/
def appendRecentEventTransition (localeCompare : LocaleCompare) (state : PersistedBridgeState)
    (event : CanonicalEvent) : StateTransition Unit :=
  .next { state with
    recentEvents := retainRecentEvents localeCompare (event :: state.recentEvents)
      state.pendingHandles } ()

/-- `isNewerTerminalSession`. An empty event id counts as absent. -/
def isNewerTerminalSession (localeCompare : LocaleCompare)
    (current pending : CanonicalSessionState) : Bool :=
  decide (current.lastEventId.getD "" ≠ "") && decide (current.lastEventId ≠ pending.lastEventId)
    && decide (localeCompare current.updatedAt pending.updatedAt ≠ .lt)

/-- The bound on the reservations. -/
def maxProducerReservations : Nat := 200

/-- The reservations with one written, bounded to the latest. -/
def withReservation (reservations : Dict String PersistedProducerEventReservationV1)
    (reservation : PersistedProducerEventReservationV1) :
    Dict String PersistedProducerEventReservationV1 :=
  (reservations.set (producerReservationKey reservation.sessionId reservation.fingerprint)
    reservation).takeLast maxProducerReservations

/-- The reservation that a state holds for a Session and a fingerprint. -/
def reservationOf (state : PersistedBridgeState) (sessionId fingerprint : String) :
    Option PersistedProducerEventReservationV1 :=
  state.producerEventReservations.get? (producerReservationKey sessionId fingerprint)

/-- The conflict test of a reservation against the existing one. -/
def assertReservationAgrees (existing : Option PersistedProducerEventReservationV1)
    (reservation : PersistedProducerEventReservationV1) : Except Thrown Unit :=
  throwIf (existing.any fun reserved => decide (reserved.eventId ≠ reservation.eventId)
      || decide (reserved.createdAt ≠ reservation.createdAt))
    (.typeError "producer Event reservation conflict")

/-- `reserveProducerEventTransition`. -/
def reserveProducerEventTransition (state : PersistedBridgeState)
    (reservation : PersistedProducerEventReservationV1) :
    Except Thrown (StateTransition Unit) := do
  let existing := reservationOf state reservation.sessionId reservation.fingerprint
  assertReservationAgrees existing reservation
  return if existing.isSome then .unchanged ()
    else .next { state with
      producerEventReservations := withReservation state.producerEventReservations reservation } ()

/-- `reserveProducerEventWithCheckpointTransition`. -/
def reserveProducerEventWithCheckpointTransition (state : PersistedBridgeState)
    (reservation : PersistedProducerEventReservationV1)
    (checkpoint : ProducerEventSourceCheckpointV1) : Except Thrown (StateTransition Unit) := do
  throwIf (decide (checkpoint.sessionId ≠ reservation.sessionId))
    (.typeError "producer Event checkpoint session mismatch")
  let existing := reservationOf state reservation.sessionId reservation.fingerprint
  assertReservationAgrees existing reservation
  return .next { state with
    producerEventReservations :=
      if existing.isSome then state.producerEventReservations
      else withReservation state.producerEventReservations reservation
    producerEventCheckpoints :=
      state.producerEventCheckpoints.set checkpoint.sessionId checkpoint } ()

/-! ### What the transitions do -/

section
variable {state : PersistedBridgeState}

theorem assertEventSessionBinding_eq_ok {event : CanonicalEvent}
    {session : CanonicalSessionState} :
    assertEventSessionBinding event session = .ok () ↔
      event.hostId = session.hostId ∧ event.sessionId = session.sessionId
        ∧ event.provider = session.provider ∧ event.status = session.status
        ∧ session.lastEventId = some event.eventId := by
  rw [assertEventSessionBinding, throwIf_eq_ok]
  simp only [Bool.or_eq_false_iff, decide_eq_false_iff_not, not_not, and_assoc]

/-- An accepted source writes its checkpoint. The other fields but the reservations stay. -/
theorem reserveProducerEventWithCheckpointTransition_cases
    {reservation : PersistedProducerEventReservationV1}
    {checkpoint : ProducerEventSourceCheckpointV1} {t : StateTransition Unit}
    (h : reserveProducerEventWithCheckpointTransition state reservation checkpoint = .ok t) :
    checkpoint.sessionId = reservation.sessionId ∧
      assertReservationAgrees (reservationOf state reservation.sessionId reservation.fingerprint)
        reservation = .ok () ∧
      t = .next { state with
        producerEventReservations :=
          if (reservationOf state reservation.sessionId reservation.fingerprint).isSome then
            state.producerEventReservations
          else withReservation state.producerEventReservations reservation
        producerEventCheckpoints :=
          state.producerEventCheckpoints.set checkpoint.sessionId checkpoint } () := by
  rw [reserveProducerEventWithCheckpointTransition, check_bind_eq_ok, throwIf_eq_ok,
    decide_eq_false_iff_not, not_not] at h
  obtain ⟨hsession, h⟩ := h
  rw [check_bind_eq_ok] at h
  obtain ⟨hagrees, h⟩ := h
  cases h
  exact ⟨hsession, hagrees, rfl⟩

end

end Ariava.StateStore
