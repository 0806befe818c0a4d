import Ariava.AgentAdapter.Registry

/-!
# `Ariava.AgentAdapter.EventPush`: the pushes of terminal events, up to what they stage

`pushEvent` is the push without a producer source. Together with `pushEventSource` it is what
stages terminal events.

A push that gets past its checks stages a tuple, has the store accept it, and promotes it. The
programs `eventStaging` and `sourceStaging` are the two pushes up to the point where the tuple
is staged. They say which tuple that is, and by which call the store accepts it.
-/

set_option autoImplicit false

namespace Ariava.AgentAdapter

open Ariava.Lib
open Ariava.Protocol
open Ariava.StateStore

/-- The plan for an event, with the delayed event and the reservation it was made from. -/
structure PlannedEvent where
  existing : Option PendingTerminal
  persistedReservation : Option PersistedProducerEventReservationV1
  plan : TerminalEventPlan

/-- The call by which the store accepts a staged tuple. A tuple that was accepted before
needs none. -/
inductive TupleAcceptance
  | accepted
  | event (reservation : PersistedProducerEventReservationV1)
  | source (input : ProducerEventSourceInput)
deriving DecidableEq

/-- The call of an acceptance. -/
def TupleAcceptance.call {ω : Type} (store : RegistryStateStore ω) :
    TupleAcceptance → Effect Thrown ω Unit
  | accepted => pure ()
  | event reservation => store.reserveProducerEvent reservation
  | source input => store.acceptProducerEventSource input

/-- What a push is about to stage, and how the store accepts it. -/
structure Staging where
  tuple : PendingTerminal
  acceptance : TupleAcceptance
deriving DecidableEq

namespace AgentAdapterRegistry

section
variable {ω : Type} (text : ProtocolText) (store : RegistryStateStore ω) (at_ : RegistryReadings)

/-! ### The push without a source -/

/-- The plan for an event: what `pushEvent` and `pushEventSource` read before their
`switch`. -/
def planEvent (sessionId : String) (session : RegisteredSession)
    (input : AgentAdapterEventInput) (fingerprint : String) : RegistryEffect ω PlannedEvent := do
  let registry ← read
  let existing := registry.terminals.delayedTerminalEvents.get? sessionId
  let duplicate ← Effect.ofExcept (isLiveDuplicate text existing fingerprint)
  let persistedReservation ← reservationFor store duplicate sessionId fingerprint
  let persistedTuple ← tupleFor store persistedReservation fingerprint
  let plan ← Effect.ofExcept (planTerminalEvent text {
    session := session
    livePending := existing
    persistedReservation := persistedReservation
    persistedTuple := persistedTuple
    hasPendingCommandWork := registry.commands.hasPendingCommandWork sessionId
    input := input
    eventId := eventIdFor at_ duplicate existing persistedReservation })
  return ⟨existing, persistedReservation, plan⟩

/-- Reserve a new tuple, stage it and promote it. -/
def reserveAndStage (sessionId fingerprint : String) (tuple : PendingTerminal)
    (reservation : PersistedProducerEventReservationV1) (promoteNow : Bool) :
    RegistryEffect ω String := do
  storeCall (store.reserveProducerEventTuple tuple.event tuple.session fingerprint)
  stageTerminal sessionId tuple
  storeCall (store.reserveProducerEvent reservation)
  promoteWhen text store at_ promoteNow sessionId tuple fingerprint
  return tuple.event.eventId

/-- Carry out a plan: the `switch` of `pushEvent`. The two cases that the plan excludes
throw. -/
def carryOutEventPlan (sessionId fingerprint : String) (existing : Option PendingTerminal)
    (persistedReservation : Option PersistedProducerEventReservationV1) :
    TerminalEventPlan → RegistryEffect ω String
  | .reject thrown => throw thrown
  | .returnLiveDuplicate promoteNow =>
      match existing with
      | none => throw (.error "a live duplicate has a delayed event")
      | some duplicate => do
          promoteWhen text store at_ promoteNow sessionId duplicate fingerprint
          return duplicate.event.eventId
  | .returnReservationWithoutTuple eventId => return eventId
  | .stageReservedTuple tuple promoteNow =>
      match persistedReservation with
      | none => throw (.error "a reserved tuple has a reservation")
      | some reservation => do
          stageTerminal sessionId tuple
          promoteWhen text store at_ promoteNow sessionId tuple fingerprint
          return reservation.eventId
  | .cancelOlderAndReserve tuple reservation promoteNow => do
      cancelTerminalRetry text store at_ sessionId {}
      reserveAndStage text store at_ sessionId fingerprint tuple reservation promoteNow
  | .reserveNewTuple tuple reservation promoteNow =>
      reserveAndStage text store at_ sessionId fingerprint tuple reservation promoteNow

/-- `pushEvent`. -/
def pushEvent (sessionId : String) (value : AgentAdapterEventInput) :
    RegistryEffect ω String := do
  let registry ← read
  match registry.sessions.get? sessionId with
  | none => throw (requestValidationError ("Session " ++ sessionId ++ " is not registered"))
  | some session =>
      let input ← Effect.ofExcept (acceptProducerEventInput text sessionId session value)
      let fingerprint ← Effect.ofExcept (producerEventFingerprint text input)
      let planned ← planEvent text store at_ sessionId session input fingerprint
      carryOutEventPlan text store at_ sessionId fingerprint planned.existing
        planned.persistedReservation planned.plan

/-! ### What is staged -/

/-- The call that accepts a reserved tuple, and the one that accepts a new tuple. -/
structure Acceptances where
  reserved : PersistedProducerEventReservationV1 → TupleAcceptance
  new : PersistedProducerEventReservationV1 → TupleAcceptance

/-- `pushEvent` records the reservation of a new tuple. -/
def eventAcceptances : Acceptances where
  reserved _ := .accepted
  new := .event

/-- `pushEventSource` commits the source of either. -/
def sourceAcceptances (sessionId : String) (request : AgentAdapterEventRequest)
    (fingerprint : String) : Acceptances :=
  let accept (reservation : PersistedProducerEventReservationV1) : TupleAcceptance := .source {
    reservation := reservation
    checkpoint := {
      sessionId := sessionId
      producerEventId := request.producerEventId
      producerEventOrder := request.producerEventOrder
      eventId := reservation.eventId
      fingerprint := fingerprint
      createdAt := at_.nowIso } }
  ⟨accept, accept⟩

/-- A plan, up to what it stages. -/
def planStaging (acceptances : Acceptances) (sessionId fingerprint : String)
    (persistedReservation : Option PersistedProducerEventReservationV1) :
    TerminalEventPlan → RegistryEffect ω (Option Staging)
  | .reject thrown => throw thrown
  | .returnLiveDuplicate _ => return none
  | .returnReservationWithoutTuple _ => return none
  | .stageReservedTuple tuple _ =>
      return persistedReservation.map fun reservation => ⟨tuple, acceptances.reserved reservation⟩
  | .cancelOlderAndReserve tuple reservation _ => do
      cancelTerminalRetry text store at_ sessionId {}
      storeCall (store.reserveProducerEventTuple tuple.event tuple.session fingerprint)
      return some ⟨tuple, acceptances.new reservation⟩
  | .reserveNewTuple tuple reservation _ => do
      storeCall (store.reserveProducerEventTuple tuple.event tuple.session fingerprint)
      return some ⟨tuple, acceptances.new reservation⟩

/-- A new event, up to what it stages. -/
def newStaging (acceptances : Acceptances) (sessionId : String) (session : RegisteredSession)
    (input : AgentAdapterEventInput) (fingerprint : String) :
    RegistryEffect ω (Option Staging) := do
  let planned ← planEvent text store at_ sessionId session input fingerprint
  planStaging text store at_ acceptances sessionId fingerprint planned.persistedReservation
    planned.plan

/-- `pushEvent`, up to what it stages. -/
def eventStaging (sessionId : String) (value : AgentAdapterEventInput) :
    RegistryEffect ω (Option Staging) := do
  let registry ← read
  match registry.sessions.get? sessionId with
  | none => throw (requestValidationError ("Session " ++ sessionId ++ " is not registered"))
  | some session =>
      let input ← Effect.ofExcept (acceptProducerEventInput text sessionId session value)
      let fingerprint ← Effect.ofExcept (producerEventFingerprint text input)
      newStaging text store at_ eventAcceptances sessionId session input fingerprint

/-- A source that the checkpoint already has, up to what it stages. -/
def acceptedSourceStaging (sessionId : String) (checkpoint : ProducerEventSourceCheckpointV1)
    (fingerprint : String) : RegistryEffect ω (Option Staging) := do
  let reservation ← storeCall (store.getProducerEventReservation sessionId fingerprint)
  match reservation with
  | none => return none
  | some reserved =>
      if reserved.eventId ≠ checkpoint.eventId then return none
      else
        let tuple ← storeCall (store.getProducerEventTuple checkpoint.eventId fingerprint)
        return tuple.map fun pending => ⟨pending, .accepted⟩

/-- `pushEventSource`, up to what it stages. -/
def sourceStaging (sessionId : String) (request : AgentAdapterEventRequest) :
    RegistryEffect ω (Option Staging) := do
  let registry ← read
  match registry.sessions.get? sessionId with
  | none => throw (sessionNotFoundError sessionId)
  | some session =>
      if validateAgentAdapterEventRequest request then
        let input ← Effect.ofExcept (acceptProducerEventInput text sessionId session request.event)
        let fingerprint ← Effect.ofExcept (producerEventFingerprint text input)
        let checkpoint ← storeCall (store.getProducerEventCheckpoint sessionId)
        let new := newStaging text store at_ (sourceAcceptances at_ sessionId request fingerprint)
          sessionId session request.event fingerprint
        match checkpoint with
        | none => new
        | some accepted =>
            if accepted.producerEventId = request.producerEventId
                ∧ accepted.producerEventOrder = request.producerEventOrder then
              if accepted.fingerprint ≠ fingerprint then return none
              else acceptedSourceStaging store sessionId accepted fingerprint
            else if orderIncreases accepted request then new
            else throw (orderConflictError
              "producerEventOrder must be strictly increasing per Session")
      else throw (requestValidationError "invalid Event request")

end

/-! ### The plan -/

section
variable {ω : Type} {text : ProtocolText} {store : RegistryStateStore ω} {at_ : RegistryReadings}
  {sessionId fingerprint : String}

/-- The second half of `pushEventSource` plans the event and carries the plan out. -/
theorem acceptNewSource_eq {session : RegisteredSession} {request : AgentAdapterEventRequest} :
    acceptNewSource text store at_ sessionId session request fingerprint
      = (planEvent text store at_ sessionId session request.event fingerprint >>= fun planned =>
          carryOutPlan text store at_ sessionId request fingerprint planned.existing
            planned.persistedReservation planned.plan) := by
  unfold planEvent
  simp only [Effect.bind_bind]
  rfl

end

end AgentAdapterRegistry

end Ariava.AgentAdapter
