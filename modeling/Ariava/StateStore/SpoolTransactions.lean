import Ariava.AgentAdapter.RegistryTypes
import Ariava.StateStore.EventTransitions
import Ariava.StateStore.Store

/-!
# `Ariava.StateStore.SpoolTransactions`: the workflows over the state and the spool

`spool-transactions.ts`. A workflow writes a journal to one file before it changes the
other, so that a restart finds what was under way: a pending event has its source in the
spool before the state names it, a cancellation has its intent there, and the completion of
an upload is journaled in the state.

The hooks that observe the steps of a completion are left out.
-/

set_option autoImplicit false

namespace Ariava.StateStore

open Ariava.Lib
open Ariava.Protocol
open Ariava.AgentAdapter (PendingTerminal TerminalEventCancellationInput)

/-- Read the store without changing it. -/
def readStore {α : Type} (f : BridgeStore → Except Thrown α) : StoreEffect α := fun s => (f s, s)

/-! ### Reading the spool -/

/-- `JSON.parse` of the decoded plaintext. -/
def parsePlaintext : SpoolPlaintext → Except Thrown SpoolPlaintext
  | .notUtf8 _ => .error (.typeError "The encoded data was not valid for encoding utf-8")
  | .notJson _ => .error (.error "JSON Parse error")
  | plaintext => .ok plaintext

/-- `openSpoolJson`. -/
def openSpoolJson (items : List SpoolItem) (spoolItemId : String) :
    Except Thrown (Option SpoolPlaintext) :=
  match spoolGet items spoolItemId with
  | none => .ok none
  | some item => do return some (← parsePlaintext item.plaintext)

/-- The pending tuple of a plaintext. A record of another kind has no event to read. -/
def pendingTuple (plaintext : SpoolPlaintext) :
    Except Thrown (PendingTerminal × ProducerFingerprint) := do
  match ← parsePlaintext plaintext with
  | .pendingEvent event session producerFingerprint =>
      assertEventSessionBinding event session
      return (⟨event, session⟩, producerFingerprint)
  | _ => throw (.typeError "undefined is not an object")

/-- `openProducerTuple`. -/
def openProducerTuple (items : List SpoolItem) (kind : LocalSpoolPayloadKind)
    (eventId fingerprint : String) : Except Thrown (Option PendingTerminal) :=
  match (spoolList items kind).find? fun item => decide (item.eventId = some eventId) with
  | none => .ok none
  | some item => do
      let (tuple, producerFingerprint) ← pendingTuple item.plaintext
      throwIf (decide (producerFingerprint ≠ .text fingerprint))
        (.typeError "pending Event producer fingerprint is invalid")
      return some tuple

/-- `getProducerEventTuple`. -/
def producerEventTuple (items : List SpoolItem) (eventId fingerprint : String) :
    Except Thrown (Option PendingTerminal) := do
  match ← openProducerTuple items .eventReservationV3 eventId fingerprint with
  | some tuple => return some tuple
  | none => openProducerTuple items .eventSourceV3 eventId fingerprint

/-- `PendingEventDescriptor`. -/
structure PendingEventDescriptor where
  eventId : String
  sessionId : String
deriving DecidableEq

/-- `PendingEventSource`. -/
structure PendingEventSource where
  event : CanonicalEvent
  session : CanonicalSessionState
  producerFingerprint : Option String
deriving DecidableEq

/-- Why a pending source does not load. -/
inductive PendingSourceFailure
  | utf8Invalid
  | jsonInvalid
  | shapeInvalid
  | bindingInvalid
  | missing
deriving DecidableEq

/-- `listPendingEventDescriptors`. -/
def pendingEventDescriptors (s : BridgeStore) : List PendingEventDescriptor :=
  ((spoolList s.items .eventSourceV3).filter fun item =>
      item.eventId.all fun eventId => !s.state.terminalCancellations.contains eventId).map
    fun item => ⟨item.eventId.getD item.spoolItemId, item.sessionId⟩

/-- `isCanonicalEventShape`, on an event of the right types. -/
def isCanonicalEventShape (text : ProtocolText) (event : CanonicalEvent) : Bool :=
  isCanonicalTimestampText event.createdAt
    && match event.kind with
      | .done => true
      | .needHuman context => isNeedHumanContext text context

/-- `isCanonicalSessionShape`, on a Session of the right types. -/
def isCanonicalSessionShape (session : CanonicalSessionState) : Bool :=
  isCanonicalTimestampText session.updatedAt && decide (session.lastEventId ≠ some "")
    && isOptionalTimestamp session.snoozedUntil

/-- `openPendingEventSource`. The tuple must be bound to the descriptor too. -/
def openPendingEventSource (text : ProtocolText) (items : List SpoolItem)
    (descriptor : PendingEventDescriptor) : Except PendingSourceFailure PendingEventSource :=
  match (spoolGet items descriptor.eventId).map SpoolItem.plaintext with
  | none => .error .missing
  | some (.notUtf8 _) => .error .utf8Invalid
  | some (.notJson _) => .error .jsonInvalid
  | some (.pendingEvent event session producerFingerprint) =>
      if isCanonicalEventShape text event && isCanonicalSessionShape session then
        if assertEventSessionBinding event session = .ok ()
            ∧ event.eventId = descriptor.eventId ∧ session.sessionId = descriptor.sessionId then
          match producerFingerprint with
          | .notText => .error .jsonInvalid
          | .absent => .ok ⟨event, session, none⟩
          | .text fingerprint => .ok ⟨event, session, some fingerprint⟩
        else .error .bindingInvalid
      else .error .shapeInvalid
  | some _ => .error .shapeInvalid

section
variable (text : ProtocolText)

/-! ### Pending events -/

/-- `reserveProducerEvent`. -/
def reserveProducerEvent (reservation : PersistedProducerEventReservationV1) :
    StoreEffect Unit :=
  commitTransition fun state => reserveProducerEventTransition state reservation

/-- The item of a pending tuple. -/
def pendingItem (event : CanonicalEvent) (session : CanonicalSessionState)
    (producerFingerprint : Option String) (payloadKind : LocalSpoolPayloadKind) : SpoolItem where
  spoolItemId := event.eventId
  sessionId := event.sessionId
  eventId := some event.eventId
  payloadKind := payloadKind
  createdAt := event.createdAt
  plaintext := .pendingEvent event session
    (match producerFingerprint with
      | none => .absent
      | some fingerprint => .text fingerprint)

/-- `enqueuePendingEvent`: the stored plaintext must be the tuple. -/
def enqueuePendingEvent (event : CanonicalEvent) (session : CanonicalSessionState)
    (producerFingerprint : Option String) (payloadKind : LocalSpoolPayloadKind) :
    StoreEffect Unit := do
  let input := pendingItem event session producerFingerprint payloadKind
  let stored ← enqueue input
  Effect.ofExcept (throwIf (decide (stored.plaintext ≠ input.plaintext))
    (.typeError "pending Event retry journal conflicts with the bound tuple"))

/-- `reserveProducerEventTuple`. -/
def reserveProducerEventTuple (event : CanonicalEvent) (session : CanonicalSessionState)
    (fingerprint : String) : StoreEffect Unit :=
  enqueuePendingEvent event session (some fingerprint) .eventReservationV3

/-- The tuple that the spool holds for an event must be the given one. -/
def assertStoredTuple (kind : LocalSpoolPayloadKind) (event : CanonicalEvent)
    (session : CanonicalSessionState) (fingerprint : String) : StoreEffect Unit :=
  readStore fun s => do
    let existing ← openProducerTuple s.items kind event.eventId fingerprint
    throwIf (decide (existing ≠ some ⟨event, session⟩))
      (.typeError "pending Event retry journal conflicts with the bound tuple")

/-- `promoteProducerEventTuple`. -/
def promoteProducerEventTuple (event : CanonicalEvent) (session : CanonicalSessionState)
    (fingerprint : String) : StoreEffect Unit := do
  assertStoredTuple .eventReservationV3 event session fingerprint
  replace [event.eventId] [pendingItem event session (some fingerprint) .eventSourceV3]

/-- The first part of `queuePendingEvent`: the source is in the spool. -/
def journalPendingEvent (event : CanonicalEvent) (session : CanonicalSessionState)
    (producerFingerprint : Option String) : StoreEffect Unit := do
  let s ← get
  match producerFingerprint, (spoolGet s.items event.eventId).map SpoolItem.payloadKind with
  | some fingerprint, some .eventReservationV3 =>
      promoteProducerEventTuple event session fingerprint
  | some fingerprint, some .eventSourceV3 =>
      assertStoredTuple .eventSourceV3 event session fingerprint
  | _, _ => enqueuePendingEvent event session producerFingerprint .eventSourceV3

/-- `applyPendingEventState`. -/
def applyPendingEventState (state : PersistedBridgeState) (event : CanonicalEvent)
    (session : CanonicalSessionState) : PersistedBridgeState :=
  { state with
      recentEvents := retainRecentEvents text.localeCompare
        (event :: state.recentEvents.filter fun other => decide (other.eventId ≠ event.eventId))
        state.pendingHandles
      sessions := state.sessions.set event.sessionId session
      sessionDrivers := state.sessionDrivers.set event.sessionId event.provider }

/-- The reservation that `applyProducerReservation` writes. -/
def reservationFor (event : CanonicalEvent) (fingerprint : String) :
    PersistedProducerEventReservationV1 :=
  ⟨event.eventId, event.sessionId, fingerprint, event.createdAt⟩

/-- `applyProducerReservation`. The bound on the reservations is not applied here. -/
def applyProducerReservation (state : PersistedBridgeState) (event : CanonicalEvent)
    (fingerprint : String) : Except Thrown PersistedBridgeState := do
  throwIf ((reservationOf state event.sessionId fingerprint).any fun existing =>
      decide (existing.eventId ≠ event.eventId))
    (.typeError "producer Event reservation conflict")
  return { state with
    producerEventReservations := state.producerEventReservations.set
      (producerReservationKey event.sessionId fingerprint) (reservationFor event fingerprint) }

/-- Write the reservation of a fingerprinted event to the state in memory. -/
def applyReservationWhen (event : CanonicalEvent) (producerFingerprint : Option String) :
    StoreEffect Unit :=
  match producerFingerprint with
  | none => pure ()
  | some fingerprint => do
      let s ← get
      let state ← Effect.ofExcept (applyProducerReservation s.state event fingerprint)
      setState state

/-- `queuePendingEvent`. Only a failed write rolls the state in memory back. -/
def queuePendingEvent (event : CanonicalEvent) (session : CanonicalSessionState)
    (producerFingerprint : Option String) : StoreEffect Unit := do
  Effect.ofExcept (assertEventSessionBinding event session)
  journalPendingEvent event session producerFingerprint
  let previous ← get
  setState (applyPendingEventState text previous.state event session)
  applyReservationWhen event producerFingerprint
  tryCatch persist fun thrown => do
    setState previous.state
    throw thrown

/-! ### Terminal cancellations -/

/-- The cancellation that a call requests. -/
def requestedCancellation (input : TerminalEventCancellationInput) :
    PersistedTerminalCancellationV1 where
  sessionId := input.sessionId
  eventId := input.eventId
  fingerprint := input.fingerprint
  removeSession := input.removeSession
  createdAt := input.createdAt

/-- The intent that the spool holds for a cancellation, which must be for the same one. -/
def existingCancellation (items : List SpoolItem) (requested : PersistedTerminalCancellationV1) :
    Except Thrown (Option PersistedTerminalCancellationV1) := do
  match ← openSpoolJson items (terminalCancellationItemId requested.eventId) with
  | none => return none
  | some (.terminalCancellation intent) =>
      throwIf (decide (intent ≠ { requested with createdAt := intent.createdAt }))
        (.typeError "terminal cancellation journal conflict")
      return some intent
  | some _ => throw (.typeError "terminal cancellation journal conflict")

/-- The item of a cancellation intent. -/
def cancellationItem (cancellation : PersistedTerminalCancellationV1) : SpoolItem where
  spoolItemId := terminalCancellationItemId cancellation.eventId
  sessionId := cancellation.sessionId
  eventId := some cancellation.eventId
  payloadKind := .terminalCancellationV3
  createdAt := cancellation.createdAt
  plaintext := .terminalCancellation cancellation

/-- The reservation of a cancelled event is deleted and the cancellation recorded. -/
def recordCancellation (state : PersistedBridgeState)
    (cancellation : PersistedTerminalCancellationV1) : PersistedBridgeState :=
  { state with
      producerEventReservations := state.producerEventReservations.erase
        (producerReservationKey cancellation.sessionId cancellation.fingerprint)
      terminalCancellations :=
        state.terminalCancellations.set cancellation.eventId cancellation }

/-- The Session and the driver that a cancellation leaves. -/
def replaceCancelledSession (state : PersistedBridgeState)
    (input : TerminalEventCancellationInput) : PersistedBridgeState :=
  { state with
      sessions := match input.replacementSession with
        | none => state.sessions
        | some session => state.sessions.set input.sessionId session
      sessionDrivers := match input.nextDriverName with
        | none => state.sessionDrivers
        | some driverName => state.sessionDrivers.set input.sessionId driverName }

/-- The state that `cancelTerminalEvent` commits. -/
def cancelledState (state : PersistedBridgeState) (input : TerminalEventCancellationInput)
    (cancellation : PersistedTerminalCancellationV1) : PersistedBridgeState :=
  let recorded := { state with
    producerEventReservations := state.producerEventReservations.erase
      (producerReservationKey input.sessionId input.fingerprint)
    terminalCancellations := state.terminalCancellations.set input.eventId cancellation }
  if input.removeSession then withoutSession recorded input.sessionId
  else replaceCancelledSession recorded input

/-- `diskHasTerminalCancellation`. -/
def diskHasTerminalCancellation (files : RuntimeFiles)
    (cancellation : PersistedTerminalCancellationV1) : Bool :=
  decide (files.state.terminalCancellations.get? cancellation.eventId = some cancellation)

/-- The commit of a cancellation: after a failed write, the state is adopted when the file
reads back with the cancellation. -/
def commitCancelled (state : PersistedBridgeState)
    (cancellation : PersistedTerminalCancellationV1) : StoreEffect Unit := do
  let before ← get
  tryCatch (commit state) fun thrown => do
    let s ← get
    if before.nextWrite ≠ .unconfirmed ∧ diskHasTerminalCancellation s.files cancellation then
      setState state
    else throw thrown

/-- The state without a recorded cancellation. -/
def clearedCancellation (state : PersistedBridgeState) (eventId : String) :
    PersistedBridgeState :=
  { state with terminalCancellations := state.terminalCancellations.erase eventId }

/-- Remove the source and the intent of a cancellation, when one of them is there. -/
def removeCancelledItems (eventId : String) : StoreEffect Unit := do
  let itemId := terminalCancellationItemId eventId
  let s ← get
  if (spoolGet s.items eventId).isSome ∨ (spoolGet s.items itemId).isSome then
    removeMany [eventId, itemId]
  else pure ()

/-- Remove the items of a cancellation, then its record in the state. -/
def clearCancellation (cancellation : PersistedTerminalCancellationV1) : StoreEffect Unit := do
  removeCancelledItems cancellation.eventId
  let s ← get
  commit (clearedCancellation s.state cancellation.eventId)

/-- `finishTerminalCancellation`. A failed removal leaves the record in the state, and either
error is dropped. -/
def finishTerminalCancellation (cancellation : PersistedTerminalCancellationV1) :
    StoreEffect Unit :=
  tryCatch (clearCancellation cancellation) fun _ => pure ()

/-- The event of a cancellation is reserved, in the state or in the spool. -/
def isCancellable (s : BridgeStore) (input : TerminalEventCancellationInput) : Bool :=
  (reservationOf s.state input.sessionId input.fingerprint).any
      (fun reservation => decide (reservation.eventId = input.eventId))
    || decide ((spoolGet s.items input.eventId).map SpoolItem.payloadKind = some .eventReservationV3)

/-- The cancellation that the spool journals: the existing intent, else the requested one. -/
def journalCancellation (existing : Option PersistedTerminalCancellationV1)
    (requested : PersistedTerminalCancellationV1) :
    StoreEffect PersistedTerminalCancellationV1 :=
  match existing with
  | some cancellation => pure cancellation
  | none => do
      let _ ← enqueue (cancellationItem requested)
      return requested

/-- `cancelTerminalEvent`. -/
def cancelTerminalEvent (input : TerminalEventCancellationInput) : StoreEffect Unit := do
  let s ← get
  if isCancellable s input then
    let requested := requestedCancellation input
    let existing ← Effect.ofExcept (existingCancellation s.items requested)
    let cancellation ← journalCancellation existing requested
    let t ← get
    commitCancelled (cancelledState t.state input cancellation) cancellation
    finishTerminalCancellation cancellation
  else pure ()

/-- `assertTerminalCancellationSource`. -/
def assertTerminalCancellationSource (items : List SpoolItem)
    (cancellation : PersistedTerminalCancellationV1) : Except Thrown Unit :=
  match spoolGet items cancellation.eventId with
  | none => .ok ()
  | some source => do
      throwIf (decide (source.payloadKind ≠ .eventReservationV3)
          || decide (source.eventId ≠ some cancellation.eventId)
          || decide (source.sessionId ≠ cancellation.sessionId))
        (.typeError "terminal cancellation source conflicts with state")
      let tuple ← openProducerTuple items .eventReservationV3 cancellation.eventId
        cancellation.fingerprint
      throwIf (!tuple.any fun found => decide (found.event.eventId = cancellation.eventId)
          && decide (found.event.sessionId = cancellation.sessionId)
          && decide (found.session.sessionId = cancellation.sessionId))
        (.typeError "terminal cancellation source conflicts with state")

/-- Recovery must have cleared the cancellation. -/
def assertCancellationCleared (cancellation : PersistedTerminalCancellationV1) :
    StoreEffect Unit :=
  readStore fun s => throwIf (s.state.terminalCancellations.contains cancellation.eventId)
    (.error "terminal cancellation recovery requires retry")

/-- The intents of the spool by event: the last item of an event counts. -/
def cancellationIntents (items : List SpoolItem) : Dict (Option String) SpoolItem :=
  (spoolList items .terminalCancellationV3).foldl (fun intents item =>
    intents.set item.eventId item) ∅

/-- The intent of a recorded cancellation must be the cancellation. -/
def assertIntentAgrees (intents : Dict (Option String) SpoolItem)
    (cancellation : PersistedTerminalCancellationV1) : StoreEffect Unit :=
  match intents.get? (some cancellation.eventId) with
  | none => pure ()
  | some item => readStore fun s => do
      let persisted ← openSpoolJson s.items item.spoolItemId
      throwIf (decide (persisted ≠ some (.terminalCancellation cancellation)))
        (.typeError "terminal cancellation recovery journal conflicts with state")

/-- The recovery of a cancellation that the state records. -/
def recoverRecordedCancellation (intents : Dict (Option String) SpoolItem)
    (cancellation : PersistedTerminalCancellationV1) : StoreEffect Unit := do
  assertIntentAgrees intents cancellation
  readStore fun s => assertTerminalCancellationSource s.items cancellation
  finishTerminalCancellation cancellation
  assertCancellationCleared cancellation

/-- The state after the recovery of a cancellation that only the spool has. The producer
checkpoint of a removed Session is not among what it deletes. -/
def recoveredCancellationState (state : PersistedBridgeState)
    (cancellation : PersistedTerminalCancellationV1) : PersistedBridgeState :=
  let recorded := recordCancellation state cancellation
  if cancellation.removeSession then { recorded with
    sessions := recorded.sessions.erase cancellation.sessionId
    sessionDrivers := recorded.sessionDrivers.erase cancellation.sessionId }
  else recorded

/-- The intent of an item, whose reserved source must be there. -/
def recoverableIntent (s : BridgeStore) (item : SpoolItem) :
    Except Thrown PersistedTerminalCancellationV1 := do
  match ← openSpoolJson s.items item.spoolItemId with
  | some (.terminalCancellation cancellation) =>
      let reservation := reservationOf s.state cancellation.sessionId cancellation.fingerprint
      let source := spoolGet s.items cancellation.eventId
      throwIf (!(reservation.any fun reserved => decide (reserved.eventId = cancellation.eventId))
          || !source.any fun found => decide (found.payloadKind = .eventReservationV3)
            && decide (found.sessionId = cancellation.sessionId))
        (.typeError "terminal cancellation recovery journal conflicts with pending Event evidence")
      assertTerminalCancellationSource s.items cancellation
      return cancellation
  | _ => throw (.typeError
      "terminal cancellation recovery journal conflicts with pending Event evidence")

/-- The recovery of a cancellation that only the spool has. -/
def recoverIntent (item : SpoolItem) : StoreEffect Unit := do
  let cancellation ← readStore fun s => recoverableIntent s item
  let s ← get
  commit (recoveredCancellationState s.state cancellation)
  finishTerminalCancellation cancellation
  assertCancellationCleared cancellation

/-- `reconcileTerminalCancellations`. -/
def reconcileTerminalCancellations : StoreEffect Unit := do
  let s ← get
  let intents := cancellationIntents s.items
  let recorded := s.state.terminalCancellations.values
  Effect.forEach recorded (recoverRecordedCancellation intents)
  let remaining := intents.filter fun eventId _ =>
    recorded.all fun cancellation => decide (eventId ≠ some cancellation.eventId)
  Effect.forEach remaining.values recoverIntent

/-! ### Recovery of pending events -/

/-- One round of `reconcileProducerEventReservations`: the state, changed or not. -/
def reconcileReservation (changed : PersistedBridgeState × Bool) (item : SpoolItem) :
    Except Thrown (PersistedBridgeState × Bool) := do
  let (tuple, producerFingerprint) ← pendingTuple item.plaintext
  match producerFingerprint with
  | .text fingerprint =>
      match reservationOf changed.1 tuple.event.sessionId fingerprint with
      | none => return (← applyProducerReservation changed.1 tuple.event fingerprint, true)
      | some existing =>
          throwIf (decide (existing.eventId ≠ tuple.event.eventId))
            (.typeError "pending Event producer reservation conflicts with state")
          return changed
  | _ => throw (.typeError "pending Event producer fingerprint is invalid")

/-- Change the state in memory item by item, then persist it when it changed. A throw keeps
what was changed by then. -/
def reconcileEach {α : Type} (rest : List α)
    (step : PersistedBridgeState × Bool → α → Except Thrown (PersistedBridgeState × Bool))
    (changed : Bool) : StoreEffect Unit :=
  match rest with
  | [] => if changed then persist else pure ()
  | item :: rest => do
      let s ← get
      let (state, changed) ← Effect.ofExcept (step (s.state, changed) item)
      setState state
      reconcileEach rest step changed

/-- `reconcileProducerEventReservations`. -/
def reconcileProducerEventReservations : StoreEffect Unit := do
  let s ← get
  reconcileEach (spoolList s.items .eventReservationV3) reconcileReservation false

/-- The reservation of a pending source, added when it is missing. -/
def reconcileSourceReservation (changed : PersistedBridgeState × Bool) (event : CanonicalEvent)
    (producerFingerprint : Option String) : Except Thrown (PersistedBridgeState × Bool) :=
  match producerFingerprint with
  | none => .ok changed
  | some fingerprint =>
      match reservationOf changed.1 event.sessionId fingerprint with
      | none => do return (← applyProducerReservation changed.1 event fingerprint, true)
      | some existing => do
          throwIf (decide (existing.eventId ≠ event.eventId))
            (.typeError "pending Event producer reservation conflicts with state")
          return changed

/-- The state names the event as the last one of its Session. -/
def isCurrentPendingEvent (state : PersistedBridgeState) (event : CanonicalEvent) : Bool :=
  (state.recentEvents.any fun recent => decide (recent.eventId = event.eventId))
    && decide (((state.sessions.get? event.sessionId).bind (·.lastEventId)) = some event.eventId)

/-- One round of `reconcilePendingEventJournal`. A source that does not load is left to the
upload. -/
def reconcilePendingSource (items : List SpoolItem) (changed : PersistedBridgeState × Bool)
    (descriptor : PendingEventDescriptor) : Except Thrown (PersistedBridgeState × Bool) :=
  match openPendingEventSource text items descriptor with
  | .error _ => .ok changed
  | .ok source => do
      let reserved ← reconcileSourceReservation changed source.event source.producerFingerprint
      let newer := (changed.1.sessions.get? source.event.sessionId).any fun current =>
        isNewerTerminalSession text.localeCompare current source.session
      return if isCurrentPendingEvent changed.1 source.event || newer then reserved
        else (applyPendingEventState text reserved.1 source.event source.session, true)

/-- `reconcilePendingEventJournal`. -/
def reconcilePendingEventJournal : StoreEffect Unit := do
  let s ← get
  reconcileEach (pendingEventDescriptors s) (reconcilePendingSource text s.items) false

/-! ### Upload completions -/

/-- The state with a completion written. -/
def withCompletion (state : PersistedBridgeState) (completion : EventUploadCompletionV1) :
    PersistedBridgeState :=
  { state with eventUploadCompletions :=
      state.eventUploadCompletions.set completion.eventId completion }

/-- Change the state in memory and persist it. -/
def mutateAndPersist (f : PersistedBridgeState → PersistedBridgeState) : StoreEffect Unit := do
  modify fun s => { s with state := f s.state }
  persist

/-- `beginEventUploadCompletion`. -/
def beginEventUploadCompletion (completion : EventUploadCompletionV1) : StoreEffect Unit := do
  let s ← get
  match s.state.eventUploadCompletions.get? completion.eventId with
  | some existing =>
      if sameEventCompletion existing completion then pure ()
      else throw (.typeError "event completion journal conflict")
  | none => mutateAndPersist fun state => withCompletion state completion

/-- `commitSessionRevision`. -/
def commitSessionRevision (sessionId : String) (revision : Nat) : StoreEffect Unit :=
  applyTransition fun state => commitSessionRevisionTransition state sessionId revision

/-- `updateEventCompletion`. -/
def updateEventCompletion (eventId : String)
    (patch : EventUploadCompletionV1 → EventUploadCompletionV1) : StoreEffect Unit := do
  let s ← get
  match s.state.eventUploadCompletions.get? eventId with
  | none => throw (.typeError "event completion journal is missing")
  | some current => mutateAndPersist fun state =>
      { state with eventUploadCompletions :=
          state.eventUploadCompletions.set eventId (patch current) }

/-- One step of `completeEventUpload`, unless its flag says that it is done. -/
def completionStep (done : Bool) (eventId : String) (step : StoreEffect Unit)
    (patch : EventUploadCompletionV1 → EventUploadCompletionV1) : StoreEffect Unit :=
  if done then pure ()
  else do
    step
    updateEventCompletion eventId patch

/-- `completeEventUpload`. -/
def completeEventUpload (eventId : String) : StoreEffect Unit := do
  let s ← get
  match s.state.eventUploadCompletions.get? eventId with
  | none => pure ()
  | some completion =>
      completionStep completion.revisionCommitted eventId
        (commitSessionRevision completion.sessionId completion.revision)
        fun c => { c with revisionCommitted := true }
      completionStep completion.inflightRemoved eventId
        (removeItem (inflightEventItemId eventId)) fun c => { c with inflightRemoved := true }
      completionStep completion.sourceRemoved eventId (removeItem eventId)
        fun c => { c with sourceRemoved := true }
      mutateAndPersist fun state =>
        { state with eventUploadCompletions := state.eventUploadCompletions.erase eventId }

/-- `resumeEventUploadCompletions`. -/
def resumeEventUploadCompletions : StoreEffect Unit := do
  let s ← get
  Effect.forEach s.state.eventUploadCompletions.keys completeEventUpload

end

end Ariava.StateStore
