import Ariava.StateStore.ExecutionCodec
import Ariava.StateStore.BridgeStateStore

/-!
# `Ariava.StateStore.StateCodec`: what a restart accepts

`assertCurrentStateRelationships`, `assertCurrentPublicationRelationships` and
`assertCurrentRuntimeRelationships` of `state-codec.ts`: the checks that a restart makes
between the records of the state and the items of the spool, one definition for each loop of
the source.

The checks of one upload completion are `assertCompletionBinding` against the state and
`assertCompletionSpoolBinding` against the spool. `CompletionFits` is what the two accept,
and `assertCurrentRuntimeRelationships_eq_ok_iff` takes the completions and the revisions out
of the rest: a change of these two records needs no other check.
-/

set_option autoImplicit false

namespace Ariava.StateStore

open Ariava.Lib
open Ariava.Protocol

/-- `sessionRevisions[sessionId] ?? 0`. -/
def revisionOf (sessionRevisions : Dict String Nat) (sessionId : String) : Nat :=
  (sessionRevisions.get? sessionId).getD 0

/-! ### The state -/

/-- The check of the Host projection. -/
def assertHostProjection (host : Option HostProjection) (hostId : String) :
    Except Thrown Unit :=
  throwIf (host.any fun projection => decide (projection.hostId ≠ hostId))
    (.error "Bridge runtime Host projection belongs to another Host")

/-- The loop over the Sessions. -/
def assertSessionBindings (sessions : Dict String CanonicalSessionState) (hostId : String) :
    Except Thrown Unit :=
  checkAll sessions.entries fun entry =>
    throwIf (decide (entry.2.sessionId ≠ entry.1) || decide (entry.2.hostId ≠ hostId))
      (.error "Bridge runtime Session binding is invalid")

/-- The loop over the Session drivers. -/
def assertDriverBindings (sessions : Dict String CanonicalSessionState)
    (sessionDrivers : Dict String String) : Except Thrown Unit :=
  checkAll sessionDrivers.entries fun entry =>
    throwIf ((sessions.get? entry.1).all fun session =>
        decide (session.sessionId ≠ entry.1)
          || (decide (entry.2 ≠ "agent-adapter") && decide (entry.2 ≠ session.provider)))
      (.error "Bridge runtime Session driver binding is invalid")

/-- The loop over the recent events, which collects them by their id. -/
def bindRecentEvents (sessions : Dict String CanonicalSessionState) (hostId : String) :
    Dict String CanonicalEvent → List CanonicalEvent →
      Except Thrown (Dict String CanonicalEvent)
  | events, [] => .ok events
  | events, event :: rest => do
      throwIf (decide (event.hostId ≠ hostId) || events.contains event.eventId)
        (.error "Bridge runtime Event binding is invalid")
      throwIf ((sessions.get? event.sessionId).any fun session =>
          decide (session.provider ≠ event.provider))
        (.error "Bridge runtime Event references an invalid Session")
      bindRecentEvents sessions hostId (events.set event.eventId event) rest

/-- The loop over the Session revisions. -/
def assertSessionRevisions (sessionRevisions : Dict String Nat) : Except Thrown Unit :=
  checkAll sessionRevisions.values fun revision =>
    throwIf (decide (revision < 1)) (.error "Bridge runtime Session revision binding is invalid")

/-- A pending handle names a recent event of its Session. -/
def isHandleBound (events : Dict String CanonicalEvent) (hostId key : String)
    (handle : PendingSessionHandle) : Bool :=
  decide (key = sessionHandleKey hostId handle.sessionId) && decide (handle.hostId = hostId)
    && (events.get? handle.handledThroughEventId).any fun event =>
      decide (event.hostId = hostId) && decide (event.sessionId = handle.sessionId)
        && handle.handledThroughEventCreatedAt.all fun createdAt =>
          decide (createdAt = event.createdAt)

/-- The loop over the pending handles. -/
def assertHandleBindings (events : Dict String CanonicalEvent) (hostId : String)
    (pendingHandles : Dict String PendingSessionHandle) : Except Thrown Unit :=
  checkAll pendingHandles.entries fun entry =>
    throwIf (!isHandleBound events hostId entry.1 entry.2)
      (.error "Bridge runtime handle binding is invalid")

/-- The nonce binding of a command execution. -/
def nonceBinding (execution : PersistedCommandExecutionV4) : String :=
  execution.watchDeviceId ++ "\n" ++ execution.nonce

/-- The loop over the command executions, with the nonce bindings that it has met. -/
def assertExecutionBindings (hash : ContentHash) (hostId : String) :
    List String → List (String × PersistedCommandExecutionV4) → Except Thrown Unit
  | _, [] => .ok ()
  | nonceBindings, (commandId, execution) :: rest => do
      assertCommandExecution hash execution
      throwIf (decide (commandId ≠ execution.originalEncryptedCommand.commandId)
          || decide (execution.originalEncryptedCommand.hostId ≠ hostId))
        (.error "Bridge runtime command execution binding is invalid")
      throwIf (decide (nonceBinding execution ∈ nonceBindings))
        (.error "Bridge runtime command nonce binding is duplicated")
      assertExecutionBindings hash hostId (nonceBinding execution :: nonceBindings) rest

/-- A completion names an event of its Session, its revision is the current one, or the next
one while it is not committed, and its flags were set in their order. -/
def isCompletionBound (events : Dict String CanonicalEvent) (sessionRevisions : Dict String Nat)
    (eventId : String) (completion : EventUploadCompletionV1) : Bool :=
  let currentRevision := revisionOf sessionRevisions completion.sessionId
  decide (eventId = completion.eventId)
    && ((events.get? eventId).all fun event => decide (event.sessionId = completion.sessionId))
    && (decide (currentRevision = completion.revision)
      || (!completion.revisionCommitted && decide (currentRevision + 1 = completion.revision)))
    && (!completion.inflightRemoved || completion.revisionCommitted)
    && (!completion.sourceRemoved || completion.inflightRemoved)

/-- The check of one completion against the state. -/
def assertCompletionBinding (events : Dict String CanonicalEvent)
    (sessionRevisions : Dict String Nat) (entry : String × EventUploadCompletionV1) :
    Except Thrown Unit :=
  throwIf (!isCompletionBound events sessionRevisions entry.1 entry.2)
    (.error "Bridge runtime Event completion binding is invalid")

/-- The loop over the producer reservations. -/
def assertReservationBindings (events : Dict String CanonicalEvent)
    (reservations : Dict String PersistedProducerEventReservationV1) : Except Thrown Unit :=
  checkAll reservations.entries fun entry =>
    throwIf (decide (entry.1 ≠ producerReservationKey entry.2.sessionId entry.2.fingerprint)
        || (events.get? entry.2.eventId).any fun event =>
          decide (event.sessionId ≠ entry.2.sessionId)
            || decide (event.createdAt ≠ entry.2.createdAt))
      (.error "Bridge runtime producer fingerprint binding is invalid")

/-- The loop over the producer checkpoints. -/
def assertCheckpointBindings (events : Dict String CanonicalEvent)
    (sessions : Dict String CanonicalSessionState)
    (checkpoints : Dict String ProducerEventSourceCheckpointV1) : Except Thrown Unit :=
  checkAll checkpoints.entries fun entry =>
    throwIf (decide (entry.1 ≠ entry.2.sessionId) || !sessions.contains entry.1
        || (events.get? entry.2.eventId).any fun event =>
          decide (event.sessionId ≠ entry.2.sessionId))
      (.error "Bridge runtime producer Event checkpoint binding is invalid")

/-- The loop over the terminal cancellations. -/
def assertCancellationBindings (events : Dict String CanonicalEvent)
    (sessions : Dict String CanonicalSessionState)
    (cancellations : Dict String PersistedTerminalCancellationV1) : Except Thrown Unit :=
  checkAll cancellations.entries fun entry =>
    throwIf (decide (entry.1 ≠ entry.2.eventId)
        || (!entry.2.removeSession && !sessions.contains entry.2.sessionId)
        || (events.get? entry.1).any fun event => decide (event.sessionId ≠ entry.2.sessionId))
      (.error "Bridge runtime terminal cancellation binding is invalid")

/-- `assertCurrentPublicationRelationships`. -/
def assertCurrentPublicationRelationships (snapshot : PersistedCurrentSessionsSnapshotState)
    (recipientSetVersion : Option Nat) : Except Thrown Unit :=
  let invalid : Thrown := .error "Bridge runtime current publication binding is invalid"
  if snapshot.lastAcceptedRevision = 0 then
    throwIf (snapshot.lastAcceptedDigest.isSome || snapshot.lastAcceptedContentDigest.isSome
      || snapshot.lastAcceptedRecipientSetVersion.isSome) invalid
  else
    match snapshot.lastAcceptedRecipientSetVersion, recipientSetVersion with
    | some accepted, some version =>
        throwIf (snapshot.lastAcceptedDigest.isNone || snapshot.lastAcceptedContentDigest.isNone
          || decide (version < accepted)) invalid
    | _, _ => .error invalid

/-- `assertCurrentStateRelationships`. -/
def assertCurrentStateRelationships (hash : ContentHash) (state : PersistedBridgeState)
    (hostId : String) : Except Thrown Unit := do
  assertHostProjection state.host hostId
  assertSessionBindings state.sessions hostId
  assertDriverBindings state.sessions state.sessionDrivers
  let events ← bindRecentEvents state.sessions hostId ∅ state.recentEvents
  assertSessionRevisions state.sessionRevisions
  assertHandleBindings events hostId state.pendingHandles
  assertExecutionBindings hash hostId [] state.commandExecutions.entries
  checkAll state.eventUploadCompletions.entries
    (assertCompletionBinding events state.sessionRevisions)
  assertReservationBindings events state.producerEventReservations
  assertCheckpointBindings events state.sessions state.producerEventCheckpoints
  assertCancellationBindings events state.sessions state.terminalCancellations
  assertCurrentPublicationRelationships state.currentSessionsSnapshot state.recipientSetVersion

/-! ### The spool -/

/-- The event that the state has for the id of an item, if it has one, is of the item's
Session. -/
def recentEventAgrees (state : PersistedBridgeState) (item : SpoolItem) : Bool :=
  (state.recentEvents.find? fun event => decide (some event.eventId = item.eventId)).all
    fun event => decide (event.sessionId = item.sessionId)

/-- The first producer reservation of an event. -/
def reservationOfEvent (state : PersistedBridgeState) (eventId : Option String) :
    Option PersistedProducerEventReservationV1 :=
  state.producerEventReservations.values.find? fun reservation =>
    decide (some reservation.eventId = eventId)

/-- An intent without its record in the state, which a restart finishes: the event is still
reserved in both files. -/
def isRecoverableIntent (state : PersistedBridgeState) (items : List SpoolItem)
    (item : SpoolItem) : Bool :=
  ((reservationOfEvent state item.eventId).any fun reservation =>
      decide (reservation.sessionId = item.sessionId))
    && (spoolGet items (item.eventId.getD "")).any fun source =>
      decide (source.payloadKind = .eventReservationV3) && decide (source.eventId = item.eventId)
        && decide (source.sessionId = item.sessionId)

/-- The checks of one item by its kind. An item of an event has an event id by then. -/
def assertItemBinding (state : PersistedBridgeState) (items : List SpoolItem)
    (item : SpoolItem) : Except Thrown Unit :=
  let eventId := item.eventId.getD ""
  match item.payloadKind with
  | .eventSourceV3 =>
      throwIf (decide (item.spoolItemId ≠ eventId) || !recentEventAgrees state item)
        (.error "Bridge runtime Event source binding is invalid")
  | .eventReservationV3 =>
      throwIf (decide (item.spoolItemId ≠ eventId)
          || ((reservationOfEvent state item.eventId).any fun reservation =>
            decide (reservation.sessionId ≠ item.sessionId))
          || (state.terminalCancellations.get? eventId).any fun cancellation =>
            decide (cancellation.sessionId ≠ item.sessionId))
        (.error "Bridge runtime Event reservation binding is invalid")
  | .eventUploadV3 =>
      throwIf (decide (item.spoolItemId ≠ inflightEventItemId eventId)
          || !recentEventAgrees state item)
        (.error "Bridge runtime Event upload binding is invalid")
  | .eventDeadLetterV3 =>
      throwIf (decide (item.spoolItemId ≠ deadLetterItemId eventId)
          || !recentEventAgrees state item)
        (.error "Bridge runtime Event dead-letter binding is invalid")
  | .sessionUploadV3 =>
      throwIf (decide (item.spoolItemId ≠ inflightSessionItemId item.sessionId))
        (.error "Bridge runtime Session upload binding is invalid")
  | .terminalCancellationV3 =>
      let cancellation := state.terminalCancellations.get? eventId
      throwIf (decide (item.spoolItemId ≠ terminalCancellationItemId eventId)
          || (cancellation.isNone && !isRecoverableIntent state items item)
          || cancellation.any fun recorded => decide (recorded.sessionId ≠ item.sessionId))
        (.error "Bridge runtime terminal cancellation spool binding is invalid")
  | .sessionSourceV3 => .ok ()

/-- An item of an event, by its kind. -/
def LocalSpoolPayloadKind.isEventKind : LocalSpoolPayloadKind → Bool
  | sessionSourceV3 | sessionUploadV3 => false
  | _ => true

/-- The loop over the items, with the ids that it has met. -/
def assertItemBindings (state : PersistedBridgeState) (items : List SpoolItem) :
    List String → List SpoolItem → Except Thrown Unit
  | _, [] => .ok ()
  | ids, item :: rest => do
      throwIf (decide (item.spoolItemId ∈ ids))
        (.error "Bridge runtime spool item ID is duplicated")
      throwIf (item.payloadKind.isEventKind && decide (item.eventId.getD "" = ""))
        (.error "Bridge runtime spool Event binding is invalid")
      assertItemBinding state items item
      assertItemBindings state items (item.spoolItemId :: ids) rest

/-- The items of a completion's event are its upload and its source, as far as they are
there, and a flag says that one is not. -/
def isCompletionSpoolBound (items : List SpoolItem) (completion : EventUploadCompletionV1) :
    Bool :=
  ((spoolGet items (inflightEventItemId completion.eventId)).all fun inflight =>
      decide (inflight.payloadKind = .eventUploadV3)
        && decide (inflight.sessionId = completion.sessionId) && !completion.inflightRemoved)
    && (spoolGet items completion.eventId).all fun source =>
      decide (source.payloadKind = .eventSourceV3)
        && decide (source.sessionId = completion.sessionId) && !completion.sourceRemoved

/-- The check of one completion against the spool. -/
def assertCompletionSpoolBinding (items : List SpoolItem) (completion : EventUploadCompletionV1) :
    Except Thrown Unit :=
  throwIf (!isCompletionSpoolBound items completion)
    (.error "Bridge runtime Event completion spool binding is invalid")

/-- `assertCurrentRuntimeRelationships`. -/
def assertCurrentRuntimeRelationships (hash : ContentHash) (state : PersistedBridgeState)
    (items : List SpoolItem) (hostId : String) : Except Thrown Unit := do
  assertCurrentStateRelationships hash state hostId
  assertItemBindings state items [] items
  checkAll state.eventUploadCompletions.values (assertCompletionSpoolBinding items)

/-! ### What the checks of a completion accept -/

section
variable {sessions : Dict String CanonicalSessionState} {hostId : String}

/-- The events that the loop collects are found by their id. -/
theorem get?_bindRecentEvents {recentEvents : List CanonicalEvent}
    {events events' : Dict String CanonicalEvent}
    (h : bindRecentEvents sessions hostId events recentEvents = .ok events') (eventId : String) :
    events'.get? eventId = (events.get? eventId).or
      (recentEvents.find? fun event => decide (event.eventId = eventId)) := by
  induction recentEvents generalizing events with
  | nil =>
    cases h
    simp
  | cons event rest ih =>
    simp only [bindRecentEvents, check_bind_eq_ok, throwIf_eq_ok, Bool.or_eq_false_iff] at h
    obtain ⟨⟨-, hnew⟩, -, hrest⟩ := h
    rw [ih hrest, Dict.get?_set, List.find?_cons]
    by_cases hid : event.eventId = eventId
    · subst hid
      have hnone : events.get? event.eventId = none := by
        simpa [Dict.contains] using hnew
      simp [hnone]
    · rw [if_neg (Ne.symm hid), decide_eq_false hid]

end

/-- A completion is accepted with the rest of the state and the spool. -/
structure CompletionFits (state : PersistedBridgeState) (items : List SpoolItem)
    (eventId : String) (completion : EventUploadCompletionV1) : Prop where
  named : eventId = completion.eventId
  ofSession : ∀ event, recentEvent state eventId = some event →
    event.sessionId = completion.sessionId
  revision : readCurrentSessionRevision state completion.sessionId = completion.revision ∨
    (completion.revisionCommitted = false ∧
      readCurrentSessionRevision state completion.sessionId + 1 = completion.revision)
  committedFirst : completion.inflightRemoved = true → completion.revisionCommitted = true
  inflightFirst : completion.sourceRemoved = true → completion.inflightRemoved = true
  inflight : ∀ item, spoolGet items (inflightEventItemId completion.eventId) = some item →
    item.payloadKind = .eventUploadV3 ∧ item.sessionId = completion.sessionId ∧
      completion.inflightRemoved = false
  source : ∀ item, spoolGet items completion.eventId = some item →
    item.payloadKind = .eventSourceV3 ∧ item.sessionId = completion.sessionId ∧
      completion.sourceRemoved = false

namespace CompletionFits

variable {state state' : PersistedBridgeState} {items : List SpoolItem} {eventId : String}
  {completion : EventUploadCompletionV1}

/-- What fits is a matter of the recent events and of the Session's revision. -/
theorem withRevision (h : CompletionFits state items eventId completion)
    (hevents : state'.recentEvents = state.recentEvents)
    (hrevision : readCurrentSessionRevision state' completion.sessionId = completion.revision ∨
      (completion.revisionCommitted = false ∧
        readCurrentSessionRevision state' completion.sessionId + 1 = completion.revision)) :
    CompletionFits state' items eventId completion where
  named := h.named
  ofSession := fun event hevent => h.ofSession event (by
    rw [← hevent, recentEvent, recentEvent, hevents])
  revision := hrevision
  committedFirst := h.committedFirst
  inflightFirst := h.inflightFirst
  inflight := h.inflight
  source := h.source

theorem congr (h : CompletionFits state items eventId completion)
    (hevents : state'.recentEvents = state.recentEvents)
    (hrevision : readCurrentSessionRevision state' completion.sessionId
      = readCurrentSessionRevision state completion.sessionId) :
    CompletionFits state' items eventId completion :=
  h.withRevision hevents (hrevision ▸ h.revision)

end CompletionFits

/-- A completion passes its two checks exactly when it fits. -/
theorem completionChecks_eq_true_iff {state : PersistedBridgeState} {items : List SpoolItem}
    {hostId eventId : String} {completion : EventUploadCompletionV1}
    {events : Dict String CanonicalEvent}
    (hevents : bindRecentEvents state.sessions hostId ∅ state.recentEvents = .ok events) :
    (isCompletionBound events state.sessionRevisions eventId completion = true ∧
        isCompletionSpoolBound items completion = true) ↔
      CompletionFits state items eventId completion := by
  have hevent : events.get? eventId = recentEvent state eventId := by
    rw [get?_bindRecentEvents hevents]
    rfl
  simp only [isCompletionBound, isCompletionSpoolBound, hevent, Bool.and_eq_true,
    Bool.or_eq_true, Bool.not_eq_true', decide_eq_true_eq, Option.all_eq_true,
    Bool.or_eq_true]
  constructor
  · rintro ⟨⟨⟨⟨⟨hnamed, hsession⟩, hrevision⟩, hcommitted⟩, hremoved⟩, hinflight, hsource⟩
    refine ⟨hnamed, hsession, hrevision, fun h => ?_, fun h => ?_, fun item hitem => ?_,
      fun item hitem => ?_⟩
    · exact hcommitted.resolve_left (by simp [h])
    · exact hremoved.resolve_left (by simp [h])
    · obtain ⟨⟨hkind, hitemSession⟩, hflag⟩ := hinflight item hitem
      exact ⟨hkind, hitemSession, hflag⟩
    · obtain ⟨⟨hkind, hitemSession⟩, hflag⟩ := hsource item hitem
      exact ⟨hkind, hitemSession, hflag⟩
  · intro h
    refine ⟨⟨⟨⟨⟨h.named, h.ofSession⟩, h.revision⟩, ?_⟩, ?_⟩, fun item hitem => ?_,
      fun item hitem => ?_⟩
    · exact (Bool.eq_false_or_eq_true _).symm.imp_right h.committedFirst
    · exact (Bool.eq_false_or_eq_true _).symm.imp_right h.inflightFirst
    · obtain ⟨hkind, hsession, hflag⟩ := h.inflight item hitem
      exact ⟨⟨hkind, hsession⟩, hflag⟩
    · obtain ⟨hkind, hsession, hflag⟩ := h.source item hitem
      exact ⟨⟨hkind, hsession⟩, hflag⟩

/-- The state without its revisions and its upload completions. -/
def withoutJournal (state : PersistedBridgeState) : PersistedBridgeState :=
  { state with sessionRevisions := ∅, eventUploadCompletions := ∅ }

theorem assertItemBindings_withoutJournal {state : PersistedBridgeState}
    {items : List SpoolItem} (ids : List String) (rest : List SpoolItem) :
    assertItemBindings (withoutJournal state) items ids rest
      = assertItemBindings state items ids rest := by
  induction rest generalizing ids with
  | nil => rfl
  | cons item rest ih =>
    rw [assertItemBindings, assertItemBindings, ih]
    rfl

/-- The checks of the state that read neither its revisions nor its completions. -/
structure StateBindings (hash : ContentHash) (state : PersistedBridgeState) (hostId : String)
    (events : Dict String CanonicalEvent) : Prop where
  host : assertHostProjection state.host hostId = .ok ()
  sessions : assertSessionBindings state.sessions hostId = .ok ()
  drivers : assertDriverBindings state.sessions state.sessionDrivers = .ok ()
  recentEvents : bindRecentEvents state.sessions hostId ∅ state.recentEvents = .ok events
  handles : assertHandleBindings events hostId state.pendingHandles = .ok ()
  executions : assertExecutionBindings hash hostId [] state.commandExecutions.entries = .ok ()
  reservations : assertReservationBindings events state.producerEventReservations = .ok ()
  checkpoints : assertCheckpointBindings events state.sessions state.producerEventCheckpoints
    = .ok ()
  cancellations : assertCancellationBindings events state.sessions state.terminalCancellations
    = .ok ()
  publication : assertCurrentPublicationRelationships state.currentSessionsSnapshot
    state.recipientSetVersion = .ok ()

theorem assertCurrentStateRelationships_eq_ok_iff {hash : ContentHash}
    {state : PersistedBridgeState} {hostId : String} :
    assertCurrentStateRelationships hash state hostId = .ok () ↔
      ∃ events, StateBindings hash state hostId events ∧
        (∀ revision ∈ state.sessionRevisions.values, 1 ≤ revision) ∧
        ∀ entry ∈ state.eventUploadCompletions.entries,
          isCompletionBound events state.sessionRevisions entry.1 entry.2 = true := by
  rw [assertCurrentStateRelationships, check_bind_eq_ok, check_bind_eq_ok, check_bind_eq_ok,
    bind_eq_ok_iff]
  simp only [check_bind_eq_ok, assertSessionRevisions, checkAll_eq_ok, assertCompletionBinding,
    throwIf_eq_ok, decide_eq_false_iff_not, Nat.not_lt, Bool.not_eq_false']
  constructor
  · rintro ⟨hhost, hsessions, hdrivers, events, hevents, hrevisions, hhandles, hexecutions,
      hcompletions, hreservations, hcheckpoints, hcancellations, hpublication⟩
    exact ⟨events, ⟨hhost, hsessions, hdrivers, hevents, hhandles, hexecutions, hreservations,
      hcheckpoints, hcancellations, hpublication⟩, hrevisions, hcompletions⟩
  · rintro ⟨events, h, hrevisions, hcompletions⟩
    exact ⟨h.host, h.sessions, h.drivers, events, h.recentEvents, hrevisions, h.handles,
      h.executions, hcompletions, h.reservations, h.checkpoints, h.cancellations, h.publication⟩

/-- What is accepted is accepted without the revisions and the completions, and these are
accepted on their own. -/
theorem assertCurrentRuntimeRelationships_eq_ok_iff {hash : ContentHash}
    {state : PersistedBridgeState} {items : List SpoolItem} {hostId : String} :
    assertCurrentRuntimeRelationships hash state items hostId = .ok () ↔
      assertCurrentRuntimeRelationships hash (withoutJournal state) items hostId = .ok () ∧
        (∀ revision ∈ state.sessionRevisions.values, 1 ≤ revision) ∧
        ∀ eventId completion, state.eventUploadCompletions.get? eventId = some completion →
          CompletionFits state items eventId completion := by
  simp only [assertCurrentRuntimeRelationships, check_bind_eq_ok, checkAll_eq_ok,
    assertCurrentStateRelationships_eq_ok_iff, assertItemBindings_withoutJournal,
    assertCompletionSpoolBinding, throwIf_eq_ok, Bool.not_eq_false']
  constructor
  · rintro ⟨⟨events, h, hrevisions, hbound⟩, hitems, hspool⟩
    refine ⟨⟨⟨events, ⟨h.host, h.sessions, h.drivers, h.recentEvents, h.handles, h.executions,
      h.reservations, h.checkpoints, h.cancellations, h.publication⟩, ?_, ?_⟩, hitems, ?_⟩,
      hrevisions, fun eventId completion hget => ?_⟩
    · exact fun _ hmem => absurd hmem List.not_mem_nil
    · exact fun _ hmem => absurd hmem List.not_mem_nil
    · exact fun _ hmem => absurd hmem List.not_mem_nil
    · exact (completionChecks_eq_true_iff h.recentEvents).mp
        ⟨hbound (eventId, completion) (Dict.mem_entries_iff.mpr hget),
          hspool completion (Dict.mem_values_iff.mpr ⟨eventId, hget⟩)⟩
  · rintro ⟨⟨⟨events, h, -, -⟩, hitems, -⟩, hrevisions, hfits⟩
    have hrecent : bindRecentEvents state.sessions hostId ∅ state.recentEvents = .ok events :=
      h.recentEvents
    refine ⟨⟨events, ⟨h.host, h.sessions, h.drivers, h.recentEvents, h.handles, h.executions,
      h.reservations, h.checkpoints, h.cancellations, h.publication⟩, hrevisions,
      fun entry hmem => ?_⟩, hitems, fun completion hmem => ?_⟩
    · have hfit := hfits _ _ (Dict.mem_entries_iff.mp hmem)
      rw [← completionChecks_eq_true_iff hrecent] at hfit
      exact hfit.1
    · obtain ⟨eventId, hget⟩ := Dict.mem_values_iff.mp hmem
      have hfit := hfits _ _ hget
      rw [← completionChecks_eq_true_iff hrecent] at hfit
      exact hfit.2

/-! ### Removing an item -/

/-- A removal of an item that reserves no event leaves the other items bound. -/
theorem assertItemBinding_withoutItems {state : PersistedBridgeState} {items : List SpoolItem}
    {spoolItemId : String} {item : SpoolItem}
    (hkind : ∀ removed, spoolGet items spoolItemId = some removed →
      removed.payloadKind ≠ .eventReservationV3)
    (h : assertItemBinding state items item = .ok ()) :
    assertItemBinding state (withoutItems items [spoolItemId]) item = .ok () := by
  have hintent : isRecoverableIntent state items item = true →
      isRecoverableIntent state (withoutItems items [spoolItemId]) item = true := by
    simp only [isRecoverableIntent, Bool.and_eq_true, Option.any_eq_true, decide_eq_true_eq]
    rintro ⟨hreservation, source, hsource, hreserved⟩
    refine ⟨hreservation, source, ?_, hreserved⟩
    rw [spoolGet_withoutItems_of_not_mem, hsource]
    rw [List.mem_singleton]
    rintro hid
    exact hkind source (hid ▸ hsource) hreserved.1.1
  obtain ⟨itemId, sessionId, eventId, payloadKind, createdAt, plaintext⟩ := item
  cases payloadKind
  case terminalCancellationV3 =>
    simp only [assertItemBinding, throwIf_eq_ok, Bool.or_eq_false_iff, Bool.and_eq_false_iff,
      Bool.not_eq_false'] at h ⊢
    exact ⟨⟨h.1.1, h.1.2.imp_right hintent⟩, h.2⟩
  all_goals exact h

/-- The loop over the items accepts distinct items that are bound. -/
theorem assertItemBindings_eq_ok_iff {state : PersistedBridgeState} {items : List SpoolItem}
    {ids : List String} {rest : List SpoolItem} :
    assertItemBindings state items ids rest = .ok () ↔
      (rest.map SpoolItem.spoolItemId).Nodup ∧ ∀ item ∈ rest, item.spoolItemId ∉ ids ∧
        (item.payloadKind.isEventKind = true → item.eventId.getD "" ≠ "") ∧
        assertItemBinding state items item = .ok () := by
  induction rest generalizing ids with
  | nil => simp [assertItemBindings]
  | cons item rest ih =>
    simp only [assertItemBindings, check_bind_eq_ok, throwIf_eq_ok, ih, List.mem_cons,
      decide_eq_false_iff_not, Bool.and_eq_false_imp, List.map_cons, List.nodup_cons,
      forall_eq_or_imp, not_or]
    constructor
    · rintro ⟨hnew, hkind, hbound, hnodup, hrest⟩
      refine ⟨⟨?_, hnodup⟩, ⟨hnew, hkind, hbound⟩, fun other hother => ?_⟩
      · intro hmem
        obtain ⟨other, hother, hid⟩ := List.mem_map.mp hmem
        exact (hrest other hother).1.1 hid
      · exact ⟨(hrest other hother).1.2, (hrest other hother).2⟩
    · rintro ⟨⟨hfresh, hnodup⟩, ⟨hnew, hkind, hbound⟩, hrest⟩
      refine ⟨hnew, hkind, hbound, hnodup, fun other hother => ⟨⟨?_, ?_⟩, (hrest other hother).2⟩⟩
      · intro hid
        exact hfresh (List.mem_map.mpr ⟨other, hother, hid⟩)
      · exact (hrest other hother).1

/-- What is accepted is accepted without an item that reserves no event. -/
theorem assertCurrentRuntimeRelationships_withoutItems {hash : ContentHash}
    {state : PersistedBridgeState} {items : List SpoolItem} {hostId spoolItemId : String}
    (hkind : ∀ removed, spoolGet items spoolItemId = some removed →
      removed.payloadKind ≠ .eventReservationV3)
    (h : assertCurrentRuntimeRelationships hash state items hostId = .ok ()) :
    assertCurrentRuntimeRelationships hash state (withoutItems items [spoolItemId]) hostId
      = .ok () := by
  simp only [assertCurrentRuntimeRelationships, check_bind_eq_ok, checkAll_eq_ok,
    assertItemBindings_eq_ok_iff] at h ⊢
  obtain ⟨hstate, ⟨hnodup, hitems⟩, hcompletions⟩ := h
  refine ⟨hstate, ⟨?_, fun item hitem => ?_⟩, fun completion hmem => ?_⟩
  · exact (List.filter_sublist.map _).nodup hnodup
  · obtain ⟨hnew, hevent, hbound⟩ := hitems item (mem_withoutItems.mp hitem).1
    exact ⟨hnew, hevent, assertItemBinding_withoutItems hkind hbound⟩
  · have hcompletion := hcompletions completion hmem
    simp only [assertCompletionSpoolBinding, throwIf_eq_ok, Bool.not_eq_false',
      isCompletionSpoolBound, Bool.and_eq_true, Option.all_eq_true] at hcompletion ⊢
    have hkeeps : ∀ id item, spoolGet (withoutItems items [spoolItemId]) id = some item →
        spoolGet items id = some item := fun id item hget =>
      spoolGet_of_withoutItems hget
    exact ⟨fun item hget => hcompletion.1 item (hkeeps _ _ hget),
      fun item hget => hcompletion.2 item (hkeeps _ _ hget)⟩

end Ariava.StateStore
