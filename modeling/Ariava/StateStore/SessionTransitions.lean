import Ariava.StateStore.State

/-!
# `Ariava.StateStore.SessionTransitions`: Sessions, drivers, handles and revisions

The pure transitions of `session-transitions.ts`. A Session and its driver are bound
together, a pending handle refers to a recent event, and a revision advances by one.
-/

set_option autoImplicit false

namespace Ariava.StateStore

open Ariava.Lib
open Ariava.Protocol

/-- `MAX_RECENT_EVENTS`. -/
def maxRecentEvents : Nat := 200

/-- `sessionHandleKey`. -/
def sessionHandleKey (hostId sessionId : String) : String := hostId ++ ":" ++ sessionId

/-- `comparePendingHandles`. -/
def comparePendingHandles (localeCompare : LocaleCompare) (left right : PendingSessionHandle) :
    Ordering :=
  ((localeCompare (left.handledThroughEventCreatedAt.getD left.handledAt)
      (right.handledThroughEventCreatedAt.getD right.handledAt)).then
    (localeCompare left.handledThroughEventId right.handledThroughEventId)).then
    (localeCompare left.updatedAt right.updatedAt)

/-- The first event of each id, in order. -/
def uniqueEvents : List CanonicalEvent → List CanonicalEvent
  | [] => []
  | event :: rest =>
      event :: (uniqueEvents rest).filter fun other => decide (other.eventId ≠ event.eventId)

/-- An event is protected: a pending handle refers to it. -/
def isProtectedEvent (pendingHandles : Dict String PendingSessionHandle) (event : CanonicalEvent) :
    Bool :=
  pendingHandles.values.any fun handle => decide (handle.handledThroughEventId = event.eventId)

/-- `retainRecentEvents`: the protected events and the first others, latest first. -/
def retainRecentEvents (localeCompare : LocaleCompare) (events : List CanonicalEvent)
    (pendingHandles : Dict String PendingSessionHandle) : List CanonicalEvent :=
  let unique := uniqueEvents events
  let retained := unique.filter (isProtectedEvent pendingHandles)
  let others := unique.filter fun event => !isProtectedEvent pendingHandles event
  (retained ++ others.take (maxRecentEvents - retained.length)).mergeSort fun left right =>
    decide (localeCompare right.createdAt left.createdAt ≠ .gt)

/-- The Sessions of a driver that are not in its new list are dropped. -/
def dropUnlistedSessions (state : PersistedBridgeState) (driverName : String)
    (sessions : List CanonicalSessionState) : PersistedBridgeState :=
  let listed (sessionId : String) : Bool :=
    sessions.any fun session => decide (session.sessionId = sessionId)
  let dropped (sessionId : String) : Bool :=
    decide (state.sessionDrivers.get? sessionId = some driverName) && !listed sessionId
  { state with
      sessionDrivers := state.sessionDrivers.filter fun sessionId _ => !dropped sessionId
      sessions := state.sessions.filter fun sessionId _ => !dropped sessionId }

/-- One Session with its driver is written. -/
def withSession (driverName : String) (state : PersistedBridgeState)
    (session : CanonicalSessionState) : PersistedBridgeState :=
  { state with
      sessions := state.sessions.set session.sessionId session
      sessionDrivers := state.sessionDrivers.set session.sessionId driverName }

/-- `replaceDriverSessionsTransition`. The producer checkpoints of the dropped Sessions are
not among what it deletes. -/
def replaceDriverSessionsTransition (state : PersistedBridgeState) (driverName : String)
    (sessions : List CanonicalSessionState) : StateTransition Unit :=
  let next := sessions.foldl (withSession driverName)
    (dropUnlistedSessions state driverName sessions)
  .next { next with reconciledDrivers := next.reconciledDrivers.set driverName () } ()

/-- `setSessionDriverTransition`. -/
def setSessionDriverTransition (state : PersistedBridgeState) (sessionId driverName : String)
    (session : Option CanonicalSessionState) : Except Thrown (StateTransition Unit) :=
  match session.or (state.sessions.get? sessionId) with
  | none => .error (.typeError "Session driver requires its canonical Session")
  | some bound =>
      if bound.sessionId = sessionId
          ∧ (bound.provider = driverName ∨ driverName = "agent-adapter") then
        .ok (.next (withSession driverName state bound) ())
      else .error (.typeError "Session driver requires its canonical Session")

/-- A Session is deleted with its driver and its producer checkpoint. -/
def withoutSession (state : PersistedBridgeState) (sessionId : String) : PersistedBridgeState :=
  { state with
      sessions := state.sessions.erase sessionId
      sessionDrivers := state.sessionDrivers.erase sessionId
      producerEventCheckpoints := state.producerEventCheckpoints.erase sessionId }

/-- `removeSessionTransition`. -/
def removeSessionTransition (state : PersistedBridgeState) (sessionId : String)
    (expectedDriverName : Option String) : StateTransition Bool :=
  let driverName := state.sessionDrivers.get? sessionId
  if expectedDriverName.isSome ∧ driverName ≠ expectedDriverName then .unchanged false
  else if state.sessions.contains sessionId || driverName.isSome then
    .next (withoutSession state sessionId) true
  else .unchanged false

/-- `removeSessionDriverTransition`. -/
def removeSessionDriverTransition (state : PersistedBridgeState) (sessionId : String) :
    StateTransition Unit :=
  if state.sessionDrivers.contains sessionId then
    .next { state with sessionDrivers := state.sessionDrivers.erase sessionId } ()
  else .unchanged ()

/-- `updateSessionTransition`, with the patch as a function of the Session. -/
def updateSessionTransition (state : PersistedBridgeState) (sessionId : String)
    (patch : CanonicalSessionState → CanonicalSessionState) :
    StateTransition (Option CanonicalSessionState) :=
  match state.sessions.get? sessionId with
  | none => .unchanged none
  | some current =>
      .next { state with sessions := state.sessions.set sessionId (patch current) }
        (some (patch current))

/-- The event that a handle goes through, with the checks on it. -/
def handledEvent (state : PersistedBridgeState) (handle : PendingSessionHandle) :
    Except Thrown CanonicalEvent :=
  match state.recentEvents.find? fun event =>
      decide (event.eventId = handle.handledThroughEventId) with
  | none => .error (.typeError
      "handledThroughEventId must reference a durable Event for the same Host and Session")
  | some event =>
      if event.hostId = handle.hostId ∧ event.sessionId = handle.sessionId then
        if handle.handledThroughEventCreatedAt.all fun createdAt =>
            decide (createdAt = event.createdAt) then .ok event
        else .error (.typeError
          "handledThroughEventCreatedAt does not match the durable Event")
      else .error (.typeError
        "handledThroughEventId must reference a durable Event for the same Host and Session")

/-- `queuePendingSessionHandleTransition`. -/
def queuePendingSessionHandleTransition (localeCompare : LocaleCompare)
    (state : PersistedBridgeState) (handle : PendingSessionHandle) :
    Except Thrown (StateTransition Unit) := do
  let event ← handledEvent state handle
  let boundHandle := { handle with handledThroughEventCreatedAt := some event.createdAt }
  let key := sessionHandleKey boundHandle.hostId boundHandle.sessionId
  throwIf ((state.pendingHandles.get? key).any fun current =>
      decide (comparePendingHandles localeCompare boundHandle current = .lt))
    (.typeError "handledThroughEventId is older than the pending durable cursor")
  let pendingHandles := state.pendingHandles.set key boundHandle
  return .next
    { state with
        pendingHandles := pendingHandles
        recentEvents := retainRecentEvents localeCompare state.recentEvents pendingHandles } ()

/-- `removePendingSessionHandleTransition`. An empty event id matches every handle. -/
def removePendingSessionHandleTransition (state : PersistedBridgeState)
    (hostId sessionId : String) (handledThroughEventId : Option String) :
    StateTransition Unit :=
  let key := sessionHandleKey hostId sessionId
  match state.pendingHandles.get? key with
  | none => .unchanged ()
  | some current =>
      if handledThroughEventId.any fun eventId =>
          decide (eventId ≠ "") && decide (current.handledThroughEventId ≠ eventId) then
        .unchanged ()
      else .next { state with pendingHandles := state.pendingHandles.erase key } ()

/-- `readCurrentSessionRevision`. -/
def readCurrentSessionRevision (state : PersistedBridgeState) (sessionId : String) : Nat :=
  (state.sessionRevisions.get? sessionId).getD 0

/-- `readNextSessionRevision`. -/
def readNextSessionRevision (state : PersistedBridgeState) (sessionId : String) : Nat :=
  readCurrentSessionRevision state sessionId + 1

/-- `commitSessionRevisionTransition`. -/
def commitSessionRevisionTransition (state : PersistedBridgeState) (sessionId : String)
    (revision : Nat) : Except Thrown (StateTransition Unit) :=
  let current := readCurrentSessionRevision state sessionId
  if revision = current then .ok (.unchanged ())
  else if revision = current + 1 then
    .ok (.next
      { state with sessionRevisions := state.sessionRevisions.set sessionId revision } ())
  else .error (.typeError "session revision must advance monotonically")

/-! ### What the transitions do -/

section
variable {state : PersistedBridgeState} {sessionId : String}

/-- A committed revision is the current one or its successor, and the transition writes it. -/
theorem commitSessionRevisionTransition_cases {revision : Nat} {t : StateTransition Unit}
    (h : commitSessionRevisionTransition state sessionId revision = .ok t) :
    (revision = readCurrentSessionRevision state sessionId ∧ t = .unchanged ()) ∨
      (revision = readNextSessionRevision state sessionId ∧ t = .next { state with
        sessionRevisions := state.sessionRevisions.set sessionId revision } ()) := by
  unfold commitSessionRevisionTransition at h
  by_cases hcur : revision = readCurrentSessionRevision state sessionId
  · simp only [hcur, if_true] at h
    cases h
    exact .inl ⟨hcur, rfl⟩
  · by_cases hnext : revision = readCurrentSessionRevision state sessionId + 1
    · simp only [if_neg hcur, if_pos hnext] at h
      cases h
      exact .inr ⟨hnext, rfl⟩
    · simp only [if_neg hcur, if_neg hnext] at h
      cases h

@[simp] theorem readCurrentSessionRevision_set_self (state : PersistedBridgeState)
    (sessionId : String) (revision : Nat) :
    readCurrentSessionRevision { state with
      sessionRevisions := state.sessionRevisions.set sessionId revision } sessionId = revision := by
  simp [readCurrentSessionRevision]

theorem readCurrentSessionRevision_set_ne (state : PersistedBridgeState) {sessionId other : String}
    (revision : Nat) (h : other ≠ sessionId) :
    readCurrentSessionRevision { state with
      sessionRevisions := state.sessionRevisions.set sessionId revision } other
      = readCurrentSessionRevision state other := by
  simp [readCurrentSessionRevision, Dict.get?_set_ne _ _ h]

theorem mem_uniqueEvents {events : List CanonicalEvent} {event : CanonicalEvent}
    (h : event ∈ uniqueEvents events) : event ∈ events := by
  induction events with
  | nil => exact h
  | cons head rest ih =>
    rcases List.mem_cons.mp h with rfl | h
    · exact List.mem_cons_self ..
    · exact List.mem_cons_of_mem _ (ih (List.mem_filter.mp h).1)

/-- The retained events are among the given ones. -/
theorem mem_retainRecentEvents {localeCompare : LocaleCompare} {events : List CanonicalEvent}
    {pendingHandles : Dict String PendingSessionHandle} {event : CanonicalEvent}
    (h : event ∈ retainRecentEvents localeCompare events pendingHandles) : event ∈ events := by
  rw [retainRecentEvents, List.mem_mergeSort, List.mem_append] at h
  rcases h with h | h
  · exact mem_uniqueEvents (List.mem_filter.mp h).1
  · exact mem_uniqueEvents (List.mem_filter.mp (List.mem_of_mem_take h)).1

end

end Ariava.StateStore
