import Mathlib.Data.List.Nodup
import Mathlib.Data.List.Perm.Subperm
import Ariava.Lib.Retention
import Ariava.StateStore.EventTransitions
import Ariava.StateStore.PendingReconciliation
import Ariava.StateStore.StateCodec

/-!
# `Ariava.Proofs.RecentEventWindow`: pending handles and the window of recent events

The state keeps a window of recent events. A pending handle says through which event a Session is
handled, and this event is protected: it stays in the window until the handle is gone. The window
is written again (`retainRecentEvents`) when an event is appended and when a handle is queued. A
removed Session or handle leaves it.

`WindowAction.apply` is one call of the four transitions, where a throw leaves the state, and
`remember` is a run of them. `recentEventWindow_of_run` states what holds of every run:

- the event of a pending handle is in the window, and the ids in the window are distinct;
- the window has no more events than `maxRecentEvents`, or than are protected;
- an unprotected event that stays is no older than one that goes, unless it is the appended one;
- the cursor of a handle that stays pending does not go back.

The appended event comes in front of the window before the oldest one is cut off, and the sort
comes after the cut. So a late event can replace a newer one: `lateArrival` is such a run.
-/

set_option autoImplicit false

namespace Ariava.Proofs.RecentEventWindow

open Ariava.Lib
open Ariava.Protocol
open Ariava.StateStore

/-! ### The window as a retention -/

section
variable {localeCompare : LocaleCompare} {events : List CanonicalEvent}
  {pendingHandles : Dict String PendingSessionHandle} {event : CanonicalEvent}

/-- Later events come first. -/
def laterFirst (localeCompare : LocaleCompare) (left right : CanonicalEvent) : Bool :=
  decide (localeCompare right.createdAt left.createdAt ≠ .gt)

theorem retainRecentEvents_eq : retainRecentEvents localeCompare events pendingHandles
    = Retention.retain maxRecentEvents (isProtectedEvent pendingHandles)
        (laterFirst localeCompare) (uniqueEvents events) := rfl

theorem uniqueEvents_sublist (events : List CanonicalEvent) :
    (uniqueEvents events).Sublist events := by
  induction events with
  | nil => exact .slnil
  | cons event rest ih => exact (List.filter_sublist.trans ih).cons_cons event

/-- The ids of the first events of each id are distinct. -/
theorem uniqueEvents_nodup (events : List CanonicalEvent) :
    ((uniqueEvents events).map CanonicalEvent.eventId).Nodup := by
  induction events with
  | nil => exact .nil
  | cons event rest ih =>
    rw [uniqueEvents, List.map_cons, List.nodup_cons]
    refine ⟨fun hmem => ?_, (List.filter_sublist.map _).nodup ih⟩
    obtain ⟨other, hother, hid⟩ := List.mem_map.mp hmem
    exact of_decide_eq_true (List.mem_filter.mp hother).2 hid

theorem nodup_retainRecentEvents :
    ((retainRecentEvents localeCompare events pendingHandles).map CanonicalEvent.eventId).Nodup :=
  Retention.map_retain_nodup (uniqueEvents_nodup events)

/-- An event with a handle stays, as the first one of its id. -/
theorem hasEvent_of_handle {handle : PendingSessionHandle} (hhandle : handle ∈ pendingHandles.values)
    (h : HasEvent events handle.handledThroughEventId) :
    HasEvent (retainRecentEvents localeCompare events pendingHandles)
      handle.handledThroughEventId := by
  obtain ⟨event, hevent, hid⟩ := hasEvent_uniqueEvents h
  have hprotected : isProtectedEvent pendingHandles event = true :=
    List.any_eq_true.mpr ⟨handle, hhandle, decide_eq_true hid.symm⟩
  exact ⟨event, Retention.mem_retain_of_protected hevent hprotected, hid⟩

variable [Std.TransCmp localeCompare]

theorem retainRecentEvents_pairwise :
    (retainRecentEvents localeCompare events pendingHandles).Pairwise fun left right =>
      laterFirst localeCompare left right = true := by
  refine Retention.retain_pairwise (fun a b c hab hbc => ?_) fun a b => ?_
  · have hba := Ordering.isLE_iff_ne_gt.mpr (of_decide_eq_true hab)
    have hcb := Ordering.isLE_iff_ne_gt.mpr (of_decide_eq_true hbc)
    exact decide_eq_true (Ordering.isLE_iff_ne_gt.mp (Std.TransCmp.isLE_trans hcb hba))
  · rw [Bool.or_eq_true, laterFirst, laterFirst, decide_eq_true_eq, decide_eq_true_eq]
    by_cases hgt : localeCompare b.createdAt a.createdAt = .gt
    · right
      rw [Std.OrientedCmp.gt_iff_lt.mp hgt]
      decide
    · exact .inl hgt

end

/-! ### The calls -/

/-- A call of one of the four transitions. -/
inductive WindowAction
  | append (event : CanonicalEvent)
  | removeSession (sessionId : String) (expectedDriverName : Option String)
  | queuePendingHandle (handle : PendingSessionHandle)
  | removePendingHandle (hostId sessionId : String) (handledThroughEventId : Option String)
deriving DecidableEq

/-- The state after a call. -/
def WindowAction.apply (localeCompare : LocaleCompare) (state : PersistedBridgeState) :
    WindowAction → PersistedBridgeState
  | .append event => (appendRecentEventTransition localeCompare state event).stateFrom state
  | .removeSession sessionId expectedDriverName =>
      (removeSessionTransition state sessionId expectedDriverName).stateFrom state
  | .queuePendingHandle handle =>
      StateTransition.stateAfter state
        (queuePendingSessionHandleTransition localeCompare state handle)
  | .removePendingHandle hostId sessionId handledThroughEventId =>
      (removePendingSessionHandleTransition state hostId sessionId
        handledThroughEventId).stateFrom state

/-- The state after a run of calls. -/
def remember (localeCompare : LocaleCompare) (state : PersistedBridgeState)
    (actions : List WindowAction) : PersistedBridgeState :=
  actions.foldl (WindowAction.apply localeCompare) state

/-- The events that a call has for the window. -/
def WindowAction.offered (state : PersistedBridgeState) : WindowAction → List CanonicalEvent
  | .append event => event :: state.recentEvents
  | _ => state.recentEvents

/-- The events of the window that a pending handle protects. -/
def protectedEvents (state : PersistedBridgeState) : List CanonicalEvent :=
  state.recentEvents.filter (isProtectedEvent state.pendingHandles)

/-! ### What a call does -/

section
variable {localeCompare : LocaleCompare} {state : PersistedBridgeState}

theorem removeSession_cases (localeCompare : LocaleCompare) (state : PersistedBridgeState)
    (sessionId : String) (expectedDriverName : Option String) :
    (WindowAction.apply localeCompare state
        (.removeSession sessionId expectedDriverName)).recentEvents = state.recentEvents ∧
      (WindowAction.apply localeCompare state
        (.removeSession sessionId expectedDriverName)).pendingHandles = state.pendingHandles := by
  unfold WindowAction.apply removeSessionTransition
  dsimp only
  split
  · exact ⟨rfl, rfl⟩
  · split
    · exact ⟨rfl, rfl⟩
    · exact ⟨rfl, rfl⟩

theorem removePendingHandle_cases (localeCompare : LocaleCompare) (state : PersistedBridgeState)
    (hostId sessionId : String) (handledThroughEventId : Option String) :
    (WindowAction.apply localeCompare state
        (.removePendingHandle hostId sessionId handledThroughEventId)).recentEvents
        = state.recentEvents ∧
      ∀ key handle, (WindowAction.apply localeCompare state
          (.removePendingHandle hostId sessionId handledThroughEventId)).pendingHandles.get? key
          = some handle → state.pendingHandles.get? key = some handle := by
  unfold WindowAction.apply removePendingSessionHandleTransition
  dsimp only
  split
  · exact ⟨rfl, fun _ _ h => h⟩
  · split
    · exact ⟨rfl, fun _ _ h => h⟩
    · exact ⟨rfl, fun _ _ h => Dict.get?_of_erase h⟩

/-- The handle that a state keeps for a Session is bound to the time of its event. -/
def boundTo (handle : PendingSessionHandle) (event : CanonicalEvent) : PendingSessionHandle :=
  { handle with handledThroughEventCreatedAt := some event.createdAt }

theorem handledEvent_ok {handle : PendingSessionHandle} {event : CanonicalEvent}
    (h : handledEvent state handle = .ok event) :
    event ∈ state.recentEvents ∧ event.eventId = handle.handledThroughEventId := by
  unfold handledEvent at h
  split at h
  · cases h
  · next found hfound =>
    split at h
    · split at h
      · cases h
        have hid := List.find?_some hfound
        exact ⟨List.mem_of_find?_eq_some hfound, of_decide_eq_true hid⟩
      · cases h
    · cases h

/-- `queuePendingSessionHandle` keeps the state, or it writes a handle whose event is in the
window and whose cursor is not behind the one it replaces. -/
theorem queuePendingHandle_cases (localeCompare : LocaleCompare) (state : PersistedBridgeState)
    (handle : PendingSessionHandle) :
    WindowAction.apply localeCompare state (.queuePendingHandle handle) = state ∨
      ∃ event ∈ state.recentEvents, event.eventId = handle.handledThroughEventId ∧
        (∀ current, state.pendingHandles.get? (sessionHandleKey handle.hostId handle.sessionId)
            = some current →
          comparePendingHandles localeCompare (boundTo handle event) current ≠ .lt) ∧
        WindowAction.apply localeCompare state (.queuePendingHandle handle) = { state with
          pendingHandles := state.pendingHandles.set
            (sessionHandleKey handle.hostId handle.sessionId) (boundTo handle event)
          recentEvents := retainRecentEvents localeCompare state.recentEvents
            (state.pendingHandles.set (sessionHandleKey handle.hostId handle.sessionId)
              (boundTo handle event)) } := by
  unfold WindowAction.apply queuePendingSessionHandleTransition
  dsimp only
  cases hevent : handledEvent state handle with
  | error thrown => exact .inl rfl
  | ok event =>
    obtain ⟨hmem, hid⟩ := handledEvent_ok hevent
    by_cases holder : ((state.pendingHandles.get?
        (sessionHandleKey handle.hostId handle.sessionId)).any fun current =>
          decide (comparePendingHandles localeCompare (boundTo handle event) current = .lt)) = true
    · left
      unfold boundTo at holder
      simp only [bind, Except.bind, holder]
      rfl
    · refine .inr ⟨event, hmem, hid, fun current hcurrent hlt => holder ?_, ?_⟩
      · rw [hcurrent]
        exact decide_eq_true hlt
      · rw [Bool.not_eq_true] at holder
        unfold boundTo at holder ⊢
        simp only [bind, Except.bind, holder]
        rfl

end

/-! ### The invariant -/

/-- What holds of the window in every state that the calls reach. -/
structure Windowed (localeCompare : LocaleCompare) (state : PersistedBridgeState) : Prop where
  present : ∀ handle ∈ state.pendingHandles.values,
    HasEvent state.recentEvents handle.handledThroughEventId
  unique : (state.recentEvents.map CanonicalEvent.eventId).Nodup
  sorted : state.recentEvents.Pairwise fun left right => laterFirst localeCompare left right = true
  room : state.recentEvents.length ≤ maxRecentEvents

/-- An older event stays without protection, and a newer one goes. -/
structure Replaces (localeCompare : LocaleCompare) (state : PersistedBridgeState)
    (action : WindowAction) (gone kept : CanonicalEvent) : Prop where
  offered : gone ∈ action.offered state
  evicted : ¬ HasEvent (action.apply localeCompare state).recentEvents gone.eventId
  stays : kept ∈ (action.apply localeCompare state).recentEvents
  unprotected : isProtectedEvent (action.apply localeCompare state).pendingHandles kept = false
  older : localeCompare kept.createdAt gone.createdAt = .lt

section
variable {localeCompare : LocaleCompare} {state : PersistedBridgeState} {action : WindowAction}
  {gone kept : CanonicalEvent}

theorem windowed_emptyState (epoch : String) : Windowed localeCompare (emptyState epoch) :=
  ⟨fun _ hhandle => absurd hhandle List.not_mem_nil, .nil, .nil, Nat.zero_le _⟩

theorem subset_offered {event : CanonicalEvent} (h : event ∈ state.recentEvents) :
    event ∈ action.offered state := by
  cases action with
  | append _ => exact List.mem_cons_of_mem _ h
  | removeSession _ _ => exact h
  | queuePendingHandle _ => exact h
  | removePendingHandle _ _ _ => exact h

/-- An offered event that is not the appended one is in the window. -/
theorem mem_of_offered {event : CanonicalEvent} (h : event ∈ action.offered state)
    (hother : ∀ appended, action = .append appended → event.eventId ≠ appended.eventId) :
    event ∈ state.recentEvents := by
  cases action with
  | append appended =>
    rcases List.mem_cons.mp h with rfl | h
    · exact absurd rfl (hother event rfl)
    · exact h
  | removeSession _ _ => exact h
  | queuePendingHandle _ => exact h
  | removePendingHandle _ _ _ => exact h

/-- An event of the window is the only one of its id. -/
theorem Windowed.eq_of_eventId (h : Windowed localeCompare state) {left right : CanonicalEvent}
    (hleft : left ∈ state.recentEvents) (hright : right ∈ state.recentEvents)
    (hid : left.eventId = right.eventId) : left = right :=
  List.inj_on_of_nodup_map h.unique hleft hright hid

/-- A call leaves the window and writes no handle, or it writes the window again, and every handle
has its event in the one before. -/
theorem apply_cases (h : Windowed localeCompare state) (action : WindowAction) :
    (action.offered state = state.recentEvents ∧
      (action.apply localeCompare state).recentEvents = state.recentEvents ∧
      ∀ key handle, (action.apply localeCompare state).pendingHandles.get? key = some handle →
        state.pendingHandles.get? key = some handle) ∨
    ((action.apply localeCompare state).recentEvents = retainRecentEvents localeCompare
        (action.offered state) (action.apply localeCompare state).pendingHandles ∧
      ∀ handle ∈ (action.apply localeCompare state).pendingHandles.values,
        HasEvent state.recentEvents handle.handledThroughEventId) := by
  cases action with
  | append event => exact .inr ⟨rfl, h.present⟩
  | removeSession sessionId expectedDriverName =>
    obtain ⟨hevents, hhandles⟩ := removeSession_cases localeCompare state sessionId
      expectedDriverName
    exact .inl ⟨rfl, hevents, fun key handle hget => by rwa [hhandles] at hget⟩
  | queuePendingHandle handle =>
    rcases queuePendingHandle_cases localeCompare state handle with
      hsame | ⟨event, hevent, hid, -, happly⟩
    · exact .inl ⟨rfl, by rw [hsame], fun key other hget => by rwa [hsame] at hget⟩
    · rw [happly]
      refine .inr ⟨rfl, fun other hother => ?_⟩
      obtain ⟨key, hget⟩ := Dict.mem_values_iff.mp hother
      rcases Dict.get?_set_cases hget with ⟨-, rfl⟩ | ⟨-, hget⟩
      · exact ⟨event, hevent, hid⟩
      · exact h.present other (Dict.mem_values_iff.mpr ⟨key, hget⟩)
  | removePendingHandle hostId sessionId handledThroughEventId =>
    exact .inl ⟨rfl, removePendingHandle_cases localeCompare state hostId sessionId
      handledThroughEventId⟩

/-- The protected events of a window have their ids in the one before, so they fit into it. -/
theorem length_retainRecentEvents_le_of_present {events : List CanonicalEvent}
    {pendingHandles : Dict String PendingSessionHandle}
    (hpresent : ∀ handle ∈ pendingHandles.values,
      HasEvent state.recentEvents handle.handledThroughEventId)
    (hroom : state.recentEvents.length ≤ maxRecentEvents) :
    (retainRecentEvents localeCompare events pendingHandles).length ≤ maxRecentEvents := by
  have hids : (((retainRecentEvents localeCompare events pendingHandles).filter
      (isProtectedEvent pendingHandles)).map CanonicalEvent.eventId).Subperm
      (state.recentEvents.map CanonicalEvent.eventId) := by
    refine List.Nodup.subperm ((List.filter_sublist.map _).nodup nodup_retainRecentEvents) ?_
    intro eventId hmem
    obtain ⟨event, hevent, rfl⟩ := List.mem_map.mp hmem
    obtain ⟨handle, hhandle, hid⟩ := List.any_eq_true.mp (List.mem_filter.mp hevent).2
    obtain ⟨found, hfound, hfoundId⟩ := hpresent handle hhandle
    exact List.mem_map.mpr ⟨found, hfound, hfoundId.trans (of_decide_eq_true hid)⟩
  have hprotected := hids.length_le
  rw [List.length_map, List.length_map] at hprotected
  have hlength := Retention.length_retain_le maxRecentEvents (isProtectedEvent pendingHandles)
    (laterFirst localeCompare) (uniqueEvents events)
  rw [← retainRecentEvents_eq] at hlength
  omega

variable [Std.TransCmp localeCompare]

/-- The step lemma of the window. -/
theorem windowed_apply (h : Windowed localeCompare state) (action : WindowAction) :
    Windowed localeCompare (action.apply localeCompare state) := by
  rcases apply_cases h action with ⟨-, hevents, hhandles⟩ | ⟨hevents, hpresent⟩
  · constructor
    case present =>
      intro handle hhandle
      obtain ⟨key, hget⟩ := Dict.mem_values_iff.mp hhandle
      rw [hevents]
      exact h.present handle (Dict.mem_values_iff.mpr ⟨key, hhandles key handle hget⟩)
    case unique => rw [hevents]; exact h.unique
    case sorted => rw [hevents]; exact h.sorted
    case room => rw [hevents]; exact h.room
  · constructor
    case present =>
      intro handle hhandle
      obtain ⟨event, hevent, hid⟩ := hpresent handle hhandle
      rw [hevents]
      exact hasEvent_of_handle hhandle ⟨event, subset_offered hevent, hid⟩
    case unique => rw [hevents]; exact nodup_retainRecentEvents
    case sorted => rw [hevents]; exact retainRecentEvents_pairwise
    case room => rw [hevents]; exact length_retainRecentEvents_le_of_present hpresent h.room

/-- What a call offers is in order. Only the appended event is in front of newer ones, and no other
event has its id. -/
theorem offered_pairwise (h : Windowed localeCompare state) (action : WindowAction) :
    (uniqueEvents (action.offered state)).Pairwise fun left right =>
      (∀ event, action = .append event → right.eventId ≠ event.eventId) ∧
        (action ≠ .append left → localeCompare left.createdAt right.createdAt ≠ .lt) := by
  have hsorted : state.recentEvents.Pairwise fun left right =>
      localeCompare left.createdAt right.createdAt ≠ .lt := by
    refine h.sorted.imp fun {left right} hle hlt => ?_
    exact of_decide_eq_true hle (Std.OrientedCmp.gt_iff_lt.mpr hlt)
  have hunique := hsorted.sublist (uniqueEvents_sublist state.recentEvents)
  cases action with
  | append event =>
    have hother : ∀ other ∈ (uniqueEvents state.recentEvents).filter fun other =>
        decide (other.eventId ≠ event.eventId), other.eventId ≠ event.eventId :=
      fun other hmem => of_decide_eq_true (List.mem_filter.mp hmem).2
    rw [WindowAction.offered, uniqueEvents, List.pairwise_cons]
    constructor
    · intro other hmem
      refine ⟨fun appended happended => ?_, fun hne => absurd rfl hne⟩
      cases happended
      exact hother other hmem
    · refine (hunique.filter _).imp_of_mem fun {left right} _ hright hlt => ?_
      refine ⟨fun appended happended => ?_, fun _ => hlt⟩
      cases happended
      exact hother right hright
  | removeSession _ _ => exact hunique.imp fun hlt => ⟨fun _ hother => (by cases hother), fun _ => hlt⟩
  | queuePendingHandle _ => exact hunique.imp fun hlt => ⟨fun _ hother => (by cases hother), fun _ => hlt⟩
  | removePendingHandle _ _ _ => exact hunique.imp fun hlt => ⟨fun _ hother => (by cases hother), fun _ => hlt⟩

/-- Only the appended event stays in place of a newer one. -/
theorem replaces_append (h : Windowed localeCompare state)
    (hreplaces : Replaces localeCompare state action gone kept) : action = .append kept := by
  by_contra hne
  rcases apply_cases h action with ⟨hoffered, hevents, -⟩ | ⟨hevents, -⟩
  · have hgone := hreplaces.offered
    rw [hoffered, ← hevents] at hgone
    exact hreplaces.evicted ⟨gone, hgone, rfl⟩
  · -- The first offered event with the id of the evicted one goes too, and it is the evicted one.
    obtain ⟨first, hfirst, hid⟩ := hasEvent_uniqueEvents ⟨gone, hreplaces.offered, rfl⟩
    have hgone : first ∉ retainRecentEvents localeCompare (action.offered state)
        (action.apply localeCompare state).pendingHandles :=
      fun hmem => hreplaces.evicted ⟨first, hevents ▸ hmem, hid⟩
    have hstays := hreplaces.stays
    rw [hevents, retainRecentEvents_eq] at hstays
    rw [retainRecentEvents_eq] at hgone
    obtain ⟨hother, hnewer⟩ := Retention.related_of_evicted (offered_pairwise h action) hfirst
      hgone hstays hreplaces.unprotected
    have hsame : first = gone := h.eq_of_eventId
      (mem_of_offered (mem_uniqueEvents hfirst) hother)
      (mem_of_offered hreplaces.offered fun appended happended =>
        hid ▸ hother appended happended) hid
    exact hnewer hne (hsame ▸ hreplaces.older)

end

/-! ### The cursor -/

section
variable {localeCompare : LocaleCompare} [Std.TransCmp localeCompare]

/-- A comparison of a part of each value. -/
theorem transCmp_of_map {α : Type} (localeCompare : LocaleCompare) [Std.TransCmp localeCompare]
    (part : α → String) :
    Std.TransCmp fun left right => localeCompare (part left) (part right) where
  eq_swap := Std.OrientedCmp.eq_swap
  isLE_trans := Std.TransCmp.isLE_trans

theorem comparePendingHandles_eq (localeCompare : LocaleCompare) :
    comparePendingHandles localeCompare = compareLex
      (compareLex
        (fun left right => localeCompare
          (left.handledThroughEventCreatedAt.getD left.handledAt)
          (right.handledThroughEventCreatedAt.getD right.handledAt))
        (fun left right => localeCompare left.handledThroughEventId right.handledThroughEventId))
      (fun left right => localeCompare left.updatedAt right.updatedAt) := rfl

/-- The handles are compared by three parts, one after the other. -/
instance : Std.TransCmp (comparePendingHandles localeCompare) := by
  have htime := transCmp_of_map localeCompare fun handle : PendingSessionHandle =>
    handle.handledThroughEventCreatedAt.getD handle.handledAt
  have hevent := transCmp_of_map localeCompare PendingSessionHandle.handledThroughEventId
  have hupdated := transCmp_of_map localeCompare PendingSessionHandle.updatedAt
  rw [comparePendingHandles_eq]
  infer_instance

theorem comparePendingHandles_self (handle : PendingSessionHandle) :
    comparePendingHandles localeCompare handle handle ≠ .gt := by
  have hself : comparePendingHandles localeCompare handle handle = .eq :=
    Std.ReflCmp.compare_self
  rw [hself]
  decide

variable {state : PersistedBridgeState} {key : String} {old new : PendingSessionHandle}

/-- The step lemma of the cursor. -/
theorem cursor_apply (action : WindowAction) (hold : state.pendingHandles.get? key = some old)
    (hnew : (action.apply localeCompare state).pendingHandles.get? key = some new) :
    comparePendingHandles localeCompare old new ≠ .gt := by
  cases action with
  | append event =>
    cases hold.symm.trans hnew
    exact comparePendingHandles_self old
  | removeSession sessionId expectedDriverName =>
    rw [(removeSession_cases localeCompare state sessionId expectedDriverName).2] at hnew
    cases hold.symm.trans hnew
    exact comparePendingHandles_self old
  | queuePendingHandle handle =>
    rcases queuePendingHandle_cases localeCompare state handle with
      hsame | ⟨event, -, -, hforward, happly⟩
    · rw [hsame] at hnew
      cases hold.symm.trans hnew
      exact comparePendingHandles_self old
    · rw [happly] at hnew
      rcases Dict.get?_set_cases hnew with ⟨rfl, rfl⟩ | ⟨-, hget⟩
      · exact fun hgt => hforward old hold (Std.OrientedCmp.gt_iff_lt.mp hgt)
      · cases hold.symm.trans hget
        exact comparePendingHandles_self old
  | removePendingHandle hostId sessionId handledThroughEventId =>
    have hget := (removePendingHandle_cases localeCompare state hostId sessionId
      handledThroughEventId).2 key new hnew
    cases hold.symm.trans hget
    exact comparePendingHandles_self old

/-- A handle is pending for the key at the start of a run and after each of its calls. -/
def StaysPending (localeCompare : LocaleCompare) (key : String) :
    PersistedBridgeState → List WindowAction → Prop
  | state, [] => (state.pendingHandles.get? key).isSome = true
  | state, action :: rest => (state.pendingHandles.get? key).isSome = true ∧
      StaysPending localeCompare key (action.apply localeCompare state) rest

/-- The cursor of a handle that stays pending through a run does not go back. -/
theorem cursor_remember {actions : List WindowAction}
    (hpending : StaysPending localeCompare key state actions)
    (hold : state.pendingHandles.get? key = some old)
    (hnew : (remember localeCompare state actions).pendingHandles.get? key = some new) :
    comparePendingHandles localeCompare old new ≠ .gt := by
  induction actions generalizing state old with
  | nil =>
    cases hold.symm.trans hnew
    exact comparePendingHandles_self new
  | cons action rest ih =>
    have hnext : ((action.apply localeCompare state).pendingHandles.get? key).isSome = true := by
      cases rest with
      | nil => exact hpending.2
      | cons _ _ => exact hpending.2.1
    obtain ⟨next, hnext⟩ := Option.isSome_iff_exists.mp hnext
    have hfirst := Ordering.isLE_iff_ne_gt.mpr (cursor_apply action hold hnext)
    have hrest := Ordering.isLE_iff_ne_gt.mpr (ih hpending.2 hnext hnew)
    exact Ordering.isLE_iff_ne_gt.mp (Std.TransCmp.isLE_trans hfirst hrest)

end

/-! ### Runs -/

section
variable {localeCompare : LocaleCompare} {state : PersistedBridgeState}

theorem remember_append (localeCompare : LocaleCompare) (state : PersistedBridgeState)
    (before after : List WindowAction) : remember localeCompare state (before ++ after)
      = remember localeCompare (remember localeCompare state before) after := by
  rw [remember, remember, remember, List.foldl_append]

/-- What holds of the handles and the window after a run, and of the cursors in it. -/
structure KeepsWindow (localeCompare : LocaleCompare) (state : PersistedBridgeState)
    (actions : List WindowAction) : Prop where
  present : ∀ handle ∈ (remember localeCompare state actions).pendingHandles.values,
    HasEvent (remember localeCompare state actions).recentEvents handle.handledThroughEventId
  unique : ((remember localeCompare state actions).recentEvents.map CanonicalEvent.eventId).Nodup
  bounded : (remember localeCompare state actions).recentEvents.length
    ≤ max maxRecentEvents (protectedEvents (remember localeCompare state actions)).length
  forward : ∀ before after key old new, actions = before ++ after →
    StaysPending localeCompare key (remember localeCompare state before) after →
    (remember localeCompare state before).pendingHandles.get? key = some old →
    (remember localeCompare state actions).pendingHandles.get? key = some new →
      comparePendingHandles localeCompare old new ≠ .gt

/-- A call of the run at which an older event stays in place of a newer one. -/
def ReplacesAt (localeCompare : LocaleCompare) (state : PersistedBridgeState)
    (actions : List WindowAction) (action : WindowAction) (gone kept : CanonicalEvent) : Prop :=
  ∃ before after, actions = before ++ action :: after ∧
    Replaces localeCompare (remember localeCompare state before) action gone kept

variable [Std.TransCmp localeCompare]

/-- The run lemma of the window. -/
theorem windowed_remember (h : Windowed localeCompare state) (actions : List WindowAction) :
    Windowed localeCompare (remember localeCompare state actions) := by
  induction actions generalizing state with
  | nil => exact h
  | cons action rest ih => exact ih (windowed_apply h action)

/-- Every run keeps the window, and only an appended event stays in place of a newer one. -/
theorem recentEventWindow_of_run (h : Windowed localeCompare state)
    (actions : List WindowAction) : KeepsWindow localeCompare state actions ∧
      ∀ action gone kept, ReplacesAt localeCompare state actions action gone kept →
        action = .append kept := by
  have hend := windowed_remember h actions
  refine ⟨⟨hend.present, hend.unique, hend.room.trans (le_max_left _ _), ?_⟩, ?_⟩
  · intro before after key old new hactions hpending hold hnew
    rw [hactions, remember_append] at hnew
    exact cursor_remember hpending hold hnew
  · rintro action gone kept ⟨before, after, -, hreplaces⟩
    exact replaces_append (windowed_remember h before) hreplaces

end

/-! ### A late event -/

section
variable {localeCompare : LocaleCompare} {state : PersistedBridgeState}
  {events : List CanonicalEvent}

theorem uniqueEvents_of_nodup (h : (events.map CanonicalEvent.eventId).Nodup) :
    uniqueEvents events = events := by
  induction events with
  | nil => rfl
  | cons event rest ih =>
    rw [List.map_cons, List.nodup_cons] at h
    rw [uniqueEvents, ih h.2, List.filter_eq_self.mpr]
    intro other hother
    exact decide_eq_true fun hid => h.1 (List.mem_map.mpr ⟨other, hother, hid⟩)

/-- Without pending handles the window is the first of the events. -/
theorem retainRecentEvents_perm (localeCompare : LocaleCompare)
    (h : (events.map CanonicalEvent.eventId).Nodup) :
    (retainRecentEvents localeCompare events ∅).Perm (events.take maxRecentEvents) := by
  have hnone : uniqueEvents events = events := uniqueEvents_of_nodup h
  have hall : (uniqueEvents events).filter (fun event => !isProtectedEvent ∅ event)
      = events := by
    rw [hnone]
    exact List.filter_eq_self.mpr fun _ _ => rfl
  have hprotected : (uniqueEvents events).filter (isProtectedEvent ∅) = [] :=
    List.filter_eq_nil_iff.mpr fun _ _ hfalse => nomatch hfalse
  have hperm := List.mergeSort_perm (([] : List CanonicalEvent) ++ events.take maxRecentEvents)
    (laterFirst localeCompare)
  rw [retainRecentEvents_eq, Retention.retain, hprotected, hall]
  exact hperm

/-- Distinct events that fit into the window are all in it. -/
theorem remember_append_perm (localeCompare : LocaleCompare) (hhandles : state.pendingHandles = ∅)
    (hids : ((events ++ state.recentEvents).map CanonicalEvent.eventId).Nodup)
    (hroom : (events ++ state.recentEvents).length ≤ maxRecentEvents) :
    (remember localeCompare state (events.map .append)).recentEvents.Perm
        (events ++ state.recentEvents) ∧
      (remember localeCompare state (events.map .append)).pendingHandles = ∅ := by
  induction events generalizing state with
  | nil => exact ⟨.refl _, hhandles⟩
  | cons event rest ih =>
    have hmiddle : (event :: rest ++ state.recentEvents).Perm
        (rest ++ event :: state.recentEvents) := List.perm_middle.symm
    have hids' := (hmiddle.map _).nodup_iff.mp hids
    have hroom' := hmiddle.length_eq ▸ hroom
    rw [List.length_append] at hroom'
    rw [List.map_append] at hids'
    -- The first append leaves the event and the ones before it, in another order.
    have hfirst : (retainRecentEvents localeCompare (event :: state.recentEvents)
        state.pendingHandles).Perm (event :: state.recentEvents) := by
      have hperm := retainRecentEvents_perm localeCompare hids'.of_append_right
      rwa [List.take_of_length_le (by omega), ← hhandles] at hperm
    have hrest := hfirst.append_left rest
    have hhandles' : (WindowAction.apply localeCompare state (.append event)).pendingHandles = ∅ :=
      hhandles
    obtain ⟨hperm, hnone⟩ := ih hhandles' ((hrest.map _).nodup_iff.mpr (by rwa [List.map_append]))
      (hrest.length_eq.trans_le (by rwa [List.length_append]))
    exact ⟨hperm.trans (hrest.trans hmiddle.symm), hnone⟩

/-- A full window without handles gives up a newer event for an appended older one. -/
theorem replaces_of_full [Std.TransCmp localeCompare] {event : CanonicalEvent}
    (h : Windowed localeCompare state) (hhandles : state.pendingHandles = ∅)
    (hfull : state.recentEvents.length = maxRecentEvents)
    (hfresh : event.eventId ∉ state.recentEvents.map CanonicalEvent.eventId)
    (hlate : ∀ other ∈ state.recentEvents,
      localeCompare event.createdAt other.createdAt = .lt) :
    ∃ gone, Replaces localeCompare state (.append event) gone event := by
  have hafter : (WindowAction.apply localeCompare state (.append event)).recentEvents
      = retainRecentEvents localeCompare (event :: state.recentEvents) ∅ := by
    rw [← hhandles]
    rfl
  have hids : ((event :: state.recentEvents).map CanonicalEvent.eventId).Nodup :=
    List.nodup_cons.mpr ⟨hfresh, h.unique⟩
  have hperm := retainRecentEvents_perm localeCompare hids
  have hstays : event ∈ (WindowAction.apply localeCompare state (.append event)).recentEvents := by
    rw [hafter, hperm.mem_iff]
    exact List.mem_cons_self ..
  -- The window has one place less than there are ids.
  have hgone : ∃ gone ∈ state.recentEvents,
      ¬ HasEvent (WindowAction.apply localeCompare state (.append event)).recentEvents
        gone.eventId := by
    by_contra hnone
    have hall : ∀ other ∈ state.recentEvents, HasEvent
        (WindowAction.apply localeCompare state (.append event)).recentEvents other.eventId :=
      fun other hother => by_contra fun hmissing => hnone ⟨other, hother, hmissing⟩
    have hsubset : ((event :: state.recentEvents).map CanonicalEvent.eventId) ⊆
        (WindowAction.apply localeCompare state (.append event)).recentEvents.map
          CanonicalEvent.eventId := by
      intro eventId hmem
      obtain ⟨other, hother, rfl⟩ := List.mem_map.mp hmem
      rcases List.mem_cons.mp hother with rfl | hother
      · exact List.mem_map.mpr ⟨other, hstays, rfl⟩
      · obtain ⟨found, hfound, hid⟩ := hall other hother
        exact List.mem_map.mpr ⟨found, hfound, hid⟩
    have hlength := (List.Nodup.subperm hids hsubset).length_le
    have hroom := (windowed_apply h (.append event)).room
    rw [List.length_map, List.length_map, List.length_cons] at hlength
    omega
  obtain ⟨gone, hmem, hevicted⟩ := hgone
  refine ⟨gone, List.mem_cons_of_mem _ hmem, hevicted, hstays, ?_, hlate gone hmem⟩
  show isProtectedEvent state.pendingHandles event = false
  rw [hhandles]
  rfl

end

/-- An event of the sample Session. -/
def eventAt (eventId createdAt : String) : CanonicalEvent where
  eventId := eventId
  hostId := "host"
  sessionId := "session"
  provider := "pi"
  agentText := "done"
  humanText := none
  projectName := none
  workingDirectory := none
  harnessProvider := none
  createdAt := createdAt
  kind := .done

/-- A window full of events of one day. -/
def fullDay : List CanonicalEvent :=
  (List.range maxRecentEvents).map fun count =>
    eventAt (String.ofList (List.replicate (count + 1) 'e')) "2026-01-02T00:00:00.000Z"

/-- An event of the day before. -/
def lateEvent : CanonicalEvent := eventAt "late" "2026-01-01T00:00:00.000Z"

/-- The events of a day, and then the one of the day before. -/
def lateArrival : List WindowAction := fullDay.map .append ++ [.append lateEvent]

/-- An event with a handle, and one more event. -/
def handledEvents : List WindowAction :=
  [.append lateEvent, .queuePendingHandle ⟨"host", "session", "late", none,
    "2026-01-01T00:00:01.000Z", .piInput, "2026-01-01T00:00:01.000Z"⟩,
    .append (eventAt "next" "2026-01-02T00:00:00.000Z")]

theorem fullDay_nodup : (fullDay.map CanonicalEvent.eventId).Nodup := by
  rw [fullDay, List.map_map]
  refine List.Nodup.map_on ?_ List.nodup_range
  intro left _ right _ hid
  have hlength := congrArg String.length hid
  simpa [eventAt] using hlength

theorem lateEvent_fresh : lateEvent.eventId ∉ fullDay.map CanonicalEvent.eventId := by
  intro hmem
  obtain ⟨event, hevent, hid⟩ := List.mem_map.mp hmem
  obtain ⟨count, -, rfl⟩ := List.mem_map.mp hevent
  have hletters : List.replicate (count + 1) 'e' = "late".toList := by
    rw [← String.toList_ofList (l := List.replicate (count + 1) 'e')]
    exact congrArg String.toList hid
  rw [List.replicate_succ] at hletters
  exact absurd (List.cons.inj hletters).1 (by decide)

theorem lateEvent_older : ∀ other ∈ fullDay, compare lateEvent.createdAt other.createdAt = .lt := by
  intro other hother
  obtain ⟨count, -, rfl⟩ := List.mem_map.mp hother
  show compare "2026-01-01T00:00:00.000Z" "2026-01-02T00:00:00.000Z" = .lt
  decide +kernel

/-- The window after the events of the day. -/
theorem remember_fullDay : Windowed compare (remember compare (emptyState "epoch")
      (fullDay.map .append)) ∧
    (remember compare (emptyState "epoch") (fullDay.map .append)).recentEvents.Perm fullDay ∧
    (remember compare (emptyState "epoch") (fullDay.map .append)).pendingHandles = ∅ := by
  have hempty : fullDay ++ (emptyState "epoch").recentEvents = fullDay := List.append_nil fullDay
  have hlength : fullDay.length ≤ maxRecentEvents := by
    rw [fullDay, List.length_map, List.length_range]
  have hids : ((fullDay ++ (emptyState "epoch").recentEvents).map CanonicalEvent.eventId).Nodup := by
    rw [hempty]
    exact fullDay_nodup
  have hday := remember_append_perm compare rfl hids (hempty.symm ▸ hlength)
  rw [hempty] at hday
  exact ⟨windowed_remember (windowed_emptyState "epoch") _, hday⟩

/-- After a full day an event of the day before stays in place of one of the day. -/
theorem recentEventWindow_not_of_lateArrival :
    ¬ (KeepsWindow compare (emptyState "epoch") lateArrival ∧ ∀ action gone kept,
      ¬ ReplacesAt compare (emptyState "epoch") lateArrival action gone kept) := by
  rintro ⟨-, hnever⟩
  obtain ⟨hwindowed, hperm, hhandles⟩ := remember_fullDay
  have hfull : fullDay.length = maxRecentEvents := by
    rw [fullDay, List.length_map, List.length_range]
  obtain ⟨gone, hreplaces⟩ := replaces_of_full hwindowed hhandles
    (hperm.length_eq.trans hfull)
    (fun hmem => lateEvent_fresh ((hperm.map _).mem_iff.mp hmem))
    (fun other hother => lateEvent_older other (hperm.mem_iff.mp hother))
  exact hnever _ _ _ ⟨_, [], rfl, hreplaces⟩

/-- The window after an event, a handle of it and one more event. -/
theorem recentEventWindow_of_handled :
    KeepsWindow compare (emptyState "epoch") handledEvents ∧
      ∀ action gone kept, ReplacesAt compare (emptyState "epoch") handledEvents action gone kept →
        action = .append kept :=
  recentEventWindow_of_run (windowed_emptyState "epoch") handledEvents

end Ariava.Proofs.RecentEventWindow
