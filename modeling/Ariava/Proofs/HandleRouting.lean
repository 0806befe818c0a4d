import Ariava.Daemon.PendingHandles
import Ariava.Lib.DictOrder
import Ariava.Proofs.RecentEventWindow

/-!
# `Ariava.Proofs.HandleRouting`: which pending handles reach the Relay

The adapter server takes every identifier of at most 256 bytes. A handle request has the Session
id in its path, and there the alphabet is smaller and a segment has at most 255 characters.
`isRoutable` is this check; the event id is in the body only, where every text is allowed.

A handle whose request fails locally stays pending, and the flush ends at it. So it holds back
the handles that come after it, in this flush and in the later ones.

- `sent_of_clear`: with only routable handles before it, a routable handle is sent by the first
  flush of every run;
- `not_sent_of_blocked`: with an unroutable handle before it, a handle is never sent;
- `handleRouting_iff` puts the two together with the requests themselves.
-/

set_option autoImplicit false

namespace Ariava.Proofs.HandleRouting

open Ariava.Lib
open Ariava.Protocol
open Ariava.AgentAdapter
open Ariava.StateStore
open Ariava.Daemon
open Ariava.Proofs.RecentEventWindow (boundTo queuePendingHandle_cases retainRecentEvents_eq
  uniqueEvents_sublist WindowAction)

/-! ### Requests -/

/-- The Session id can stand in the path of a request. -/
def isRoutable (sessionId : JsString) : Bool :=
  isRestrictedDynamicValue sessionId && decide (sessionId.length ≤ pathSegmentCharacters)

/-- A request for an identifier and times that the adapter server took is made when the Session id
is routable. -/
theorem handleSession_ok_iff_isRoutable {signer : RelaySigner} {sessionId : JsString}
    {request : AgentAdapter.HandleSessionRequest}
    (hevent : isBoundedAgentAdapterIdentifier request.handledThroughEventId = true)
    (hcreatedAt : ∀ text ∈ request.handledThroughEventCreatedAt, FitsRequest text)
    (hhandledAt : ∀ text ∈ request.handledAt, FitsRequest text) :
    (∃ sent, Daemon.handleSession signer sessionId request = .ok sent) ↔
      isRoutable sessionId = true := by
  rw [handleSession_ok_iff, isRoutable, Bool.and_eq_true, decide_eq_true_eq]
  have hbody := handleBody_fits hevent hcreatedAt hhandledAt
  exact ⟨fun h => ⟨h.1, h.2.1⟩, fun h => ⟨h.1, h.2, hbody⟩⟩

theorem requireIdentifier_ok {obj : JsonObject} {key : String} {s : JsString}
    (h : requireIdentifier obj key = .ok s) : isBoundedAgentAdapterIdentifier s = true := by
  unfold requireIdentifier at h
  split at h
  · split at h
    · next hbounded =>
      cases h
      exact hbounded
    · cases h
  · cases h

/-- The handle parser lets only bounded event ids through. -/
theorem parseHandleInput_ok {body : JsonValue} {request : AgentAdapter.HandleSessionRequest}
    (h : parseHandleInput body = .ok request) :
    isBoundedAgentAdapterIdentifier request.handledThroughEventId = true := by
  cases body with
  | object obj =>
    obtain ⟨-, hrest⟩ := check_bind_eq_ok.mp h
    obtain ⟨action, -, hrest⟩ := bind_eq_ok_iff.mp hrest
    obtain ⟨handleAction, -, hrest⟩ := bind_eq_ok_iff.mp hrest
    obtain ⟨eventId, heventId, hrest⟩ := bind_eq_ok_iff.mp hrest
    obtain ⟨createdAt, -, hrest⟩ := bind_eq_ok_iff.mp hrest
    obtain ⟨handledAt, -, hrest⟩ := bind_eq_ok_iff.mp hrest
    cases hrest
    exact requireIdentifier_ok heventId
  | null => cases h
  | bool _ => cases h
  | number _ => cases h
  | string _ => cases h
  | array _ => cases h

/-! ### Pending handles -/

/-- What the registry puts into a handle of this Host. -/
structure Fits (hostId : String) (handle : PendingSessionHandle) : Prop where
  host : handle.hostId = hostId
  event : isBoundedAgentAdapterIdentifier (jsString handle.handledThroughEventId) = true
  createdAt : ∀ createdAt ∈ handle.handledThroughEventCreatedAt, FitsRequest (jsString createdAt)
  handledAt : FitsRequest (jsString handle.handledAt)

/-- A state of this Host: every pending handle is at its key, and it fits, as do the times of the
recent events. -/
structure HostBound (hostId : String) (state : PersistedBridgeState) : Prop where
  keyed : ∀ key handle, state.pendingHandles.get? key = some handle →
    key = sessionHandleKey hostId handle.sessionId
  fits : ∀ handle ∈ state.pendingHandles.values, Fits hostId handle
  events : ∀ event ∈ state.recentEvents, FitsRequest (jsString event.createdAt)

/-- The actions of this Host, where the Relay answers every request and every write succeeds. -/
def Answered (hostId : String) : HandleAction → Prop
  | .queue handle => Fits hostId handle
  | .flush _ relay => ∀ handle, (relay handle).requestEnd = .completed ∧
      ∀ queued ∈ (relay handle).queued, Fits hostId queued

/-- The flushes of a run. -/
def flushes (actions : List HandleAction) : Nat :=
  actions.countP fun action => match action with
    | .queue _ => false
    | .flush _ _ => true

/-- A pending handle of a routable Session is sent in time: there is a number of flushes after
which a request for its Session went out in every run. -/
def Independent (localeCompare : LocaleCompare) (hostId : String) (state : PersistedBridgeState) :
    Prop :=
  ∀ handle ∈ state.pendingHandles.values, isRoutable (jsString handle.sessionId) = true →
    ∃ n, ∀ actions, (∀ action ∈ actions, Answered hostId action) → n ≤ flushes actions →
      ∃ sent ∈ (runHandles localeCompare ⟨state, []⟩ actions).sent,
        sent.1.sessionId = handle.sessionId

/-- No pending handle of a Session that is not routable comes before one of a routable Session. -/
def UnroutableLast (state : PersistedBridgeState) : Prop :=
  state.pendingHandles.values.Pairwise fun first second =>
    isRoutable (jsString second.sessionId) = true → isRoutable (jsString first.sessionId) = true

section
variable {localeCompare : LocaleCompare} {hostId : String} {state : PersistedBridgeState}
  {q : HandleQueue} {signer : RelaySigner} {relay : PendingSessionHandle → Await}
  {handle : PendingSessionHandle} {first key : String}

/-- The key of a handle of this Host. -/
def keyOf (hostId : String) (handle : PendingSessionHandle) : String :=
  sessionHandleKey hostId handle.sessionId

theorem sessionHandleKey_inj {sessionId sessionId' : String} :
    sessionHandleKey hostId sessionId = sessionHandleKey hostId sessionId' ↔
      sessionId = sessionId' := by
  unfold sessionHandleKey
  exact String.append_right_inj _

theorem map_keyOf_values (h : HostBound hostId state) :
    state.pendingHandles.values.map (keyOf hostId) = state.pendingHandles.keys := by
  unfold Dict.values Dict.keys
  rw [List.map_map]
  refine List.map_congr_left fun entry hentry => ?_
  exact (h.keyed entry.1 entry.2 (Dict.mem_entries_iff.mp hentry)).symm

/-! ### The steps of a flush -/

/-- A queued handle of this Host changes the value at its key, if it changes anything. -/
theorem queue_cases (localeCompare : LocaleCompare) (q : HandleQueue)
    (handle : PendingSessionHandle) :
    q.queue localeCompare handle = q ∨
      ∃ event ∈ q.state.recentEvents,
        (q.queue localeCompare handle).state.pendingHandles = q.state.pendingHandles.set
          (sessionHandleKey handle.hostId handle.sessionId) (boundTo handle event) ∧
        (∀ recent ∈ (q.queue localeCompare handle).state.recentEvents,
          recent ∈ q.state.recentEvents) ∧
        (q.queue localeCompare handle).sent = q.sent := by
  have hqueue : q.queue localeCompare handle = ⟨WindowAction.apply localeCompare q.state
      (.queuePendingHandle handle), q.sent⟩ := rfl
  rw [hqueue]
  rcases queuePendingHandle_cases localeCompare q.state handle with h | ⟨event, hevent, -, -, h⟩
  · left
    rw [h]
  · right
    refine ⟨event, hevent, ?_, ?_, rfl⟩
    · rw [h]
    · rw [h]
      intro recent hrecent
      dsimp only at hrecent
      rw [retainRecentEvents_eq] at hrecent
      exact (uniqueEvents_sublist _).subset (Retention.mem_of_mem_retain hrecent)

/-- A sent handle is taken out, or another one came to its key. -/
theorem remove_cases (q : HandleQueue) (handle : PendingSessionHandle) :
    q.remove handle = q ∨ q.remove handle = { q with
      state := { q.state with
        pendingHandles := q.state.pendingHandles.erase
          (sessionHandleKey handle.hostId handle.sessionId) } } := by
  unfold HandleQueue.remove removePendingSessionHandleTransition
  dsimp only
  split
  · exact .inl rfl
  · split
    · exact .inl rfl
    · exact .inr rfl

theorem hostBound_queue (h : HostBound hostId q.state) (hfits : Fits hostId handle) :
    HostBound hostId (q.queue localeCompare handle).state := by
  rcases queue_cases localeCompare q handle with
    heq | ⟨event, hevent, hhandles, hrecent, -⟩
  · rw [heq]
    exact h
  · have hbound : Fits hostId (boundTo handle event) :=
      ⟨hfits.host, hfits.event, fun _ hcreatedAt => by
        cases hcreatedAt
        exact h.events event hevent, hfits.handledAt⟩
    constructor
    · intro key other hother
      rw [hhandles] at hother
      rcases Dict.get?_set_cases hother with ⟨rfl, rfl⟩ | ⟨-, hold⟩
      · rw [hfits.host]
        rfl
      · exact h.keyed key other hold
    · intro other hother
      rw [hhandles] at hother
      obtain ⟨key, hkey⟩ := Dict.mem_values_iff.mp hother
      rcases Dict.get?_set_cases hkey with ⟨-, rfl⟩ | ⟨-, hold⟩
      · exact hbound
      · exact h.fits other (Dict.mem_values_iff.mpr ⟨key, hold⟩)
    · exact fun recent hmem => h.events recent (hrecent recent hmem)

theorem hostBound_remove (h : HostBound hostId q.state) :
    HostBound hostId (q.remove handle).state := by
  rcases remove_cases q handle with heq | heq
  · rw [heq]
    exact h
  · rw [heq]
    constructor
    · exact fun key other hother => h.keyed key other (Dict.get?_of_erase hother)
    · intro other hother
      obtain ⟨key, hkey⟩ := Dict.mem_values_iff.mp hother
      exact h.fits other (Dict.mem_values_iff.mpr ⟨key, Dict.get?_of_erase hkey⟩)
    · exact h.events

theorem precedes_queue (h : q.state.pendingHandles.Precedes first key) :
    (q.queue localeCompare handle).state.pendingHandles.Precedes first key := by
  rcases queue_cases localeCompare q handle with heq | ⟨_, _, hhandles, -, -⟩
  · rw [heq]
    exact h
  · rw [hhandles]
    exact h.set

theorem precedes_remove (h : q.state.pendingHandles.Precedes first key)
    (hfirst : first ≠ sessionHandleKey handle.hostId handle.sessionId)
    (hkey : key ≠ sessionHandleKey handle.hostId handle.sessionId) :
    (q.remove handle).state.pendingHandles.Precedes first key := by
  rcases remove_cases q handle with heq | heq
  · rw [heq]
    exact h
  · rw [heq]
    exact h.erase hfirst hkey

theorem sent_queue (q : HandleQueue) (handle : PendingSessionHandle) :
    (q.queue localeCompare handle).sent = q.sent := rfl

theorem sent_remove (q : HandleQueue) (handle : PendingSessionHandle) :
    (q.remove handle).sent = q.sent := rfl

/-- What every queued handle keeps holds after the request. -/
theorem send_rec {P : HandleQueue → Prop} {request : RelayRequest}
    {queued : List PendingSessionHandle}
    (hsent : P { q with sent := q.sent ++ [(handle, request)] })
    (hqueue : ∀ q', ∀ other ∈ queued, P q' → P (q'.queue localeCompare other)) :
    P (q.send localeCompare handle request queued) := by
  unfold HandleQueue.send
  generalize { q with sent := q.sent ++ [(handle, request)] } = start at hsent
  induction queued generalizing start with
  | nil => exact hsent
  | cons other rest ih =>
    rw [List.foldl_cons]
    refine ih (fun q' next hnext => ?_) _ (hqueue _ other List.mem_cons_self hsent)
    exact hqueue q' next (List.mem_cons_of_mem _ hnext)

theorem sent_send {request : RelayRequest} {queued : List PendingSessionHandle} :
    (q.send localeCompare handle request queued).sent = q.sent ++ [(handle, request)] :=
  send_rec (P := fun q' => q'.sent = q.sent ++ [(handle, request)]) rfl fun _ _ _ h => h

/-! ### What a flush keeps -/

/-- A predicate that no step of a flush breaks holds after the flush. -/
theorem flushHandles_rec {P : HandleQueue → Prop} {handles : List PendingSessionHandle}
    (hsend : ∀ q', ∀ handle ∈ handles, ∀ request,
      Daemon.handleSession signer (jsString handle.sessionId) (handleRequest handle) = .ok request →
      P q' → P (q'.send localeCompare handle request (relay handle).queued))
    (hremove : ∀ q', ∀ handle ∈ handles, P q' → P (q'.remove handle)) (flushed : Nat) (h : P q) :
    P (flushHandles localeCompare signer relay handles flushed q).2 := by
  induction handles generalizing q flushed with
  | nil => exact h
  | cons handle rest ih =>
    unfold flushHandles
    cases hrequest : Daemon.handleSession signer (jsString handle.sessionId)
        (handleRequest handle) with
    | error thrown => exact h
    | ok request =>
      have hsent := hsend q handle List.mem_cons_self request hrequest h
      dsimp only
      split
      · refine ih (fun q' other hother => hsend q' other (List.mem_cons_of_mem _ hother))
          (fun q' other hother => hremove q' other (List.mem_cons_of_mem _ hother)) _ ?_
        exact hremove _ handle List.mem_cons_self hsent
      · exact hsent
      · exact hsent

theorem hostBound_flush (hqueued : ∀ handle, ∀ queued ∈ (relay handle).queued, Fits hostId queued)
    (h : HostBound hostId q.state) :
    HostBound hostId (flushPendingHandles localeCompare signer relay q).2.state := by
  refine flushHandles_rec (P := fun q' => HostBound hostId q'.state) (fun q' handle _ request _ h =>
    ?_) (fun q' handle _ h => hostBound_remove h) 0 h
  exact send_rec (P := fun q' => HostBound hostId q'.state) h fun q'' queued hmem h =>
    hostBound_queue h (hqueued handle queued hmem)

/-- The requests that were sent stay sent. -/
theorem sent_flush_subset {sent : PendingSessionHandle × RelayRequest} (h : sent ∈ q.sent) :
    sent ∈ (flushPendingHandles localeCompare signer relay q).2.sent := by
  refine flushHandles_rec (P := fun q' => sent ∈ q'.sent) (fun q' handle _ request _ h => ?_)
    (fun q' handle _ h => h) 0 h
  rw [sent_send]
  exact List.mem_append_left _ h

/-- The handles of a flush are made into requests exactly when their Session is routable. -/
theorem handleRequest_ok_iff (signer : RelaySigner) (h : Fits hostId handle) :
    (∃ request, Daemon.handleSession signer (jsString handle.sessionId) (handleRequest handle)
      = .ok request) ↔ isRoutable (jsString handle.sessionId) = true := by
  refine handleSession_ok_iff_isRoutable h.event (fun text htext => ?_) fun text htext => ?_
  · obtain ⟨createdAt, hcreatedAt, rfl⟩ := Option.map_eq_some_iff.mp htext
    exact h.createdAt createdAt hcreatedAt
  · cases htext
    exact h.handledAt

/-- A flush of these handles ends before it reaches a handle behind an unroutable one. -/
theorem flushHandles_of_blocked (localeCompare : LocaleCompare) (signer : RelaySigner)
    (relay : PendingSessionHandle → Await) {handles : List PendingSessionHandle}
    (hfits : ∀ handle ∈ handles, Fits hostId handle)
    (hnodup : (handles.map (keyOf hostId)).Nodup)
    (hblocked : [first, key].Sublist (handles.map (keyOf hostId)))
    (hfirst : ∀ sessionId, first = sessionHandleKey hostId sessionId →
      isRoutable (jsString sessionId) = false)
    (flushed : Nat) (h : q.state.pendingHandles.Precedes first key) :
    (flushHandles localeCompare signer relay handles flushed q).2.state.pendingHandles.Precedes
        first key ∧
      ∀ sent ∈ (flushHandles localeCompare signer relay handles flushed q).2.sent,
        sent ∈ q.sent ∨ keyOf hostId sent.1 ≠ key := by
  induction handles generalizing q flushed with
  | nil => exact ⟨h, fun sent hsent => .inl hsent⟩
  | cons handle rest ih =>
    have hhandle := hfits handle List.mem_cons_self
    unfold flushHandles
    cases hrequest : Daemon.handleSession signer (jsString handle.sessionId)
        (handleRequest handle) with
    | error thrown => exact ⟨h, fun sent hsent => .inl hsent⟩
    | ok request =>
      -- A handle that is sent is routable, so it is not the first one of the two.
      have hroutable := (handleRequest_ok_iff signer hhandle).mp ⟨request, hrequest⟩
      have hne : first ≠ keyOf hostId handle := by
        intro heq
        rw [hfirst _ heq] at hroutable
        cases hroutable
      rw [List.map_cons] at hblocked hnodup
      have hbehind : [first, key].Sublist (rest.map (keyOf hostId)) := by
        cases hblocked with
        | cons _ hbehind => exact hbehind
        | cons_cons _ _ => exact absurd rfl hne
      have hkey : key ≠ keyOf hostId handle := by
        rintro rfl
        exact (List.nodup_cons.mp hnodup).1 (hbehind.subset (by simp))
      have hrest := fun other hother => hfits other (List.mem_cons_of_mem _ hother)
      have hsend : (q.send localeCompare handle request
          (relay handle).queued).state.pendingHandles.Precedes first key :=
        send_rec (P := fun q' => q'.state.pendingHandles.Precedes first key) h fun _ _ _ h =>
          precedes_queue h
      have hnew : ∀ sent ∈ (q.send localeCompare handle request (relay handle).queued).sent,
          sent ∈ q.sent ∨ keyOf hostId sent.1 ≠ key := by
        intro sent hsent
        rw [sent_send, List.mem_append, List.mem_singleton] at hsent
        rcases hsent with hsent | rfl
        · exact .inl hsent
        · exact .inr hkey.symm
      dsimp only
      split
      · have hremoved : ((q.send localeCompare handle request
            (relay handle).queued).remove handle).state.pendingHandles.Precedes first key := by
          refine precedes_remove hsend ?_ ?_
          · rw [hhandle.host]
            exact hne
          · rw [hhandle.host]
            exact hkey
        obtain ⟨hprecedes, hsent⟩ := ih hrest (List.nodup_cons.mp hnodup).2 hbehind (flushed + 1)
          hremoved
        refine ⟨hprecedes, fun sent hmem => ?_⟩
        rcases hsent sent hmem with hold | hother
        · exact hnew sent hold
        · exact .inr hother
      · exact ⟨hsend, hnew⟩
      · exact ⟨hsend, hnew⟩

/-- A flush whose requests are answered sends every handle that has only routable ones before
it. -/
theorem flushHandles_of_clear (localeCompare : LocaleCompare) (signer : RelaySigner)
    (q : HandleQueue) {handles : List PendingSessionHandle}
    (hfits : ∀ handle ∈ handles, Fits hostId handle)
    (hrelay : ∀ handle, (relay handle).requestEnd = .completed)
    (hkey : key ∈ handles.map (keyOf hostId))
    (hroutable : ∀ handle ∈ handles, keyOf hostId handle = key →
      isRoutable (jsString handle.sessionId) = true)
    (hclear : ∀ handle ∈ handles, [keyOf hostId handle, key].Sublist (handles.map (keyOf hostId)) →
      isRoutable (jsString handle.sessionId) = true) (flushed : Nat) :
    ∃ sent ∈ (flushHandles localeCompare signer relay handles flushed q).2.sent,
      keyOf hostId sent.1 = key := by
  induction handles generalizing q flushed with
  | nil => cases hkey
  | cons handle rest ih =>
    have hhandle := hfits handle List.mem_cons_self
    rw [List.map_cons, List.mem_cons] at hkey
    have hsent : isRoutable (jsString handle.sessionId) = true := by
      rcases hkey with heq | hkey
      · exact hroutable handle List.mem_cons_self heq.symm
      · refine hclear handle List.mem_cons_self ?_
        rw [List.map_cons]
        exact (List.singleton_sublist.mpr hkey).cons_cons _
    obtain ⟨request, hrequest⟩ := (handleRequest_ok_iff signer hhandle).mpr hsent
    unfold flushHandles
    rw [hrequest]
    simp only [hrelay]
    by_cases heq : keyOf hostId handle = key
    · -- This is the handle; the requests that follow do not take it back.
      refine ⟨(handle, request), ?_, heq⟩
      refine flushHandles_rec (P := fun q' => (handle, request) ∈ q'.sent)
        (fun q' other _ request' _ h => ?_) (fun q' other _ h => h) _ ?_
      · rw [sent_send]
        exact List.mem_append_left _ h
      · rw [sent_remove, sent_send]
        exact List.mem_append_right _ (List.mem_singleton.mpr rfl)
    · rcases hkey with hkey | hkey
      · exact absurd hkey.symm heq
      · refine ih _ (fun other hother => hfits other (List.mem_cons_of_mem _ hother)) hkey
          (fun other hother => hroutable other (List.mem_cons_of_mem _ hother))
          (fun other hother hbefore => hclear other (List.mem_cons_of_mem _ hother) ?_) _
        rw [List.map_cons]
        exact hbefore.cons _

/-! ### Runs -/

theorem hostBound_apply {action : HandleAction} (haction : Answered hostId action)
    (h : HostBound hostId q.state) : HostBound hostId (action.apply localeCompare q).state := by
  cases action with
  | queue handle => exact hostBound_queue h haction
  | flush signer relay => exact hostBound_flush (fun handle => (haction handle).2) h

theorem sent_run_subset {sent : PendingSessionHandle × RelayRequest} (h : sent ∈ q.sent)
    (actions : List HandleAction) : sent ∈ (runHandles localeCompare q actions).sent := by
  induction actions generalizing q with
  | nil => exact h
  | cons action rest ih =>
    refine ih ?_
    cases action with
    | queue handle => exact h
    | flush signer relay => exact sent_flush_subset h

/-- A pending handle with only routable handles before it. -/
structure Clear (hostId : String) (state : PersistedBridgeState) (sessionId : String) : Prop where
  pending : sessionHandleKey hostId sessionId ∈ state.pendingHandles.keys
  routable : isRoutable (jsString sessionId) = true
  before : ∀ other, state.pendingHandles.Precedes (sessionHandleKey hostId other)
    (sessionHandleKey hostId sessionId) → isRoutable (jsString other) = true

theorem clear_queue {sessionId : String} (h : Clear hostId q.state sessionId) :
    Clear hostId (q.queue localeCompare handle).state sessionId := by
  rcases queue_cases localeCompare q handle with heq | ⟨_, _, hhandles, -, -⟩
  · rw [heq]
    exact h
  · refine ⟨?_, h.routable, fun other hother => ?_⟩
    · rw [hhandles]
      exact Dict.mem_keys_set h.pending
    · rw [hhandles] at hother
      exact h.before other (hother.of_set h.pending)

theorem sent_flush_of_clear (localeCompare : LocaleCompare) (signer : RelaySigner)
    {sessionId : String} (hbound : HostBound hostId q.state)
    (h : Clear hostId q.state sessionId) (hrelay : ∀ handle, (relay handle).requestEnd = .completed) :
    ∃ sent ∈ (flushPendingHandles localeCompare signer relay q).2.sent,
      sent.1.sessionId = sessionId := by
  have hkeys := map_keyOf_values hbound
  have hpending : sessionHandleKey hostId sessionId
      ∈ q.state.pendingHandles.values.map (keyOf hostId) := by
    rw [hkeys]
    exact h.pending
  obtain ⟨sent, hsent, hkey⟩ := flushHandles_of_clear localeCompare signer q hbound.fits hrelay
    hpending (fun handle _ heq => by rw [sessionHandleKey_inj.mp heq]; exact h.routable)
    (fun handle _ hbefore => by rw [hkeys] at hbefore; exact h.before _ hbefore) 0
  exact ⟨sent, hsent, sessionHandleKey_inj.mp hkey⟩

/-- The first flush of a run sends a pending handle with only routable ones before it. -/
theorem sent_of_clear {sessionId : String} {actions : List HandleAction}
    (hactions : ∀ action ∈ actions, Answered hostId action) (hflush : 1 ≤ flushes actions)
    (hbound : HostBound hostId q.state) (h : Clear hostId q.state sessionId) :
    ∃ sent ∈ (runHandles localeCompare q actions).sent, sent.1.sessionId = sessionId := by
  induction actions generalizing q with
  | nil => cases hflush
  | cons action rest ih =>
    have haction := hactions action List.mem_cons_self
    have hrest := fun other hother => hactions other (List.mem_cons_of_mem _ hother)
    cases action with
    | queue handle =>
      have hcount : 1 ≤ flushes rest := by
        unfold flushes at hflush ⊢
        rwa [List.countP_cons_of_neg (by simp)] at hflush
      exact ih hrest hcount (hostBound_queue hbound haction) (clear_queue h)
    | flush signer relay =>
      obtain ⟨sent, hsent, hid⟩ := sent_flush_of_clear localeCompare signer hbound
        h fun handle => (haction handle).1
      exact ⟨sent, sent_run_subset hsent rest, hid⟩

/-- A handle behind an unroutable one is not sent in any run. -/
theorem not_sent_of_blocked {sessionId blocking : String} {actions : List HandleAction}
    (hactions : ∀ action ∈ actions, Answered hostId action) (hbound : HostBound hostId q.state)
    (hblocking : isRoutable (jsString blocking) = false)
    (h : q.state.pendingHandles.Precedes (sessionHandleKey hostId blocking)
      (sessionHandleKey hostId sessionId)) :
    ∀ sent ∈ (runHandles localeCompare q actions).sent,
      sent ∈ q.sent ∨ sent.1.sessionId ≠ sessionId := by
  have hfirst : ∀ other, sessionHandleKey hostId blocking = sessionHandleKey hostId other →
      isRoutable (jsString other) = false := by
    intro other heq
    rwa [← sessionHandleKey_inj.mp heq]
  induction actions generalizing q with
  | nil => exact fun sent hsent => .inl hsent
  | cons action rest ih =>
    have haction := hactions action List.mem_cons_self
    have hrest := fun other hother => hactions other (List.mem_cons_of_mem _ hother)
    have hnext : ((action.apply localeCompare q).state.pendingHandles.Precedes
        (sessionHandleKey hostId blocking) (sessionHandleKey hostId sessionId)) ∧
        ∀ sent ∈ (action.apply localeCompare q).sent,
          sent ∈ q.sent ∨ sent.1.sessionId ≠ sessionId := by
      cases action with
      | queue handle => exact ⟨precedes_queue h, fun sent hsent => .inl hsent⟩
      | flush signer relay =>
        have hkeys := map_keyOf_values hbound
        have hnodup : (q.state.pendingHandles.values.map (keyOf hostId)).Nodup := by
          rw [hkeys]
          exact q.state.pendingHandles.nodupKeys
        have hbehind := h
        unfold Dict.Precedes at hbehind
        rw [← hkeys] at hbehind
        obtain ⟨hprecedes, hsent⟩ := flushHandles_of_blocked localeCompare signer relay
          hbound.fits hnodup hbehind hfirst 0 h
        refine ⟨hprecedes, fun sent hmem => (hsent sent hmem).imp_right fun hne hid => hne ?_⟩
        exact sessionHandleKey_inj.mpr hid
    intro sent hsent
    rcases ih hrest (hostBound_apply haction hbound) hnext.1 sent hsent with hold | hother
    · exact hnext.2 sent hold
    · exact .inr hother

/-- A signer, and a Relay that answers at once. -/
def plainSigner : RelaySigner := ⟨jsString "host", jsString "key", id, [], []⟩

/-- Nothing is queued during a request, and the request is answered. -/
def promptRelay (_ : PendingSessionHandle) : Await := ⟨[], .completed⟩

theorem not_independent_of_blocked (hbound : HostBound hostId state)
    {blocking : PendingSessionHandle}
    (hbefore : [blocking, handle].Sublist state.pendingHandles.values)
    (hblocking : isRoutable (jsString blocking.sessionId) = false)
    (hroutable : isRoutable (jsString handle.sessionId) = true) :
    ¬ Independent localeCompare hostId state := by
  intro h
  obtain ⟨n, hrun⟩ := h handle (hbefore.subset (by simp)) hroutable
  have hprecedes : state.pendingHandles.Precedes (sessionHandleKey hostId blocking.sessionId)
      (sessionHandleKey hostId handle.sessionId) := by
    unfold Dict.Precedes
    rw [← map_keyOf_values hbound]
    exact hbefore.map (keyOf hostId)
  -- As many flushes as one likes, each with prompt answers.
  have hanswered : ∀ action ∈ List.replicate n (HandleAction.flush plainSigner promptRelay),
      Answered hostId action := by
    intro action haction
    rw [List.eq_of_mem_replicate haction]
    exact fun _ => ⟨rfl, fun queued hqueued => absurd hqueued List.not_mem_nil⟩
  have hflushes : n ≤ flushes (List.replicate n (HandleAction.flush plainSigner promptRelay)) := by
    unfold flushes
    rw [List.countP_replicate]
    simp
  obtain ⟨sent, hsent, hid⟩ := hrun _ hanswered hflushes
  rcases not_sent_of_blocked (q := ⟨state, []⟩) hanswered hbound hblocking hprecedes sent hsent with
    hold | hne
  · cases hold
  · exact hne hid

/-- The pending handles of routable Sessions are sent in time exactly when none of them is behind
one that is not routable. -/
theorem independent_iff (hbound : HostBound hostId state) :
    Independent localeCompare hostId state ↔ UnroutableLast state := by
  unfold UnroutableLast
  rw [List.pairwise_iff_forall_sublist]
  constructor
  · intro h blocking handle hbefore hroutable
    by_contra hblocking
    rw [Bool.not_eq_true] at hblocking
    exact not_independent_of_blocked hbound hbefore hblocking hroutable h
  · intro h handle hhandle hroutable
    refine ⟨1, fun actions hactions hflush => sent_of_clear hactions hflush hbound ?_⟩
    have hkeys := map_keyOf_values hbound
    refine ⟨?_, hroutable, fun other hother => ?_⟩
    · rw [← hkeys]
      exact List.mem_map_of_mem hhandle
    · unfold Dict.Precedes at hother
      rw [← hkeys] at hother
      obtain ⟨pair, hpair, heq⟩ := List.sublist_map_iff.mp hother
      obtain ⟨before, rest, rfl, hbefore, hrest⟩ := List.map_eq_cons_iff.mp heq.symm
      obtain ⟨same, rest, rfl, hsame, hrest⟩ := List.map_eq_cons_iff.mp hrest
      rw [List.map_eq_nil_iff.mp hrest] at hpair
      have hfirst : before.sessionId = other := sessionHandleKey_inj.mp hbefore
      have hsecond : same.sessionId = handle.sessionId := sessionHandleKey_inj.mp hsame
      rw [← hfirst]
      refine h hpair ?_
      rwa [hsecond]

end

/-! ### The routing of handles -/

/-- Every accepted Session id and event id makes a handle request. -/
def HandlesRequested : Prop :=
  ∀ signer registration handling register handle createdAt handledAt action,
    parseRegisterInput registration = .ok register → parseHandleInput handling = .ok handle →
    (∀ text ∈ createdAt, FitsRequest text) → (∀ text ∈ handledAt, FitsRequest text) →
    ∃ sent, Daemon.handleSession signer register.sessionId
      ⟨handle.handledThroughEventId, createdAt, handledAt, action⟩ = .ok sent

/-- No handle holds back the pending handles of other Sessions. -/
def HandlesIndependent : Prop :=
  ∀ localeCompare hostId state, HostBound hostId state → Independent localeCompare hostId state

/-- A request is made for the accepted ids exactly when the Session id is routable, and the handles
of routable Sessions are sent in time exactly when no other handle comes before one of them. -/
theorem handleRouting_iff {registration handling : JsonValue} {register : AgentAdapterRegisterRequest}
    {handle : AgentAdapter.HandleSessionRequest} {createdAt handledAt : Option JsString}
    {hostId : String} {state : PersistedBridgeState} (localeCompare : LocaleCompare)
    (signer : RelaySigner) (action : Option SessionHandleAction)
    (_hregister : parseRegisterInput registration = .ok register)
    (hhandle : parseHandleInput handling = .ok handle)
    (hcreatedAt : ∀ text ∈ createdAt, FitsRequest text)
    (hhandledAt : ∀ text ∈ handledAt, FitsRequest text) (hbound : HostBound hostId state) :
    ((∃ sent, Daemon.handleSession signer register.sessionId
        ⟨handle.handledThroughEventId, createdAt, handledAt, action⟩ = .ok sent) ↔
      isRoutable register.sessionId = true) ∧
    (Independent localeCompare hostId state ↔ UnroutableLast state) := by
  constructor
  · have hevent := parseHandleInput_ok hhandle
    exact handleSession_ok_iff_isRoutable hevent hcreatedAt hhandledAt
  · exact independent_iff hbound

/-! ### A Session id with a space -/

/-- The registration of a Session. -/
def registrationOf (sessionId : String) : JsonValue := .object [
  (jsString "sessionId", .string (jsString sessionId)),
  (jsString "provider", .string (jsString "pi")),
  (jsString "projectName", .string (jsString "project")),
  (jsString "cwd", .string (jsString "/project")),
  (jsString "nameText", .string (jsString "name")),
  (jsString "driverInstanceId", .string (jsString "AAAAAAAAAAAAAAAAAAAAAA"))]

/-- A handle through an event. -/
def handlingOf (eventId : String) : JsonValue :=
  .object [(jsString "handledThroughEventId", .string (jsString eventId))]

/-- A pending handle of the sample Host. -/
def pendingHandle (sessionId eventId : String) : PendingSessionHandle where
  hostId := "host"
  sessionId := sessionId
  handledThroughEventId := eventId
  handledThroughEventCreatedAt := some "2026-01-01T00:00:00.000Z"
  handledAt := "2026-01-01T00:00:01.000Z"
  action := .piInput
  updatedAt := "2026-01-01T00:00:01.000Z"

/-- The state after handles of these two Sessions were queued. -/
def twoHandles (first second : String) (hne : sessionHandleKey "host" first
    ≠ sessionHandleKey "host" second) : PersistedBridgeState :=
  { emptyState "epoch" with
    pendingHandles :=
      ⟨[(sessionHandleKey "host" first, pendingHandle first "event-1"),
        (sessionHandleKey "host" second, pendingHandle second "event-2")], by simpa using hne⟩ }

theorem hostBound_twoHandles {first second : String}
    (hne : sessionHandleKey "host" first ≠ sessionHandleKey "host" second) :
    HostBound "host" (twoHandles first second hne) := by
  have hfits : ∀ sessionId eventId, isBoundedAgentAdapterIdentifier (jsString eventId) = true →
      Fits "host" (pendingHandle sessionId eventId) := by
    intro sessionId eventId hevent
    refine ⟨rfl, hevent, fun createdAt hcreatedAt => ?_, ?_⟩
    · cases hcreatedAt
      show FitsRequest (jsString "2026-01-01T00:00:00.000Z")
      decide +kernel
    · show FitsRequest (jsString "2026-01-01T00:00:01.000Z")
      decide +kernel
  constructor
  · intro key handle hget
    have hmem := Dict.mem_entries_iff.mpr hget
    rcases List.mem_cons.mp hmem with heq | hmem
    · cases heq
      rfl
    · cases List.mem_singleton.mp hmem
      rfl
  · intro handle hmem
    rcases List.mem_cons.mp hmem with heq | hmem
    · cases heq
      exact hfits first "event-1" (by decide +kernel)
    · cases List.mem_singleton.mp hmem
      exact hfits second "event-2" (by decide +kernel)
  · exact fun event hevent => absurd hevent List.not_mem_nil

theorem isRoutable_space : isRoutable (jsString "a b") = false := by decide +kernel

theorem isRoutable_session : isRoutable (jsString "session") = true := by decide +kernel

theorem key_space_ne : sessionHandleKey "host" "a b" ≠ sessionHandleKey "host" "session" := by
  decide +kernel

set_option maxRecDepth 20000 in
theorem sessionId_of_registration : ∀ sessionId ∈ ["a b", "session"],
    (parseRegisterInput (registrationOf sessionId)).toOption.map
      AgentAdapterRegisterRequest.sessionId = some (jsString sessionId) := by
  decide +kernel

theorem registration_accepted (sessionId : String) (h : sessionId ∈ ["a b", "session"]) :
    ∃ register, parseRegisterInput (registrationOf sessionId) = .ok register ∧
      register.sessionId = jsString sessionId := by
  have hparsed := sessionId_of_registration sessionId h
  cases hregister : parseRegisterInput (registrationOf sessionId) with
  | error thrown =>
    rw [hregister] at hparsed
    cases hparsed
  | ok register =>
    rw [hregister] at hparsed
    exact ⟨register, rfl, Option.some.inj hparsed⟩

set_option maxRecDepth 20000 in
theorem handling_isSome : (parseHandleInput (handlingOf "event-1")).toOption.isSome = true := by
  decide +kernel

theorem handling_accepted : ∃ handle, parseHandleInput (handlingOf "event-1") = .ok handle := by
  have hparsed := handling_isSome
  cases hhandle : parseHandleInput (handlingOf "event-1") with
  | error thrown =>
    rw [hhandle] at hparsed
    cases hparsed
  | ok handle => exact ⟨handle, rfl⟩

/-- The adapter server takes the id with a space, but there is no request for it, and its handle
holds back the one of the other Session. -/
theorem handlesRouted_not_of_space : ¬ HandlesRequested ∧ ¬ HandlesIndependent := by
  constructor
  · intro h
    obtain ⟨register, hregister, hid⟩ := registration_accepted "a b" (by decide)
    obtain ⟨handle, hhandle⟩ := handling_accepted
    have hsent := h plainSigner _ _ register handle none none none hregister hhandle
      (fun _ hnone => nomatch hnone) fun _ hnone => nomatch hnone
    rw [handleSession_ok_iff, hid] at hsent
    have hroutable := isRoutable_space
    rw [isRoutable, hsent.1, decide_eq_true hsent.2.1] at hroutable
    cases hroutable
  · intro h
    exact not_independent_of_blocked (hostBound_twoHandles key_space_ne) (List.Sublist.refl _)
      isRoutable_space isRoutable_session (h compare "host" _ (hostBound_twoHandles key_space_ne))

/-- A plain Session id makes a request, also with a handle behind it that makes none. -/
theorem handleRouting_of_session :
    (∃ register handle sent, parseRegisterInput (registrationOf "session") = .ok register ∧
      parseHandleInput (handlingOf "event-1") = .ok handle ∧
      Daemon.handleSession plainSigner register.sessionId
        ⟨handle.handledThroughEventId, none, none, none⟩ = .ok sent) ∧
    Independent compare "host" (twoHandles "session" "a b" key_space_ne.symm) := by
  obtain ⟨register, hregister, hid⟩ := registration_accepted "session" (by decide)
  obtain ⟨handle, hhandle⟩ := handling_accepted
  have hnone : ∀ text ∈ (none : Option JsString), FitsRequest text := fun _ hmem => nomatch hmem
  obtain ⟨hrequest, hhandles⟩ := handleRouting_iff compare plainSigner none hregister hhandle
    hnone hnone (hostBound_twoHandles key_space_ne.symm)
  constructor
  · obtain ⟨sent, hsent⟩ := hrequest.mpr (by rw [hid]; exact isRoutable_session)
    exact ⟨register, handle, sent, hregister, hhandle, hsent⟩
  · refine hhandles.mpr ?_
    unfold UnroutableLast
    decide +kernel

end Ariava.Proofs.HandleRouting
