import Mathlib.Data.List.Nodup
import Ariava.StateStore.StateCodec
import Ariava.StateStore.StoreFrames

/-!
# `Ariava.StateStore.PendingReconciliation`: one round of the recovery of pending events

A restart goes through the pending sources of the spool and puts their events and terminal
Sessions into the state, one source in each round (`reconcilePendingSource`), and then through
the reserved tuples (`reconcileReservation`).

- `openPendingEventSource_ok`: what a source that loads is bound to. Its id says which source it is
  (`source_of_eventId`).
- `reconcilePendingSource_cases`: a round adds the reservation of its source, and then it skips the
  source or applies it.
- `reconcileEach_ok`: the rounds as a fold over the state, and the write at the end.
-/

set_option autoImplicit false

namespace Ariava.StateStore

open Ariava.Lib
open Ariava.Protocol

/-! ### The recent events -/

section
variable {localeCompare : LocaleCompare} {events : List CanonicalEvent}
  {pendingHandles : Dict String PendingSessionHandle} {eventId : String}

/-- Some event of a list has the id. -/
def HasEvent (events : List CanonicalEvent) (eventId : String) : Prop :=
  ∃ event ∈ events, event.eventId = eventId

theorem length_uniqueEvents_le (events : List CanonicalEvent) :
    (uniqueEvents events).length ≤ events.length := by
  induction events with
  | nil => exact le_rfl
  | cons event rest ih =>
    rw [uniqueEvents, List.length_cons, List.length_cons]
    exact Nat.succ_le_succ ((List.length_filter_le ..).trans ih)

/-- One event of each id is left. -/
theorem hasEvent_uniqueEvents (h : HasEvent events eventId) :
    HasEvent (uniqueEvents events) eventId := by
  induction events with
  | nil => exact h
  | cons event rest ih =>
    rw [uniqueEvents]
    obtain ⟨found, hfound, hid⟩ := h
    by_cases hsame : event.eventId = eventId
    · exact ⟨event, List.mem_cons_self .., hsame⟩
    · rcases List.mem_cons.mp hfound with rfl | hrest
      · exact absurd hid hsame
      · obtain ⟨left, hleft, hid'⟩ := ih ⟨found, hrest, hid⟩
        refine ⟨left, List.mem_cons_of_mem _ (List.mem_filter.mpr ⟨hleft, ?_⟩), hid'⟩
        rw [decide_eq_true_eq, hid']
        exact fun heq => hsame heq.symm

/-- A list with room for all of its events keeps them. -/
theorem hasEvent_retainRecentEvents (hroom : events.length ≤ maxRecentEvents)
    (h : HasEvent events eventId) :
    HasEvent (retainRecentEvents localeCompare events pendingHandles) eventId := by
  obtain ⟨event, hevent, hid⟩ := hasEvent_uniqueEvents h
  refine ⟨event, ?_, hid⟩
  have hlength := (length_uniqueEvents_le events).trans hroom
  have hparts := List.length_eq_length_filter_add (l := uniqueEvents events)
    (isProtectedEvent pendingHandles)
  rw [retainRecentEvents, List.mem_mergeSort, List.mem_append]
  cases hprotected : isProtectedEvent pendingHandles event with
  | true => exact .inl (List.mem_filter.mpr ⟨hevent, hprotected⟩)
  | false =>
    right
    rw [List.take_of_length_le (by omega)]
    refine List.mem_filter.mpr ⟨hevent, ?_⟩
    rw [hprotected]
    rfl

/-- The retained events are not more than the given ones. -/
theorem length_retainRecentEvents_le :
    (retainRecentEvents localeCompare events pendingHandles).length ≤ events.length := by
  have hlength := length_uniqueEvents_le events
  have hparts := List.length_eq_length_filter_add (l := uniqueEvents events)
    (isProtectedEvent pendingHandles)
  rw [retainRecentEvents, List.length_mergeSort, List.length_append, List.length_take]
  omega

end

/-! ### A source that loads -/

section
variable {text : ProtocolText} {items : List SpoolItem} {descriptor other : PendingEventDescriptor}
  {source source' : PendingEventSource}

/-- What a source that loads is bound to. -/
structure BoundSource (items : List SpoolItem) (descriptor : PendingEventDescriptor)
    (source : PendingEventSource) : Prop where
  item : ∃ item, spoolGet items descriptor.eventId = some item ∧ item.plaintext
    = .pendingEvent source.event source.session
        (match source.producerFingerprint with
          | none => .absent
          | some fingerprint => .text fingerprint)
  eventId : source.event.eventId = descriptor.eventId
  lastEventId : source.session.lastEventId = some descriptor.eventId
  nonempty : descriptor.eventId ≠ ""

theorem openPendingEventSource_ok
    (h : openPendingEventSource text items descriptor = .ok source) :
    BoundSource items descriptor source := by
  unfold openPendingEventSource at h
  split at h
  · cases h
  · cases h
  · cases h
  · next event session producerFingerprint hitem =>
    obtain ⟨item, hfound, hplaintext⟩ := Option.map_eq_some_iff.mp hitem
    split at h
    · next hshape =>
      rw [Bool.and_eq_true] at hshape
      have hnonempty : session.lastEventId ≠ some "" := by
        have hsession := hshape.2
        unfold isCanonicalSessionShape at hsession
        rw [Bool.and_eq_true, Bool.and_eq_true, decide_eq_true_eq] at hsession
        exact hsession.1.2
      split at h
      · next hbound =>
        obtain ⟨hbinding, hid, -⟩ := hbound
        have hlast : session.lastEventId = some event.eventId := by
          unfold assertEventSessionBinding at hbinding
          simp only [throwIf_eq_ok, Bool.or_eq_false_iff, decide_eq_false_iff_not,
            not_not] at hbinding
          exact hbinding.2
        split at h
        · cases h
        · cases h
          exact ⟨⟨item, hfound, hplaintext⟩, hid, hlast.trans (congrArg some hid),
            fun hempty => hnonempty (hlast.trans (congrArg some (hid.trans hempty)))⟩
        · cases h
          exact ⟨⟨item, hfound, hplaintext⟩, hid, hlast.trans (congrArg some hid),
            fun hempty => hnonempty (hlast.trans (congrArg some (hid.trans hempty)))⟩
      · cases h
    · cases h
  · cases h

/-- Two descriptors of one event have the same source. -/
theorem source_of_eventId (h : openPendingEventSource text items descriptor = .ok source)
    (h' : openPendingEventSource text items other = .ok source')
    (hid : source.event.eventId = source'.event.eventId) : source = source' := by
  obtain ⟨⟨item, hitem, hplaintext⟩, heventId, -, -⟩ := openPendingEventSource_ok h
  obtain ⟨⟨item', hitem', hplaintext'⟩, heventId', -, -⟩ := openPendingEventSource_ok h'
  rw [← heventId, hid, heventId', hitem'] at hitem
  cases hitem
  rw [hplaintext] at hplaintext'
  obtain ⟨event, session, producerFingerprint⟩ := source
  obtain ⟨event', session', producerFingerprint'⟩ := source'
  simp only [SpoolPlaintext.pendingEvent.injEq] at hplaintext'
  obtain ⟨rfl, rfl, hfingerprint⟩ := hplaintext'
  cases producerFingerprint <;> cases producerFingerprint' <;> simp_all

end

/-! ### One round -/

section
variable {text : ProtocolText} {items : List SpoolItem} {state next reserved : PersistedBridgeState}
  {changed changed' : Bool}

/-- The next state has more reservations, and nothing else has changed. -/
structure AddsReservations (state next : PersistedBridgeState) : Prop where
  same : next
    = { state with producerEventReservations := next.producerEventReservations }
  kept : ∀ key reservation, state.producerEventReservations.get? key = some reservation →
    next.producerEventReservations.get? key = some reservation

theorem AddsReservations.refl (state : PersistedBridgeState) : AddsReservations state state :=
  ⟨rfl, fun _ _ h => h⟩

theorem AddsReservations.sessions (h : AddsReservations state next) :
    next.sessions = state.sessions := by rw [h.same]

theorem AddsReservations.recentEvents (h : AddsReservations state next) :
    next.recentEvents = state.recentEvents := by rw [h.same]

theorem AddsReservations.terminalCancellations (h : AddsReservations state next) :
    next.terminalCancellations = state.terminalCancellations := by rw [h.same]

/-- The event is reserved for its content. -/
def ReservedFor (state : PersistedBridgeState) (event : CanonicalEvent) (fingerprint : String) :
    Prop :=
  ∃ reservation, reservationOf state event.sessionId fingerprint = some reservation ∧
    reservation.eventId = event.eventId

theorem ReservedFor.mono {event : CanonicalEvent} {fingerprint : String}
    (h : ReservedFor state event fingerprint)
    (hkept : ∀ key reservation, state.producerEventReservations.get? key = some reservation →
      next.producerEventReservations.get? key = some reservation) :
    ReservedFor next event fingerprint := by
  obtain ⟨reservation, hreservation, hid⟩ := h
  exact ⟨reservation, hkept _ _ hreservation, hid⟩

/-- A missing reservation is written. -/
theorem applyProducerReservation_missing {event : CanonicalEvent} {fingerprint : String}
    (hnone : reservationOf state event.sessionId fingerprint = none)
    (h : applyProducerReservation state event fingerprint = .ok next) :
    AddsReservations state next ∧ ReservedFor next event fingerprint := by
  obtain ⟨-, hreturn⟩ := check_bind_eq_ok.mp h
  cases hreturn
  refine ⟨⟨rfl, fun key reservation hreservation => ?_⟩, reservationFor event fingerprint, ?_, rfl⟩
  · rw [Dict.get?_set_ne]
    · exact hreservation
    · rintro rfl
      rw [reservationOf, hreservation] at hnone
      cases hnone
  · exact Dict.get?_set_self ..

/-- The reservation of a source is there afterwards. -/
theorem reconcileSourceReservation_ok {event : CanonicalEvent}
    {producerFingerprint : Option String}
    (h : reconcileSourceReservation (state, changed) event producerFingerprint
      = .ok (next, changed')) :
    AddsReservations state next ∧
      (∀ fingerprint, producerFingerprint = some fingerprint → ReservedFor next event fingerprint) ∧
        (changed = true → changed' = true) := by
  unfold reconcileSourceReservation at h
  split at h
  · cases h
    exact ⟨.refl _, nofun, id⟩
  · next fingerprint =>
    split at h
    · next hnone =>
      obtain ⟨_, hreserved, hreturn⟩ := bind_eq_ok_iff.mp h
      cases hreturn
      obtain ⟨hadds, hreserved⟩ := applyProducerReservation_missing hnone hreserved
      refine ⟨hadds, ?_, fun _ => rfl⟩
      rintro _ ⟨⟩
      exact hreserved
    · next existing hexisting =>
      rw [check_bind_eq_ok, throwIf_eq_ok, decide_eq_false_iff_not, not_not] at h
      obtain ⟨hsame, hreturn⟩ := h
      cases hreturn
      refine ⟨.refl _, ?_, id⟩
      rintro _ ⟨⟩
      exact ⟨existing, hexisting, hsame⟩

/-- Nothing changes when the reservation is there. -/
theorem reconcileSourceReservation_of_reserved {event : CanonicalEvent}
    {producerFingerprint : Option String}
    (h : ∀ fingerprint, producerFingerprint = some fingerprint →
      ReservedFor state event fingerprint) :
    reconcileSourceReservation (state, changed) event producerFingerprint
      = .ok (state, changed) := by
  unfold reconcileSourceReservation
  split
  · rfl
  · next fingerprint =>
    obtain ⟨reservation, hreservation, hid⟩ := h fingerprint rfl
    rw [hreservation]
    dsimp only
    rw [check_bind_eq_ok, throwIf_eq_ok, decide_eq_false_iff_not, not_not]
    exact ⟨hid, rfl⟩

/-- A round skips a source: the state names its event as the last one of the Session, or the
Session is newer. -/
def skipsSource (text : ProtocolText) (state : PersistedBridgeState) (source : PendingEventSource) :
    Bool :=
  isCurrentPendingEvent state source.event ||
    (state.sessions.get? source.event.sessionId).any fun current =>
      isNewerTerminalSession text.localeCompare current source.session

/-- What a round does. -/
theorem reconcilePendingSource_cases {descriptor : PendingEventDescriptor}
    (h : reconcilePendingSource text items (state, changed) descriptor = .ok (next, changed')) :
    ((∃ failure, openPendingEventSource text items descriptor = .error failure) ∧ next = state) ∨
      ∃ source reserved, openPendingEventSource text items descriptor = .ok source ∧
        AddsReservations state reserved ∧
        (∀ fingerprint, source.producerFingerprint = some fingerprint →
          ReservedFor reserved source.event fingerprint) ∧
        ((skipsSource text state source = true ∧ next = reserved) ∨
          (skipsSource text state source = false ∧
            next = applyPendingEventState text reserved source.event source.session)) := by
  unfold reconcilePendingSource at h
  split at h
  · next failure hopened =>
    cases h
    exact .inl ⟨⟨failure, hopened⟩, rfl⟩
  · next source hopened =>
    obtain ⟨⟨reserved, changed₁⟩, hreserved, hreturn⟩ := bind_eq_ok_iff.mp h
    obtain ⟨hadds, hreservedFor, -⟩ := reconcileSourceReservation_ok hreserved
    refine .inr ⟨source, reserved, hopened, hadds, hreservedFor, ?_⟩
    dsimp only at hreturn
    split at hreturn
    · next hskips =>
      cases hreturn
      exact .inl ⟨hskips, rfl⟩
    · next hskips =>
      cases hreturn
      exact .inr ⟨Bool.eq_false_iff.mpr hskips, rfl⟩

/-- A round that has nothing to do. -/
theorem reconcilePendingSource_still {descriptor : PendingEventDescriptor}
    (hskips : ∀ source, openPendingEventSource text items descriptor = .ok source →
      skipsSource text state source = true)
    (hreserved : ∀ source, openPendingEventSource text items descriptor = .ok source →
      ∀ fingerprint, source.producerFingerprint = some fingerprint →
        ReservedFor state source.event fingerprint) :
    reconcilePendingSource text items (state, changed) descriptor = .ok (state, changed) := by
  unfold reconcilePendingSource
  split
  · rfl
  · next source hopened =>
    rw [reconcileSourceReservation_of_reserved (hreserved source hopened)]
    show Except.ok (if skipsSource text state source then _ else _) = _
    rw [hskips source hopened]
    rfl

/-- A round over a reserved tuple only adds its reservation. -/
theorem reconcileReservation_ok {item : SpoolItem}
    (h : reconcileReservation (state, changed) item = .ok (next, changed')) :
    AddsReservations state next ∧ ∃ tuple fingerprint,
      pendingTuple item.plaintext = .ok (tuple, .text fingerprint) ∧
        ReservedFor next tuple.event fingerprint := by
  obtain ⟨⟨tuple, producerFingerprint⟩, htuple, hrest⟩ := bind_eq_ok_iff.mp h
  dsimp only at hrest
  split at hrest
  · next fingerprint =>
    split at hrest
    · next hnone =>
      obtain ⟨_, hreserved, hreturn⟩ := bind_eq_ok_iff.mp hrest
      cases hreturn
      obtain ⟨hadds, hreservedFor⟩ := applyProducerReservation_missing hnone hreserved
      exact ⟨hadds, tuple, fingerprint, htuple, hreservedFor⟩
    · next existing hexisting =>
      rw [check_bind_eq_ok, throwIf_eq_ok, decide_eq_false_iff_not, not_not] at hrest
      obtain ⟨hsame, hreturn⟩ := hrest
      cases hreturn
      exact ⟨.refl _, tuple, fingerprint, htuple, existing, hexisting, hsame⟩
  · cases hrest

theorem reconcileReservation_still {item : SpoolItem} {tuple : AgentAdapter.PendingTerminal}
    {fingerprint : String} (htuple : pendingTuple item.plaintext = .ok (tuple, .text fingerprint))
    (h : ReservedFor state tuple.event fingerprint) :
    reconcileReservation (state, changed) item = .ok (state, changed) := by
  obtain ⟨reservation, hreservation, hid⟩ := h
  unfold reconcileReservation
  rw [htuple, bind_eq_ok_iff]
  refine ⟨_, rfl, ?_⟩
  dsimp only
  rw [hreservation]
  dsimp only
  rw [check_bind_eq_ok, throwIf_eq_ok, decide_eq_false_iff_not, not_not]
  exact ⟨hid, rfl⟩

end

/-! ### All rounds -/

section
variable {α : Type} {s s' : BridgeStore} {rest : List α} {changed : Bool}
  {step : PersistedBridgeState × Bool → α → Except Thrown (PersistedBridgeState × Bool)}

/-- The rounds that return are a fold over the state, with a write at the end when it changed. -/
theorem reconcileEach_ok (h : (reconcileEach rest step changed).run s = (.ok (), s')) :
    ∃ state changed', rest.foldlM step (s.state, changed) = .ok (state, changed') ∧
      ((changed' = true ∧ persist.run { s with state := state } = (.ok (), s')) ∨
        (changed' = false ∧ s' = { s with state := state })) := by
  induction rest generalizing s changed with
  | nil =>
    refine ⟨s.state, changed, rfl, ?_⟩
    unfold reconcileEach at h
    split at h
    · next htrue => exact .inl ⟨htrue, h⟩
    · next hfalse =>
      cases h
      exact .inr ⟨Bool.eq_false_iff.mpr hfalse, rfl⟩
  | cons item rest ih =>
    obtain ⟨_, _, hget, h₁⟩ := Effect.run_bind_eq_ok.mp h
    cases hget
    obtain ⟨⟨state, changed₁⟩, _, hstep, h₂⟩ := Effect.run_bind_eq_ok.mp h₁
    rw [Effect.run_ofExcept, Prod.mk.injEq] at hstep
    obtain ⟨hstep, rfl⟩ := hstep
    obtain ⟨_, _, hset, h₃⟩ := Effect.run_bind_eq_ok.mp h₂
    cases hset
    obtain ⟨final, changed', hfold, hend⟩ := ih h₃
    refine ⟨final, changed', ?_, hend⟩
    rw [List.foldlM_cons, hstep]
    exact hfold

/-- Rounds that have nothing to do write nothing. -/
theorem reconcileEach_still
    (hstep : ∀ item ∈ rest, step (s.state, false) item = .ok (s.state, false)) :
    (reconcileEach rest step false).run s = (.ok (), s) := by
  induction rest with
  | nil => rfl
  | cons item rest ih =>
    unfold reconcileEach
    rw [Effect.run_bind, Effect.run_get, Effect.next_ok, Effect.run_bind,
      hstep item (List.mem_cons_self ..), Effect.run_ofExcept, Effect.next_ok]
    exact ih fun other hother => hstep other (List.mem_cons_of_mem _ hother)

/-- A property that every round keeps stays, in the memory and in the files. -/
theorem stays_reconcileEach {P : PersistedBridgeState → Prop}
    (hstep : ∀ item ∈ rest, ∀ state changed next changed', P state →
      step (state, changed) item = .ok (next, changed') → P next) :
    Effect.Leaves (Stays P) (reconcileEach rest step changed) := by
  induction rest generalizing changed with
  | nil => exact Effect.Leaves.ite (fun _ => stays_persist) fun _ => stays_pure _
  | cons item rest ih =>
    intro s hheld
    unfold reconcileEach
    rw [Effect.run_bind, Effect.run_get, Effect.next_ok, Effect.run_bind, Effect.run_ofExcept]
    rcases hround : step (s.state, changed) item with thrown | ⟨state, changed'⟩
    · exact Stays.refl s hheld
    · have hkept := hstep item (List.mem_cons_self ..) _ _ _ _ hheld.1 hround
      exact stays_bind (stays_setState hkept)
        (fun _ => ih fun other hother => hstep other (List.mem_cons_of_mem _ hother)) s hheld

end

end Ariava.StateStore
