import Ariava.Proofs.UploadCompletion
import Ariava.StateStore.PendingReconciliation

/-!
# `Ariava.Proofs.JournalReconciliation`: the pending events of a restart

`reconcilePending` puts the pending events of the spool into the state. It finds out from the state
whether an event is there already: the Session names it as its last one and the recent window has
it, or the Session has a later event.

- `keeps_reconcilePending`: no Session is dropped, and one is replaced only by a later terminal
  Session, unless it has no last event or its last event is itself pending.
- `applied_or_settled`: a pending event is applied once, or it was there, or a later terminal
  Session of another pending event was applied.
- `reconcilePending_again`: a second run changes nothing, when there is room in the window and each
  Session whose last event is pending has the effect of this event.

The test for a later Session takes one without a last event, or with the same last event, for an
earlier one, whatever its time says. So `ReconciliationMonotone` does not hold.
-/

set_option autoImplicit false

namespace Ariava.Proofs.JournalReconciliation

open Ariava.Lib
open Ariava.Protocol
open Ariava.StateStore
open Ariava.Proofs.UploadCompletion

section
variable (text : ProtocolText)

/-- `reconcilePendingEventJournal`, then `reconcileProducerEventReservations`. -/
def reconcilePending : StoreEffect Unit := do
  reconcilePendingEventJournal text
  reconcileProducerEventReservations

/-- A Session is older than another one. -/
def Older (session other : CanonicalSessionState) : Prop :=
  text.localeCompare session.updatedAt other.updatedAt = .lt

variable (items : List SpoolItem)

/-- The events that the rounds apply, in order. -/
def appliedEvents : PersistedBridgeState × Bool → List PendingEventDescriptor → List String
  | _, [] => []
  | s, descriptor :: rest =>
      match reconcilePendingSource text items s descriptor with
      | .error _ => []
      | .ok next =>
          match openPendingEventSource text items descriptor with
          | .error _ => appliedEvents next rest
          | .ok source =>
              if skipsSource text s.1 source then appliedEvents next rest
              else source.event.eventId :: appliedEvents next rest

/-- The pending sources of the descriptors that load. -/
def Loads (descriptors : List PendingEventDescriptor) (source : PendingEventSource) : Prop :=
  ∃ descriptor ∈ descriptors, openPendingEventSource text items descriptor = .ok source

/-! ### The properties -/

/-- A store whose files a restart accepts, with any outcomes of the writes to come. -/
structure AcceptedStore (hash : ContentHash) (hostId : String) (s : BridgeStore) : Prop where
  accepted : assertCurrentRuntimeRelationships hash s.state s.items hostId = .ok ()
  opened : s.files = ⟨s.state, s.items⟩

/-- A second run changes nothing. -/
def Again (s : BridgeStore) : Prop := (reconcilePending text).run s = (.ok (), s)

/-- The recovery is monotone and idempotent, and applies every missing event once. -/
def ReconciliationMonotone : Prop :=
  ∀ (hash : ContentHash) (hostId : String) (s s' : BridgeStore), AcceptedStore hash hostId s →
    (reconcilePending text).run s = (.ok (), s') →
      (∀ sessionId session, s.state.sessions.get? sessionId = some session →
        ∃ session', s'.state.sessions.get? sessionId = some session' ∧
          ¬ Older text session' session) ∧
      (∀ source, Loads text s.items (pendingEventDescriptors s) source →
        skipsSource text s.state source = false →
          (appliedEvents text s.items (s.state, false) (pendingEventDescriptors s)).count
            source.event.eventId = 1) ∧
      Again text s'

end

/-- The Session has no last event, or its last event is the one of a pending source. -/
def Open (text : ProtocolText) (items : List SpoolItem)
    (descriptors : List PendingEventDescriptor) (sessionId : String)
    (session : CanonicalSessionState) : Prop :=
  session.lastEventId.getD "" = "" ∨
    ∃ source, Loads text items descriptors source ∧ source.event.sessionId = sessionId ∧
      session.lastEventId = source.session.lastEventId

/-- What becomes of the Sessions: each is there, as it was or as a later terminal Session, unless
it was open. -/
def KeepsSessions (text : ProtocolText) (items : List SpoolItem)
    (descriptors : List PendingEventDescriptor) (start state : PersistedBridgeState) : Prop :=
  ∀ sessionId session, start.sessions.get? sessionId = some session →
    ∃ session', state.sessions.get? sessionId = some session' ∧
      (session' = session ∨
        ((∃ source, Loads text items descriptors source ∧ source.event.sessionId = sessionId ∧
            session' = source.session) ∧
          (Older text session session' ∨ Open text items descriptors sessionId session)))

/-! ### A source that is applied -/

section
variable {text : ProtocolText} {items : List SpoolItem}
  {descriptors : List PendingEventDescriptor} {state next start reserved : PersistedBridgeState}
  {source source' : PendingEventSource} {current : CanonicalSessionState}

/-- Two sources of one event are one source. -/
theorem Loads.eq (h : Loads text items descriptors source)
    (h' : Loads text items descriptors source')
    (hlast : source.session.lastEventId = source'.session.lastEventId) : source = source' := by
  obtain ⟨d, -, hopen⟩ := h
  obtain ⟨d', -, hopen'⟩ := h'
  have hbound := openPendingEventSource_ok hopen
  have hbound' := openPendingEventSource_ok hopen'
  refine source_of_eventId hopen hopen' ?_
  rw [hbound.lastEventId, hbound'.lastEventId] at hlast
  rw [hbound.eventId, hbound'.eventId, Option.some.inj hlast]

/-- The last event of a terminal Session is its event, which has an id. -/
theorem Loads.lastEventId (h : Loads text items descriptors source) :
    source.session.lastEventId = some source.event.eventId ∧ source.event.eventId ≠ "" := by
  obtain ⟨d, -, hopen⟩ := h
  have hbound := openPendingEventSource_ok hopen
  rw [hbound.eventId]
  exact ⟨hbound.lastEventId, hbound.nonempty⟩

theorem isNewerTerminalSession_iff {pending : CanonicalSessionState} :
    isNewerTerminalSession text.localeCompare current pending = true ↔
      current.lastEventId.getD "" ≠ "" ∧ current.lastEventId ≠ pending.lastEventId ∧
        ¬ Older text current pending := by
  unfold isNewerTerminalSession Older
  simp only [Bool.and_eq_true, decide_eq_true_eq, and_assoc, ne_eq]

/-- A source is skipped because its event is there, or because the Session is newer. -/
theorem skipsSource_iff : skipsSource text state source = true ↔
    (HasEvent state.recentEvents source.event.eventId ∧ ∃ current,
        state.sessions.get? source.event.sessionId = some current ∧
          current.lastEventId = some source.event.eventId) ∨
      ∃ current, state.sessions.get? source.event.sessionId = some current ∧
        isNewerTerminalSession text.localeCompare current source.session = true := by
  unfold skipsSource isCurrentPendingEvent HasEvent
  rw [Bool.or_eq_true, Bool.and_eq_true, List.any_eq_true, Option.any_eq_true, decide_eq_true_eq,
    Option.bind_eq_some_iff]
  simp only [decide_eq_true_eq]

/-- The Session before an applied source was open, or older. -/
theorem older_of_applied (h : skipsSource text state source = false)
    (hcurrent : state.sessions.get? source.event.sessionId = some current)
    (hnonempty : current.lastEventId.getD "" ≠ "")
    (hlast : current.lastEventId ≠ source.session.lastEventId) :
    Older text current source.session := by
  by_contra hnot
  have hnewer := isNewerTerminalSession_iff.mpr ⟨hnonempty, hlast, hnot⟩
  rw [skipsSource_iff.mpr (.inr ⟨current, hcurrent, hnewer⟩)] at h
  cases h

end

/-! ### What becomes of the Sessions -/

section
variable {text : ProtocolText} {items : List SpoolItem}
  {descriptors : List PendingEventDescriptor} {state next start reserved : PersistedBridgeState}
  {source : PendingEventSource}

/-- An applied source changes one Session and keeps the others. -/
theorem get?_applied (sessionId : String) (source : PendingEventSource) :
    (applyPendingEventState text reserved source.event source.session).sessions.get? sessionId
      = if source.event.sessionId = sessionId then some source.session
        else reserved.sessions.get? sessionId := by
  show (reserved.sessions.set source.event.sessionId source.session).get? sessionId = _
  split
  · next hsame =>
    rw [← hsame]
    exact Dict.get?_set_self ..
  · next hne => exact Dict.get?_set_ne _ _ fun heq => hne heq.symm

theorem KeepsSessions.refl (state : PersistedBridgeState) :
    KeepsSessions text items descriptors state state :=
  fun _ session hsession => ⟨session, hsession, .inl rfl⟩

theorem KeepsSessions.of_sessions (h : KeepsSessions text items descriptors start state)
    (hsame : next.sessions = state.sessions) : KeepsSessions text items descriptors start next := by
  intro sessionId session hsession
  rw [hsame]
  exact h sessionId session hsession

variable [Std.TransCmp text.localeCompare]

/-- An applied source keeps the Sessions so. -/
theorem KeepsSessions.applied (h : KeepsSessions text items descriptors start state)
    (hloads : Loads text items descriptors source) (hskips : skipsSource text state source = false)
    (hreserved : reserved.sessions = state.sessions) :
    KeepsSessions text items descriptors start
      (applyPendingEventState text reserved source.event source.session) := by
  intro sessionId session hsession
  obtain ⟨current, hcurrent, hkept⟩ := h sessionId session hsession
  by_cases hid : source.event.sessionId = sessionId
  case neg =>
    refine ⟨current, ?_, hkept⟩
    rw [get?_applied, if_neg hid, hreserved]
    exact hcurrent
  refine ⟨source.session, by rw [get?_applied, if_pos hid], ?_⟩
  rw [← hid] at hcurrent
  by_cases hopen : Open text items descriptors sessionId session
  · exact .inr ⟨⟨source, hloads, hid, rfl⟩, .inr hopen⟩
  rcases hkept with rfl | ⟨⟨earlier, hearlier, -, rfl⟩, holder | hopen'⟩
  · -- The Session of the start is replaced: it has another last event, so it is older.
    obtain ⟨hnonempty, hlast⟩ := not_or.mp hopen
    refine .inr ⟨⟨source, hloads, hid, rfl⟩, .inl ?_⟩
    exact older_of_applied hskips hcurrent hnonempty fun heq => hlast ⟨source, hloads, hid, heq⟩
  · refine .inr ⟨⟨source, hloads, hid, rfl⟩, .inl ?_⟩
    by_cases hlast : earlier.session.lastEventId = source.session.lastEventId
    · rw [← hearlier.eq hloads hlast]
      exact holder
    · obtain ⟨hid', hnonempty⟩ := hearlier.lastEventId
      have hnext := older_of_applied hskips hcurrent (by rw [hid']; exact hnonempty) hlast
      exact Std.TransCmp.lt_trans holder hnext
  · exact absurd hopen' hopen

/-- Every round does. -/
theorem KeepsSessions.round {descriptor : PendingEventDescriptor} {changed changed' : Bool}
    (h : KeepsSessions text items descriptors start state) (hmem : descriptor ∈ descriptors)
    (hround : reconcilePendingSource text items (state, changed) descriptor = .ok (next, changed')) :
    KeepsSessions text items descriptors start next := by
  rcases reconcilePendingSource_cases hround with ⟨-, rfl⟩ |
    ⟨source, reserved, hopen, hadds, -, ⟨-, rfl⟩ | ⟨hskips, rfl⟩⟩
  · exact h
  · exact h.of_sessions hadds.sessions
  · exact h.applied ⟨descriptor, hmem, hopen⟩ hskips hadds.sessions

/-- In every run, whatever its writes do, the Sessions in memory and in the file are those of the
start or later ones. -/
theorem keeps_reconcilePending (s : BridgeStore) :
    Stays (KeepsSessions text s.items (pendingEventDescriptors s) s.state) s
      ((reconcilePending text).run s).2 := by
  have hjournal : Stays (KeepsSessions text s.items (pendingEventDescriptors s) s.state) s
      ((reconcilePendingEventJournal text).run s).2 := by
    unfold reconcilePendingEventJournal
    rw [Effect.run_bind, Effect.run_get, Effect.next_ok]
    exact stays_reconcileEach (fun descriptor hmem state changed next changed' h hround =>
      h.round hmem hround) s
  have hreservations : Effect.Leaves
      (Stays (KeepsSessions text s.items (pendingEventDescriptors s) s.state))
      reconcileProducerEventReservations := by
    intro t
    unfold reconcileProducerEventReservations
    rw [Effect.run_bind, Effect.run_get, Effect.next_ok]
    exact stays_reconcileEach (fun item _ state changed next changed' h hround =>
      h.of_sessions (reconcileReservation_ok hround).1.sessions) t
  exact Effect.Leaves.bind_at Stays.trans hjournal fun _ _ => hreservations _

end

/-! ### Which events are applied -/

section
variable {text : ProtocolText} {items : List SpoolItem} {rest : List PendingEventDescriptor}
  {descriptor : PendingEventDescriptor} {r r' final : PersistedBridgeState × Bool}
  {source : PendingEventSource}

theorem appliedEvents_failed {failure : PendingSourceFailure}
    (hround : reconcilePendingSource text items r descriptor = .ok r')
    (hopen : openPendingEventSource text items descriptor = .error failure) :
    appliedEvents text items r (descriptor :: rest) = appliedEvents text items r' rest := by
  rw [appliedEvents, hround]
  dsimp only
  rw [hopen]

theorem appliedEvents_loaded (hround : reconcilePendingSource text items r descriptor = .ok r')
    (hopen : openPendingEventSource text items descriptor = .ok source) :
    appliedEvents text items r (descriptor :: rest)
      = if skipsSource text r.1 source then appliedEvents text items r' rest
        else source.event.eventId :: appliedEvents text items r' rest := by
  rw [appliedEvents, hround]
  dsimp only
  rw [hopen]

/-- The first round of the rounds that return. -/
theorem foldlM_round (h : (descriptor :: rest).foldlM (reconcilePendingSource text items) r
    = .ok final) : ∃ r', reconcilePendingSource text items r descriptor = .ok r' ∧
      rest.foldlM (reconcilePendingSource text items) r' = .ok final := by
  rw [List.foldlM_cons] at h
  exact bind_eq_ok_iff.mp h

/-- The applied events are those of the descriptors, in order. -/
theorem sublist_appliedEvents (rest : List PendingEventDescriptor)
    (r : PersistedBridgeState × Bool) :
    List.Sublist (appliedEvents text items r rest) (rest.map (·.eventId)) := by
  induction rest generalizing r with
  | nil => exact List.Sublist.slnil
  | cons descriptor rest ih =>
    rw [List.map_cons]
    unfold appliedEvents
    split
    · exact List.nil_sublist _
    · next r' hround =>
      split
      · exact (ih r').cons _
      · next source hopen =>
        rw [(openPendingEventSource_ok hopen).eventId]
        split
        · exact (ih r').cons _
        · exact (ih r').cons_cons _

/-- A source that is skipped after another one was applied was skipped before, or is that one, or
is not later than that one. -/
theorem skips_of_applied {state reserved : PersistedBridgeState} {other : PendingEventSource}
    (hadds : AddsReservations state reserved)
    (hother : other.session.lastEventId = some other.event.eventId)
    (h : skipsSource text (applyPendingEventState text reserved other.event other.session) source
      = true) :
    skipsSource text state source = true ∨ other.event.eventId = source.event.eventId ∨
      (other.event.sessionId = source.event.sessionId ∧ ¬ Older text other.session source.session) := by
  rw [skipsSource_iff, get?_applied, hadds.sessions] at h
  by_cases hid : other.event.sessionId = source.event.sessionId
  · rw [if_pos hid] at h
    rcases h with ⟨-, current, hcurrent, hlast⟩ | ⟨current, hcurrent, hnewer⟩
    · cases hcurrent
      rw [hother] at hlast
      exact .inr (.inl (Option.some.inj hlast))
    · cases hcurrent
      exact .inr (.inr ⟨hid, (isNewerTerminalSession_iff.mp hnewer).2.2⟩)
  · rw [if_neg hid] at h
    rcases h with ⟨⟨event, hevent, heventId⟩, hcurrent⟩ | hnewer
    · -- The recent window has only the other event in addition.
      rcases List.mem_cons.mp (mem_retainRecentEvents hevent) with rfl | hold
      · exact .inr (.inl heventId)
      · rw [hadds.recentEvents] at hold
        exact .inl (skipsSource_iff.mpr
          (.inl ⟨⟨event, (List.mem_filter.mp hold).1, heventId⟩, hcurrent⟩))
    · exact .inl (skipsSource_iff.mpr (.inr hnewer))

/-- A pending event is applied, or its effect was there, or another pending event of its Session is
applied whose terminal Session is not older. -/
theorem applied_or_settled
    (hfold : rest.foldlM (reconcilePendingSource text items) r = .ok final)
    (hloads : Loads text items rest source) :
    source.event.eventId ∈ appliedEvents text items r rest ∨ skipsSource text r.1 source = true ∨
      ∃ other, Loads text items rest other ∧
        other.event.eventId ∈ appliedEvents text items r rest ∧
        other.event.sessionId = source.event.sessionId ∧
          ¬ Older text other.session source.session := by
  induction rest generalizing r with
  | nil =>
    obtain ⟨d, hd, -⟩ := hloads
    cases hd
  | cons descriptor rest ih =>
    obtain ⟨⟨state', changed'⟩, hround, hrest⟩ := foldlM_round hfold
    obtain ⟨d, hd, hopen⟩ := hloads
    have hlater : ∀ {other}, Loads text items rest other →
        Loads text items (descriptor :: rest) other :=
      fun ⟨d, hd, hopen⟩ => ⟨d, List.mem_cons_of_mem _ hd, hopen⟩
    rcases reconcilePendingSource_cases hround with ⟨⟨failure, hfailed⟩, hsame⟩ |
      ⟨first, reserved, hfirst, hadds, -, hrest'⟩
    · rw [appliedEvents_failed hround hfailed]
      rcases List.mem_cons.mp hd with rfl | hd
      · rw [hfailed] at hopen
        cases hopen
      · rcases ih hrest ⟨d, hd, hopen⟩ with happlied | hskips | ⟨other, hother, happlied⟩
        · exact .inl happlied
        · rw [hsame] at hskips
          exact .inr (.inl hskips)
        · exact .inr (.inr ⟨other, hlater hother, happlied⟩)
    · rw [appliedEvents_loaded hround hfirst]
      rcases hrest' with ⟨hskips, hsame⟩ | ⟨hskips, hsame⟩
      · rw [if_pos hskips]
        rcases List.mem_cons.mp hd with rfl | hd
        · rw [hfirst] at hopen
          cases hopen
          exact .inr (.inl hskips)
        · rcases ih hrest ⟨d, hd, hopen⟩ with happlied | hskipped | ⟨other, hother, happlied⟩
          · exact .inl happlied
          · refine .inr (.inl ?_)
            rw [hsame, skipsSource_iff, hadds.sessions, hadds.recentEvents] at hskipped
            exact skipsSource_iff.mpr hskipped
          · exact .inr (.inr ⟨other, hlater hother, happlied⟩)
      · rw [if_neg (by rw [hskips]; exact Bool.false_ne_true)]
        rcases List.mem_cons.mp hd with rfl | hd
        · rw [hfirst] at hopen
          cases hopen
          exact .inl (List.mem_cons_self ..)
        · have hfirstLoads : Loads text items (descriptor :: rest) first :=
            ⟨descriptor, List.mem_cons_self .., hfirst⟩
          rcases ih hrest ⟨d, hd, hopen⟩ with happlied | hskipped | ⟨other, hother, happlied, hle⟩
          · exact .inl (List.mem_cons_of_mem _ happlied)
          · rw [hsame] at hskipped
            rcases skips_of_applied hadds hfirstLoads.lastEventId.1 hskipped with
              hbefore | hid | hle
            · exact .inr (.inl hbefore)
            · rw [hid]
              exact .inl (List.mem_cons_self ..)
            · exact .inr (.inr ⟨first, hfirstLoads, List.mem_cons_self .., hle⟩)
          · exact .inr (.inr ⟨other, hlater hother, List.mem_cons_of_mem _ happlied, hle⟩)

end

/-! ### The second run -/

section
variable {text : ProtocolText} {items : List SpoolItem}
  {descriptors done rest : List PendingEventDescriptor} {descriptor : PendingEventDescriptor}
  {state next reserved : PersistedBridgeState} {source : PendingEventSource}
  {changed changed' : Bool}

/-- Each Session whose last event is pending has the effect of this event: the event is in the
recent window, and the Session is not older than the terminal one. -/
def Coherent (text : ProtocolText) (items : List SpoolItem)
    (descriptors : List PendingEventDescriptor) (state : PersistedBridgeState) : Prop :=
  ∀ source, Loads text items descriptors source → ∀ current,
    state.sessions.get? source.event.sessionId = some current →
      current.lastEventId = source.session.lastEventId →
        HasEvent state.recentEvents source.event.eventId ∧ ¬ Older text current source.session

/-- A round has nothing to do for the source. -/
structure Settles (text : ProtocolText) (state : PersistedBridgeState)
    (source : PendingEventSource) : Prop where
  skips : skipsSource text state source = true
  reserved : ∀ fingerprint, source.producerFingerprint = some fingerprint →
    ReservedFor state source.event fingerprint

theorem Settles.adds (h : Settles text state source) (hadds : AddsReservations state next) :
    Settles text next source where
  skips := by
    have hskips := skipsSource_iff.mp h.skips
    rw [← hadds.sessions, ← hadds.recentEvents] at hskips
    exact skipsSource_iff.mpr hskips
  reserved fingerprint hfingerprint := (h.reserved fingerprint hfingerprint).mono hadds.kept

/-- How far the rounds have come: those that are done have nothing to do any more, and there is
room for the others. -/
structure Progress (text : ProtocolText) (items : List SpoolItem)
    (descriptors done rest : List PendingEventDescriptor) (state : PersistedBridgeState) :
    Prop where
  room : state.recentEvents.length + rest.length ≤ maxRecentEvents
  coherent : Coherent text items descriptors state
  settled : ∀ source, Loads text items done source → Settles text state source

variable (text source) in
/-- The recent window has the events that it had, and the applied one. -/
theorem hasEvent_applied
    (hroom : reserved.recentEvents.length + 1 ≤ maxRecentEvents) :
    HasEvent (applyPendingEventState text reserved source.event source.session).recentEvents
        source.event.eventId ∧
      ∀ eventId, HasEvent reserved.recentEvents eventId →
        HasEvent (applyPendingEventState text reserved source.event source.session).recentEvents
          eventId := by
  have hlength : (source.event :: reserved.recentEvents.filter fun other =>
      decide (other.eventId ≠ source.event.eventId)).length ≤ maxRecentEvents := by
    have hfilter := List.length_filter_le
      (fun other : CanonicalEvent => decide (other.eventId ≠ source.event.eventId))
      reserved.recentEvents
    rw [List.length_cons]
    omega
  have hfirst : HasEvent (source.event :: reserved.recentEvents.filter fun other =>
      decide (other.eventId ≠ source.event.eventId)) source.event.eventId :=
    ⟨source.event, List.mem_cons_self .., rfl⟩
  refine ⟨hasEvent_retainRecentEvents hlength hfirst, fun eventId h => ?_⟩
  refine hasEvent_retainRecentEvents hlength ?_
  by_cases hsame : source.event.eventId = eventId
  · exact hsame ▸ hfirst
  · obtain ⟨event, hevent, hid⟩ := h
    refine ⟨event, List.mem_cons_of_mem _ (List.mem_filter.mpr ⟨hevent, ?_⟩), hid⟩
    rw [decide_eq_true_eq, hid]
    exact fun heq => hsame heq.symm

variable (text source) in
theorem length_applied_le :
    (applyPendingEventState text reserved source.event source.session).recentEvents.length
      ≤ reserved.recentEvents.length + 1 := by
  refine length_retainRecentEvents_le.trans ?_
  rw [List.length_cons]
  exact Nat.succ_le_succ (List.length_filter_le ..)

variable [Std.TransCmp text.localeCompare]

/-- A settled source stays settled when another one is applied over it. -/
theorem Settles.applied {other : PendingEventSource} (h : Settles text state other)
    (hcoherent : Coherent text items descriptors state)
    (hother : Loads text items descriptors other) (hloads : Loads text items descriptors source)
    (hskips : skipsSource text state source = false) (hadds : AddsReservations state reserved)
    (hroom : state.recentEvents.length + 1 ≤ maxRecentEvents) :
    Settles text (applyPendingEventState text reserved source.event source.session) other := by
  obtain ⟨hlast, hnonempty⟩ := hloads.lastEventId
  obtain ⟨hlast', hnonempty'⟩ := hother.lastEventId
  refine ⟨?_, fun fingerprint hfingerprint => (h.reserved fingerprint hfingerprint).mono hadds.kept⟩
  rw [← hadds.recentEvents] at hroom
  have hkept := (hasEvent_applied text source hroom).2
  have hbefore := skipsSource_iff.mp h.skips
  rw [skipsSource_iff, get?_applied, hadds.sessions]
  by_cases hid : source.event.sessionId = other.event.sessionId
  case neg =>
    rw [if_neg hid]
    refine hbefore.imp (fun hcurrent => ⟨hkept _ ?_, hcurrent.2⟩) id
    rw [hadds.recentEvents]
    exact hcurrent.1
  rw [if_pos hid]
  have hne : source.session.lastEventId ≠ other.session.lastEventId := by
    intro hsame
    rw [hloads.eq hother hsame, h.skips] at hskips
    cases hskips
  -- The replaced Session is not older than the settled source, and older than the applied one.
  have hreplaced : ∃ current, Older text current source.session ∧
      ¬ Older text current other.session := by
    rcases hbefore with ⟨-, current, hcurrent, hcurrentLast⟩ | ⟨current, hcurrent, hnewer⟩
    · refine ⟨current, older_of_applied hskips (hid ▸ hcurrent) ?_ ?_,
        (hcoherent other hother current hcurrent (hcurrentLast.trans hlast'.symm)).2⟩
      · rw [hcurrentLast]
        exact hnonempty'
      · rw [hcurrentLast, ← hlast']
        exact hne.symm
    · obtain ⟨hcurrentNonempty, -, hnot⟩ := isNewerTerminalSession_iff.mp hnewer
      rw [← hid] at hcurrent
      refine ⟨current, older_of_applied hskips hcurrent hcurrentNonempty fun hsame => ?_, hnot⟩
      have hevent := (hcoherent source hloads current hcurrent hsame).1
      rw [skipsSource_iff.mpr (.inl ⟨hevent, current, hcurrent, hsame.trans hlast⟩)] at hskips
      cases hskips
  obtain ⟨current, holder, hnot⟩ := hreplaced
  refine .inr ⟨source.session, rfl, isNewerTerminalSession_iff.mpr ⟨?_, hne, fun hlate => ?_⟩⟩
  · rw [hlast]
    exact hnonempty
  · exact hnot (Std.TransCmp.lt_trans holder hlate)

/-- An applied source leaves its Session with the effect of its event. -/
theorem Coherent.applied (h : Coherent text items descriptors state)
    (hloads : Loads text items descriptors source) (hadds : AddsReservations state reserved)
    (hroom : state.recentEvents.length + 1 ≤ maxRecentEvents) :
    Coherent text items descriptors
      (applyPendingEventState text reserved source.event source.session) := by
  rw [← hadds.recentEvents] at hroom
  obtain ⟨hnew, hkept⟩ := hasEvent_applied text source hroom
  intro other hother current hcurrent hlast
  rw [get?_applied, hadds.sessions] at hcurrent
  by_cases hid : source.event.sessionId = other.event.sessionId
  · rw [if_pos hid] at hcurrent
    cases hcurrent
    rw [← hloads.eq hother hlast]
    have hsame : text.localeCompare source.session.updatedAt source.session.updatedAt = .eq :=
      Std.ReflCmp.compare_self
    refine ⟨hnew, ?_⟩
    rw [Older, hsame]
    nofun
  · rw [if_neg hid] at hcurrent
    obtain ⟨hevent, hnot⟩ := h other hother current hcurrent hlast
    exact ⟨hkept _ (by rw [hadds.recentEvents]; exact hevent), hnot⟩

/-- Every round makes progress. -/
theorem Progress.round (h : Progress text items descriptors done (descriptor :: rest) state)
    (hmem : descriptor ∈ descriptors) (hdone : ∀ d ∈ done, d ∈ descriptors)
    (hround : reconcilePendingSource text items (state, changed) descriptor
      = .ok (next, changed')) :
    Progress text items descriptors (descriptor :: done) rest next := by
  have hroom := h.room
  rw [List.length_cons] at hroom
  have hof : ∀ {source}, Loads text items done source → Loads text items descriptors source :=
    fun ⟨d, hd, hopen⟩ => ⟨d, hdone d hd, hopen⟩
  rcases reconcilePendingSource_cases hround with ⟨⟨failure, hfailed⟩, rfl⟩ |
    ⟨source, reserved, hopen, hadds, hreserved, ⟨hskips, rfl⟩ | ⟨hskips, rfl⟩⟩
  · refine ⟨by omega, h.coherent, ?_⟩
    rintro source ⟨d, hd, hopen⟩
    rcases List.mem_cons.mp hd with rfl | hd
    · rw [hfailed] at hopen
      cases hopen
    · exact h.settled source ⟨d, hd, hopen⟩
  · refine ⟨?_, ?_, ?_⟩
    · rw [hadds.recentEvents]
      omega
    · intro other hother current hcurrent hlast
      rw [hadds.sessions] at hcurrent
      rw [hadds.recentEvents]
      exact h.coherent other hother current hcurrent hlast
    · rintro other ⟨d, hd, hother⟩
      rcases List.mem_cons.mp hd with rfl | hd
      · cases hopen.symm.trans hother
        have hsettled := skipsSource_iff.mp hskips
        rw [← hadds.sessions, ← hadds.recentEvents] at hsettled
        exact ⟨skipsSource_iff.mpr hsettled, hreserved⟩
      · exact (h.settled other ⟨d, hd, hother⟩).adds hadds
  · have hloads : Loads text items descriptors source := ⟨descriptor, hmem, hopen⟩
    have hone : state.recentEvents.length + 1 ≤ maxRecentEvents := by omega
    refine ⟨?_, h.coherent.applied hloads hadds hone, ?_⟩
    · have hlength :
          (applyPendingEventState text reserved source.event source.session).recentEvents.length
            ≤ reserved.recentEvents.length + 1 := length_applied_le text source
      rw [hadds.recentEvents] at hlength
      omega
    · rintro other ⟨d, hd, hother⟩
      rcases List.mem_cons.mp hd with rfl | hd
      · cases hopen.symm.trans hother
        refine ⟨skipsSource_iff.mpr (.inl ⟨?_, source.session, ?_, hloads.lastEventId.1⟩), hreserved⟩
        · rw [← hadds.recentEvents] at hone
          exact (hasEvent_applied text source hone).1
        · rw [get?_applied, if_pos rfl]
      · have hsettled := h.settled other ⟨d, hd, hother⟩
        exact hsettled.applied h.coherent (hof ⟨d, hd, hother⟩) hloads hskips hadds hone

/-- After all rounds every source is settled. -/
theorem Progress.rounds {final : PersistedBridgeState × Bool}
    (h : Progress text items descriptors done rest state) (hrest : ∀ d ∈ rest, d ∈ descriptors)
    (hdone : ∀ d ∈ done, d ∈ descriptors)
    (hfold : rest.foldlM (reconcilePendingSource text items) (state, changed) = .ok final) :
    ∃ all, Progress text items descriptors all [] final.1 ∧ (∀ d ∈ done, d ∈ all) ∧
      ∀ d ∈ rest, d ∈ all := by
  induction rest generalizing state changed done with
  | nil =>
    cases hfold
    exact ⟨done, h, fun _ hd => hd, by rintro _ ⟨⟩⟩
  | cons descriptor rest ih =>
    obtain ⟨⟨next, changed'⟩, hround, hfold⟩ := foldlM_round hfold
    have hmem := hrest descriptor (List.mem_cons_self ..)
    obtain ⟨all, hall, hdoneAll, hrestAll⟩ := ih (h.round hmem hdone hround)
      (fun d hd => hrest d (List.mem_cons_of_mem _ hd))
      (fun d hd => (List.mem_cons.mp hd).elim (fun heq => heq ▸ hmem) (hdone d)) hfold
    refine ⟨all, hall, fun d hd => hdoneAll d (List.mem_cons_of_mem _ hd), fun d hd => ?_⟩
    rcases List.mem_cons.mp hd with rfl | hd
    · exact hdoneAll _ (List.mem_cons_self ..)
    · exact hrestAll d hd

omit [Std.TransCmp text.localeCompare] in
/-- The rounds do not touch the cancellations. -/
theorem terminalCancellations_of_rounds {final : PersistedBridgeState × Bool}
    (hfold : rest.foldlM (reconcilePendingSource text items) (state, changed) = .ok final) :
    final.1.terminalCancellations = state.terminalCancellations := by
  induction rest generalizing state changed with
  | nil =>
    cases hfold
    rfl
  | cons descriptor rest ih =>
    obtain ⟨⟨next, changed'⟩, hround, hfold⟩ := foldlM_round hfold
    rw [ih hfold]
    rcases reconcilePendingSource_cases hround with ⟨-, rfl⟩ |
      ⟨source, reserved, -, hadds, -, ⟨-, rfl⟩ | ⟨-, rfl⟩⟩
    · rfl
    · exact hadds.terminalCancellations
    · exact hadds.terminalCancellations

/-- What the rounds over the reserved tuples leave: more reservations, with one for each tuple. -/
theorem reservations_of_rounds {rest : List SpoolItem} {final : PersistedBridgeState × Bool}
    (hfold : rest.foldlM reconcileReservation (state, changed) = .ok final) :
    AddsReservations state final.1 ∧ ∀ item ∈ rest, ∃ tuple fingerprint,
      pendingTuple item.plaintext = .ok (tuple, .text fingerprint) ∧
        ReservedFor final.1 tuple.event fingerprint := by
  induction rest generalizing state changed with
  | nil =>
    cases hfold
    exact ⟨.refl _, by rintro _ ⟨⟩⟩
  | cons item rest ih =>
    rw [List.foldlM_cons] at hfold
    obtain ⟨⟨next, changed'⟩, hround, hfold⟩ := bind_eq_ok_iff.mp hfold
    obtain ⟨hadds, tuple, fingerprint, htuple, hreserved⟩ := reconcileReservation_ok hround
    obtain ⟨hlater, hrest⟩ := ih hfold
    refine ⟨⟨?_, fun key reservation h => hlater.kept _ _ (hadds.kept _ _ h)⟩, ?_⟩
    · rw [hlater.same, hadds.same]
    · intro other hother
      rcases List.mem_cons.mp hother with rfl | hother
      · exact ⟨tuple, fingerprint, htuple, hreserved.mono hlater.kept⟩
      · exact hrest other hother

end

/-! ### A run -/

section
variable {text : ProtocolText} {s s' : BridgeStore}

/-- The state after a run that returns, round by round. -/
theorem reconcilePending_ok (h : (reconcilePending text).run s = (.ok (), s')) :
    ∃ journal changed changed', (pendingEventDescriptors s).foldlM
        (reconcilePendingSource text s.items) (s.state, false) = .ok (journal, changed) ∧
      (spoolList s.items .eventReservationV3).foldlM reconcileReservation (journal, false)
        = .ok (s'.state, changed') ∧ s'.items = s.items := by
  obtain ⟨_, t, hjournal, hreservations⟩ := Effect.run_bind_eq_ok.mp h
  obtain ⟨_, _, hget, hjournal⟩ := Effect.run_bind_eq_ok.mp hjournal
  cases hget
  obtain ⟨_, _, hget, hreservations⟩ := Effect.run_bind_eq_ok.mp hreservations
  cases hget
  obtain ⟨journal, changed, hfold, hend⟩ := reconcileEach_ok hjournal
  obtain ⟨state, changed', hfold', hend'⟩ := reconcileEach_ok hreservations
  have ht : t.state = journal ∧ t.items = s.items := by
    rcases hend with ⟨-, hpersist⟩ | ⟨-, rfl⟩
    · rw [persist_ok hpersist]
      exact ⟨rfl, rfl⟩
    · exact ⟨rfl, rfl⟩
  have hs' : s'.state = state ∧ s'.items = t.items := by
    rcases hend' with ⟨-, hpersist⟩ | ⟨-, rfl⟩
    · rw [persist_ok hpersist]
      exact ⟨rfl, rfl⟩
    · exact ⟨rfl, rfl⟩
  rw [ht.1, ht.2] at hfold'
  rw [← hs'.1] at hfold'
  exact ⟨journal, changed, changed', hfold, hfold', hs'.2.trans ht.2⟩

/-- There is room in the recent window for every pending event. -/
def HasRoom (s : BridgeStore) : Prop :=
  s.state.recentEvents.length + (pendingEventDescriptors s).length ≤ maxRecentEvents

/-- A second run finds nothing to do. -/
theorem reconcilePending_again [Std.TransCmp text.localeCompare] (hroom : HasRoom s)
    (hcoherent : Coherent text s.items (pendingEventDescriptors s) s.state)
    (h : (reconcilePending text).run s = (.ok (), s')) : Again text s' := by
  obtain ⟨journal, changed, changed', hfold, hfold', hitems⟩ := reconcilePending_ok h
  have hstart : Progress text s.items (pendingEventDescriptors s) [] (pendingEventDescriptors s)
      s.state := ⟨hroom, hcoherent, fun _ ⟨_, hd, _⟩ => absurd hd List.not_mem_nil⟩
  obtain ⟨all, hall, -, hmem⟩ := hstart.rounds (fun _ hd => hd) (by rintro _ ⟨⟩) hfold
  obtain ⟨hadds, htuples⟩ := reservations_of_rounds hfold'
  have hdescriptors : pendingEventDescriptors s' = pendingEventDescriptors s := by
    unfold pendingEventDescriptors
    rw [hitems, hadds.terminalCancellations, terminalCancellations_of_rounds hfold]
  have hsettled : ∀ descriptor ∈ pendingEventDescriptors s, ∀ source,
      openPendingEventSource text s.items descriptor = .ok source → Settles text s'.state source :=
    fun d hd source hopen => (hall.settled source ⟨d, hmem d hd, hopen⟩).adds hadds
  have hjournal : (reconcilePendingEventJournal text).run s' = (.ok (), s') := by
    unfold reconcilePendingEventJournal
    rw [Effect.run_bind, Effect.run_get, Effect.next_ok, hitems, hdescriptors]
    refine reconcileEach_still fun descriptor hd => reconcilePendingSource_still ?_ ?_
    · exact fun source hopen => (hsettled descriptor hd source hopen).skips
    · exact fun source hopen => (hsettled descriptor hd source hopen).reserved
  have hreservations : reconcileProducerEventReservations.run s' = (.ok (), s') := by
    unfold reconcileProducerEventReservations
    rw [Effect.run_bind, Effect.run_get, Effect.next_ok, hitems]
    refine reconcileEach_still fun item hitem => ?_
    obtain ⟨tuple, fingerprint, htuple, hreserved⟩ := htuples item hitem
    exact reconcileReservation_still htuple hreserved
  unfold Again reconcilePending
  rw [Effect.run_bind, hjournal, Effect.next_ok]
  exact hreservations

/-- The pending sources of an accepted store are of different events. -/
theorem nodup_pendingEventDescriptors {hash : ContentHash} {hostId : String}
    (h : AcceptedStore hash hostId s) : ((pendingEventDescriptors s).map (·.eventId)).Nodup := by
  have haccepted := h.accepted
  simp only [assertCurrentRuntimeRelationships, check_bind_eq_ok,
    assertItemBindings_eq_ok_iff] at haccepted
  obtain ⟨-, ⟨hnodup, hitems⟩, -⟩ := haccepted
  unfold pendingEventDescriptors spoolList
  rw [List.map_map]
  have hids : ∀ item ∈ (s.items.filter fun item => decide (item.payloadKind = .eventSourceV3)).filter
      fun item => item.eventId.all fun eventId => !s.state.terminalCancellations.contains eventId,
      ((fun d : PendingEventDescriptor => d.eventId) ∘ fun item : SpoolItem =>
        ⟨item.eventId.getD item.spoolItemId, item.sessionId⟩) item = item.spoolItemId := by
    intro item hitem
    obtain ⟨hlisted, -⟩ := List.mem_filter.mp hitem
    obtain ⟨hmem, hkind⟩ := List.mem_filter.mp hlisted
    obtain ⟨-, -, hbound⟩ := hitems item hmem
    rw [decide_eq_true_eq] at hkind
    unfold assertItemBinding at hbound
    rw [hkind] at hbound
    simp only [throwIf_eq_ok, Bool.or_eq_false_iff, decide_eq_false_iff_not, not_not] at hbound
    show item.eventId.getD item.spoolItemId = item.spoolItemId
    cases heventId : item.eventId with
    | none => rfl
    | some eventId =>
      rw [hbound.1, heventId]
      rfl
  rw [List.map_congr_left hids]
  exact ((List.filter_sublist.trans List.filter_sublist).map _).nodup hnodup

end

/-! ### A Session that goes back -/

/-- Text functions that compare by code points. -/
def ordinalText : ProtocolText where
  hash := constantHash
  localeCompare := compare
  isNeedHumanError _ := true

instance : Std.TransCmp ordinalText.localeCompare := inferInstanceAs (Std.TransCmp compare)

/-- The files with a pending event and this Session. -/
def pendingFiles (session : CanonicalSessionState) : RuntimeFiles where
  state := { emptyState "epoch" with
    sessions := Dict.set ∅ "session" session
    sessionDrivers := Dict.set ∅ "session" "pi" }
  items := [pendingItem endEvent endedSession none .eventSourceV3]

/-- The Session before its event. -/
def workingSession : CanonicalSessionState :=
  { endedSession with lastEventId := none, updatedAt := "2025-12-31T23:59:59.000Z" }

/-- The Session without a last event, at a later time than its pending event. -/
def laterSession : CanonicalSessionState :=
  { endedSession with lastEventId := none, updatedAt := "2026-01-01T00:00:05.000Z" }

/-- A Bridge that starts from these files. -/
def pendingStore (session : CanonicalSessionState) : BridgeStore :=
  .opened (pendingFiles session) true []

end Ariava.Proofs.JournalReconciliation
