import Ariava.E2e.UploadPreflight
import Ariava.Proofs.ProducerReplay

/-!
# `Ariava.Proofs.EventPublishability`: is an accepted event ready for publication?

`pushEventSource` checks the content of an event against its limit, and `register` and
`heartbeat` check the registered Session. The publication encrypts the terminal Session,
which is the registered one with the text of the event as its latest activity. That Session
is not checked before the event is accepted.

- `committedEvent_ready_iff`: the pending source of a committed event is ready exactly when
  its terminal Session passes the check of a registration.
- `not_committedEventsReady`: an event that is committed and never ready.
-/

set_option autoImplicit false

namespace Ariava.Proofs.EventPublishability

open Ariava.Lib
open Ariava.Protocol
open Ariava.StateStore
open Ariava.AgentAdapter
open Ariava.AgentAdapter.AgentAdapterRegistry
open Ariava.E2e
open Ariava.Proofs.ProducerReplay

/-! ### The pending tuple -/

/-- The spool holds the tuple, as a reservation or as a source. -/
def Pending (items : List SpoolItem) (tuple : PendingTerminal) (fingerprint : String) : Prop :=
  ∃ item ∈ items, item.plaintext = .pendingEvent tuple.event tuple.session (.text fingerprint) ∧
    (item.payloadKind = .eventReservationV3 ∨ item.payloadKind = .eventSourceV3)

/-- The tuple of a new event. -/
def newTuple (session : RegisteredSession) (input : AgentAdapterEventInput) (eventId : String) :
    PendingTerminal :=
  plannedTuple {
    session := session
    livePending := none
    persistedReservation := none
    persistedTuple := none
    hasPendingCommandWork := false
    input := input
    eventId := eventId }

/-- The tuple that an earlier call reserved for the content of an event. -/
def reservedTuple (s : BridgeStore) (sessionId fingerprint : String) :
    Except Thrown (Option PendingTerminal) :=
  match StateStore.reservationOf s.state sessionId fingerprint with
  | none => .ok none
  | some reservation => producerEventTuple s.items reservation.eventId fingerprint

section
variable {text : ProtocolText} {s s' : BridgeStore} {tuple : PendingTerminal}
  {fingerprint : String}

/-- The tuple that is read back is bound and in the spool. -/
theorem openProducerTuple_ok {kind : LocalSpoolPayloadKind} {items : List SpoolItem}
    {eventId : String}
    (h : openProducerTuple items kind eventId fingerprint = .ok (some tuple)) :
    StateStore.assertEventSessionBinding tuple.event tuple.session = .ok () ∧
      ∃ item ∈ items, item.plaintext
        = .pendingEvent tuple.event tuple.session (.text fingerprint) ∧
          item.payloadKind = kind := by
  unfold openProducerTuple at h
  rcases hfound : (spoolList items kind).find? fun item => decide (item.eventId = some eventId)
    with _ | item
  · rw [hfound] at h
    cases h
  rw [hfound] at h
  dsimp only at h
  obtain ⟨⟨opened, producerFingerprint⟩, hopened, hrest⟩ := bind_eq_ok_iff.mp h
  rw [check_bind_eq_ok, throwIf_eq_ok, decide_eq_false_iff_not, not_not] at hrest
  obtain ⟨rfl, hreturn⟩ := hrest
  cases hreturn
  have hlisted := List.mem_filter.mp (List.mem_of_find?_eq_some hfound)
  have hkind : item.payloadKind = kind := of_decide_eq_true hlisted.2
  unfold pendingTuple at hopened
  obtain ⟨plaintext, hparsed, hopened⟩ := bind_eq_ok_iff.mp hopened
  have hplaintext : plaintext = item.plaintext := by
    unfold parsePlaintext at hparsed
    split at hparsed <;> cases hparsed
    rfl
  subst hplaintext
  split at hopened
  · next event session stored heq =>
    rw [check_bind_eq_ok] at hopened
    obtain ⟨hbound, hreturn⟩ := hopened
    cases hreturn
    exact ⟨hbound, item, hlisted.1, heq, hkind⟩
  · cases hopened

theorem producerEventTuple_ok {items : List SpoolItem} {eventId : String}
    (h : producerEventTuple items eventId fingerprint = .ok (some tuple)) :
    StateStore.assertEventSessionBinding tuple.event tuple.session = .ok () ∧
      Pending items tuple fingerprint := by
  obtain ⟨found, hreserved, hrest⟩ := bind_eq_ok_iff.mp h
  rcases found with _ | found
  · obtain ⟨hbound, item, hitem, hplaintext, hkind⟩ := openProducerTuple_ok hrest
    exact ⟨hbound, item, hitem, hplaintext, .inr hkind⟩
  · cases hrest
    obtain ⟨hbound, item, hitem, hplaintext, hkind⟩ := openProducerTuple_ok hreserved
    exact ⟨hbound, item, hitem, hplaintext, .inl hkind⟩

/-- A transition of the state leaves the spool alone. -/
theorem commitTransition_items {α : Type}
    {transition : PersistedBridgeState → Except Thrown (StateTransition α)} {a : α}
    (h : (commitTransition transition).run s = (.ok a, s')) : s'.items = s.items := by
  obtain ⟨t, -, -, hwritten⟩ := commitTransition_ok h
  rcases t with result | ⟨state, result⟩
  · rw [show s' = s from hwritten]
  · rw [show s' = { s.replaced { s.files with state := state } with state := state }
      from hwritten]
    rfl

/-- A stored plaintext that must be the tuple. -/
theorem enqueuePendingEvent_ok {kind : LocalSpoolPayloadKind}
    (h : (enqueuePendingEvent tuple.event tuple.session (some fingerprint) kind).run s
      = (.ok (), s')) :
    (∀ item ∈ s.items, item ∈ s'.items) ∧ ∃ item ∈ s'.items,
      item.plaintext = .pendingEvent tuple.event tuple.session (.text fingerprint) ∧
        item.payloadKind = kind := by
  obtain ⟨stored, t, henqueue, hchecked⟩ := Effect.run_bind_eq_ok.mp h
  rw [Effect.run_ofExcept, Prod.mk.injEq, throwIf_eq_ok, decide_eq_false_iff_not,
    not_not] at hchecked
  obtain ⟨hplaintext, rfl⟩ := hchecked
  rcases enqueue_ok henqueue with ⟨-, hadded⟩ | ⟨hfound, hbinding, rfl⟩
  · rw [hadded]
    exact ⟨fun item hitem => List.mem_append_left _ hitem, _, List.mem_concat_self, rfl, rfl⟩
  · have hkind : stored.payloadKind = kind := by
      simp only [sameItemBinding, Bool.and_eq_true, decide_eq_true_eq] at hbinding
      exact hbinding.2
    exact ⟨fun item hitem => hitem, stored, (spoolGet_some hfound).1, hplaintext, hkind⟩

/-- A reserved tuple is pending. -/
theorem reserveProducerEventTuple_ok
    (h : (reserveProducerEventTuple tuple.event tuple.session fingerprint).run s
      = (.ok (), s')) : Pending s'.items tuple fingerprint := by
  obtain ⟨-, item, hitem, hplaintext, hkind⟩ := enqueuePendingEvent_ok h
  exact ⟨item, hitem, hplaintext, .inl hkind⟩

/-- A tuple that is journalled is pending: its reservation becomes its source, its source is
there already, or its source is added. -/
theorem journalPendingEvent_pending
    (h : (journalPendingEvent tuple.event tuple.session (some fingerprint)).run s
      = (.ok (), s')) : Pending s'.items tuple fingerprint := by
  obtain ⟨_, _, hget, hjournal⟩ := Effect.run_bind_eq_ok.mp h
  cases hget
  split at hjournal
  · next hfingerprint hkind =>
    cases hfingerprint
    obtain ⟨_, t, -, hreplace⟩ := Effect.run_bind_eq_ok.mp hjournal
    rw [Pending, replaceItems_single (replace_ok hreplace)]
    exact ⟨_, List.mem_concat_self, rfl, .inr rfl⟩
  · next hfingerprint hkind =>
    cases hfingerprint
    obtain ⟨hstored, rfl⟩ := assertStoredTuple_ok hjournal
    obtain ⟨-, item, hitem, hplaintext, hsource⟩ := openProducerTuple_ok hstored
    exact ⟨item, hitem, hplaintext, .inr hsource⟩
  · obtain ⟨item, hitem, hplaintext, hsource⟩ := (enqueuePendingEvent_ok hjournal).2
    exact ⟨item, hitem, hplaintext, .inr hsource⟩

/-- Queueing a tuple leaves it pending. -/
theorem queuePendingEvent_pending
    (h : (queuePendingEvent text tuple.event tuple.session (some fingerprint)).run s
      = (.ok (), s')) : Pending s'.items tuple fingerprint := by
  obtain ⟨_, t₁, hbound, h₁⟩ := Effect.run_bind_eq_ok.mp h
  obtain ⟨_, t₂, hjournal, h₂⟩ := Effect.run_bind_eq_ok.mp h₁
  obtain ⟨_, t₃, hget, h₃⟩ := Effect.run_bind_eq_ok.mp h₂
  obtain ⟨_, t₄, hset, h₄⟩ := Effect.run_bind_eq_ok.mp h₃
  obtain ⟨_, t₅, hreserve, hlast⟩ := Effect.run_bind_eq_ok.mp h₄
  have hpending := journalPendingEvent_pending hjournal
  -- the rest writes the state alone
  cases hget
  cases hset
  obtain ⟨state, -, rfl⟩ := applyReservationWhen_run_eq_ok.mp hreserve
  rw [Effect.run_tryCatch] at hlast
  rcases hpersist : persist.run { t₂ with state := state } with ⟨_ | _, t₆⟩
  · rw [show persist.run _ = _ from hpersist] at hlast
    cases hlast
  · rw [show persist.run _ = _ from hpersist] at hlast
    cases hlast
    rw [persist_ok hpersist]
    exact hpending

end

/-! ### The staged tuple -/

section
variable {text : ProtocolText} {at_ : RegistryReadings} {sessionId fingerprint : String}
  {request : AgentAdapterEventRequest} {response : AgentAdapterEventResponse}
  {tuple : PendingTerminal} {w w' : BridgeWorld}

/-- Forgetting the retry of a committed event writes nothing. -/
theorem cancelTerminalRetry_committed_store
    (h : (cancelTerminalRetry text (bridgeStateStore text) at_ sessionId
      { committed := true }).run w = (.ok (), w')) : w'.store = w.store := by
  obtain ⟨_, _, hread, h₁⟩ := Effect.run_bind_eq_ok.mp h
  cases hread
  obtain ⟨cancellation, w₁, hcancellation, h₂⟩ := Effect.run_bind_eq_ok.mp h₁
  rw [Effect.run_ofExcept, Prod.mk.injEq] at hcancellation
  obtain ⟨-, rfl⟩ := hcancellation
  obtain ⟨_, w₂, hpersist, hforget⟩ := Effect.run_bind_eq_ok.mp h₂
  have hstill : w₂ = w := by
    rcases cancellation with _ | cancelled <;> cases hpersist <;> rfl
  cases hforget
  rw [hstill]

/-- A promotion that returns leaves its tuple pending. -/
theorem promotePendingTerminal_pending
    (h : (promotePendingTerminal text (bridgeStateStore text) at_ sessionId tuple
      fingerprint).run w = (.ok (), w')) : Pending w'.store.items tuple fingerprint := by
  rw [promotePendingTerminal_ok_iff, commitPendingTerminal, Effect.run_bind, run_read,
    Effect.next_ok] at h
  split at h
  · cases h
  · next current hcurrent =>
    obtain ⟨_, w₁, hqueue, h₁⟩ := Effect.run_bind_eq_ok.mp h
    obtain ⟨_, w₂, hcommit, hcancel⟩ := Effect.run_bind_eq_ok.mp h₁
    rw [run_storeCall, Prod.mk.injEq] at hqueue
    obtain ⟨hok, rfl⟩ := hqueue
    have hpending := queuePendingEvent_pending (Prod.ext hok rfl)
    obtain ⟨u, hrun, hstore, -⟩ := @commitTerminalSession_run sessionId current
      (fromCanonicalTerminalSession current tuple.session) _
    rw [hrun, Prod.mk.injEq] at hcommit
    obtain ⟨-, rfl⟩ := hcommit
    rw [cancelTerminalRetry_committed_store hcancel, hstore]
    exact hpending

/-- The commit of a source writes no item. -/
theorem commitProducerEventSource_items {reservation : PersistedProducerEventReservationV1}
    (h : (commitProducerEventSource (bridgeStateStore text) at_ sessionId reservation request
      fingerprint).run w = (.ok (), w')) : w'.store.items = w.store.items := by
  unfold commitProducerEventSource at h
  rw [run_storeCall, Prod.mk.injEq] at h
  obtain ⟨hok, rfl⟩ := h
  exact commitTransition_items (Prod.ext hok rfl)

/-- A pending tuple that is staged and committed stays pending. -/
theorem stageAndCommit_pending {reservation : PersistedProducerEventReservationV1}
    {promoteNow : Bool} (hpending : Pending w.store.items tuple fingerprint)
    (h : (stageAndCommit text (bridgeStateStore text) at_ sessionId request fingerprint tuple
      reservation promoteNow).run w = (.ok response, w')) :
    Pending w'.store.items tuple fingerprint := by
  obtain ⟨_, w₁, hstage, h₁⟩ := Effect.run_bind_eq_ok.mp h
  obtain ⟨_, w₂, hcommit, h₂⟩ := Effect.run_bind_eq_ok.mp h₁
  obtain ⟨_, w₃, hpromote, hreturn⟩ := Effect.run_bind_eq_ok.mp h₂
  cases hstage
  cases hreturn
  cases promoteNow with
  | true => exact promotePendingTerminal_pending hpromote
  | false =>
    cases hpromote
    rw [commitProducerEventSource_items hcommit]
    exact hpending

/-- A reservation that the registry makes is pending. -/
theorem storeCall_reserve_pending
    (h : (storeCall ((bridgeStateStore text).reserveProducerEventTuple tuple.event tuple.session
      fingerprint)).run w = (.ok (), w')) : Pending w'.store.items tuple fingerprint := by
  rw [run_storeCall, Prod.mk.injEq] at h
  obtain ⟨hok, rfl⟩ := h
  exact reserveProducerEventTuple_ok (Prod.ext hok rfl)

/-- A committed event was taken as a new source. -/
theorem pushEventSource_committed
    (h : (pushEventSource text (bridgeStateStore text) at_ sessionId request).run w
      = (.ok response, w')) (hcommitted : response.disposition = .committed) :
    ∃ session fingerprint, SourceAccepted text sessionId request w session fingerprint ∧
      (acceptNewSource text (bridgeStateStore text) at_ sessionId session request
        fingerprint).run w = (.ok response, w') := by
  rcases pushEventSource_cases text at_ sessionId request w with ⟨thrown, hrun⟩ |
    ⟨session, fingerprint, haccepted, ⟨-, hrun⟩ | ⟨checkpoint, -, ⟨-, hrun⟩ | ⟨-, hrun⟩⟩⟩
  · rw [hrun] at h
    cases h
  · exact ⟨session, fingerprint, haccepted, by rw [← hrun, h]⟩
  · -- the tuple of the checkpoint is answered as a duplicate
    rw [hrun] at h
    rw [(answerAcceptedSource_ok h).2] at hcommitted
    cases hcommitted
  · exact ⟨session, fingerprint, haccepted, by rw [← hrun, h]⟩

theorem planRejection_ok {snapshot : TerminalEventPlanInput}
    (h : planRejection snapshot = .ok ()) :
    snapshot.input.sessionId = snapshot.session.sessionId ∧
      snapshot.input.provider = snapshot.session.provider := by
  rw [planRejection, check_bind_eq_ok, check_bind_eq_ok, throwIf_eq_ok, throwIf_eq_ok,
    decide_eq_false_iff_not, decide_eq_false_iff_not, not_not, not_not] at h
  exact ⟨h.1, h.2.1⟩

/-- What the plan of an event without a rejection is decided by. -/
theorem planTerminalEvent_decided {snapshot : TerminalEventPlanInput} {plan : TerminalEventPlan}
    (h : planTerminalEvent text snapshot = .ok plan) :
    (∃ thrown, planRejection snapshot = .error thrown ∧ plan = .reject thrown) ∨
      ∃ printed duplicate, planRejection snapshot = .ok () ∧
        producerEventFingerprint text snapshot.input = .ok printed ∧
        isLiveDuplicate text snapshot.livePending printed = .ok duplicate ∧
        (if duplicate = true then pure (.returnLiveDuplicate !snapshot.hasPendingCommandWork)
          else match snapshot.persistedReservation, snapshot.persistedTuple with
            | some reservation, none => pure (.returnReservationWithoutTuple reservation.eventId)
            | some _, some tuple =>
                pure (.stageReservedTuple tuple !snapshot.hasPendingCommandWork)
            | none, _ =>
                if snapshot.livePending.isSome = true then
                  pure (.cancelOlderAndReserve (plannedTuple snapshot)
                    (plannedReservation snapshot printed) !snapshot.hasPendingCommandWork)
                else
                  pure (.reserveNewTuple (plannedTuple snapshot)
                    (plannedReservation snapshot printed) !snapshot.hasPendingCommandWork))
          = (.ok plan : Except Thrown TerminalEventPlan) := by
  unfold planTerminalEvent at h
  rcases hrejection : planRejection snapshot with thrown | _
  · rw [hrejection] at h
    cases h
    exact .inl ⟨thrown, rfl, rfl⟩
  right
  rw [hrejection] at h
  dsimp only at h
  obtain ⟨printed, hprinted, h⟩ := bind_eq_ok_iff.mp h
  unfold isLiveDuplicate
  rcases hlive : snapshot.livePending with _ | pending
  · rw [hlive] at h
    exact ⟨printed, false, rfl, hprinted, rfl, h⟩
  · rw [hlive] at h
    obtain ⟨duplicate, hduplicate, h⟩ := bind_eq_ok_iff.mp h
    exact ⟨printed, duplicate, rfl, hprinted, hduplicate, h⟩

/-- What `planTerminalEvent` decides: it rejects the event, or the event is a duplicate, or it
has the reserved tuple, or it gets the planned one. -/
theorem planTerminalEvent_cases {snapshot : TerminalEventPlanInput} {plan : TerminalEventPlan}
    (h : planTerminalEvent text snapshot = .ok plan)
    (hfingerprint : producerEventFingerprint text snapshot.input = .ok fingerprint) :
    (∃ thrown, plan = .reject thrown) ∨ (∃ promoteNow, plan = .returnLiveDuplicate promoteNow) ∨
      (isLiveDuplicate text snapshot.livePending fingerprint = .ok false ∧
        ((∃ eventId, plan = .returnReservationWithoutTuple eventId) ∨
          (∃ tuple promoteNow, snapshot.persistedReservation.isSome = true ∧
            snapshot.persistedTuple = some tuple ∧ plan = .stageReservedTuple tuple promoteNow) ∨
          (snapshot.persistedReservation = none ∧ planRejection snapshot = .ok () ∧
            ∃ promoteNow,
              plan = .cancelOlderAndReserve (plannedTuple snapshot)
                  (plannedReservation snapshot fingerprint) promoteNow ∨
                plan = .reserveNewTuple (plannedTuple snapshot)
                  (plannedReservation snapshot fingerprint) promoteNow))) := by
  rcases planTerminalEvent_decided h with ⟨thrown, -, rfl⟩ | hdecided
  · exact .inl ⟨thrown, rfl⟩
  right
  obtain ⟨printed, duplicate, hrejection, hagain, hduplicate, h⟩ := hdecided
  rw [hfingerprint] at hagain
  cases hagain
  cases duplicate with
  | true =>
    cases h
    exact .inl ⟨_, rfl⟩
  | false =>
    right
    refine ⟨hduplicate, ?_⟩
    rw [if_neg Bool.false_ne_true] at h
    split at h
    · cases h
      exact .inl ⟨_, rfl⟩
    · next reservation tuple hreservation htuple =>
      cases h
      exact .inr (.inl ⟨tuple, _, by rw [hreservation]; rfl, htuple, rfl⟩)
    · next hreservation =>
      refine .inr (.inr ⟨hreservation, hrejection, !snapshot.hasPendingCommandWork, ?_⟩)
      split at h
      · cases h
        exact .inl rfl
      · cases h
        exact .inr rfl

theorem carryOutPlan_liveDuplicate {existing : Option PendingTerminal}
    {reservation : Option PersistedProducerEventReservationV1} {promoteNow : Bool}
    (h : (carryOutPlan text (bridgeStateStore text) at_ sessionId request fingerprint existing
      reservation (.returnLiveDuplicate promoteNow)).run w = (.ok response, w')) :
    response.disposition = .duplicate := by
  rcases existing with _ | duplicate
  · rw [carryOutPlan, Effect.run_throw] at h
    cases h
  · obtain ⟨_, _, -, hreturn⟩ := Effect.run_bind_eq_ok.mp h
    cases hreturn
    rfl

/-- The lookup of the reserved tuple changes nothing. -/
theorem lookup_reservedTuple {reservation : Option PersistedProducerEventReservationV1}
    {persisted : Option PendingTerminal} {w₂ w₃ : BridgeWorld}
    (hreservation : (AgentAdapterRegistry.reservationFor (bridgeStateStore text) false sessionId
      fingerprint).run w = (.ok reservation, w₂))
    (hpersisted : (tupleFor (bridgeStateStore text) reservation fingerprint).run w₂
      = (.ok persisted, w₃)) :
    w₃ = w ∧ reservation = reservationOf w.store.state sessionId fingerprint ∧
      reservedTuple w.store sessionId fingerprint = .ok persisted := by
  have hread : w₂ = w ∧ reservation = reservationOf w.store.state sessionId fingerprint := by
    cases hreservation
    exact ⟨rfl, rfl⟩
  obtain ⟨rfl, hfound⟩ := hread
  unfold reservedTuple
  rw [← hfound]
  rcases reservation with _ | reserved
  · cases hpersisted
    exact ⟨rfl, rfl, rfl⟩
  · rw [tupleFor, run_storeCall, Prod.mk.injEq] at hpersisted
    obtain ⟨htuple, rfl⟩ := hpersisted
    exact ⟨rfl, rfl, htuple⟩

/-- A committed event has a pending tuple: the one that an earlier call reserved for its
content, or the new one of the registered Session. -/
theorem pushEventSource_pending
    (h : (pushEventSource text (bridgeStateStore text) at_ sessionId request).run w
      = (.ok response, w')) (hcommitted : response.disposition = .committed) :
    ∃ session fingerprint tuple, SourceAccepted text sessionId request w session fingerprint ∧
      Pending w'.store.items tuple fingerprint ∧
      (reservedTuple w.store sessionId fingerprint = .ok (some tuple) ∨
        (reservedTuple w.store sessionId fingerprint = .ok none ∧
          request.event.sessionId = session.sessionId ∧
          request.event.provider = session.provider ∧
          tuple = newTuple session request.event at_.eventId)) := by
  obtain ⟨session, fingerprint, haccepted, hrun⟩ := pushEventSource_committed h hcommitted
  obtain ⟨_, _, hread, h₁⟩ := Effect.run_bind_eq_ok.mp hrun
  cases hread
  obtain ⟨duplicate, _, hduplicate, h₂⟩ := Effect.run_bind_eq_ok.mp h₁
  rw [Effect.run_ofExcept, Prod.mk.injEq] at hduplicate
  obtain ⟨hduplicate, rfl⟩ := hduplicate
  obtain ⟨reservation, w₂, hreservation, h₃⟩ := Effect.run_bind_eq_ok.mp h₂
  obtain ⟨persisted, w₃, hpersisted, h₄⟩ := Effect.run_bind_eq_ok.mp h₃
  obtain ⟨plan, _, hplan, hcarry⟩ := Effect.run_bind_eq_ok.mp h₄
  rw [Effect.run_ofExcept, Prod.mk.injEq] at hplan
  obtain ⟨hplan, rfl⟩ := hplan
  rcases planTerminalEvent_cases hplan haccepted.fingerprint with ⟨thrown, rfl⟩ |
    ⟨promoteNow, rfl⟩ | ⟨hlive, hnew⟩
  · cases hcarry
  · rw [carryOutPlan_liveDuplicate hcarry] at hcommitted
    cases hcommitted
  · have hfalse : duplicate = false := by
      rw [hlive] at hduplicate
      cases hduplicate
      rfl
    subst hfalse
    obtain ⟨rfl, hfound, hreserved⟩ := lookup_reservedTuple hreservation hpersisted
    refine ⟨session, fingerprint, ?_⟩
    rcases hnew with ⟨eventId, rfl⟩ | ⟨tuple, promoteNow, hsome, htuple, rfl⟩ |
      ⟨hnone, hrejection, promoteNow, hstaged⟩
    · cases hcarry
      cases hcommitted
    · obtain ⟨reserved, hreserved'⟩ := Option.isSome_iff_exists.mp hsome
      subst hreserved'
      subst htuple
      have hstored := hreserved
      rw [reservedTuple, ← hfound] at hstored
      exact ⟨tuple, haccepted, stageAndCommit_pending (producerEventTuple_ok hstored).2 hcarry,
        .inl hreserved⟩
    · obtain rfl : reservation = none := hnone
      have habsent : reservedTuple w₃.store sessionId fingerprint = .ok none := by
        rw [reservedTuple, ← hfound]
      obtain ⟨hsession, hprovider⟩ := planRejection_ok hrejection
      rcases hstaged with rfl | rfl
      · -- an older event of the Session is cancelled first
        obtain ⟨_, u, -, hreserve⟩ := Effect.run_bind_eq_ok.mp hcarry
        obtain ⟨_, v, hput, hstage⟩ := Effect.run_bind_eq_ok.mp hreserve
        exact ⟨_, haccepted, stageAndCommit_pending (storeCall_reserve_pending hput) hstage,
          .inr ⟨habsent, hsession, hprovider, rfl⟩⟩
      · obtain ⟨_, v, hput, hstage⟩ := Effect.run_bind_eq_ok.mp hcarry
        exact ⟨_, haccepted, stageAndCommit_pending (storeCall_reserve_pending hput) hstage,
          .inr ⟨habsent, hsession, hprovider, rfl⟩⟩

end

/-! ### The check that is missing -/

/-- The registered Session with the text of an event as its latest activity. -/
def withLatestActivity (session : RegisteredSession) (agentText : String) :
    CanonicalSessionState :=
  { toCanonicalSessionState session.toAdapterSession with latestActivityText := some agentText }

/-- A tuple that is read back from the spool can be encrypted: the contents of its event and
of its Session are within their limits, and a waiting event has an id. -/
structure StoredTupleFits (text : ProtocolText) (tuple : PendingTerminal) : Prop where
  event : ∃ content,
    buildProtectedEventContent text (protectedEventContent tuple.event) = .ok content
  session : assertCanonicalSessionWithinLimit tuple.session = .ok ()
  waiting : tuple.event.status = .needHuman → tuple.event.eventId ≠ ""

/-- The terminal Session of the event passes the check of a registration. For content that an
earlier call reserved, the tuple of that call can be encrypted. -/
def TerminalSessionFits (text : ProtocolText) (sessionId : String)
    (request : AgentAdapterEventRequest) (w : BridgeWorld) : Prop :=
  ∀ session fingerprint, SourceAccepted text sessionId request w session fingerprint →
    match reservedTuple w.store sessionId fingerprint with
    | .ok (some tuple) => StoredTupleFits text tuple
    | _ => assertCanonicalSessionWithinLimit
        (withLatestActivity session request.event.agentText) = .ok ()

section
variable {text : ProtocolText}

theorem assertCanonicalSessionWithinLimit_eq_ok {session : CanonicalSessionState} :
    assertCanonicalSessionWithinLimit session = .ok () ↔
      ∃ content, buildProtectedSessionContent (protectedSessionContent session)
        = .ok content := by
  show (buildProtectedSessionContent (protectedSessionContent session) >>= fun _ => pure ())
    = .ok () ↔ _
  rw [bind_eq_ok_iff]
  exact exists_congr fun content => and_iff_left rfl

theorem assertRegistrable_eq_ok {session : AdapterSession} :
    assertRegistrable session = .ok () ↔
      assertCanonicalSessionWithinLimit (toCanonicalSessionState session) = .ok () ∧
        AgentAdapter.assertNeedHumanHasLastEventId session = .ok () := by
  unfold assertRegistrable
  rcases assertCanonicalSessionWithinLimit (toCanonicalSessionState session) with thrown | _
  · exact iff_of_false nofun (fun h => nomatch h.1)
  · exact (and_iff_right rfl).symm

/-- A bound tuple is ready, as an event and as a Session, when it can be encrypted. -/
theorem boundTuple_ready_iff {tuple : PendingTerminal}
    (hbound : StateStore.assertEventSessionBinding tuple.event tuple.session = .ok ()) :
    IsReady (preflightEventSource text tuple.event tuple.session) ∧
        IsReady (preflightSessionSource text tuple.session) ↔ StoredTupleFits text tuple := by
  have hbound' : E2e.assertEventSessionBinding tuple.event tuple.session = .ok () := by
    rw [StateStore.assertEventSessionBinding, throwIf_eq_ok] at hbound
    rw [E2e.assertEventSessionBinding, throwIf_eq_ok]
    exact hbound
  obtain ⟨-, -, -, hstatus, hevent⟩ := assertEventSessionBinding_eq_ok.mp hbound
  have hwaiting : E2e.assertNeedHumanHasLastEventId tuple.session = .ok () ↔
      (tuple.event.status = .needHuman → tuple.event.eventId ≠ "") := by
    rw [E2e.assertNeedHumanHasLastEventId, throwIf_eq_ok, Bool.and_eq_false_iff,
      decide_eq_false_iff_not, decide_eq_false_iff_not, hevent, Option.getD_some, hstatus]
    tauto
  rw [preflightEventSource_ready_iff, preflightSessionSource_ready_iff, hwaiting,
    ← assertCanonicalSessionWithinLimit_eq_ok]
  constructor
  · rintro ⟨⟨-, hcontent, hnamed, hlimit⟩, -⟩
    exact ⟨hcontent, hlimit, hnamed⟩
  · rintro ⟨hcontent, hlimit, hnamed⟩
    exact ⟨⟨hbound', hcontent, hnamed, hlimit⟩, hnamed, hlimit⟩

/-- The contents of a new event are those of the accepted request. -/
theorem protectedEventContent_newTuple (session : RegisteredSession)
    (input : AgentAdapterEventInput) (eventId : String) :
    protectedEventContent (newTuple session input eventId).event = protectedContentOf input := by
  unfold protectedEventContent protectedContentOf newTuple plannedTuple plannedEvent
  rcases input.kind <;> rfl

/-- A new tuple is bound, and its event is within its limit, so the Session decides. -/
theorem newTuple_fits_iff {session : RegisteredSession} {input : AgentAdapterEventInput}
    {eventId fingerprint : String} (hid : eventId ≠ "")
    (hcontent : producerEventFingerprint text input = .ok fingerprint) :
    StoredTupleFits text (newTuple session input eventId) ↔
      assertCanonicalSessionWithinLimit (withLatestActivity session input.agentText)
        = .ok () := by
  constructor
  · intro h
    exact h.session
  · intro h
    obtain ⟨content, hbuilt, -⟩ := bind_eq_ok_iff.mp hcontent
    refine ⟨⟨content, ?_⟩, h, fun _ => hid⟩
    rw [protectedEventContent_newTuple]
    exact hbuilt

theorem newTuple_bound {session : RegisteredSession} {input : AgentAdapterEventInput}
    {eventId : String} (hsession : input.sessionId = session.sessionId)
    (hprovider : input.provider = session.provider) :
    StateStore.assertEventSessionBinding (newTuple session input eventId).event
      (newTuple session input eventId).session = .ok () :=
  assertEventSessionBinding_eq_ok.mpr ⟨rfl, hsession, hprovider, rfl, rfl⟩

end

/-! ### Accepted events -/

section
variable {text : ProtocolText} {at_ : RegistryReadings} {sessionId fingerprint : String}
  {request : AgentAdapterEventRequest} {response : AgentAdapterEventResponse}
  {w w' : BridgeWorld}

/-- The accepted request determines its Session and its fingerprint. -/
theorem terminalSessionFits_iff {session : RegisteredSession}
    (h : SourceAccepted text sessionId request w session fingerprint) :
    TerminalSessionFits text sessionId request w ↔
      match reservedTuple w.store sessionId fingerprint with
      | .ok (some tuple) => StoredTupleFits text tuple
      | _ => assertCanonicalSessionWithinLimit
          (withLatestActivity session request.event.agentText) = .ok () := by
  constructor
  · intro hfits
    exact hfits session fingerprint h
  · intro hfits session' fingerprint' h'
    have hsession : session' = session :=
      Option.some.inj (h'.registered.symm.trans h.registered)
    have hfingerprint : fingerprint' = fingerprint :=
      Except.ok.inj (h'.fingerprint.symm.trans h.fingerprint)
    rw [hsession, hfingerprint]
    exact hfits

/-- An event that is committed has a pending tuple, which is ready exactly when its terminal
Session passes the check of a registration. -/
theorem committedEvent_ready_iff (hid : at_.eventId ≠ "")
    (h : (pushEventSource text (bridgeStateStore text) at_ sessionId request).run w
      = (.ok response, w')) (hcommitted : response.disposition = .committed) :
    ∃ tuple fingerprint, producerEventFingerprint text request.event = .ok fingerprint ∧
      Pending w'.store.items tuple fingerprint ∧
      (IsReady (preflightEventSource text tuple.event tuple.session) ∧
        IsReady (preflightSessionSource text tuple.session) ↔
          TerminalSessionFits text sessionId request w) := by
  obtain ⟨session, fingerprint, tuple, haccepted, hpending, hstaged⟩ :=
    pushEventSource_pending h hcommitted
  refine ⟨tuple, fingerprint, haccepted.fingerprint, hpending, ?_⟩
  rw [terminalSessionFits_iff haccepted]
  rcases hstaged with hreserved | ⟨habsent, hsession, hprovider, rfl⟩
  · rw [hreserved]
    have hbound : StateStore.assertEventSessionBinding tuple.event tuple.session = .ok () := by
      unfold reservedTuple at hreserved
      split at hreserved
      · cases hreserved
      · exact (producerEventTuple_ok hreserved).1
    exact boundTuple_ready_iff hbound
  · rw [habsent, boundTuple_ready_iff (newTuple_bound hsession hprovider)]
    exact newTuple_fits_iff hid haccepted.fingerprint

end

/-! ### The first event of a Session -/

/-- A producer event that names the registered Session is accepted when its fields are
valid and its content is within the limit. -/
theorem acceptProducerEventInput_of {text : ProtocolText} {session : RegisteredSession}
    {input : AgentAdapterEventInput}
    (hidentifiers : isIdentifier input.sessionId = true ∧ isIdentifier input.provider = true ∧
      isIdentifier (input.harnessProvider.getD "") = true)
    (hcreated : isCanonicalTimestampText input.createdAt = true)
    (hcontent : ∃ json, buildProtectedEventContent text (protectedContentOf input) = .ok json)
    (hsession : input.provider = session.provider)
    (hcontext : assertProducerContextMatchesSession input session.toAdapterSession = .ok ()) :
    acceptProducerEventInput text input.sessionId session input = .ok input := by
  obtain ⟨json, hjson⟩ := hcontent
  have hneed : (EventKind.needHuman? input.kind).all (isNeedHumanContext text) = true :=
    (buildProtectedEventContent_ok_iff.mp ⟨json, hjson⟩).2.1
  have hcontext' := hcontext
  rw [assertProducerContextMatchesSession, check_bind_eq_ok, check_bind_eq_ok, throwIf_eq_ok,
    throwIf_eq_ok, decide_eq_false_iff_not, decide_eq_false_iff_not, not_not, not_not] at hcontext
  have hparsed : parseCanonicalProducerEvent text input = .ok input := by
    unfold parseCanonicalProducerEvent
    simp only [check_bind_eq_ok, throwIf_eq_ok, hidentifiers, hcreated, hneed, hcontext.1,
      hcontext.2.1, hjson]
    exact ⟨rfl, rfl, rfl, rfl, rfl, rfl, rfl, rfl⟩
  have hchecked : (do
      let parsed ← parseCanonicalProducerEvent text input
      throwIf (decide (parsed.sessionId ≠ input.sessionId))
        (.typeError "canonical Event sessionId does not match the request path")
      throwIf (decide (parsed.provider ≠ session.provider))
        (.typeError "canonical Event provider does not match the registered Session")
      assertProducerContextMatchesSession parsed session.toAdapterSession
      return parsed) = (.ok input : Except Thrown AgentAdapterEventInput) := by
    refine bind_eq_ok_iff.mpr ⟨input, hparsed, ?_⟩
    rw [check_bind_eq_ok, check_bind_eq_ok, check_bind_eq_ok, throwIf_eq_ok, throwIf_eq_ok,
      decide_eq_false_iff_not, decide_eq_false_iff_not, not_not, not_not]
    exact ⟨rfl, hsession, hcontext', rfl⟩
  unfold acceptProducerEventInput
  dsimp only
  rw [hchecked]

section
variable {text : ProtocolText} {s : BridgeStore} {at_ : RegistryReadings}
  {sessionId fingerprint : String} {request : AgentAdapterEventRequest}
  {session : RegisteredSession} {w : BridgeWorld}

/-- A spool write of which no failure is scheduled. -/
theorem persistSpool_run (items : List SpoolItem) (hwrites : s.writes = []) :
    ∃ s', (persistSpool items).run s = (.ok (), s') ∧ s'.state = s.state ∧ s'.writes = [] ∧
      s'.items = items := by
  have hnext := (s.afterWrite_of_noFailure { s.files with items := items } hwrites).1
  refine ⟨{ s.afterWrite { s.files with items := items } with items := items }, ?_,
    s.afterWrite_state _, ?_, rfl⟩
  · show (if s.nextWrite = .written ∨ s.nextWrite = .replaced then _ else _) = _
    rw [if_pos (.inl hnext)]
  · show (s.afterWrite _).writes = []
    rw [s.afterWrite_writes, hwrites]
    rfl

/-- A tuple is reserved under a free id when no write fails. -/
theorem reserveProducerEventTuple_run {event : CanonicalEvent}
    {terminal : CanonicalSessionState} (hfree : spoolGet s.items event.eventId = none)
    (hwrites : s.writes = []) :
    ∃ s', (reserveProducerEventTuple event terminal fingerprint).run s = (.ok (), s') ∧
      s'.state = s.state ∧ s'.writes = [] ∧
      s'.items = s.items ++ [sealedItem (pendingItem event terminal (some fingerprint)
        .eventReservationV3)] := by
  obtain ⟨s', hrun, hafter⟩ := persistSpool_run (s.items ++ [sealedItem (pendingItem event
    terminal (some fingerprint) .eventReservationV3)]) hwrites
  refine ⟨s', ?_, hafter⟩
  have henqueue : (enqueue (pendingItem event terminal (some fingerprint)
      .eventReservationV3)).run s = (.ok (sealedItem (pendingItem event terminal
        (some fingerprint) .eventReservationV3)), s') := by
    refine Effect.run_bind_eq_ok.mpr ⟨s, s, rfl, ?_⟩
    rw [show spoolGet s.items (pendingItem event terminal (some fingerprint)
      .eventReservationV3).spoolItemId = none from hfree]
    exact Effect.run_bind_eq_ok.mpr ⟨(), s', hrun, rfl⟩
  refine Effect.run_bind_eq_ok.mpr ⟨_, s', henqueue, ?_⟩
  rw [Effect.run_ofExcept, Prod.mk.injEq, throwIf_eq_ok, decide_eq_false_iff_not, not_not]
  exact ⟨rfl, rfl⟩

/-- A state write of which no failure is scheduled. -/
theorem commit_run (state : PersistedBridgeState) (hwrites : s.writes = []) :
    ∃ s', (commit state).run s = (.ok (), s') ∧ s'.items = s.items := by
  have hnext := (s.afterWrite_of_noFailure { s.files with state := state } hwrites).1
  have hwrite : (writeState state).run s
      = (.ok (), s.afterWrite { s.files with state := state }) := by
    show (if s.nextWrite = .written then _ else _, _) = _
    rw [if_pos hnext]
  exact ⟨_, Effect.run_bind_eq_ok.mpr ⟨(), _, hwrite, rfl⟩, s.afterWrite_items _⟩

/-- A source is accepted when its reservation is new and no write fails. -/
theorem commitProducerEventSource_run {reservation : PersistedProducerEventReservationV1}
    (hsession : reservation.sessionId = sessionId)
    (hfree : StateStore.reservationOf w.store.state reservation.sessionId reservation.fingerprint
      = none)
    (hwrites : w.store.writes = []) :
    ∃ w', (commitProducerEventSource (bridgeStateStore text) at_ sessionId reservation request
      fingerprint).run w = (.ok (), w') ∧ w'.store.items = w.store.items := by
  have htransition : ∃ state, reserveProducerEventWithCheckpointTransition w.store.state
      reservation (sourceCheckpoint at_ sessionId fingerprint reservation.eventId request)
        = .ok (.next state ()) := by
    refine ⟨{ w.store.state with
      producerEventReservations :=
        withReservation w.store.state.producerEventReservations reservation
      producerEventCheckpoints := w.store.state.producerEventCheckpoints.set sessionId
        (sourceCheckpoint at_ sessionId fingerprint reservation.eventId request) }, ?_⟩
    rw [reserveProducerEventWithCheckpointTransition, check_bind_eq_ok, throwIf_eq_ok,
      decide_eq_false_iff_not, not_not]
    refine ⟨hsession.symm, ?_⟩
    rw [hfree]
    rfl
  obtain ⟨state, hnext⟩ := htransition
  obtain ⟨s', hrun, hitems⟩ := commit_run state hwrites
  have hcommitted : (acceptProducerEventSource reservation
      (sourceCheckpoint at_ sessionId fingerprint reservation.eventId request)).run w.store
      = (.ok (), s') := by
    refine Effect.run_bind_eq_ok.mpr ⟨w.store, w.store, rfl, ?_⟩
    dsimp only
    rw [hnext]
    exact Effect.run_bind_eq_ok.mpr ⟨(), s', hrun, rfl⟩
  refine ⟨{ w with store := s' }, ?_, hitems⟩
  unfold commitProducerEventSource
  rw [run_storeCall]
  show (((acceptProducerEventSource reservation (sourceCheckpoint at_ sessionId fingerprint
    reservation.eventId request)).run w.store).1, { w with store := ((acceptProducerEventSource
      reservation (sourceCheckpoint at_ sessionId fingerprint reservation.eventId request)).run
        w.store).2 }) = _
  rw [hcommitted]

/-- An accepted event is not rejected by its plan. -/
theorem planRejection_of_accepted {snapshot : TerminalEventPlanInput}
    (h : acceptProducerEventInput text snapshot.session.sessionId snapshot.session snapshot.input
      = .ok snapshot.input) : planRejection snapshot = .ok () := by
  unfold acceptProducerEventInput at h
  dsimp only at h
  split at h
  · next hchecked =>
    cases h
    obtain ⟨parsed, hparsed, hrest⟩ := bind_eq_ok_iff.mp hchecked
    rw [check_bind_eq_ok, check_bind_eq_ok, check_bind_eq_ok] at hrest
    obtain ⟨hsession, hprovider, hcontext, hreturn⟩ := hrest
    cases hreturn
    rw [planRejection, check_bind_eq_ok, check_bind_eq_ok]
    rw [throwIf_eq_ok] at hsession hprovider ⊢
    rw [throwIf_eq_ok]
    exact ⟨hsession, hprovider, hcontext⟩
  · cases h

/-- What `planTerminalEvent` sees of the first event of a Session with a command in flight. -/
def firstSnapshot (session : RegisteredSession) (request : AgentAdapterEventRequest)
    (eventId : String) : TerminalEventPlanInput where
  session := session
  livePending := none
  persistedReservation := none
  persistedTuple := none
  hasPendingCommandWork := true
  input := request.event
  eventId := eventId

/-- The first event of a Session is committed and stays reserved, when a command is in flight
to the Session and no write fails. -/
theorem pushEventSource_run_first
    (haccepted : SourceAccepted text session.sessionId request w session fingerprint)
    (hcheckpoint : w.store.state.producerEventCheckpoints.get? session.sessionId = none)
    (hdelayed : w.registry.terminals.delayedTerminalEvents.get? session.sessionId = none)
    (hfree : StateStore.reservationOf w.store.state session.sessionId fingerprint = none)
    (hbusy : w.registry.commands.hasPendingCommandWork session.sessionId = true)
    (hspool : spoolGet w.store.items at_.eventId = none) (hwrites : w.store.writes = []) :
    ∃ w', (pushEventSource text (bridgeStateStore text) at_ session.sessionId request).run w
        = (.ok ⟨at_.eventId, request.producerEventId, request.producerEventOrder, .committed⟩,
          w') ∧
      w'.store.items = w.store.items ++ [sealedItem (pendingItem
        (newTuple session request.event at_.eventId).event
        (newTuple session request.event at_.eventId).session (some fingerprint)
        .eventReservationV3)] := by
  have hplan : planTerminalEvent text (firstSnapshot session request at_.eventId)
      = .ok (.reserveNewTuple (newTuple session request.event at_.eventId)
        (plannedReservation (firstSnapshot session request at_.eventId) fingerprint) false) := by
    rw [planTerminalEvent, planRejection_of_accepted haccepted.accepted]
    dsimp only
    exact bind_eq_ok_iff.mpr ⟨fingerprint, haccepted.fingerprint, rfl⟩
  -- the tuple is reserved, then staged, then its source is committed
  obtain ⟨s', hreserve, hstate, hwrites', hitems⟩ := @reserveProducerEventTuple_run w.store
    fingerprint (newTuple session request.event at_.eventId).event
    (newTuple session request.event at_.eventId).session hspool hwrites
  obtain ⟨staged, hstage, hstaged⟩ : ∃ staged : BridgeWorld,
      (stageTerminal session.sessionId (newTuple session request.event at_.eventId)).run
        { w with store := s' } = (.ok (), staged) ∧ staged.store = s' := ⟨_, rfl, rfl⟩
  obtain ⟨w', hcommit, hkept⟩ := @commitProducerEventSource_run text at_ session.sessionId
    fingerprint request staged
    (plannedReservation (firstSnapshot session request at_.eventId) fingerprint) rfl
    (by rw [hstaged, hstate]; exact hfree) (by rw [hstaged, hwrites'])
  refine ⟨w', ?_, by rw [hkept, hstaged, hitems]⟩
  have hread : (AgentAdapterRegistry.reservationFor (bridgeStateStore text) false
      session.sessionId fingerprint).run w = (.ok none, w) := by
    show (Except.ok (StateStore.reservationOf w.store.state session.sessionId fingerprint), w) = _
    rw [hfree]
  have hplanned : (Effect.ofExcept (planTerminalEvent text
      (firstSnapshot session request at_.eventId)) : RegistryEffect BridgeStore _).run w
        = (.ok (.reserveNewTuple (newTuple session request.event at_.eventId)
          (plannedReservation (firstSnapshot session request at_.eventId) fingerprint) false),
            w) := by
    rw [Effect.run_ofExcept, hplan]
  have hput : (storeCall ((bridgeStateStore text).reserveProducerEventTuple
      (newTuple session request.event at_.eventId).event
      (newTuple session request.event at_.eventId).session fingerprint)).run w
        = (.ok (), { w with store := s' }) := by
    rw [run_storeCall]
    exact congrArg (fun ended : Except Thrown Unit × BridgeStore =>
      (ended.1, { w with store := ended.2 })) hreserve
  have hnew : (acceptNewSource text (bridgeStateStore text) at_ session.sessionId session request
      fingerprint).run w = (.ok ⟨at_.eventId, request.producerEventId,
        request.producerEventOrder, .committed⟩, w') := by
    refine Effect.run_bind_eq_ok.mpr ⟨w.registry, w, rfl, ?_⟩
    rw [hdelayed, hbusy]
    refine Effect.run_bind_eq_ok.mpr ⟨false, w, rfl, ?_⟩
    refine Effect.run_bind_eq_ok.mpr ⟨none, w, hread, ?_⟩
    refine Effect.run_bind_eq_ok.mpr ⟨none, w, rfl, ?_⟩
    refine Effect.run_bind_eq_ok.mpr ⟨_, w, hplanned, ?_⟩
    refine Effect.run_bind_eq_ok.mpr ⟨(), _, hput, ?_⟩
    refine Effect.run_bind_eq_ok.mpr ⟨(), staged, hstage, ?_⟩
    refine Effect.run_bind_eq_ok.mpr ⟨(), w', hcommit, ?_⟩
    exact Effect.run_bind_eq_ok.mpr ⟨(), w', rfl, rfl⟩
  refine Effect.run_bind_eq_ok.mpr ⟨w.registry, w, rfl, ?_⟩
  rw [haccepted.registered]
  dsimp only
  rw [if_pos haccepted.valid]
  refine Effect.run_bind_eq_ok.mpr ⟨request.event, w, ?_, ?_⟩
  · rw [Effect.run_ofExcept, haccepted.accepted]
  refine Effect.run_bind_eq_ok.mpr ⟨fingerprint, w, ?_, ?_⟩
  · rw [Effect.run_ofExcept, haccepted.fingerprint]
  refine Effect.run_bind_eq_ok.mpr ⟨none, w, ?_, hnew⟩
  show (Except.ok (w.store.state.producerEventCheckpoints.get? session.sessionId), w) = _
  rw [hcheckpoint]

end

/-! ### An event that is never ready -/

/-- A text of 40000 characters. -/
def longText : String := String.ofList (List.replicate 40000 'a')

theorem utf8ByteSize_jsonText_replicate (n : Nat) :
    (jsonText (String.ofList (List.replicate n 'a'))).utf8ByteSize = 2 + n := by
  have hchar : (jsonCharText 'a').utf8ByteSize = 1 := by decide
  rw [utf8ByteSize_jsonText, String.toList_ofList, List.map_replicate, hchar,
    List.sum_replicate_nat, Nat.mul_one]

theorem utf8ByteSize_jsonText_longText : (jsonText longText).utf8ByteSize = 40002 :=
  utf8ByteSize_jsonText_replicate 40000

theorem longText_ne_empty : longText ≠ "" := by
  intro h
  have hsize := utf8ByteSize_jsonText_longText
  rw [h] at hsize
  revert hsize
  decide
/-- A Session with a long name. -/
def crowdedSession : RegisteredSession where
  sessionId := "session"
  provider := "pi"
  projectName := "project"
  cwd := "/project"
  nameText := longText
  openingText := none
  latestActivityText := none
  harnessProvider := none
  pid := none
  hostId := "host"
  registeredAt := "2026-01-01T00:00:00.000Z"
  lastHeartbeatAt := "2026-01-01T00:00:00.000Z"
  status := .working
  semanticUpdatedAt := "2026-01-01T00:00:00.000Z"
  lastEventId := none
  driverInstanceId := "AAAAAAAAAAAAAAAAAAAAAA"
  ownerLease := "lease"
  lastOwnerLeaseMonotonic := 1000000000

/-- The Bridge with this Session registered and a command in flight to it. -/
def crowdedBridge : BridgeWorld where
  registry := { AgentAdapterRegistry.new "host" 0 with
    sessions := (∅ : Dict String RegisteredSession).set "session" crowdedSession
    commands := { CommandTables.empty with
      commandSessions := (∅ : Dict String CommandBinding).set "command" ⟨"host", "session", "pi"⟩
      inFlightCommands := (∅ : Dict String (List String)).set "session" ["command"] } }
  store := BridgeStore.opened ⟨{ emptyState "epoch" with
      sessions := (∅ : Dict String CanonicalSessionState).set "session"
        (toCanonicalSessionState crowdedSession.toAdapterSession)
      sessionDrivers := (∅ : Dict String String).set "session" "agent-adapter" }, []⟩ true []
  mutations := []
  drawnLeases := ["lease"]

/-- A finished turn with a long text. -/
def longRequest : AgentAdapterEventRequest :=
  ⟨"AAAAAAAAAAAAAAAAAAAAAA", "00000000000000000000000000000001", ProducerOrder.doneEvent longText⟩

/-- The readings of the clocks and the id of the event. -/
def longReadings : RegistryReadings :=
  ⟨2000000000, 0, "2026-01-01T00:00:02.000Z", "lease-2", "evt_1"⟩

/-- The content of the Session with an activity. -/
def crowdedContent (activity : Option String) : ProtectedSessionContentV3 where
  projectName := "project"
  nameText := longText
  openingText := none
  latestActivityText := activity
  workingDirectory := some "/project"
  harnessProvider := none

theorem crowdedSession_registrable :
    assertRegistrable crowdedSession.toAdapterSession = .ok () := by
  have hsize : (protectedSessionJson (crowdedContent none)).utf8ByteSize
      ≤ contentPlaintextBytes := by
    simp [protectedSessionJson, crowdedContent, jsonObject, jsonMembers,
      String.utf8ByteSize_append, utf8ByteSize_jsonText_longText]
    decide
  have hvalid : isProtectedSessionContent (crowdedContent none) = true := by
    simp [isProtectedSessionContent, crowdedContent, isNonEmptyString_iff, longText_ne_empty,
      isOptionalNonEmptyString]
  refine assertRegistrable_eq_ok.mpr ⟨assertCanonicalSessionWithinLimit_eq_ok.mpr
    (buildProtectedSessionContent_ok_iff.mpr ⟨hvalid, hsize⟩), ?_⟩
  rw [AgentAdapter.assertNeedHumanHasLastEventId, throwIf_eq_ok]
  decide

/-- With the long text as its activity, the Session is over the limit. -/
theorem crowdedSession_exceeds :
    assertCanonicalSessionWithinLimit (withLatestActivity crowdedSession longText) ≠ .ok () := by
  intro h
  obtain ⟨-, hsize⟩ := buildProtectedSessionContent_ok_iff.mp
    (assertCanonicalSessionWithinLimit_eq_ok.mp h)
  have hlarge : contentPlaintextBytes
      < (protectedSessionJson (crowdedContent (some longText))).utf8ByteSize := by
    simp [protectedSessionJson, crowdedContent, jsonObject, jsonMembers,
      String.utf8ByteSize_append, utf8ByteSize_jsonText_longText]
    decide
  exact absurd hsize (Nat.not_le.mpr hlarge)

theorem longRequest_valid : validateAgentAdapterEventRequest longRequest = true := by
  have hsize : (eventRequestJson (ProducerOrder.doneEvent longText)).utf8ByteSize
      ≤ contentPlaintextBytes := by
    simp [eventRequestJson, ProducerOrder.doneEvent, jsonObject, jsonMembers, EventKind.needHuman?,
      String.utf8ByteSize_append, utf8ByteSize_jsonText_longText]
    decide
  unfold validateAgentAdapterEventRequest
  rw [show longRequest.event = ProducerOrder.doneEvent longText from rfl, decide_eq_true hsize]
  decide

theorem longRequest_content : ∃ json, buildProtectedEventContent sampleText
    (protectedContentOf (ProducerOrder.doneEvent longText)) = .ok json := by
  refine buildProtectedEventContent_ok_iff.mpr ⟨?_, rfl, ?_⟩
  · simp [isProtectedEventContent, protectedContentOf, ProducerOrder.doneEvent,
      isNonEmptyString_iff, longText_ne_empty, isOptionalNonEmptyString]
  · simp [protectedEventJson, protectedContentOf, ProducerOrder.doneEvent, EventKind.needHuman?,
      jsonObject, jsonMembers, String.utf8ByteSize_append, utf8ByteSize_jsonText_longText]
    decide

theorem longRequest_accepted : ∃ fingerprint, SourceAccepted sampleText "session" longRequest
    crowdedBridge crowdedSession fingerprint := by
  obtain ⟨json, hjson⟩ := longRequest_content
  have hidentifiers : isIdentifier "session" = true ∧ isIdentifier "pi" = true ∧
      isIdentifier ((some "pi").getD "") = true := by decide
  have hcreated : isCanonicalTimestampText "2026-01-01T00:00:01.000Z" = true := by decide
  have hcontext : assertProducerContextMatchesSession (ProducerOrder.doneEvent longText)
      crowdedSession.toAdapterSession = .ok () := by
    rw [assertProducerContextMatchesSession, check_bind_eq_ok, check_bind_eq_ok, throwIf_eq_ok,
      throwIf_eq_ok, throwIf_eq_ok, decide_eq_false_iff_not, decide_eq_false_iff_not,
      decide_eq_false_iff_not, not_not, not_not, not_not]
    exact ⟨rfl, rfl, rfl⟩
  have haccepted : acceptProducerEventInput sampleText "session" crowdedSession
      (ProducerOrder.doneEvent longText) = .ok (ProducerOrder.doneEvent longText) :=
    @acceptProducerEventInput_of sampleText crowdedSession (ProducerOrder.doneEvent longText)
      hidentifiers hcreated ⟨json, hjson⟩ rfl hcontext
  exact ⟨_, rfl, longRequest_valid, haccepted, bind_eq_ok_iff.mpr ⟨json, hjson, rfl⟩⟩

/-- The long event is committed, and its reservation is all that the spool holds. -/
theorem longRequest_run : ∃ fingerprint w',
    (pushEventSource sampleText (bridgeStateStore sampleText) longReadings "session"
        longRequest).run crowdedBridge
      = (.ok ⟨"evt_1", longRequest.producerEventId, longRequest.producerEventOrder,
          .committed⟩, w') ∧
    w'.store.items = [sealedItem (pendingItem
      (newTuple crowdedSession longRequest.event "evt_1").event
      (newTuple crowdedSession longRequest.event "evt_1").session (some fingerprint)
      .eventReservationV3)] := by
  obtain ⟨fingerprint, haccepted⟩ := longRequest_accepted
  obtain ⟨w', hrun, hitems⟩ := @pushEventSource_run_first sampleText longReadings fingerprint
    longRequest crowdedSession crowdedBridge haccepted rfl rfl rfl rfl rfl rfl
  exact ⟨fingerprint, w', hrun, hitems⟩

/-- Every committed event of a Session that a registration accepts has a pending tuple that is
ready. -/
def CommittedEventsReady (text : ProtocolText) : Prop :=
  ∀ (at_ : RegistryReadings) sessionId request response (w w' : BridgeWorld),
    at_.eventId ≠ "" →
    (∀ session, w.registry.sessions.get? sessionId = some session →
      assertRegistrable session.toAdapterSession = .ok ()) →
    (pushEventSource text (bridgeStateStore text) at_ sessionId request).run w
      = (.ok response, w') →
    response.disposition = .committed →
    ∃ tuple fingerprint, producerEventFingerprint text request.event = .ok fingerprint ∧
      Pending w'.store.items tuple fingerprint ∧
      IsReady (preflightEventSource text tuple.event tuple.session) ∧
      IsReady (preflightSessionSource text tuple.session)

theorem committedEvent_ready_iff_longRequest : ∃ response w',
    (pushEventSource sampleText (bridgeStateStore sampleText) longReadings "session"
        longRequest).run crowdedBridge = (.ok response, w') ∧
    ∃ tuple fingerprint,
      producerEventFingerprint sampleText longRequest.event = .ok fingerprint ∧
      Pending w'.store.items tuple fingerprint ∧
      (IsReady (preflightEventSource sampleText tuple.event tuple.session) ∧
        IsReady (preflightSessionSource sampleText tuple.session) ↔
          TerminalSessionFits sampleText "session" longRequest crowdedBridge) := by
  obtain ⟨-, w', hrun, -⟩ := longRequest_run
  exact ⟨_, w', hrun, committedEvent_ready_iff (by decide) hrun rfl⟩

/-- The long event is committed, and its terminal Session is over the limit. -/
theorem not_committedEventsReady : ¬CommittedEventsReady sampleText := by
  intro h
  obtain ⟨stored, w', hrun, hitems⟩ := longRequest_run
  have hregistrable : ∀ session, crowdedBridge.registry.sessions.get? "session" = some session →
      assertRegistrable session.toAdapterSession = .ok () := by
    intro session hsession
    obtain rfl : crowdedSession = session := Option.some.inj hsession
    exact crowdedSession_registrable
  obtain ⟨tuple, fingerprint, -, ⟨item, hitem, hplaintext, -⟩, hready, hsessionReady⟩ :=
    h longReadings "session" longRequest _ crowdedBridge w' (by decide) hregistrable hrun rfl
  rw [hitems, List.mem_singleton] at hitem
  rw [hitem] at hplaintext
  obtain ⟨-, hsession, -⟩ := SpoolPlaintext.pendingEvent.inj hplaintext
  rw [← hsession] at hsessionReady
  have hfits := (preflightSessionSource_ready_iff.mp hsessionReady).2
  exact crowdedSession_exceeds (assertCanonicalSessionWithinLimit_eq_ok.mpr hfits)

end Ariava.Proofs.EventPublishability
