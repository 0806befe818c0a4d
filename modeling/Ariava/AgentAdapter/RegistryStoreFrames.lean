import Ariava.AgentAdapter.RegistryInvariants

/-!
# `Ariava.AgentAdapter.RegistryStoreFrames`: what the registry does to its store

`RegistryFrames` says which programs of the registry leave the live Sessions alone. This
module is about the store behind it. `Respects store sessionId R` collects what is asked of
the store: each of its calls stays within a relation `R`, except the two that end the Session
(`removeSession` and a `cancelTerminalEvent` that removes it) and the one that accepts a
source for it. Then every program of the registry stays within `R` as well, as long as it
does not take the Session from its owner.

- `Respects.perform`: this for every action of the registry.

The relation is arbitrary, so the same rules serve every property of the store that only
these three calls can change.
-/

set_option autoImplicit false

namespace Ariava.AgentAdapter

open Ariava.Lib
open Ariava.Protocol
open Ariava.StateStore
open AgentAdapterRegistry

variable {ω α β : Type}

/-- Every call of the store stays within `R`, but those that end the Session or accept a
source for it. -/
structure Respects (store : RegistryStateStore ω) (sessionId : String) (R : ω → ω → Prop) :
    Prop where
  refl : ∀ s, R s s
  trans : ∀ s t u, R s t → R t u → R s u
  getSession : ∀ id, Effect.Leaves R (store.getSession id)
  getDriverNameForSession : ∀ id, Effect.Leaves R (store.getDriverNameForSession id)
  setSessionDriver : ∀ id driver session, Effect.Leaves R (store.setSessionDriver id driver session)
  removeSession : ∀ id driver, id ≠ sessionId → Effect.Leaves R (store.removeSession id driver)
  getTerminalEventCancellation : ∀ id, Effect.Leaves R (store.getTerminalEventCancellation id)
  cancelTerminalEvent : ∀ input, (input.removeSession = true → input.sessionId ≠ sessionId) →
    Effect.Leaves R (store.cancelTerminalEvent input)
  reserveProducerEventTuple : ∀ event session fingerprint,
    Effect.Leaves R (store.reserveProducerEventTuple event session fingerprint)
  getProducerEventTuple : ∀ eventId fingerprint,
    Effect.Leaves R (store.getProducerEventTuple eventId fingerprint)
  acceptProducerEventSource : ∀ input, input.checkpoint.sessionId ≠ sessionId →
    Effect.Leaves R (store.acceptProducerEventSource input)
  getProducerEventReservation : ∀ id fingerprint,
    Effect.Leaves R (store.getProducerEventReservation id fingerprint)
  listProducerEventReservations : ∀ id, Effect.Leaves R (store.listProducerEventReservations id)
  getProducerEventCheckpoint : ∀ id, Effect.Leaves R (store.getProducerEventCheckpoint id)
  getRecentEvent : ∀ eventId, Effect.Leaves R (store.getRecentEvent eventId)
  queuePendingEvent : ∀ event session fingerprint,
    Effect.Leaves R (store.queuePendingEvent event session fingerprint)
  queuePendingSessionHandle : ∀ handle, Effect.Leaves R (store.queuePendingSessionHandle handle)
  markCommandOutcomeUnknownIfPresent : ∀ commandId,
    Effect.Leaves R (store.markCommandOutcomeUnknownIfPresent commandId)

/-- A relation between stores, read off the world. -/
def OnStore (R : ω → ω → Prop) (w w' : RegistryWorld ω) : Prop := R w.store w'.store

/-- An owner check that passes changes nothing: the headers are those of the registered
owner. -/
theorem requireCurrentOwner_cases {text : ProtocolText} {store : RegistryStateStore ω}
    {at_ : RegistryReadings} {request : OwnerRequest} {w : RegistryWorld ω}
    {headers : String × String}
    (hok : ((AgentAdapterServer.requireCurrentOwner text store at_ request).run w).1
      = .ok headers) :
    ∃ session, w.registry.sessions.get? request.sessionId = some session ∧
      session.driverInstanceId = headers.1 ∧ session.ownerLease = headers.2 ∧
      headers ∈ request.headers ∧
      ((AgentAdapterServer.requireCurrentOwner text store at_ request).run w).2 = w := by
  unfold AgentAdapterServer.requireCurrentOwner at hok ⊢
  rcases hheaders : request.headers with _ | given
  · rw [hheaders] at hok
    cases hok
  rw [hheaders] at hok
  dsimp only at hok ⊢
  rw [Effect.run_bind] at hok ⊢
  rcases assertCurrentOwner_cases (w := w) text store at_ request.sessionId given.1 given.2 with
    (⟨thrown, hrun⟩ | ⟨-, -, -, ⟨thrown, hthrown⟩, -⟩) |
    ⟨session, hsession, -, hinstance, hlease, hrun⟩
  · rw [hrun] at hok
    cases hok
  · rcases hrun : (assertCurrentOwner text store at_ request.sessionId given.1 given.2).run w with
      ⟨r, v⟩
    rw [hrun] at hok hthrown
    cases hthrown
    cases hok
  · rw [hrun] at hok ⊢
    cases hok
    exact ⟨session, hsession, hinstance, hlease, rfl, rfl⟩

namespace Respects

variable {text : ProtocolText} {store : RegistryStateStore ω} {at_ : RegistryReadings}
  {sessionId : String} {R : ω → ω → Prop}

/-! ### The constructs -/

section
variable (h : Respects store sessionId R)
include h

theorem onStore_refl (w : RegistryWorld ω) : OnStore R w w := h.refl w.store

theorem onStore_trans (u v w : RegistryWorld ω) (h₁ : OnStore R u v) (h₂ : OnStore R v w) :
    OnStore R u w := h.trans _ _ _ h₁ h₂

/-- A program that changes the registry alone. -/
theorem still {p : RegistryEffect ω α} (hp : ∀ w, (p.run w).2.store = w.store) :
    Effect.Leaves (OnStore R) p := by
  intro w
  show R w.store _
  rw [hp w]
  exact h.refl _

theorem pure' (a : α) : Effect.Leaves (OnStore R) (pure a : RegistryEffect ω α) :=
  h.still fun _ => rfl

theorem throw' (thrown : Thrown) :
    Effect.Leaves (OnStore R) (throw thrown : RegistryEffect ω α) := h.still fun _ => rfl

theorem ofExcept (r : Except Thrown α) :
    Effect.Leaves (OnStore R) (Effect.ofExcept r : RegistryEffect ω α) := h.still fun _ => rfl

theorem bind {p : RegistryEffect ω α} {f : α → RegistryEffect ω β}
    (hp : Effect.Leaves (OnStore R) p) (hf : ∀ a, Effect.Leaves (OnStore R) (f a)) :
    Effect.Leaves (OnStore R) (p >>= f) :=
  Effect.Leaves.bind h.onStore_trans hp hf

theorem tryCatch' {p : RegistryEffect ω α} {handler : Thrown → RegistryEffect ω α}
    (hp : Effect.Leaves (OnStore R) p) (hh : ∀ e, Effect.Leaves (OnStore R) (handler e)) :
    Effect.Leaves (OnStore R) (tryCatch p handler) :=
  Effect.Leaves.tryCatch h.onStore_trans hp hh

theorem forEach {xs : List β} {f : β → RegistryEffect ω Unit}
    (hf : ∀ x ∈ xs, Effect.Leaves (OnStore R) (f x)) :
    Effect.Leaves (OnStore R) (Effect.forEach xs f) :=
  Effect.Leaves.forEach h.onStore_refl h.onStore_trans hf

omit h in
theorem call {p : Effect Thrown ω α} (hp : Effect.Leaves R p) :
    Effect.Leaves (OnStore R) (storeCall p : RegistryEffect ω α) := fun w => hp w.store

theorem read' : Effect.Leaves (OnStore R) (read : RegistryEffect ω AgentAdapterRegistry) :=
  h.still fun _ => rfl

theorem onMutation (reason : RegistryMutationReason) :
    Effect.Leaves (OnStore R) (onMutation reason : RegistryEffect ω Unit) := h.still fun _ => rfl

theorem setSessions (f : Dict String RegisteredSession → Dict String RegisteredSession) :
    Effect.Leaves (OnStore R) (setSessions f : RegistryEffect ω Unit) := h.still fun _ => rfl

theorem setCommands (f : CommandTables → CommandTables) :
    Effect.Leaves (OnStore R) (setCommands f : RegistryEffect ω Unit) := h.still fun _ => rfl

theorem setTerminals (f : TerminalTables → TerminalTables) :
    Effect.Leaves (OnStore R) (setTerminals f : RegistryEffect ω Unit) := h.still fun _ => rfl

/-! ### Terminal events -/

/-- A retry is cancelled without removing the Session. -/
theorem cancelTerminalRetry (id : String) (options : CancelTerminalOptions)
    (hkept : options.removeSession = true → id ≠ sessionId) :
    Effect.Leaves (OnStore R) (cancelTerminalRetry text store at_ id options) := by
  refine h.bind h.read' fun registry => h.bind (h.ofExcept _) fun cancellation => ?_
  refine h.bind ?_ fun _ => h.setTerminals _
  unfold persistCancellation
  split
  · exact Effect.Leaves.ite (fun _ => h.pure' ()) fun _ => call (h.cancelTerminalEvent _ hkept)
  · exact h.pure' ()

theorem commitTerminalSession (id : String) (previous terminal : RegisteredSession) :
    Effect.Leaves (OnStore R)
      (commitTerminalSession id previous terminal : RegistryEffect ω Unit) := by
  refine h.bind (h.setSessions _) fun _ => ?_
  exact Effect.Leaves.ite (fun _ => h.pure' ()) fun _ => h.onMutation _

theorem commitPendingTerminal (id : String) (pending : PendingTerminal) (fingerprint : String) :
    Effect.Leaves (OnStore R) (commitPendingTerminal text store at_ id pending fingerprint) := by
  refine h.bind h.read' fun registry => ?_
  split
  · exact h.throw' _
  · refine h.bind (call (h.queuePendingEvent _ _ _)) fun _ => ?_
    refine h.bind (h.commitTerminalSession _ _ _) fun _ => ?_
    exact h.cancelTerminalRetry _ _ nofun

theorem scheduleTerminalRetry (id : String) :
    Effect.Leaves (OnStore R) (scheduleTerminalRetry id : RegistryEffect ω Unit) := by
  refine h.bind h.read' fun registry => ?_
  exact Effect.Leaves.ite (fun _ => h.pure' ()) fun _ => h.setTerminals _

theorem promotePendingTerminal (id : String) (pending : PendingTerminal) (fingerprint : String) :
    Effect.Leaves (OnStore R) (promotePendingTerminal text store at_ id pending fingerprint) :=
  h.tryCatch' (h.commitPendingTerminal _ _ _) fun thrown =>
    h.bind (h.scheduleTerminalRetry _) fun _ => h.throw' thrown

theorem flushDelayedTerminalEvent (id : String) :
    Effect.Leaves (OnStore R) (flushDelayedTerminalEvent text store at_ id) := by
  refine h.bind h.read' fun registry => Effect.Leaves.ite (fun _ => h.pure' ()) fun _ => ?_
  split
  · exact h.pure' ()
  · refine Effect.Leaves.ite (fun _ => ?_) fun _ => h.cancelTerminalRetry _ _ nofun
    refine h.tryCatch' ?_ fun _ => h.scheduleTerminalRetry _
    exact h.bind (h.ofExcept _) fun _ => h.commitPendingTerminal _ _ _

theorem terminalRetryTimerFires (id : String) :
    Effect.Leaves (OnStore R) (terminalRetryTimerFires text store at_ id) := by
  refine h.bind (h.setTerminals _) fun _ => h.bind h.read' fun registry => ?_
  exact Effect.Leaves.ite (fun _ => h.pure' ()) fun _ => h.flushDelayedTerminalEvent _

theorem promoteWhen (promoteNow : Bool) (id : String) (pending : PendingTerminal)
    (fingerprint : String) :
    Effect.Leaves (OnStore R) (promoteWhen text store at_ promoteNow id pending fingerprint) :=
  Effect.Leaves.ite (fun _ => h.promotePendingTerminal _ _ _) fun _ => h.pure' ()

/-! ### Producer events and handles -/

theorem answerAcceptedSource (id : String) (checkpoint : ProducerEventSourceCheckpointV1)
    (request : AgentAdapterEventRequest) (fingerprint : String) :
    Effect.Leaves (OnStore R)
      (answerAcceptedSource text store at_ id checkpoint request fingerprint) := by
  refine Effect.Leaves.ite (fun _ => h.throw' _) fun _ => h.bind ?_ fun _ => h.pure' _
  refine h.bind (call (h.getProducerEventReservation _ _)) fun reservation => ?_
  split
  · exact h.pure' ()
  · refine Effect.Leaves.ite (fun _ => h.throw' _) fun _ => ?_
    refine h.bind (call (h.getProducerEventTuple _ _)) fun tuple => ?_
    split
    · exact h.throw' _
    · refine h.bind (h.setTerminals _) fun _ => h.bind h.read' fun registry => ?_
      exact h.promoteWhen _ _ _ _

section
variable {id fingerprint : String} {request : AgentAdapterEventRequest}
  (haccept : ∀ reservation, Effect.Leaves (OnStore R)
    (commitProducerEventSource store at_ id reservation request fingerprint))
include haccept

theorem stageAndCommit (tuple : PendingTerminal)
    (reservation : PersistedProducerEventReservationV1) (promoteNow : Bool) :
    Effect.Leaves (OnStore R)
      (stageAndCommit text store at_ id request fingerprint tuple reservation promoteNow) := by
  refine h.bind (h.setTerminals _) fun _ => h.bind (haccept _) fun _ => ?_
  exact h.bind (h.promoteWhen _ _ _ _) fun _ => h.pure' _

theorem carryOutPlan (existing : Option PendingTerminal)
    (reservation : Option PersistedProducerEventReservationV1) (plan : TerminalEventPlan) :
    Effect.Leaves (OnStore R)
      (carryOutPlan text store at_ id request fingerprint existing reservation plan) := by
  unfold AgentAdapterRegistry.carryOutPlan
  split
  · exact h.throw' _
  · split
    · exact h.throw' _
    · exact h.bind (h.promoteWhen _ _ _ _) fun _ => h.pure' _
  · exact h.pure' _
  · split
    · exact h.throw' _
    · exact h.stageAndCommit haccept _ _ _
  · refine h.bind (h.cancelTerminalRetry _ _ nofun) fun _ => ?_
    exact h.bind (call (h.reserveProducerEventTuple _ _ _)) fun _ =>
      h.stageAndCommit haccept _ _ _
  · exact h.bind (call (h.reserveProducerEventTuple _ _ _)) fun _ =>
      h.stageAndCommit haccept _ _ _

theorem acceptNewSource (session : RegisteredSession) :
    Effect.Leaves (OnStore R)
      (acceptNewSource text store at_ id session request fingerprint) := by
  refine h.bind h.read' fun registry => h.bind (h.ofExcept _) fun duplicate => ?_
  refine h.bind ?_ fun reservation => h.bind ?_ fun tuple => ?_
  · exact Effect.Leaves.ite (fun _ => h.pure' _)
      fun _ => call (h.getProducerEventReservation _ _)
  · unfold tupleFor
    split
    · exact h.pure' _
    · exact call (h.getProducerEventTuple _ _)
  · exact h.bind (h.ofExcept _) fun plan => h.carryOutPlan haccept _ _ _

end

/-- The events of another Session. -/
theorem pushEventSource {id : String} (hid : id ≠ sessionId)
    (request : AgentAdapterEventRequest) :
    Effect.Leaves (OnStore R) (pushEventSource text store at_ id request) := by
  refine h.bind h.read' fun registry => ?_
  split
  · exact h.throw' _
  refine Effect.Leaves.ite (fun _ => ?_) fun _ => h.throw' _
  refine h.bind (h.ofExcept _) fun input => h.bind (h.ofExcept _) fun fingerprint => ?_
  refine h.bind (call (h.getProducerEventCheckpoint _)) fun checkpoint => ?_
  have haccept : ∀ reservation, Effect.Leaves (OnStore R)
      (commitProducerEventSource store at_ id reservation request fingerprint) :=
    fun _ => call (h.acceptProducerEventSource _ hid)
  split
  · exact h.acceptNewSource haccept _
  · refine Effect.Leaves.ite (fun _ => h.answerAcceptedSource _ _ _ _) fun _ => ?_
    exact Effect.Leaves.ite (fun _ => h.acceptNewSource haccept _) fun _ => h.throw' _

theorem handleSession (id : String) (request : AgentAdapterRegistry.HandleSessionRequest) :
    Effect.Leaves (OnStore R) (handleSession store at_ id request) := by
  refine h.bind h.read' fun registry => ?_
  split
  · exact h.throw' _
  · refine Effect.Leaves.ite (fun _ => h.throw' _) fun _ => ?_
    exact h.bind (call (h.queuePendingSessionHandle _)) fun _ => h.onMutation _

/-! ### Ownership -/

/-- The end of the ownership of another Session. -/
theorem loseOwnership {session : RegisteredSession} (hid : session.sessionId ≠ sessionId)
    (reason : RegistryMutationReason) :
    Effect.Leaves (OnStore R) (loseOwnership text store at_ session reason) := by
  refine h.bind ?_ fun _ => h.bind h.read' fun registry => h.bind (h.forEach fun id _ => ?_)
    fun _ => h.bind (h.setCommands _) fun _ => h.bind (h.setSessions _) fun _ => h.onMutation _
  · refine h.bind (call (h.getTerminalEventCancellation _)) fun _ => h.bind h.read' fun _ => ?_
    refine Effect.Leaves.ite (fun _ => h.cancelTerminalRetry _ _ fun _ => hid) fun _ => ?_
    exact h.bind (call (h.getDriverNameForSession _)) fun _ => call (h.removeSession _ _ hid)
  · refine h.bind (h.tryCatch' ?_ fun _ => h.pure' ()) fun _ => h.setCommands _
    exact call (h.markCommandOutcomeUnknownIfPresent _)

/-- The owner check of a Session whose lease, when it has lapsed, is another's. -/
theorem assertCurrentOwner {w : RegistryWorld ω} {id : String} (driverInstanceId ownerLease : String)
    (hlapsed : ∀ session, w.registry.sessions.get? id = some session →
      leaseExpired session at_.monotonicNow = true → session.sessionId ≠ sessionId) :
    OnStore R w ((assertCurrentOwner text store at_ id driverInstanceId ownerLease).run w).2 := by
  unfold AgentAdapterRegistry.assertCurrentOwner
  rw [Effect.run_bind, run_read, Effect.next_ok]
  rcases hsession : w.registry.sessions.get? id with _ | session
  · exact h.throw' _ w
  · dsimp only
    by_cases hexpired : leaseExpired session at_.monotonicNow = true
    · rw [if_pos hexpired]
      exact h.bind (h.loseOwnership (hlapsed session hsession hexpired) _)
        (fun _ => h.throw' _) w
    · rw [if_neg hexpired]
      exact Effect.Leaves.ite (fun _ => h.throw' _) (fun _ => h.pure' ()) w

/-! ### Registration and heartbeat -/

theorem restoreFromReservations (input : RegisterSessionInput)
    (reservations : List PersistedProducerEventReservationV1) :
    Effect.Leaves (OnStore R) (restoreFromReservations text store input reservations) := by
  induction reservations with
  | nil => exact h.pure' none
  | cons reservation rest ih =>
    refine h.bind (h.bind (call (h.getProducerEventTuple _ _)) fun tuple => ?_) fun tuple => ?_
    · split
      · exact h.pure' _
      · exact h.bind (h.ofExcept _) fun _ => h.pure' _
    · split
      · exact h.pure' _
      · refine h.bind (h.bind (call (h.getRecentEvent _)) fun recent => ?_) fun recent => ?_
        · split
          · exact h.pure' _
          · exact h.bind (h.ofExcept _) fun _ => h.pure' _
        · split
          · exact h.pure' _
          · exact ih

theorem restoreForRegistration (input : RegisterSessionInput)
    (previous : Option RegisteredSession) (persisted : Option CanonicalSessionState) :
    Effect.Leaves (OnStore R) (restoreForRegistration text store input previous persisted) := by
  refine Effect.Leaves.ite (fun _ => h.bind ?_ fun recovery => ?_) fun _ => h.pure' _
  · refine Effect.Leaves.ite (fun _ => h.pure' _) fun _ => ?_
    exact h.bind (call (h.listProducerEventReservations _)) fun _ =>
      h.restoreFromReservations _ _
  · split
    · exact h.pure' _
    · refine h.bind (h.ofExcept _) fun _ => h.bind (call (h.queuePendingEvent _ _ _)) fun _ => ?_
      exact call (h.getSession _)
    · exact h.bind (call (h.setSessionDriver _ _ _)) fun _ => call (h.getSession _)

theorem persistRegistration (input : RegisterSessionInput) (transition : RegistrationTransition) :
    Effect.Leaves (OnStore R) (persistRegistration text store at_ input transition) := by
  unfold AgentAdapterRegistry.persistRegistration
  split
  · exact call (h.setSessionDriver _ _ _)
  · exact h.cancelTerminalRetry _ _ nofun

theorem grantOwnership (input : RegisterSessionInput) (previous : Option RegisteredSession)
    (transition : RegistrationTransition) :
    Effect.Leaves (OnStore R)
      (grantOwnership at_ input previous transition : RegistryEffect ω RegisteredSession) := by
  refine h.bind h.read' fun registry => h.bind ?_ fun lease => h.bind (h.setSessions _) fun _ => ?_
  · unfold leaseFor
    split
    · exact h.pure' _
    · exact h.still fun _ => rfl
  · refine h.bind ?_ fun _ => h.pure' _
    exact Effect.Leaves.ite (fun _ => h.onMutation _) fun _ => h.pure' ()

/-- A registration that revokes no lapsed owner of the Session. -/
theorem register {w : RegistryWorld ω} (input : RegisterSessionInput)
    (hlapsed : ∀ live, w.registry.sessions.get? input.sessionId = some live →
      leaseExpired live at_.monotonicNow = true → live.sessionId ≠ sessionId) :
    OnStore R w ((register text store at_ input).run w).2 := by
  unfold AgentAdapterRegistry.register
  split
  · exact h.throw' _ w
  rw [Effect.run_bind, run_read, Effect.next_ok]
  refine h.bind (call (h.getSession _)) (fun stored => ?_) w
  refine h.bind (h.restoreForRegistration _ _ _) fun persisted => ?_
  refine Effect.Leaves.ite (fun _ => h.bind ?_ fun _ => ?_) fun _ => h.throw' _
  · unfold revokeOrRefuse
    split
    · exact h.pure' ()
    · next live hlive =>
      refine Effect.Leaves.ite (fun hexpired => ?_) fun _ => ?_
      · exact h.loseOwnership (hlapsed live hlive hexpired) _
      · exact Effect.Leaves.ite (fun _ => h.throw' _) fun _ => h.pure' ()
  · refine h.bind (call (h.getTerminalEventCancellation _)) fun _ => ?_
    refine h.bind (h.ofExcept _) fun _ => h.bind (h.persistRegistration _ _) fun _ => ?_
    exact h.grantOwnership _ _ _

theorem heartbeat (id : String) (input : HeartbeatInput) :
    Effect.Leaves (OnStore R) (heartbeat text store at_ id input) := by
  refine h.bind h.read' fun registry => ?_
  split
  · exact h.pure' none
  · refine h.bind (h.ofExcept _) fun _ => h.bind ?_ fun _ => h.bind ?_ fun _ => ?_
    · exact Effect.Leaves.ite (fun _ => h.cancelTerminalRetry _ _ nofun) fun _ => h.pure' ()
    · exact Effect.Leaves.ite (fun _ => h.onMutation _) fun _ => h.pure' ()
    · exact h.bind (h.setSessions _) fun _ => h.pure' _

/-! ### Listing and unregistering -/

/-- Every Session stays registered under its own id, and the store within `R`. -/
def KeysOnStore (R : ω → ω → Prop) (w w' : RegistryWorld ω) : Prop :=
  SessionKeys w → SessionKeys w' ∧ OnStore R w w'

theorem keysOnStore_refl (w : RegistryWorld ω) : KeysOnStore R w w :=
  fun hkeys => ⟨hkeys, h.onStore_refl w⟩

theorem keysOnStore_trans (u v w : RegistryWorld ω) (h₁ : KeysOnStore R u v)
    (h₂ : KeysOnStore R v w) : KeysOnStore R u w := by
  intro hkeys
  obtain ⟨hkeys', hfirst⟩ := h₁ hkeys
  obtain ⟨hkeys'', hsecond⟩ := h₂ hkeys'
  exact ⟨hkeys'', h.onStore_trans _ _ _ hfirst hsecond⟩

/-- Unregistering another Session. -/
theorem unregister {id : String} (hid : id ≠ sessionId) (reason : RegistryMutationReason) :
    Effect.Leaves (KeysOnStore R) (unregister text store at_ id reason) := by
  intro w hkeys
  unfold AgentAdapterRegistry.unregister
  rw [Effect.run_bind, run_read, Effect.next_ok]
  rcases hsession : w.registry.sessions.get? id with _ | session
  · exact ⟨hkeys, h.onStore_refl w⟩
  · have hown : session.sessionId = id := hkeys id session hsession
    have hsheds : Sheds (fun _ _ => True) w
        ((AgentAdapterRegistry.loseOwnership text store at_ session reason).run w).2 :=
      sheds_loseOwnership text store at_ (e := .release session.sessionId) rfl LeaseStep.release
        trivial reason
    refine Effect.Leaves.bind_at h.keysOnStore_trans (fun _ => ⟨hsheds.moves.keys hkeys, ?_⟩)
      (fun _ _ => h.keysOnStore_refl _) hkeys
    exact h.loseOwnership (hown ▸ hid) reason w

/-- The loop of the listing, when every lapsed Session in it is another one. -/
theorem listActive {sessions : List RegisteredSession}
    (hlapsed : ∀ session ∈ sessions, leaseExpired session at_.monotonicNow = true →
      session.sessionId ≠ sessionId) :
    Effect.Leaves (KeysOnStore R) (listActive text store at_ sessions) := by
  induction sessions with
  | nil => exact Effect.Leaves.pure h.keysOnStore_refl _
  | cons session rest ih =>
    replace ih := ih fun other hmem => hlapsed other (List.mem_cons_of_mem session hmem)
    unfold AgentAdapterRegistry.listActive
    refine Effect.Leaves.ite (fun hexpired => ?_) fun _ => ?_
    · have hid := hlapsed session (List.mem_cons_self ..) hexpired
      exact Effect.Leaves.bind h.keysOnStore_trans (h.unregister hid .ttl) fun _ => ih
    · exact Effect.Leaves.bind h.keysOnStore_trans ih fun _ =>
        Effect.Leaves.pure h.keysOnStore_refl _

theorem listSessions {w : RegistryWorld ω} (hkeys : SessionKeys w)
    (hlapsed : ∀ session ∈ w.registry.sessions.values,
      leaseExpired session at_.monotonicNow = true → session.sessionId ≠ sessionId) :
    OnStore R w ((listSessions text store at_).run w).2 := by
  unfold AgentAdapterRegistry.listSessions
  rw [Effect.run_bind, run_read, Effect.next_ok]
  have hloop : Effect.Leaves (KeysOnStore R)
      (AgentAdapterRegistry.listActive text store at_ w.registry.sessions.values >>= fun active =>
        pure (active.mergeSort fun left right =>
          decide (text.localeCompare right.updatedAt left.updatedAt ≠ .gt))) :=
    Effect.Leaves.bind h.keysOnStore_trans (h.listActive hlapsed) fun _ =>
      Effect.Leaves.pure h.keysOnStore_refl _
  exact (hloop w hkeys).2

/-! ### Commands -/

theorem clearCommandInFlight (id commandId : String) :
    Effect.Leaves (OnStore R) (clearCommandInFlight text store at_ id commandId) :=
  h.bind (h.setCommands _) fun _ => h.flushDelayedTerminalEvent _

theorem markCommandInFlight (command : CommandEnvelope) :
    Effect.Leaves (OnStore R) (markCommandInFlight command : RegistryEffect ω Unit) := by
  refine h.bind h.read' fun registry => ?_
  split
  · exact h.throw' _
  · exact h.setCommands _

theorem enqueueCommand (command : CommandEnvelope) :
    Effect.Leaves (OnStore R) (enqueueCommand command : RegistryEffect ω Unit) := by
  refine h.bind h.read' fun registry => h.bind (h.ofExcept _) fun session => ?_
  refine h.bind (h.setCommands _) fun _ => ?_
  split
  · refine h.bind (h.setCommands _) fun _ => h.bind (h.markCommandInFlight _) fun _ => ?_
    exact h.setCommands _
  · exact h.setCommands _

theorem dequeueCommand (poll : PollRequest) (timeoutMs : Nat) :
    Effect.Leaves (OnStore R) (dequeueCommand poll timeoutMs : RegistryEffect ω Unit) := by
  refine h.bind h.read' fun registry => Effect.Leaves.ite (fun _ => h.setCommands _) fun _ => ?_
  split
  · refine h.bind (h.setCommands _) fun _ => h.bind (h.markCommandInFlight _) fun _ => ?_
    exact h.setCommands _
  · exact Effect.Leaves.ite (fun _ => h.setCommands _) fun _ => h.setCommands _

theorem waitForResult (token : Nat) (commandId : String) :
    Effect.Leaves (OnStore R) (waitForResult token commandId : RegistryEffect ω Unit) := by
  refine h.bind h.read' fun registry => Effect.Leaves.ite (fun _ => h.setCommands _) fun _ => ?_
  split
  · exact h.setCommands _
  · exact h.setCommands _

theorem resolveCommand (commandId : String) (value : CommandResult) (submitted : String) :
    Effect.Leaves (OnStore R) (resolveCommand text store at_ commandId value submitted) := by
  refine h.bind (h.ofExcept _) fun result => h.bind h.read' fun registry => ?_
  refine Effect.Leaves.ite (fun _ => h.throw' _) fun _ => ?_
  split
  · exact h.throw' _
  · refine h.bind (h.setCommands _) fun _ => h.bind (h.clearCommandInFlight _ _) fun _ => ?_
    exact h.setCommands _

theorem abandonCommand (commandId : String) :
    Effect.Leaves (OnStore R) (abandonCommand text store at_ commandId) := by
  refine h.bind (h.setCommands _) fun _ => h.bind h.read' fun registry => ?_
  split
  · exact h.pure' ()
  · refine h.bind (h.setCommands _) fun _ => h.bind (h.clearCommandInFlight _ _) fun _ => ?_
    exact h.setCommands _

theorem dispose : Effect.Leaves (OnStore R) (dispose : RegistryEffect ω Unit) := by
  refine h.bind h.read' fun registry => Effect.Leaves.ite (fun _ => h.pure' ()) fun _ => ?_
  refine h.bind (h.still fun _ => rfl) fun _ => h.bind (h.setTerminals _) fun _ => ?_
  exact h.bind (h.setCommands _) fun _ => h.setCommands _

theorem submitResult (id commandId : String) (value : CommandResult) :
    Effect.Leaves (OnStore R)
      (AgentAdapterServer.submitResult text store at_ id commandId value) := by
  refine h.bind h.read' fun registry => Effect.Leaves.ite (fun _ => h.pure' ()) fun _ => ?_
  split
  · exact h.throw' _
  · exact Effect.Leaves.ite (fun _ => h.throw' _) fun _ => h.resolveCommand _ _ _

end

/-! ### Every action -/

section
variable {w : RegistryWorld ω} {a : TimedAction ω} (h : Respects store sessionId R)
include h

/-- The owner check of a route that takes no Session from its owner. -/
theorem requireCurrentOwner {request : OwnerRequest} (ha : a.action = .request request)
    (hkeys : SessionKeys w) (hkept : ¬LosesOwner w a sessionId) :
    OnStore R w
      ((AgentAdapterServer.requireCurrentOwner text store a.checkedAt request).run w).2 := by
  unfold AgentAdapterServer.requireCurrentOwner
  split
  · exact h.throw' _ w
  · next headers hheaders =>
    refine Effect.Leaves.bind_at h.onStore_trans ?_ fun _ _ => h.pure' _ _
    refine h.assertCurrentOwner _ _ fun session hsession hexpired hid => hkept ?_
    have hown := hkeys _ _ hsession
    refine ⟨session, by rw [← hid, hown]; exact hsession, ?_⟩
    rw [ha]
    exact ⟨hown.symm.trans hid, headers, hheaders, .inl (leaseExpired_iff.mp hexpired)⟩

/-- The method of an owner route, unless it ends the Session or accepts a source for it. -/
theorem performOperation {id ownerLease : String} {operation : OwnerOperation}
    (hkeys : SessionKeys w) (hends : operation = .unregister → id ≠ sessionId)
    (haccepts : ∀ request, operation = .event request → id ≠ sessionId) :
    OnStore R w
      ((AgentAdapterServer.performOperation text store at_ id ownerLease operation).run w).2 := by
  rcases operation with _ | request | request | input | ⟨poll, timeoutMs⟩ | ⟨commandId, value⟩ |
    message
  · have hloses : KeysOnStore R w
        ((AgentAdapterRegistry.unregister text store at_ id .unregister).run w).2 :=
      h.unregister (hends rfl) .unregister w
    exact Effect.Leaves.bind_at h.onStore_trans (hloses hkeys).2 fun _ _ => h.pure' () _
  · exact h.bind (h.pushEventSource (haccepts request rfl) _) (fun _ => h.pure' ()) w
  · exact h.handleSession _ _ w
  · exact h.bind (h.heartbeat _ _) (fun _ => h.pure' ()) w
  · exact h.dequeueCommand _ _ w
  · exact h.submitResult _ _ _ w
  · exact h.throw' _ w

/-- An owner route that neither takes the Session from its owner nor accepts a source for it. -/
theorem handleOwnerRequest {request : OwnerRequest} (ha : a.action = .request request)
    (hkeys : SessionKeys w) (hkept : ¬LosesOwner w a sessionId)
    (haccepts : ∀ source, request.operation = .event source → request.sessionId ≠ sessionId) :
    OnStore R w
      ((AgentAdapterServer.handleOwnerRequest text store a.checkedAt a.at_ request).run w).2 := by
  have hcheck : OnStore R w
      ((AgentAdapterServer.requireCurrentOwner text store a.checkedAt request).run w).2 :=
    h.requireCurrentOwner ha hkeys hkept
  refine Effect.Leaves.bind_at h.onStore_trans hcheck fun headers hok => ?_
  rcases requireCurrentOwner_cases hok with
    ⟨session, hsession, hinstance, hlease, hheaders, hsame⟩
  rw [hsame]
  refine h.performOperation hkeys (fun hoperation hid => hkept ?_) haccepts
  refine ⟨session, hid ▸ hsession, ?_⟩
  rw [ha]
  exact ⟨hid, headers, hheaders, .inr ⟨hoperation, Prod.ext hinstance.symm hlease.symm⟩⟩

/-- Every action that takes the Session from nobody, accepts no source for it and changes the
store within `R`, if it stands for the rest of the daemon. -/
theorem perform (hkeys : SessionKeys w) (hkept : ¬LosesOwner w a sessionId)
    (haccepts : ∀ request source, a.action = .request request →
      request.operation = .event source → request.sessionId ≠ sessionId)
    (hdaemon : ∀ next, a.action = .storeChanges next → R w.store next) :
    OnStore R w
      ((AgentAdapterServer.perform text store a.checkedAt a.at_ a.action).run w).2 := by
  rcases ha : a.action with input | request | _ | command | ⟨token, commandId⟩ |
    ⟨token, commandId⟩ | poll | commandId | id | id | next | _
  · refine Effect.Leaves.bind_at h.onStore_trans (h.register input ?_) fun _ _ => h.pure' () _
    intro live hlive hexpired hid
    have hown := hkeys _ _ hlive
    refine hkept ⟨live, by rw [← hid, hown]; exact hlive, ?_⟩
    rw [ha]
    exact ⟨hown.symm.trans hid, leaseExpired_iff.mp hexpired⟩
  · exact h.handleOwnerRequest ha hkeys hkept fun source => haccepts request source ha
  · refine Effect.Leaves.bind_at h.onStore_trans (h.listSessions hkeys ?_)
      fun _ _ => h.pure' () _
    intro session hmem hexpired hid
    obtain ⟨key, hkey⟩ := Dict.mem_values_iff.mp hmem
    have hown := hkeys _ _ hkey
    refine hkept ⟨session, by rw [← hid, hown]; exact hkey, ?_⟩
    rw [ha]
    exact leaseExpired_iff.mp hexpired
  · exact h.enqueueCommand _ w
  · exact h.waitForResult _ _ w
  · exact h.setCommands _ w
  · exact h.setCommands _ w
  · exact h.abandonCommand _ w
  · exact h.setCommands _ w
  · exact h.terminalRetryTimerFires _ w
  · exact hdaemon next ha
  · exact h.dispose w

end

end Respects

end Ariava.AgentAdapter
