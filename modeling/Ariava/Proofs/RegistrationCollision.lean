import Ariava.AgentAdapter.BridgeRegistry

/-!
# `Ariava.Proofs.RegistrationCollision`: registering over another owner's Session

A registration for a Session that another owner has, live or persisted, must be refused
with a collision and without an effect. `authorizeRegistration` makes this check, but
`register` repairs a persisted Session before it: a Session that returns as `need_human` is
restored from its producer reservations. The repair compares the producer context, which
leaves the provider out when there is a harness provider, so it can write the Session of
another owner under the provider of the input.

- `restoreFromReservations_run`: the search for a restorable event reads the store and
  changes nothing, so it is a pure `restoration`.
- `images_of_restored`: a repair that finds an event has written a file, unless it threw a
  store error.
- `refused_iff_safeRegistration`: over another owner's Session, the registration is refused
  without an effect exactly when no repair restores an event.
-/

set_option autoImplicit false

namespace Ariava.Proofs.RegistrationCollision

open Ariava.Lib
open Ariava.Protocol
open Ariava.StateStore
open Ariava.AgentAdapter
open Ariava.AgentAdapter.AgentAdapterRegistry

section
variable (text : ProtocolText)

/-- The live or the persisted Session of the input has another owner. -/
def OwnedByAnother (w : BridgeWorld) (input : RegisterSessionInput) : Prop :=
  (∃ live, w.registry.sessions.get? input.sessionId = some live ∧
      normalizedOwner live.provider live.harnessProvider
        ≠ normalizedOwner input.provider input.harnessProvider) ∨
    ∃ persisted, w.store.state.sessions.get? input.sessionId = some persisted ∧
      normalizedOwner persisted.provider persisted.harnessProvider
        ≠ normalizedOwner input.provider input.harnessProvider

/-- The registration fails with a collision, and nothing has changed: neither the registry,
nor the state and the spool in memory, nor their files. -/
def RefusedUnchanged (at_ : RegistryReadings) (w : BridgeWorld) (input : RegisterSessionInput) :
    Prop :=
  (register text (bridgeStateStore text) at_ input).run w
    = (.error (sessionIdCollisionError input.sessionId), w)

/-- Every registration over another owner's Session is refused without an effect. -/
def CollisionSafety : Prop :=
  ∀ at_ w input, OwnedByAnother w input → RefusedUnchanged text at_ w input

/-- The repair of `register` searches for an event: no Session is live, the input asks for
`need_human`, and the persisted Session has the context of the input but is not
`need_human` or names no event. -/
structure RepairStarts (w : BridgeWorld) (input : RegisterSessionInput) : Prop where
  noLive : w.registry.sessions.get? input.sessionId = none
  requested : input.status = some .needHuman
  incomplete : ∀ persisted, w.store.state.sessions.get? input.sessionId = some persisted →
    persisted.status ≠ .needHuman ∨ persisted.lastEventId.getD "" = ""
  sameContext : ∀ persisted, w.store.state.sessions.get? input.sessionId = some persisted →
    canonicalProducerContextFingerprint persisted = registerContextFingerprint input

/-- The tuple that a reservation restores. -/
def restoredTuple (s : BridgeStore) (input : RegisterSessionInput)
    (reservation : PersistedProducerEventReservationV1) :
    Except Thrown (Option PendingTerminal) := do
  match ← producerEventTuple s.items reservation.eventId reservation.fingerprint with
  | none => return none
  | some found =>
      let restores ← tupleRestores text input reservation found
      return if restores then some found else none

/-- The recent event that a reservation restores. -/
def restoredEvent (s : BridgeStore) (input : RegisterSessionInput)
    (reservation : PersistedProducerEventReservationV1) : Except Thrown (Option CanonicalEvent) :=
  match recentEvent s.state reservation.eventId with
  | none => .ok none
  | some event => do
      let restores ← recentEventRestores text input reservation event
      return if restores then some event else none

/-- A reservation restores nothing: neither its tuple in the spool nor its recent event is a
`need_human` event of the Session with the reserved fingerprint and the context of the
input. -/
def Unrestorable (s : BridgeStore) (input : RegisterSessionInput)
    (reservation : PersistedProducerEventReservationV1) : Prop :=
  restoredTuple text s input reservation = .ok none ∧
    restoredEvent text s input reservation = .ok none

/-- The condition under which the collision is safe: the input names its driver instance,
and a repair that starts has no reservation to restore from. -/
def SafeRegistration (w : BridgeWorld) (input : RegisterSessionInput) : Prop :=
  input.driverInstanceId ≠ "" ∧ (RepairStarts w input →
    ∀ reservation ∈ reservationsOf w.store.state input.sessionId,
      Unrestorable text w.store input reservation)

/-! ### The search for an event -/

/-- What the loop of `restorePersistedTerminalForRegistration` finds. -/
def restoration (s : BridgeStore) (input : RegisterSessionInput) :
    List PersistedProducerEventReservationV1 → Except Thrown (Option TerminalRecovery)
  | [] => .ok none
  | reservation :: rest => do
      match ← restoredTuple text s input reservation with
      | some found => return some (.pending found)
      | none =>
          match ← restoredEvent text s input reservation with
          | some event => return some (.committed (committedRecovery input event))
          | none => restoration s input rest

variable {text}
variable {w : BridgeWorld} {input : RegisterSessionInput} {at_ : RegistryReadings}

/-- A read of the store leaves the world alone. -/
theorem run_storeCall_readStore {α : Type} (f : BridgeStore → Except Thrown α) (w : BridgeWorld) :
    (storeCall (readStore f) : RegistryEffect BridgeStore α).run w = (f w.store, w) := rfl

theorem recoverTuple_run (reservation : PersistedProducerEventReservationV1) :
    (recoverTuple text (bridgeStateStore text) input reservation).run w
      = (restoredTuple text w.store input reservation, w) := by
  rw [recoverTuple, Effect.run_bind]
  show Effect.next _ ((storeCall (readStore fun s =>
    producerEventTuple s.items reservation.eventId reservation.fingerprint)).run w) = _
  rw [run_storeCall_readStore, restoredTuple]
  rcases producerEventTuple w.store.items reservation.eventId reservation.fingerprint with
    thrown | (_ | found)
  · rfl
  · rfl
  · rw [Effect.next_ok]
    show Effect.next _ ((Effect.ofExcept (tupleRestores text input reservation found) :
      RegistryEffect BridgeStore Bool).run w) = _
    rw [Effect.run_ofExcept]
    show _ = ((tupleRestores text input reservation found >>= _), w)
    rcases tupleRestores text input reservation found with thrown | restores
    · rfl
    · rfl

theorem recoverRecentEvent_run (reservation : PersistedProducerEventReservationV1) :
    (recoverRecentEvent text (bridgeStateStore text) input reservation).run w
      = (restoredEvent text w.store input reservation, w) := by
  rw [recoverRecentEvent, Effect.run_bind]
  show Effect.next _ ((storeCall (readStore fun s =>
    .ok (recentEvent s.state reservation.eventId))).run w) = _
  rw [run_storeCall_readStore, Effect.next_ok, restoredEvent]
  rcases recentEvent w.store.state reservation.eventId with _ | event
  · rfl
  · show Effect.next _ ((Effect.ofExcept (recentEventRestores text input reservation event) :
      RegistryEffect BridgeStore Bool).run w) = _
    rw [Effect.run_ofExcept]
    show _ = ((recentEventRestores text input reservation event >>= _), w)
    rcases recentEventRestores text input reservation event with thrown | restores
    · rfl
    · rfl

/-- The search reads the store and changes nothing. -/
theorem restoreFromReservations_run (reservations : List PersistedProducerEventReservationV1) :
    (restoreFromReservations text (bridgeStateStore text) input reservations).run w
      = (restoration text w.store input reservations, w) := by
  induction reservations with
  | nil => rfl
  | cons reservation rest ih =>
    rw [restoreFromReservations, Effect.run_bind, recoverTuple_run, restoration]
    rcases restoredTuple text w.store input reservation with thrown | (_ | found)
    · rfl
    · rw [Effect.next_ok]
      show Effect.next _ ((recoverRecentEvent text (bridgeStateStore text) input
        reservation).run w) = _
      rw [recoverRecentEvent_run]
      show _ = ((restoredEvent text w.store input reservation >>= _), w)
      rcases restoredEvent text w.store input reservation with thrown | (_ | event)
      · rfl
      · exact ih
      · rfl
    · rfl

/-- The search finds nothing exactly when every reservation restores nothing. -/
theorem restoration_eq_none_iff {s : BridgeStore}
    {reservations : List PersistedProducerEventReservationV1} :
    restoration text s input reservations = .ok none ↔
      ∀ reservation ∈ reservations, Unrestorable text s input reservation := by
  induction reservations with
  | nil => simp [restoration]
  | cons reservation rest ih =>
    rw [restoration, List.forall_mem_cons, ← ih, Unrestorable]
    rcases restoredTuple text s input reservation with thrown | (_ | found)
    · exact ⟨nofun, fun h => nomatch h.1.1⟩
    · show (restoredEvent text s input reservation >>= _) = _ ↔ _
      rcases restoredEvent text s input reservation with thrown | (_ | event)
      · exact ⟨nofun, fun h => nomatch h.1.2⟩
      · exact ⟨fun h => ⟨⟨rfl, rfl⟩, h⟩, fun h => h.2⟩
      · exact ⟨nofun, fun h => nomatch h.1.2⟩
    · exact ⟨nofun, fun h => nomatch h.1.1⟩

/-- A first reservation that restores its recent event ends the search. -/
theorem restoration_of_event {s : BridgeStore}
    {reservation : PersistedProducerEventReservationV1}
    {rest : List PersistedProducerEventReservationV1} {event : CanonicalEvent}
    (htuple : restoredTuple text s input reservation = .ok none)
    (hevent : restoredEvent text s input reservation = .ok (some event)) :
    restoration text s input (reservation :: rest)
      = .ok (some (.committed (committedRecovery input event))) := by
  rw [restoration, htuple]
  show (restoredEvent text s input reservation >>= _) = _
  rw [hevent]
  rfl

theorem mem_newestFirst {reservations : List PersistedProducerEventReservationV1}
    {reservation : PersistedProducerEventReservationV1} :
    reservation ∈ newestFirst text reservations ↔ reservation ∈ reservations :=
  List.mem_mergeSort

/-! ### The errors of the search -/

/-- An error that is not a collision. -/
def NotCollision (thrown : Thrown) : Prop := thrown.errorClass ≠ .sessionIdCollision

theorem notCollision_of_isStoreError {thrown : Thrown} (h : IsStoreError thrown) :
    NotCollision thrown := by
  intro hcollision
  rcases h with h | h
  · rw [hcollision] at h
    cases h
  · rw [hcollision] at h
    cases h

theorem throws_buildProtectedEventContent (content : ProtectedEventContentV3) :
    Throws NotCollision (buildProtectedEventContent text content) := by
  have hinvalid : ∀ message, NotCollision (.protectedContent message) := fun _ h => nomatch h
  refine .bind (.throwIf (hinvalid _)) fun _ => .bind (.throwIf (hinvalid _)) fun _ => ?_
  exact .bind (.throwIf (hinvalid _)) fun _ => .ok _

theorem throws_producerEventFingerprint (part : AgentAdapterEventInput) :
    Throws NotCollision (producerEventFingerprint text part) :=
  .bind (throws_buildProtectedEventContent _) fun _ => .ok _

theorem throws_restoredTuple (s : BridgeStore)
    (reservation : PersistedProducerEventReservationV1) :
    Throws NotCollision (restoredTuple text s input reservation) := by
  refine .bind (fun thrown h =>
    notCollision_of_isStoreError (throwsStoreErrors_producerEventTuple _ _ _ thrown h))
    fun found => ?_
  cases found with
  | none => exact .ok none
  | some tuple =>
    refine .bind ?_ fun _ => .ok _
    unfold tupleRestores
    split
    · exact .bind (throws_producerEventFingerprint _) fun _ => .ok _
    · exact .ok false

theorem throws_restoredEvent (s : BridgeStore)
    (reservation : PersistedProducerEventReservationV1) :
    Throws NotCollision (restoredEvent text s input reservation) := by
  unfold restoredEvent
  split
  · exact .ok none
  · refine .bind ?_ fun _ => .ok _
    unfold recentEventRestores
    split
    · exact .bind (throws_producerEventFingerprint _) fun _ => .ok _
    · exact .ok false

/-- The search never ends with a collision. -/
theorem throws_restoration (s : BridgeStore)
    (reservations : List PersistedProducerEventReservationV1) :
    Throws NotCollision (restoration text s input reservations) := by
  induction reservations with
  | nil => exact .ok none
  | cons reservation rest ih =>
    refine .bind (throws_restoredTuple s reservation) fun tuple => ?_
    cases tuple with
    | some found => exact .ok _
    | none =>
      refine .bind (throws_restoredEvent s reservation) fun recent => ?_
      cases recent with
      | some event => exact .ok _
      | none => exact ih

/-! ### The repair -/

/-- The part of `register` that comes after the repair. -/
def afterRepair (text : ProtocolText) (at_ : RegistryReadings) (w : BridgeWorld)
    (input : RegisterSessionInput) (persistedSession : Option CanonicalSessionState) :
    RegistryEffect BridgeStore RegisteredSession :=
  let previous := w.registry.sessions.get? input.sessionId
  if authorizeRegistration previous persistedSession input then do
    revokeOrRefuse text (bridgeStateStore text) at_ input previous
    let persistedCancellation ← storeCall
      ((bridgeStateStore text).getTerminalEventCancellation input.sessionId)
    let transition := reduceRegistration ⟨previous, persistedSession, persistedCancellation⟩
      input w.registry.hostId at_.nowIso
    Effect.ofExcept (assertRegistrable transition.nextSession)
    persistRegistration text (bridgeStateStore text) at_ input transition
    grantOwnership at_ input previous transition
  else throw (sessionIdCollisionError input.sessionId)

/-- A registration that names its driver instance is the repair, then the rest. -/
theorem run_register (hnamed : input.driverInstanceId ≠ "") :
    (register text (bridgeStateStore text) at_ input).run w
      = Effect.next (afterRepair text at_ w input)
          ((restoreForRegistration text (bridgeStateStore text) input
            (w.registry.sessions.get? input.sessionId)
            (w.store.state.sessions.get? input.sessionId)).run w) := by
  rw [register, if_neg hnamed]
  rfl

/-- Without a live Session, the rest of a registration only adds images. -/
theorem images_of_afterRepair (hlive : w.registry.sessions.get? input.sessionId = none)
    (persistedSession : Option CanonicalSessionState) (w' : BridgeWorld) :
    w'.store.images.length
      ≤ ((afterRepair text at_ w input persistedSession).run w').2.store.images.length := by
  have h : Respects (bridgeStateStore text) input.sessionId (Stays fun _ => True) :=
    respects_bridgeStateStore (J := fun _ => True) text
  have hstays : Effect.Leaves (OnStore (Stays fun _ => True))
      (afterRepair text at_ w input persistedSession) := by
    rw [afterRepair, hlive]
    refine Effect.Leaves.ite (fun _ => ?_) fun _ => h.throw' _
    refine h.bind (h.pure' ()) fun _ => ?_
    refine h.bind (Respects.call (h.getTerminalEventCancellation _)) fun found => ?_
    refine h.bind (h.ofExcept _) fun _ => h.bind (h.persistRegistration _ _) fun _ => ?_
    exact h.grantOwnership _ _ _
  exact Stays.length_le (hstays w')

/-- The repair searches when its two tests pass. -/
theorem repairStarts_iff :
    RepairStarts w input ↔
      ((w.registry.sessions.get? input.sessionId).isNone && decide (input.status = some .needHuman)
          && (w.store.state.sessions.get? input.sessionId).all fun persisted =>
            decide (persisted.status ≠ .needHuman) || decide (persisted.lastEventId.getD "" = ""))
        = true ∧
      ((w.store.state.sessions.get? input.sessionId).any fun persisted =>
        decide (canonicalProducerContextFingerprint persisted ≠ registerContextFingerprint input))
        = false := by
  constructor
  · intro h
    rcases hstored : w.store.state.sessions.get? input.sessionId with _ | persisted
    · simp [h.noLive, h.requested]
    · have hincomplete := h.incomplete persisted hstored
      have hcontext := h.sameContext persisted hstored
      simp [h.noLive, h.requested, hincomplete, hcontext]
  · rintro ⟨htest, hsame⟩
    simp only [Bool.and_eq_true, Option.isNone_iff_eq_none, decide_eq_true_eq] at htest
    obtain ⟨⟨hlive, hstatus⟩, hall⟩ := htest
    refine ⟨hlive, hstatus, ?_, ?_⟩
    · intro persisted hstored
      rw [hstored] at hall
      simpa using hall
    · intro persisted hstored
      rw [hstored] at hsame
      simpa using hsame

/-- A repair that does not search returns the persisted Session and changes nothing. -/
theorem restoreForRegistration_run_of_quiet (hquiet : ¬RepairStarts w input) :
    (restoreForRegistration text (bridgeStateStore text) input
        (w.registry.sessions.get? input.sessionId)
        (w.store.state.sessions.get? input.sessionId)).run w
      = (.ok (w.store.state.sessions.get? input.sessionId), w) := by
  rw [repairStarts_iff, not_and, Bool.not_eq_false] at hquiet
  unfold restoreForRegistration
  dsimp only
  split
  · next htest =>
    have hdiffers := hquiet htest
    unfold restorePersistedTerminalForRegistration
    dsimp only
    rw [if_pos hdiffers]
    rfl
  · rfl

/-- The part of the repair that comes after the search. -/
def afterSearch (text : ProtocolText) (input : RegisterSessionInput)
    (persistedSession : Option CanonicalSessionState) :
    Option TerminalRecovery → RegistryEffect BridgeStore (Option CanonicalSessionState)
  | none => pure persistedSession
  | some (.pending terminal) => do
      let fingerprint ← Effect.ofExcept (producerEventFingerprint text (producerPart terminal.event))
      storeCall ((bridgeStateStore text).queuePendingEvent terminal.event terminal.session
        fingerprint)
      storeCall ((bridgeStateStore text).getSession input.sessionId)
  | some (.committed session) => do
      storeCall ((bridgeStateStore text).setSessionDriver input.sessionId "agent-adapter" session)
      storeCall ((bridgeStateStore text).getSession input.sessionId)

theorem restoreForRegistration_run_of_starts (hstarts : RepairStarts w input) :
    (restoreForRegistration text (bridgeStateStore text) input
        (w.registry.sessions.get? input.sessionId)
        (w.store.state.sessions.get? input.sessionId)).run w
      = Effect.next
          (afterSearch text input (w.store.state.sessions.get? input.sessionId))
          (restoration text w.store input
            (newestFirst text (reservationsOf w.store.state input.sessionId)), w) := by
  obtain ⟨htest, hsame⟩ := repairStarts_iff.mp hstarts
  unfold restoreForRegistration
  dsimp only
  rw [if_pos htest]
  unfold restorePersistedTerminalForRegistration
  dsimp only
  rw [hsame, if_neg Bool.false_ne_true, Effect.run_bind]
  show Effect.next _ ((restoreFromReservations text (bridgeStateStore text) input
    (newestFirst text (reservationsOf w.store.state input.sessionId))).run w) = _
  rw [restoreFromReservations_run]
  rcases restoration text w.store input
      (newestFirst text (reservationsOf w.store.state input.sessionId)) with
    thrown | (_ | (terminal | session))
  · rfl
  · rfl
  · rfl
  · rfl

/-- A Session driver that is set was persisted. -/
theorem setSessionDriver_images {sessionId driverName : String}
    {session : Option CanonicalSessionState} {s s' : BridgeStore}
    (h : (setSessionDriver sessionId driverName session).run s = (.ok (), s')) :
    s.images.length < s'.images.length := by
  obtain ⟨t, htransition, -, hwritten⟩ := commitTransition_ok h
  obtain ⟨bound, hbound⟩ := setSessionDriverTransition_cases htransition
  cases hbound
  rw [hwritten]
  exact Nat.lt_succ_self _

/-- A repair has thrown an error that is not a collision, or it has written a file. -/
def Wrote (w : BridgeWorld) (outcome : Except Thrown (Option CanonicalSessionState))
    (w' : BridgeWorld) : Prop :=
  match outcome with
  | .error thrown => NotCollision thrown
  | .ok _ => w.store.images.length < w'.store.images.length

/-- A call of the store that writes, before the read of the Session. -/
theorem wrote_of_storeCall {p : StoreEffect Unit} (hraises : Effect.Raises IsStoreError p)
    (himages : ∀ s s', p.run s = (.ok (), s') → s.images.length < s'.images.length)
    (sessionId : String) :
    Effect.Triple (fun w' => w' = w)
      (do storeCall p; storeCall ((bridgeStateStore text).getSession sessionId)) (Wrote w) := by
  rintro w' rfl
  rw [Effect.run_bind, run_storeCall]
  rcases hrun : p.run w'.store with ⟨thrown | _, s⟩
  · have herror : IsStoreError thrown := hraises w'.store thrown (by rw [hrun])
    exact notCollision_of_isStoreError herror
  · exact himages w'.store s hrun

/-- A repair that found an event has written it, unless it threw. -/
theorem images_of_restored (recovery : TerminalRecovery)
    (persistedSession : Option CanonicalSessionState) :
    Effect.Triple (fun w' => w' = w) (afterSearch text input persistedSession (some recovery))
      (Wrote w) := by
  cases recovery with
  | pending terminal =>
    rintro w' rfl
    show Wrote w' (Effect.next _ (Effect.run (Effect.ofExcept _) w')).1 _
    unfold afterSearch
    rw [Effect.run_bind, Effect.run_ofExcept]
    rcases hfingerprint : producerEventFingerprint text (producerPart terminal.event) with
      thrown | fingerprint
    · exact throws_producerEventFingerprint _ thrown hfingerprint
    · exact wrote_of_storeCall (raises_queuePendingEvent text _ _ _)
        (fun _ _ h => queuePendingEvent_images text h) input.sessionId w' rfl
  | committed session =>
    exact wrote_of_storeCall (raises_setSessionDriver _ _ _)
      (fun _ _ h => setSessionDriver_images h) input.sessionId

/-! ### The condition -/

/-- Another owner is not authorized. -/
theorem not_authorized (howned : OwnedByAnother w input) :
    authorizeRegistration (w.registry.sessions.get? input.sessionId)
      (w.store.state.sessions.get? input.sessionId) input = false := by
  rcases howned with ⟨live, hlive, hne⟩ | ⟨persisted, hpersisted, hne⟩
  · simp [authorizeRegistration, hlive, hne]
  · simp [authorizeRegistration, hpersisted, hne]

/-- The order of the search does not matter to whether it finds something. -/
theorem search_eq_none_iff :
    restoration text w.store input
        (newestFirst text (reservationsOf w.store.state input.sessionId)) = .ok none ↔
      ∀ reservation ∈ reservationsOf w.store.state input.sessionId,
        Unrestorable text w.store input reservation := by
  rw [restoration_eq_none_iff]
  constructor
  · exact fun h reservation hmem => h reservation (mem_newestFirst.mpr hmem)
  · exact fun h reservation hmem => h reservation (mem_newestFirst.mp hmem)

/-- When the repair leaves the persisted Session alone, another owner's Session is refused. -/
theorem afterRepair_run_of_owned (howned : OwnedByAnother w input) :
    (afterRepair text at_ w input (w.store.state.sessions.get? input.sessionId)).run w
      = (.error (sessionIdCollisionError input.sessionId), w) := by
  rw [afterRepair, not_authorized howned]
  rfl

/-- A registration whose repair found an event is not refused without an effect. -/
theorem not_refused_of_wrote (hlive : w.registry.sessions.get? input.sessionId = none)
    {outcome : Except Thrown (Option CanonicalSessionState)} {w' : BridgeWorld}
    (hwrote : Wrote w outcome w') :
    Effect.next (afterRepair text at_ w input) (outcome, w')
      ≠ (.error (sessionIdCollisionError input.sessionId), w) := by
  intro heq
  cases outcome with
  | error thrown =>
    cases heq
    exact hwrote rfl
  | ok persistedSession =>
    rw [Effect.next_ok] at heq
    -- the images of the repair are still there at the end, and there are more than in `w`
    have hkept : w'.store.images.length
        ≤ ((afterRepair text at_ w input persistedSession).run w').2.store.images.length :=
      images_of_afterRepair hlive persistedSession w'
    rw [show (afterRepair text at_ w input persistedSession).run w' = _ from heq] at hkept
    have hmore : w.store.images.length < w'.store.images.length := hwrote
    dsimp only at hkept
    omega

/-- A repair that finds an event is an effect, so the registration is not refused without
one. -/
theorem not_refused_of_restored (hstarts : RepairStarts w input) {recovery : TerminalRecovery}
    (hsearch : restoration text w.store input
      (newestFirst text (reservationsOf w.store.state input.sessionId)) = .ok (some recovery)) :
    ¬RefusedUnchanged text at_ w input := by
  unfold RefusedUnchanged
  by_cases hnamed : input.driverInstanceId = ""
  · rw [register, if_pos hnamed]
    exact nofun
  · rw [run_register hnamed, restoreForRegistration_run_of_starts hstarts, hsearch]
    exact not_refused_of_wrote hstarts.noLive (images_of_restored recovery _ w rfl)

/-- Over another owner's Session, the registration is refused with a collision and without
an effect exactly when it names its driver instance and no repair restores an event. -/
theorem refused_iff_safeRegistration (howned : OwnedByAnother w input) :
    RefusedUnchanged text at_ w input ↔ SafeRegistration text w input := by
  by_cases hnamed : input.driverInstanceId = ""
  · have hthrows : (register text (bridgeStateStore text) at_ input).run w
        = (.error (requestValidationError "driverInstanceId is required"), w) := by
      rw [register, if_pos hnamed]
      rfl
    rw [RefusedUnchanged, hthrows]
    exact ⟨nofun, fun h => absurd hnamed h.1⟩
  by_cases hstarts : RepairStarts w input
  · have hcondition : SafeRegistration text w input ↔ restoration text w.store input
        (newestFirst text (reservationsOf w.store.state input.sessionId)) = .ok none := by
      rw [search_eq_none_iff]
      exact ⟨fun h => h.2 hstarts, fun h => ⟨hnamed, fun _ => h⟩⟩
    rw [hcondition]
    rcases hsearch : restoration text w.store input
      (newestFirst text (reservationsOf w.store.state input.sessionId)) with
      thrown | (_ | recovery)
    · rw [RefusedUnchanged, run_register hnamed, restoreForRegistration_run_of_starts hstarts,
        hsearch]
      constructor
      · intro heq
        cases heq
        exact absurd rfl (throws_restoration _ _ _ hsearch)
      · exact nofun
    · rw [RefusedUnchanged, run_register hnamed, restoreForRegistration_run_of_starts hstarts,
        hsearch]
      exact ⟨fun _ => rfl, fun _ => afterRepair_run_of_owned howned⟩
    · exact ⟨fun h => absurd h (not_refused_of_restored hstarts hsearch), nofun⟩
  · rw [RefusedUnchanged, run_register hnamed, restoreForRegistration_run_of_quiet hstarts]
    exact ⟨fun _ => ⟨hnamed, fun h => absurd h hstarts⟩,
      fun _ => afterRepair_run_of_owned howned⟩

end

/-! ### A Session of another owner that is repaired -/

/-- An idle Session of the provider `codex`. -/
def codexSession : CanonicalSessionState where
  sessionId := "session"
  hostId := "host"
  provider := "codex"
  projectName := "project"
  nameText := "name"
  openingText := none
  latestActivityText := none
  workingDirectory := some "/project"
  harnessProvider := none
  status := .idle
  updatedAt := "2026-01-01T00:00:00.000Z"
  lastEventId := none
  snoozedUntil := none

/-- A question that the Session asked before. -/
def codexQuestion : CanonicalEvent where
  eventId := "event"
  hostId := "host"
  sessionId := "session"
  provider := "codex"
  agentText := "which one?"
  humanText := none
  projectName := some "project"
  workingDirectory := some "/project"
  harnessProvider := some "codex"
  createdAt := "2026-01-01T00:00:00.000Z"
  kind := .needHuman .question

/-- The reservation of the question. -/
def codexReservation : PersistedProducerEventReservationV1 where
  sessionId := "session"
  eventId := "event"
  fingerprint := "AAAAAAAAAAAAAAAAAAAAAAAAAAAAAAAAAAAAAAAAAAA"
  createdAt := "2026-01-01T00:00:00.000Z"

/-- A Bridge that has just started over the Session, with or without the reservation of its
question. -/
def codexWorld (reservations : Dict String PersistedProducerEventReservationV1) : BridgeWorld where
  registry := .new "host" 0
  store := .opened ⟨{ emptyState "epoch" with
    sessions := (∅ : Dict String CanonicalSessionState).set "session" codexSession
    recentEvents := [codexQuestion]
    producerEventReservations := reservations }, []⟩ true []
  mutations := []
  drawnLeases := []

/-- The clock and id readings of the registration. -/
def sampleReadings : RegistryReadings :=
  ⟨0, 0, "2026-01-01T00:00:00.000Z", "lease", "event-2"⟩

/-- Another provider registers the Session, with the same context. -/
def piRegistration : RegisterSessionInput where
  sessionId := "session"
  provider := "pi"
  projectName := "project"
  cwd := "/project"
  nameText := "name"
  openingText := none
  latestActivityText := none
  harnessProvider := some "codex"
  pid := none
  status := some .needHuman
  driverInstanceId := "AAAAAAAAAAAAAAAAAAAAAAAAAAAAAAAAAAAAAAAAAAA"

theorem piRegistration_owned (reservations : Dict String PersistedProducerEventReservationV1) :
    OwnedByAnother (codexWorld reservations) piRegistration :=
  .inr ⟨codexSession, rfl, by decide⟩

/-- Without a reservation to restore from, the registration is refused. -/
theorem refused_iff_safeRegistration_codex :
    OwnedByAnother (codexWorld ∅) piRegistration ∧
      (RefusedUnchanged sampleText sampleReadings
          (codexWorld ∅) piRegistration ↔
        SafeRegistration sampleText (codexWorld ∅) piRegistration) :=
  ⟨piRegistration_owned ∅, refused_iff_safeRegistration (piRegistration_owned ∅)⟩

set_option maxRecDepth 20000 in
theorem codexQuestion_restores :
    recentEventRestores sampleText piRegistration codexReservation codexQuestion = .ok true := by
  decide +kernel

/-- The Bridge over the Session with the reservation. -/
def reservedWorld : BridgeWorld :=
  codexWorld ((∅ : Dict String PersistedProducerEventReservationV1).set "event" codexReservation)

theorem reservedWorld_repairStarts : RepairStarts reservedWorld piRegistration where
  noLive := by decide
  requested := rfl
  incomplete := by
    intro persisted hpersisted
    have hcodex : some persisted = some codexSession := hpersisted.symm.trans (by decide)
    cases hcodex
    exact .inl (by decide)
  sameContext := by
    intro persisted hpersisted
    have hcodex : some persisted = some codexSession := hpersisted.symm.trans (by decide)
    cases hcodex
    decide

theorem reservedWorld_restoration :
    restoration sampleText reservedWorld.store piRegistration
        (newestFirst sampleText (reservationsOf reservedWorld.store.state piRegistration.sessionId))
      = .ok (some (.committed (committedRecovery piRegistration codexQuestion))) := by
  have hone : newestFirst sampleText
      (reservationsOf reservedWorld.store.state piRegistration.sessionId) = [codexReservation] := by
    have hreservations : reservationsOf reservedWorld.store.state piRegistration.sessionId
        = [codexReservation] := by decide
    rw [hreservations, newestFirst, List.mergeSort_singleton]
  have htuple : restoredTuple sampleText reservedWorld.store piRegistration codexReservation
      = .ok none := rfl
  have hevent : restoredEvent sampleText reservedWorld.store piRegistration codexReservation
      = .ok (some codexQuestion) := by
    have hrecent : recentEvent reservedWorld.store.state codexReservation.eventId
        = some codexQuestion := by decide
    rw [restoredEvent, hrecent]
    dsimp only
    rw [codexQuestion_restores]
    rfl
  rw [hone]
  exact restoration_of_event htuple hevent

/-- The other provider takes the Session over: the repair writes it under that provider
before the owners are compared. -/
theorem not_collisionSafety : ¬CollisionSafety sampleText := by
  intro hsafe
  refine not_refused_of_restored reservedWorld_repairStarts reservedWorld_restoration
    (hsafe sampleReadings _ _ ?_)
  exact piRegistration_owned _

end Ariava.Proofs.RegistrationCollision
