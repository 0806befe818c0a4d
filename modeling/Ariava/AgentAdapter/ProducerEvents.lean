import Ariava.AgentAdapter.BridgeRegistry

/-!
# `Ariava.AgentAdapter.ProducerEvents`: what `pushEventSource` can do

The cases of `pushEventSource` over the Bridge's store: it throws and changes nothing, it
answers the tuple of the checkpoint, or it takes a tuple above the checkpoint as a new one.

- `pushEventSource_cases`: these three.
- `answerAcceptedSource_ok`, `acceptNewSource_committed`: what a returned answer says. A new
  tuple that is answered as `committed` is the checkpoint of its Session, in memory and in
  the file.
-/

set_option autoImplicit false

namespace Ariava.AgentAdapter

open Ariava.Lib
open Ariava.Protocol
open Ariava.StateStore
open AgentAdapterRegistry

/-- The order text is below another one. -/
def OrderBelow (left right : String) : Prop :=
  ∃ m n, producerEventOrderAsNat left = some m ∧ producerEventOrderAsNat right = some n ∧ m < n

theorem OrderBelow.trans {a b c : String} (h₁ : OrderBelow a b) (h₂ : OrderBelow b c) :
    OrderBelow a c := by
  obtain ⟨m, n, hm, hn, hmn⟩ := h₁
  obtain ⟨n', k, hn', hk, hnk⟩ := h₂
  rw [hn] at hn'
  cases hn'
  exact ⟨m, k, hm, hk, by omega⟩

theorem orderIncreases_iff {checkpoint : ProducerEventSourceCheckpointV1}
    {request : AgentAdapterEventRequest} :
    orderIncreases checkpoint request = true ↔
      OrderBelow checkpoint.producerEventOrder request.producerEventOrder := by
  unfold orderIncreases OrderBelow
  rcases producerEventOrderAsNat checkpoint.producerEventOrder with _ | previous
  · simp
  · rcases producerEventOrderAsNat request.producerEventOrder with _ | current
    · simp
    · simp

/-- The checkpoint is that of a source tuple. -/
def SameTuple (checkpoint : ProducerEventSourceCheckpointV1) (request : AgentAdapterEventRequest) :
    Prop :=
  checkpoint.producerEventId = request.producerEventId ∧
    checkpoint.producerEventOrder = request.producerEventOrder

/-- An accepted input is the one that was sent. -/
theorem acceptProducerEventInput_ok {text : ProtocolText} {sessionId : String}
    {session : RegisteredSession} {value input : AgentAdapterEventInput}
    (h : acceptProducerEventInput text sessionId session value = .ok input) : input = value := by
  unfold acceptProducerEventInput at h
  dsimp only at h
  split at h
  · next hchecked =>
    cases h
    obtain ⟨parsed, hparsed, hrest⟩ := bind_eq_ok_iff.mp hchecked
    rw [check_bind_eq_ok, check_bind_eq_ok, check_bind_eq_ok] at hrest
    have hsame : parsed = input := by
      cases hrest.2.2.2
      rfl
    rw [← hsame]
    unfold parseCanonicalProducerEvent at hparsed
    iterate 7 obtain ⟨-, hparsed⟩ := check_bind_eq_ok.mp hparsed
    obtain ⟨_, -, hparsed⟩ := bind_eq_ok_iff.mp hparsed
    cases hparsed
    rfl
  · cases h

section
variable (text : ProtocolText) (at_ : RegistryReadings) (sessionId : String)
  (request : AgentAdapterEventRequest) (w : BridgeWorld)

/-- A request that `pushEventSource` looks up the checkpoint for. -/
structure SourceAccepted (session : RegisteredSession) (fingerprint : String) : Prop where
  registered : w.registry.sessions.get? sessionId = some session
  valid : validateAgentAdapterEventRequest request = true
  accepted : acceptProducerEventInput text sessionId session request.event = .ok request.event
  fingerprint : producerEventFingerprint text request.event = .ok fingerprint

/-- What `pushEventSource` can do. -/
theorem pushEventSource_cases :
    (∃ thrown, (pushEventSource text (bridgeStateStore text) at_ sessionId request).run w
        = (.error thrown, w)) ∨
      ∃ session fingerprint, SourceAccepted text sessionId request w session fingerprint ∧
        ((w.store.state.producerEventCheckpoints.get? sessionId = none ∧
            (pushEventSource text (bridgeStateStore text) at_ sessionId request).run w
              = (acceptNewSource text (bridgeStateStore text) at_ sessionId session request
                  fingerprint).run w) ∨
          ∃ checkpoint,
            w.store.state.producerEventCheckpoints.get? sessionId = some checkpoint ∧
            ((SameTuple checkpoint request ∧
                (pushEventSource text (bridgeStateStore text) at_ sessionId request).run w
                  = (answerAcceptedSource text (bridgeStateStore text) at_ sessionId checkpoint
                      request fingerprint).run w) ∨
              (OrderBelow checkpoint.producerEventOrder request.producerEventOrder ∧
                (pushEventSource text (bridgeStateStore text) at_ sessionId request).run w
                  = (acceptNewSource text (bridgeStateStore text) at_ sessionId session request
                      fingerprint).run w))) := by
  unfold pushEventSource
  rw [Effect.run_bind, run_read, Effect.next_ok]
  rcases hsession : w.registry.sessions.get? sessionId with _ | session
  · exact .inl ⟨_, rfl⟩
  dsimp only
  by_cases hvalid : validateAgentAdapterEventRequest request = true
  case neg =>
    rw [if_neg hvalid]
    exact .inl ⟨_, rfl⟩
  rw [if_pos hvalid, Effect.run_bind, Effect.run_ofExcept]
  rcases hinput : acceptProducerEventInput text sessionId session request.event with
    thrown | input
  · exact .inl ⟨_, rfl⟩
  obtain rfl := acceptProducerEventInput_ok hinput
  rw [Effect.next_ok, Effect.run_bind, Effect.run_ofExcept]
  rcases hfingerprint : producerEventFingerprint text request.event with thrown | fingerprint
  · exact .inl ⟨_, rfl⟩
  have haccepted : SourceAccepted text sessionId request w session fingerprint :=
    ⟨hsession, hvalid, hinput, hfingerprint⟩
  rw [Effect.next_ok, Effect.run_bind]
  -- the checkpoint is read from the state in memory
  show (∃ thrown, Effect.next _ (.ok (w.store.state.producerEventCheckpoints.get? sessionId), w)
    = (.error thrown, w)) ∨ _
  rcases hcheckpoint : w.store.state.producerEventCheckpoints.get? sessionId with _ | checkpoint
  · refine .inr ⟨session, fingerprint, haccepted, .inl ⟨rfl, ?_⟩⟩
    show Effect.next _ (.ok (w.store.state.producerEventCheckpoints.get? sessionId), w) = _
    rw [hcheckpoint]
    rfl
  · by_cases hsame : checkpoint.producerEventId = request.producerEventId
        ∧ checkpoint.producerEventOrder = request.producerEventOrder
    · refine .inr ⟨session, fingerprint, haccepted, .inr ⟨checkpoint, rfl, .inl ⟨hsame, ?_⟩⟩⟩
      show Effect.next _ (.ok (w.store.state.producerEventCheckpoints.get? sessionId), w) = _
      rw [hcheckpoint, Effect.next_ok]
      dsimp only
      rw [if_pos hsame]
    · by_cases hincreases : orderIncreases checkpoint request = true
      · refine .inr ⟨session, fingerprint, haccepted, .inr ⟨checkpoint, rfl,
          .inr ⟨orderIncreases_iff.mp hincreases, ?_⟩⟩⟩
        show Effect.next _ (.ok (w.store.state.producerEventCheckpoints.get? sessionId), w) = _
        rw [hcheckpoint, Effect.next_ok]
        dsimp only
        rw [if_neg hsame, if_pos hincreases]
      · left
        rw [Effect.next_ok]
        dsimp only
        rw [if_neg hsame, if_neg hincreases]
        exact ⟨_, rfl⟩

end

/-! ### The answers -/

section
variable {text : ProtocolText} {at_ : RegistryReadings} {sessionId fingerprint : String}
  {request : AgentAdapterEventRequest} {response : AgentAdapterEventResponse} {w w' : BridgeWorld}

/-- A replay that is answered has the fingerprint of the checkpoint and is a duplicate. -/
theorem answerAcceptedSource_ok {checkpoint : ProducerEventSourceCheckpointV1}
    (h : (answerAcceptedSource text (bridgeStateStore text) at_ sessionId checkpoint request
      fingerprint).run w = (.ok response, w')) :
    checkpoint.fingerprint = fingerprint ∧
      response = ⟨checkpoint.eventId, request.producerEventId, request.producerEventOrder,
        .duplicate⟩ := by
  unfold answerAcceptedSource at h
  split at h
  · cases h
  · next hsame =>
    obtain ⟨_, u, -, hreturn⟩ := Effect.run_bind_eq_ok.mp h
    cases hreturn
    exact ⟨not_not.mp hsame, rfl⟩

/-- The checkpoint that `commitProducerEventSource` writes. -/
def sourceCheckpoint (at_ : RegistryReadings) (sessionId fingerprint eventId : String)
    (request : AgentAdapterEventRequest) : ProducerEventSourceCheckpointV1 where
  sessionId := sessionId
  producerEventId := request.producerEventId
  producerEventOrder := request.producerEventOrder
  eventId := eventId
  fingerprint := fingerprint
  createdAt := at_.nowIso

/-- An accepted source is the checkpoint of its Session, in memory and in the file. -/
theorem commitProducerEventSource_ok {reservation : PersistedProducerEventReservationV1}
    (h : (commitProducerEventSource (bridgeStateStore text) at_ sessionId reservation request
      fingerprint).run w = (.ok (), w')) :
    Holds (fun state => state.producerEventCheckpoints.get? sessionId
      = some (sourceCheckpoint at_ sessionId fingerprint reservation.eventId request))
      w'.store := by
  unfold commitProducerEventSource at h
  rw [run_storeCall, Prod.mk.injEq] at h
  obtain ⟨hok, rfl⟩ := h
  have hrun : (acceptProducerEventSource reservation
      (sourceCheckpoint at_ sessionId fingerprint reservation.eventId request)).run w.store
      = (.ok (), ((acceptProducerEventSource reservation
          (sourceCheckpoint at_ sessionId fingerprint reservation.eventId request)).run
            w.store).2) := Prod.ext hok rfl
  obtain ⟨t, htransition, -, hwritten⟩ := commitTransition_ok hrun
  obtain ⟨-, -, hnext⟩ := reserveProducerEventWithCheckpointTransition_cases htransition
  cases hnext
  show Holds _ ((acceptProducerEventSource reservation
    (sourceCheckpoint at_ sessionId fingerprint reservation.eventId request)).run w.store).2
  rw [hwritten]
  exact ⟨Dict.get?_set_self _ _ _, Dict.get?_set_self _ _ _⟩

/-- A tuple that is staged and committed is the checkpoint at the end. -/
theorem stageAndCommit_ok {J : Option ProducerEventSourceCheckpointV1 → Prop}
    {tuple : PendingTerminal} {reservation : PersistedProducerEventReservationV1}
    {promoteNow : Bool}
    (hJ : ∀ eventId, J (some (sourceCheckpoint at_ sessionId fingerprint eventId request)))
    (h : (stageAndCommit text (bridgeStateStore text) at_ sessionId request fingerprint tuple
      reservation promoteNow).run w = (.ok response, w')) :
    Holds (AtCheckpoint sessionId J) w'.store := by
  obtain ⟨_, w₁, -, h₁⟩ := Effect.run_bind_eq_ok.mp h
  obtain ⟨_, w₂, hcommit, h₂⟩ := Effect.run_bind_eq_ok.mp h₁
  obtain ⟨_, w₃, hpromote, hreturn⟩ := Effect.run_bind_eq_ok.mp h₂
  cases hreturn
  have hwritten := commitProducerEventSource_ok hcommit
  have hheld : Holds (AtCheckpoint sessionId J) w₂.store := by
    constructor
    · rw [AtCheckpoint, hwritten.1]
      exact hJ _
    · rw [AtCheckpoint, hwritten.2]
      exact hJ _
  -- the promotion writes no checkpoint
  have hstore : Respects (bridgeStateStore text) sessionId (Stays (AtCheckpoint sessionId J)) :=
    respects_bridgeStateStore text
  have hstays : OnStore (Stays (AtCheckpoint sessionId J)) w₂
      ((promoteWhen text (bridgeStateStore text) at_ promoteNow sessionId tuple
        fingerprint).run w₂).2 :=
    hstore.promoteWhen promoteNow sessionId tuple fingerprint w₂
  rw [hpromote] at hstays
  exact (hstays hheld).1

/-- A new tuple that is answered as `committed` is the checkpoint at the end. -/
theorem carryOutPlan_committed {J : Option ProducerEventSourceCheckpointV1 → Prop}
    {existing : Option PendingTerminal}
    {reservation : Option PersistedProducerEventReservationV1} {plan : TerminalEventPlan}
    (hJ : ∀ eventId, J (some (sourceCheckpoint at_ sessionId fingerprint eventId request)))
    (h : (carryOutPlan text (bridgeStateStore text) at_ sessionId request fingerprint existing
      reservation plan).run w = (.ok response, w'))
    (hcommitted : response.disposition = .committed) :
    Holds (AtCheckpoint sessionId J) w'.store := by
  unfold carryOutPlan at h
  split at h
  · cases h
  · split at h
    · cases h
    · obtain ⟨_, w₁, -, hreturn⟩ := Effect.run_bind_eq_ok.mp h
      cases hreturn
      cases hcommitted
  · cases h
    cases hcommitted
  · split at h
    · cases h
    · exact stageAndCommit_ok hJ h
  · obtain ⟨_, w₁, -, h₁⟩ := Effect.run_bind_eq_ok.mp h
    obtain ⟨_, w₂, -, h₂⟩ := Effect.run_bind_eq_ok.mp h₁
    exact stageAndCommit_ok hJ h₂
  · obtain ⟨_, w₁, -, h₁⟩ := Effect.run_bind_eq_ok.mp h
    exact stageAndCommit_ok hJ h₁

theorem acceptNewSource_committed {J : Option ProducerEventSourceCheckpointV1 → Prop}
    {session : RegisteredSession}
    (hJ : ∀ eventId, J (some (sourceCheckpoint at_ sessionId fingerprint eventId request)))
    (h : (acceptNewSource text (bridgeStateStore text) at_ sessionId session request
      fingerprint).run w = (.ok response, w'))
    (hcommitted : response.disposition = .committed) :
    Holds (AtCheckpoint sessionId J) w'.store := by
  obtain ⟨_, w₁, -, h₁⟩ := Effect.run_bind_eq_ok.mp h
  obtain ⟨_, w₂, -, h₂⟩ := Effect.run_bind_eq_ok.mp h₁
  obtain ⟨_, w₃, -, h₃⟩ := Effect.run_bind_eq_ok.mp h₂
  obtain ⟨_, w₄, -, h₄⟩ := Effect.run_bind_eq_ok.mp h₃
  obtain ⟨_, w₅, -, h₅⟩ := Effect.run_bind_eq_ok.mp h₄
  exact carryOutPlan_committed hJ h₅ hcommitted

/-- Every new tuple keeps a property of the checkpoint that its own checkpoint has. -/
theorem stays_acceptNewSource {J : Option ProducerEventSourceCheckpointV1 → Prop}
    (session : RegisteredSession)
    (hJ : ∀ eventId, J (some (sourceCheckpoint at_ sessionId fingerprint eventId request))) :
    Effect.Leaves (OnStore (Stays (AtCheckpoint sessionId J)))
      (acceptNewSource text (bridgeStateStore text) at_ sessionId session request
        fingerprint) := by
  have h : Respects (bridgeStateStore text) sessionId (Stays (AtCheckpoint sessionId J)) :=
    respects_bridgeStateStore text
  refine h.acceptNewSource (fun reservation => Respects.call ?_) session
  refine stays_acceptProducerEventSource fun state reservations _ => ?_
  rw [AtCheckpoint, Dict.get?_set_self]
  exact hJ reservation.eventId

end

end Ariava.AgentAdapter
