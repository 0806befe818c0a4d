import Ariava.AgentAdapter.EventPush
import Ariava.Proofs.EventPublishability

/-!
# `Ariava.AgentAdapter.KnownEvents`: the event that the Bridge knows by its content

Before `pushEventSource` makes a new event it looks for one with the same content: the delayed
event of the Session, or the reservation of the content. `knownEventId` is the id of the event
that it finds. `stays_acknowledge_known` says what this means for the checkpoint: the source of a
request is accepted as the known event, if there is one.
-/

set_option autoImplicit false

namespace Ariava.AgentAdapter

open Ariava.Lib
open Ariava.Protocol
open Ariava.StateStore
open Ariava.AgentAdapter.AgentAdapterRegistry
open Ariava.AgentAdapter.AgentAdapterServer
open Ariava.Proofs.EventPublishability
open Ariava.Proofs.ProducerOrder

section
variable (text : ProtocolText) (w : BridgeWorld) (sessionId : String)

/-- The event with a content that the Bridge knows: the delayed event of the Session, or the one
of the reservation. -/
def knownEventId (fingerprint : String) : Option String :=
  let delayed := w.registry.terminals.delayedTerminalEvents.get? sessionId
  match isLiveDuplicate text delayed fingerprint with
  | .ok true => delayed.map (·.event.eventId)
  | .ok false => (reservationOf w.store.state sessionId fingerprint).map (·.eventId)
  | .error _ => none

/-- `pushEventSource` looks for the event of a request: the request is accepted, and its order is
above that of the checkpoint. -/
def TakenAsNew (request : AgentAdapterEventRequest) (fingerprint : String) : Prop :=
  (∃ session, SourceAccepted text sessionId request w session fingerprint) ∧
    ∀ checkpoint, w.store.state.producerEventCheckpoints.get? sessionId = some checkpoint →
      OrderBelow checkpoint.producerEventOrder request.producerEventOrder

end

section
variable {text : ProtocolText} {at_ : RegistryReadings} {sessionId fingerprint : String}
  {request : AgentAdapterEventRequest} {w : BridgeWorld}
  {J : Option ProducerEventSourceCheckpointV1 → Prop}

/-- A reservation whose checkpoint has the property keeps it when it is staged and committed. -/
theorem stays_stageAndCommit {reservation : PersistedProducerEventReservationV1}
    (hJ : J (some (sourceCheckpoint at_ sessionId fingerprint reservation.eventId request)))
    (tuple : PendingTerminal) (promoteNow : Bool) :
    Effect.Leaves (OnStore (Stays (AtCheckpoint sessionId J)))
      (stageAndCommit text (bridgeStateStore text) at_ sessionId request fingerprint tuple
        reservation promoteNow) := by
  have h : Respects (bridgeStateStore text) sessionId (Stays (AtCheckpoint sessionId J)) :=
    respects_bridgeStateStore text
  have haccept : Effect.Leaves (OnStore (Stays (AtCheckpoint sessionId J)))
      (commitProducerEventSource (bridgeStateStore text) at_ sessionId reservation request
        fingerprint) := by
    refine Respects.call (stays_acceptProducerEventSource fun state reservations _ => ?_)
    rw [AtCheckpoint, Dict.get?_set_self]
    exact hJ
  refine h.bind (h.setTerminals _) fun _ => h.bind haccept fun _ => ?_
  exact h.bind (h.promoteWhen _ _ _ _) fun _ => h.pure' _

/-- What a plan does, when every reservation that it commits keeps the property. -/
theorem stays_carryOutPlan {snapshot : TerminalEventPlanInput} {plan : TerminalEventPlan}
    (hplan : planTerminalEvent text snapshot = .ok plan)
    (hfingerprint : producerEventFingerprint text snapshot.input = .ok fingerprint)
    (hreserved : ∀ reservation, snapshot.persistedReservation = some reservation →
      isLiveDuplicate text snapshot.livePending fingerprint = .ok false →
        J (some (sourceCheckpoint at_ sessionId fingerprint reservation.eventId request)))
    (hnew : snapshot.persistedReservation = none →
      isLiveDuplicate text snapshot.livePending fingerprint = .ok false →
        ∀ eventId, J (some (sourceCheckpoint at_ sessionId fingerprint eventId request))) :
    Effect.Leaves (OnStore (Stays (AtCheckpoint sessionId J)))
      (carryOutPlan text (bridgeStateStore text) at_ sessionId request fingerprint
        snapshot.livePending snapshot.persistedReservation plan) := by
  have h : Respects (bridgeStateStore text) sessionId (Stays (AtCheckpoint sessionId J)) :=
    respects_bridgeStateStore text
  rcases planTerminalEvent_cases hplan hfingerprint with ⟨thrown, rfl⟩ | ⟨promoteNow, rfl⟩ |
    ⟨hlive, ⟨eventId, rfl⟩ | ⟨tuple, promoteNow, hsome, -, rfl⟩ |
      ⟨hnone, -, promoteNow, rfl | rfl⟩⟩
  · exact h.throw' _
  · unfold carryOutPlan
    dsimp only
    split
    · exact h.throw' _
    · exact h.bind (h.promoteWhen _ _ _ _) fun _ => h.pure' _
  · exact h.pure' _
  · obtain ⟨reservation, hreservation⟩ := Option.isSome_iff_exists.mp hsome
    rw [hreservation]
    exact stays_stageAndCommit (hreserved reservation hreservation hlive) tuple promoteNow
  · refine h.bind (h.cancelTerminalRetry _ _ nofun) fun _ => ?_
    exact h.bind (Respects.call (h.reserveProducerEventTuple _ _ _)) fun _ =>
      stays_stageAndCommit (hnew hnone hlive _) _ _
  · exact h.bind (Respects.call (h.reserveProducerEventTuple _ _ _)) fun _ =>
      stays_stageAndCommit (hnew hnone hlive _) _ _

/-- What an event was planned from: the delayed event of the Session, and the reservation of its
content unless the delayed event has that content. -/
structure PlannedFrom (text : ProtocolText) (w : BridgeWorld) (sessionId fingerprint : String)
    (input : AgentAdapterEventInput) (planned : PlannedEvent) (snapshot : TerminalEventPlanInput) :
    Prop where
  plan : planTerminalEvent text snapshot = .ok planned.plan
  input : snapshot.input = input
  existing : planned.existing = snapshot.livePending
  persistedReservation : planned.persistedReservation = snapshot.persistedReservation
  livePending : snapshot.livePending
    = w.registry.terminals.delayedTerminalEvents.get? sessionId
  reservation : isLiveDuplicate text snapshot.livePending fingerprint = .ok false →
    snapshot.persistedReservation = reservationOf w.store.state sessionId fingerprint

/-- A plan only reads. -/
theorem planEvent_ok {session : RegisteredSession} {input : AgentAdapterEventInput}
    {planned : PlannedEvent} {w' : BridgeWorld}
    (h : (planEvent text (bridgeStateStore text) at_ sessionId session input fingerprint).run w
      = (.ok planned, w')) :
    w' = w ∧ ∃ snapshot, PlannedFrom text w sessionId fingerprint input planned snapshot := by
  obtain ⟨_, _, hread, h₁⟩ := Effect.run_bind_eq_ok.mp h
  cases hread
  obtain ⟨duplicate, _, hduplicate, h₂⟩ := Effect.run_bind_eq_ok.mp h₁
  rw [Effect.run_ofExcept, Prod.mk.injEq] at hduplicate
  obtain ⟨hduplicate, rfl⟩ := hduplicate
  obtain ⟨reservation, w₂, hreservation, h₃⟩ := Effect.run_bind_eq_ok.mp h₂
  obtain ⟨persisted, w₃, hpersisted, h₄⟩ := Effect.run_bind_eq_ok.mp h₃
  obtain ⟨plan, _, hplan, hreturn⟩ := Effect.run_bind_eq_ok.mp h₄
  rw [Effect.run_ofExcept, Prod.mk.injEq] at hplan
  obtain ⟨hplan, rfl⟩ := hplan
  cases hreturn
  have hsame : w' = w ∧ (duplicate = false →
      reservation = reservationOf w.store.state sessionId fingerprint) := by
    cases duplicate with
    | true =>
      cases hreservation
      cases hpersisted
      exact ⟨rfl, nofun⟩
    | false =>
      obtain ⟨hworld, hfound, -⟩ := lookup_reservedTuple hreservation hpersisted
      exact ⟨hworld, fun _ => hfound⟩
  refine ⟨hsame.1, _, hplan, rfl, rfl, rfl, rfl, fun hlive => hsame.2 ?_⟩
  exact Except.ok.inj (hduplicate.symm.trans hlive)

variable (text at_ sessionId fingerprint J) in
/-- A plan leaves the checkpoint alone. -/
theorem stays_planEvent (session : RegisteredSession) (input : AgentAdapterEventInput) :
    Effect.Leaves (OnStore (Stays (AtCheckpoint sessionId J)))
      (planEvent text (bridgeStateStore text) at_ sessionId session input fingerprint) := by
  have h : Respects (bridgeStateStore text) sessionId (Stays (AtCheckpoint sessionId J)) :=
    respects_bridgeStateStore text
  refine h.bind h.read' fun registry => h.bind (h.ofExcept _) fun duplicate => ?_
  refine h.bind ?_ fun reservation => h.bind ?_ fun tuple => ?_
  · exact Effect.Leaves.ite (fun _ => h.pure' _)
      fun _ => Respects.call (h.getProducerEventReservation _ _)
  · unfold tupleFor
    split
    · exact h.pure' _
    · exact Respects.call (h.getProducerEventTuple _ _)
  · exact h.bind (h.ofExcept _) fun plan => h.pure' _

/-- A new source is accepted as the event that is known by its content, if there is one. -/
theorem stays_acceptNewSource_known (session : RegisteredSession)
    (hfingerprint : producerEventFingerprint text request.event = .ok fingerprint)
    (hJ : ∀ eventId, (∀ known, knownEventId text w sessionId fingerprint = some known →
      eventId = known) → J (some (sourceCheckpoint at_ sessionId fingerprint eventId request))) :
    OnStore (Stays (AtCheckpoint sessionId J)) w
      ((acceptNewSource text (bridgeStateStore text) at_ sessionId session request
        fingerprint).run w).2 := by
  rw [acceptNewSource_eq, Effect.run_bind]
  rcases hrun : (planEvent text (bridgeStateStore text) at_ sessionId session request.event
    fingerprint).run w with ⟨thrown | planned, w'⟩
  · have hleaves := stays_planEvent text at_ sessionId fingerprint J session request.event w
    rw [hrun] at hleaves
    exact hleaves
  · obtain ⟨rfl, snapshot, hfrom⟩ := planEvent_ok hrun
    rw [Effect.next_ok, hfrom.existing, hfrom.persistedReservation]
    have hknown : isLiveDuplicate text snapshot.livePending fingerprint = .ok false →
        knownEventId text w' sessionId fingerprint
          = snapshot.persistedReservation.map (·.eventId) := by
      intro hlive
      unfold knownEventId
      dsimp only
      rw [← hfrom.livePending, hlive, hfrom.reservation hlive]
    refine stays_carryOutPlan hfrom.plan (by rw [hfrom.input, hfingerprint]) ?_ ?_ w'
    · intro reservation hreservation hlive
      refine hJ _ fun known h => ?_
      rw [hknown hlive, hreservation] at h
      exact Option.some.inj h
    · intro hnone hlive eventId
      refine hJ _ fun known h => ?_
      rw [hknown hlive, hnone] at h
      cases h

/-- What the source of a request may be accepted as: the event that is known by its content, or
any event if none is known. -/
def TakesKnown (text : ProtocolText) (at_ : RegistryReadings) (sessionId : String)
    (request : AgentAdapterEventRequest) (w : BridgeWorld)
    (J : Option ProducerEventSourceCheckpointV1 → Prop) : Prop :=
  ∀ fingerprint eventId, TakenAsNew text w sessionId request fingerprint →
    (∀ known, knownEventId text w sessionId fingerprint = some known → eventId = known) →
      J (some (sourceCheckpoint at_ sessionId fingerprint eventId request))

/-- An event is refused, answered from the checkpoint, or accepted as the known event. -/
theorem stays_pushEventSource_known (hJ : TakesKnown text at_ sessionId request w J) :
    OnStore (Stays (AtCheckpoint sessionId J)) w
      ((pushEventSource text (bridgeStateStore text) at_ sessionId request).run w).2 := by
  rcases pushEventSource_cases text at_ sessionId request w with
    ⟨thrown, hrun⟩ | ⟨session, fingerprint, haccepted, ⟨hnone, hrun⟩ | ⟨checkpoint, hcheckpoint,
      ⟨-, hrun⟩ | ⟨habove, hrun⟩⟩⟩
  · rw [hrun]
    exact Stays.refl _
  · rw [hrun]
    refine stays_acceptNewSource_known session haccepted.fingerprint fun eventId hknown => ?_
    refine hJ fingerprint eventId ⟨⟨session, haccepted⟩, fun checkpoint h => ?_⟩ hknown
    rw [hnone] at h
    cases h
  · rw [hrun]
    exact (respects_bridgeStateStore text).answerAcceptedSource _ _ _ _ w
  · rw [hrun]
    refine stays_acceptNewSource_known session haccepted.fingerprint fun eventId hknown => ?_
    refine hJ fingerprint eventId ⟨⟨session, haccepted⟩, fun other h => ?_⟩ hknown
    rw [hcheckpoint] at h
    cases h
    exact habove

/-- So does the event route, when it leaves the Session with its owner. -/
theorem stays_acknowledge_known {a : TimedAction BridgeStore} {owner : OwnerRequest}
    (haction : a.action = .request owner) (hid : owner.sessionId = sessionId)
    (hkeys : SessionKeys w) (hkept : ¬LosesOwner w a sessionId)
    (hJ : TakesKnown text a.at_ sessionId request w J) :
    OnStore (Stays (AtCheckpoint sessionId J)) w
      ((acknowledge text a.checkedAt a.at_ owner request).run w).2 := by
  have h : Respects (bridgeStateStore text) sessionId (Stays (AtCheckpoint sessionId J)) :=
    respects_bridgeStateStore text
  refine Effect.Leaves.bind_at h.onStore_trans (h.requireCurrentOwner haction hkeys hkept)
    fun headers hok => ?_
  obtain ⟨-, -, -, -, -, hsame⟩ := requireCurrentOwner_cases hok
  rw [hsame, hid]
  exact stays_pushEventSource_known hJ

/-- An event that comes when its Session loses the owner is not looked at: the owner check throws. -/
theorem acknowledge_of_losesOwner {a : TimedAction BridgeStore} {owner : OwnerRequest}
    (haction : a.action = .request owner) (hoperation : owner.operation = .event request)
    (hloses : LosesOwner w a sessionId) :
    ∃ thrown, ((acknowledge text a.checkedAt a.at_ owner request).run w).1 = .error thrown ∧
      ((acknowledge text a.checkedAt a.at_ owner request).run w).2
        = ((requireCurrentOwner text (bridgeStateStore text) a.checkedAt owner).run w).2 := by
  obtain ⟨session, hsession, hcause⟩ := hloses
  rw [haction] at hcause
  obtain ⟨hid, headers, hheaders, hlapsed | ⟨hunregister, -⟩⟩ := hcause
  · rcases hrun : (requireCurrentOwner text (bridgeStateStore text) a.checkedAt owner).run w with
      ⟨thrown | checked, w'⟩
    · unfold acknowledge
      rw [Effect.run_bind, hrun]
      exact ⟨thrown, rfl, rfl⟩
    · -- The check does not pass with a lapsed lease.
      exfalso
      unfold requireCurrentOwner at hrun
      rw [show owner.headers = some headers from hheaders] at hrun
      obtain ⟨_, _, hcheck, -⟩ := Effect.run_bind_eq_ok.mp hrun
      rcases assertCurrentOwner_cases text (bridgeStateStore text) a.checkedAt owner.sessionId
        headers.1 headers.2 with (⟨thrown, hthrown⟩ | ⟨_, _, _, ⟨thrown, hthrown⟩, _⟩) |
          ⟨live, hlive, hnot, -⟩
      · rw [hthrown] at hcheck
        cases hcheck
      · rw [hcheck] at hthrown
        cases hthrown
      · rw [hid, hsession] at hlive
        cases hlive
        exact hnot hlapsed
  · rw [hoperation] at hunregister
    cases hunregister

end

end Ariava.AgentAdapter
