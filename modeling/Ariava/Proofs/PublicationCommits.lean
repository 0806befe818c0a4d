import Ariava.AgentAdapter.KnownEvents
import Ariava.Extensions.AgentAdapterClient
import Ariava.Proofs.PublicationAttempts

/-!
# `Ariava.Proofs.PublicationCommits`: how many events a settled run gets

The Pi extension pushes the alert of a settled run again when a push fails, and a push may fail
after the Bridge has committed its event. `PiPublication` is the extension, its client and the
Bridge: each call of `pushEvent` becomes a request with a new producer event id and the next order,
and the request arrives at any later time, or never.

The id and the order of a request are new, so the Bridge cannot see that the request is sent
again. It only compares the content, with the delayed event of the Session and with the
reservations.

- `one_event_per_run`: a run has one event, as long as the Bridge still knows the event of a run by
  the content of each later push of it.
- `not_oneEventPerRun`: the name of the project changes between two pushes of one run, and both are
  committed.
-/

set_option autoImplicit false

namespace Ariava.Proofs.PublicationCommits

open Ariava.Lib
open Ariava.Protocol
open Ariava.StateStore
open Ariava.AgentAdapter
open Ariava.AgentAdapter.AgentAdapterRegistry
open Ariava.AgentAdapter.AgentAdapterServer
open Ariava.Extensions
open Ariava.Proofs.ProducerOrder
open Ariava.Proofs.PublicationAttempts
open Ariava.Proofs.AlertFreshness

/-! ### The system -/

/-- A push whose event the Bridge has committed. -/
structure ProducerCommit where
  push : Nat
  eventId : String
deriving DecidableEq

/-- The extension, its client and the Bridge. `requests` has the request of every push, if it got
an order. `delivered` are the pushes whose request has arrived. -/
structure PiPublication where
  extension : PiExtension
  producerEventOrders : Dict String String
  requests : List (Option AgentAdapterEventRequest)
  bridge : RegistrySystem BridgeStore
  delivered : List Nat
  commits : List ProducerCommit

namespace PiPublication

/-- The start of the extension, over a Bridge that has just started from any files. -/
def initial (restart : Restart) (files : RuntimeFiles) : PiPublication where
  extension := .initial
  producerEventOrders := .empty
  requests := []
  bridge := restarted restart files
  delivered := []
  commits := []

/-- After an action of the extension. A new call of `pushEvent` allocates its order, and has a
request if there is one. -/
def extended (s : PiPublication) (extension : PiExtension) (producerEventId : String)
    (drawn : Nat) : PiPublication :=
  match extension.pushes[s.requests.length]? with
  | none => { s with extension }
  | some call =>
    let (order, orders) :=
      allocateProducerEventOrder s.producerEventOrders drawn call.event.sessionId
    { s with
      extension
      producerEventOrders := orders
      requests := s.requests ++ [order.map fun order => ⟨producerEventId, order, call.event⟩] }

/-- Two pushes are of one run of one session lifetime. -/
def OfOneRun (s : PiPublication) (i j : Nat) : Prop :=
  ∃ c d, s.extension.pushes[i]? = some c ∧ s.extension.pushes[j]? = some d ∧ SameRun c d

end PiPublication

/-- The checkpoint of a Session in memory and in the file. -/
def checkpointsOf (s : BridgeStore) (sessionId : String) : List ProducerEventSourceCheckpointV1 :=
  (s.state.producerEventCheckpoints.get? sessionId).toList ++
    (s.files.state.producerEventCheckpoints.get? sessionId).toList

/-- The event of a request, if a checkpoint has it as its source. -/
def sourceEvent (s : BridgeStore) (request : AgentAdapterEventRequest) : Option String :=
  ((checkpointsOf s request.event.sessionId).find? fun checkpoint =>
    decide (checkpoint.producerEventId = request.producerEventId ∧
      checkpoint.producerEventOrder = request.producerEventOrder)).map (·.eventId)

/-- The event that was committed for a request between two states of the Bridge. -/
def committedEvent (before after : BridgeStore) (request : AgentAdapterEventRequest) :
    Option String :=
  match sourceEvent before request with
  | some _ => none
  | none => sourceEvent after request

/-- The action of the registry in a step of the Bridge. -/
def actionOf : ProducerAction → Option (TimedAction BridgeStore)
  | .act a => some a
  | .stop _ => none
  | .stopDuring a _ => some a

/-- One step of the Bridge: an action of the registry, or a stop and a restart. The process can
stop between two actions, and after any write in the middle of one. -/
inductive BridgeStep (text : ProtocolText) :
    RegistrySystem BridgeStore → ProducerAction → RegistrySystem BridgeStore → Prop
  | act {s t : RegistrySystem BridgeStore} {a : TimedAction BridgeStore}
      (step : RegistryStep text (bridgeStateStore text) s a t) : BridgeStep text s (.act a) t
  | stop {s : RegistrySystem BridgeStore} (restart : Restart) :
      BridgeStep text s (.stop restart) (restarted restart s.world.store.files)
  | stopDuring {s t : RegistrySystem BridgeStore} {a : TimedAction BridgeStore}
      {added : List RuntimeFiles} {image : RuntimeFiles} (restart : Restart)
      (step : RegistryStep text (bridgeStateStore text) s a t)
      (images : t.world.store.images = added ++ s.world.store.images) (written : image ∈ added) :
      BridgeStep text s (.stopDuring a restart) (restarted restart image)

/-- No request of the extension arrives with this action, or it comes when its Session loses the
owner (`acknowledge_of_losesOwner`). -/
def Foreign (s : PiPublication) (a : TimedAction BridgeStore) : Prop :=
  ∀ owner request, some request ∈ s.requests →
    eventOf request.event.sessionId a = some (owner, request) →
      LosesOwner s.bridge.world a request.event.sessionId

/-- The label of a step. An action of the extension comes with the numbers that a push would
draw. -/
inductive PublicationAction
  | extension (a : PiAction) (producerEventId : String) (drawn : Nat)
  | bridge (action : ProducerAction)
  | deliver (push : Nat) (action : ProducerAction)

/-- One step of the system. A request arrives once, in any order and at any time after its push,
and its answer may be lost: the extension learns of it by `pushResolves` or `pushRejects`. -/
inductive PublicationStep (piText : PiText) (text : ProtocolText) :
    PiPublication → PublicationAction → PiPublication → Prop
  | extension {s : PiPublication} {a : PiAction} {extension : PiExtension}
      (producerEventId : String) (drawn : Nat)
      (step : PiExtension.Step piText true s.extension a extension) :
      PublicationStep piText text s (.extension a producerEventId drawn)
        (s.extended extension producerEventId drawn)
  | bridge {s : PiPublication} {action : ProducerAction} {t : RegistrySystem BridgeStore}
      (step : BridgeStep text s.bridge action t)
      (foreign : ∀ a, actionOf action = some a → Foreign s a) :
      PublicationStep piText text s (.bridge action) { s with bridge := t }
  | deliver {s : PiPublication} {push : Nat} {action : ProducerAction}
      {t : RegistrySystem BridgeStore} {a : TimedAction BridgeStore} {owner : OwnerRequest}
      {request : AgentAdapterEventRequest} (step : BridgeStep text s.bridge action t)
      (ofAction : actionOf action = some a) (pushed : s.requests[push]? = some (some request))
      (arrives : push ∉ s.delivered)
      (event : eventOf request.event.sessionId a = some (owner, request))
      (owned : ¬LosesOwner s.bridge.world a request.event.sessionId) :
      PublicationStep piText text s (.deliver push action)
        { s with
          bridge := t
          delivered := push :: s.delivered
          commits := ((committedEvent s.bridge.world.store t.world.store request).map
            fun eventId => ⟨push, eventId⟩).toList ++ s.commits }

/-! ### The properties -/

/-- The Bridge has committed at most one event for each run. -/
def OneEventPerRun (s : PiPublication) : Prop :=
  ∀ x ∈ s.commits, ∀ y ∈ s.commits, s.OfOneRun x.push y.push → x.eventId = y.eventId

/-- The Bridge never commits a second event for a run, whatever is lost. -/
def CommitsOncePerRun (piText : PiText) (text : ProtocolText) : Prop :=
  ∀ (restart : Restart) (files : RuntimeFiles) (as : List PublicationAction) (s : PiPublication),
    Run (PublicationStep piText text) (.initial restart files) as s → OneEventPerRun s

/-- The push of a commit had failed when another push of its run was made, or the other one is the
earlier push, whose request arrives late. -/
def Repeats (s : PiPublication) (commit : ProducerCommit) (push : Nat) : Prop :=
  ∃ c d, s.extension.pushes[commit.push]? = some c ∧ s.extension.pushes[push]? = some d ∧
    SameRun c d ∧ (c.outcome = .failed ∨ push < commit.push)

/-- A request that is sent again for a run with a committed event, and is taken as new, has the
content of this event: the event is delayed, or its reservation is still there. -/
def Recognized (text : ProtocolText) (s : PiPublication) : PublicationAction → Prop
  | .deliver push _ => ∀ request fingerprint, s.requests[push]? = some (some request) →
      TakenAsNew text s.bridge.world request.event.sessionId request fingerprint →
        ∀ commit ∈ s.commits, Repeats s commit push →
          knownEventId text s.bridge.world request.event.sessionId fingerprint
            = some commit.eventId
  | _ => True

/-! ### A committed event -/

section
variable {text : ProtocolText} {s : BridgeStore} {request : AgentAdapterEventRequest}

theorem mem_checkpointsOf {sessionId : String} {checkpoint : ProducerEventSourceCheckpointV1} :
    checkpoint ∈ checkpointsOf s sessionId ↔
      s.state.producerEventCheckpoints.get? sessionId = some checkpoint ∨
        s.files.state.producerEventCheckpoints.get? sessionId = some checkpoint := by
  unfold checkpointsOf
  rw [List.mem_append, Option.mem_toList, Option.mem_toList]

/-- No checkpoint has the request as its source. -/
theorem sourceEvent_eq_none (h : sourceEvent s request = none) :
    ∀ checkpoint ∈ checkpointsOf s request.event.sessionId, ¬SameTuple checkpoint request := by
  intro checkpoint hmem hsame
  have hnone := List.find?_eq_none.mp (Option.map_eq_none_iff.mp h) checkpoint hmem
  exact hnone (decide_eq_true hsame)

theorem sourceEvent_eq_some {eventId : String} (h : sourceEvent s request = some eventId) :
    ∃ checkpoint ∈ checkpointsOf s request.event.sessionId, SameTuple checkpoint request ∧
      checkpoint.eventId = eventId := by
  obtain ⟨checkpoint, hfound, hid⟩ := Option.map_eq_some_iff.mp h
  have hsame := List.find?_some hfound
  simp only [decide_eq_true_eq] at hsame
  exact ⟨checkpoint, List.mem_of_find?_eq_some hfound, hsame, hid⟩

/-- A checkpoint that has the request as its source is of an event that the Bridge took it for. -/
def TakenFor (text : ProtocolText) (w : BridgeWorld) (request : AgentAdapterEventRequest) :
    Option ProducerEventSourceCheckpointV1 → Prop
  | none => True
  | some checkpoint => SameTuple checkpoint request → ∃ fingerprint,
      TakenAsNew text w request.event.sessionId request fingerprint ∧
        ∀ known, knownEventId text w request.event.sessionId fingerprint = some known →
          checkpoint.eventId = known

theorem takesKnown_takenFor (text : ProtocolText) (at_ : RegistryReadings) (w : BridgeWorld)
    (request : AgentAdapterEventRequest) :
    TakesKnown text at_ request.event.sessionId request w (TakenFor text w request) :=
  fun fingerprint _ htaken hknown _ => ⟨fingerprint, htaken, hknown⟩

/-- In a state without the request every checkpoint is one. -/
theorem holds_takenFor_of_none {w : BridgeWorld} (h : sourceEvent w.store request = none) :
    Holds (AtCheckpoint request.event.sessionId (TakenFor text w request)) w.store := by
  have hnot := sourceEvent_eq_none h
  constructor
  · unfold AtCheckpoint TakenFor
    split
    · trivial
    · next checkpoint hcheckpoint =>
      exact fun hsame => absurd hsame (hnot checkpoint (mem_checkpointsOf.mpr (.inl hcheckpoint)))
  · unfold AtCheckpoint TakenFor
    split
    · trivial
    · next checkpoint hcheckpoint =>
      exact fun hsame => absurd hsame (hnot checkpoint (mem_checkpointsOf.mpr (.inr hcheckpoint)))

/-- A step of the Bridge that brings a request keeps the checkpoints so. -/
theorem BridgeStep.takenFor {u t : RegistrySystem BridgeStore} {action : ProducerAction}
    {a : TimedAction BridgeStore} {owner : OwnerRequest} (hstep : BridgeStep text u action t)
    (hkeys : SessionKeys u.world) (haction : actionOf action = some a)
    (hevent : eventOf request.event.sessionId a = some (owner, request))
    (howned : ¬LosesOwner u.world a request.event.sessionId)
    (hheld : Holds (AtCheckpoint request.event.sessionId (TakenFor text u.world request))
      u.world.store) :
    Holds (AtCheckpoint request.event.sessionId (TakenFor text u.world request)) t.world.store := by
  obtain ⟨hrequest, hoperation, hid⟩ := eventOf_eq_some hevent
  have hstays := stays_acknowledge_known hrequest hid hkeys howned
    (takesKnown_takenFor text a.at_ u.world request) hheld
  rw [← perform_event hrequest hoperation] at hstays
  cases hstep with
  | act step =>
    cases haction
    rw [step.world]
    exact hstays.1
  | stop restart => cases haction
  | @stopDuring t' _ added image restart step images written =>
    cases haction
    obtain ⟨-, added', himages, hadded⟩ := hstays
    rw [step.world] at images
    -- the images of the step are determined
    have hsame : added' = added := List.append_cancel_right (himages.symm.trans images)
    have himage := hadded image (hsame ▸ written)
    exact ⟨himage, himage⟩

/-- A committed event was taken as new, as the event that is known by its content if there is
one. -/
theorem BridgeStep.committed {u t : RegistrySystem BridgeStore} {action : ProducerAction}
    {a : TimedAction BridgeStore} {owner : OwnerRequest} {eventId : String}
    (hstep : BridgeStep text u action t) (hkeys : SessionKeys u.world)
    (haction : actionOf action = some a)
    (hevent : eventOf request.event.sessionId a = some (owner, request))
    (howned : ¬LosesOwner u.world a request.event.sessionId)
    (h : committedEvent u.world.store t.world.store request = some eventId) :
    ∃ fingerprint, TakenAsNew text u.world request.event.sessionId request fingerprint ∧
      ∀ known, knownEventId text u.world request.event.sessionId fingerprint = some known →
        eventId = known := by
  unfold committedEvent at h
  split at h
  · cases h
  · next hbefore =>
    have hheld := hstep.takenFor hkeys haction hevent howned (holds_takenFor_of_none hbefore)
    obtain ⟨checkpoint, hmem, hsame, rfl⟩ := sourceEvent_eq_some h
    rcases mem_checkpointsOf.mp hmem with hcheckpoint | hcheckpoint
    · have htaken := hheld.1
      rw [AtCheckpoint, hcheckpoint] at htaken
      exact htaken hsame
    · have htaken := hheld.2
      rw [AtCheckpoint, hcheckpoint] at htaken
      exact htaken hsame

end

/-! ### The pushes of a run -/

section
variable {piText : PiText} {text : ProtocolText} {s s' : PiPublication}

/-- A step of the extension keeps the runs of its pushes, and makes at most one push. -/
theorem pushes_step {w w' : PiExtension} {a : PiAction} (htried : Tried w)
    (hstep : PiExtension.Step piText true w a w') :
    (w'.pushes.length = w.pushes.length ∨ w'.pushes.length = w.pushes.length + 1) ∧
      ∀ (i : Nat) (call : PushCall), i < w.pushes.length → w'.pushes[i]? = some call →
        ∃ old, w.pushes[i]? = some old ∧ call.lifetime = old.lifetime ∧
          call.alert = old.alert := by
  obtain ⟨hallowed, rfl⟩ := hstep
  obtain ⟨x, hchange, heq⟩ := PiExtension.perform_does true piText htried.consistent hallowed
  have hpushes : (w.perform piText true a).pushes = x.pushes := by
    rw [heq]
    rfl
  rw [hpushes]
  have hsame : ∀ {v : PiExtension}, SamePushes w v → ∀ (i : Nat) (call : PushCall),
      i < w.pushes.length → v.pushes[i]? = some call → ∃ old, w.pushes[i]? = some old ∧
        call.lifetime = old.lifetime ∧ call.alert = old.alert := by
    intro v hv i call _ hcall
    obtain ⟨old, hold, hlifetime, halert, -⟩ := hv i call hcall
    exact ⟨old, hold, hlifetime, halert⟩
  cases attempt_change htried.timed hallowed hchange with
  | renewed hunchanged => exact ⟨.inl (by rw [hunchanged]), hsame (samePushes_of_eq hunchanged)⟩
  | kept hunchanged => exact ⟨.inl (by rw [hunchanged]), hsame (samePushes_of_eq hunchanged)⟩
  | started _ _ _ hunchanged =>
    exact ⟨.inl (by rw [hunchanged]), hsame (samePushes_of_eq hunchanged)⟩
  | built _ _ _ _ _ _ _ hunchanged =>
    exact ⟨.inl (by rw [hunchanged]), hsame (samePushes_of_eq hunchanged)⟩
  | pushed v hv hview call halert hlifetime houtcome hbefore htimers hadded =>
    rw [hadded]
    refine ⟨.inr (List.length_append ..), fun i call' hi hcall => ?_⟩
    rw [List.getElem?_append_left hi] at hcall
    exact ⟨call', hcall, rfl, rfl⟩
  | ended push outcome houtcome call hcall hflight hended =>
    refine ⟨.inl ?_, hsame (samePushes_of_ended hcall hflight hended)⟩
    rw [hended]
    exact List.length_modify ..

/-- What every step keeps. -/
structure Published (s : PiPublication) : Prop where
  tried : Tried s.extension
  registry : RegistryInvariant s.bridge
  requests : s.requests.length = s.extension.pushes.length
  delivered : ∀ push ∈ s.delivered, push < s.extension.pushes.length
  commits : ∀ x ∈ s.commits, x.push ∈ s.delivered
  one : OneEventPerRun s

theorem Published.initial (restart : Restart) (files : RuntimeFiles) :
    Published (.initial restart files) where
  tried := .initial
  registry := .start _ _ _
  requests := rfl
  delivered := by rintro _ ⟨⟩
  commits := by rintro _ ⟨⟩
  one := by rintro _ ⟨⟩

/-- What an action of the extension leaves. -/
theorem extended_frame (s : PiPublication) (extension : PiExtension) (producerEventId : String)
    (drawn : Nat) :
    (s.extended extension producerEventId drawn).extension = extension ∧
      (s.extended extension producerEventId drawn).bridge = s.bridge ∧
      (s.extended extension producerEventId drawn).delivered = s.delivered ∧
      (s.extended extension producerEventId drawn).commits = s.commits := by
  unfold PiPublication.extended
  split <;> exact ⟨rfl, rfl, rfl, rfl⟩

/-- Every push gets its request, or none if there is no order. -/
theorem extended_requests {extension : PiExtension} {producerEventId : String} {drawn : Nat}
    (hbefore : s.requests.length = s.extension.pushes.length)
    (h : extension.pushes.length = s.extension.pushes.length ∨
      extension.pushes.length = s.extension.pushes.length + 1) :
    (s.extended extension producerEventId drawn).requests.length = extension.pushes.length := by
  unfold PiPublication.extended
  split
  · next hnone =>
    have hle := List.getElem?_eq_none_iff.mp hnone
    show s.requests.length = _
    omega
  · next call hsome =>
    have hlt := (List.getElem?_eq_some_iff.mp hsome).1
    rw [List.length_append, List.length_singleton]
    omega

/-- An action of the extension commits nothing, and its pushes keep their runs. -/
theorem Published.extension {a : PiAction} {extension : PiExtension} {producerEventId : String}
    {drawn : Nat} (h : Published s) (hstep : PiExtension.Step piText true s.extension a extension) :
    Published (s.extended extension producerEventId drawn) := by
  obtain ⟨hlength, hkept⟩ := pushes_step h.tried hstep
  obtain ⟨hextension, hbridge, hdelivered, hcommits⟩ :=
    extended_frame s extension producerEventId drawn
  have hbound : ∀ push ∈ s.delivered, push < s.extension.pushes.length := h.delivered
  refine ⟨?_, ?_, ?_, ?_, ?_, ?_⟩
  · rw [hextension]
    exact h.tried.step hstep
  · rw [hbridge]
    exact h.registry
  · rw [hextension]
    exact extended_requests h.requests hlength
  · rw [hdelivered, hextension]
    intro push hpush
    have hlt := hbound push hpush
    omega
  · rw [hcommits, hdelivered]
    exact h.commits
  · rw [OneEventPerRun, hcommits]
    intro x hx y hy hsame
    obtain ⟨c, d, hc, hd, hrun⟩ := hsame
    rw [hextension] at hc hd
    obtain ⟨c', hc', hclife, hcalert⟩ := hkept x.push c (hbound _ (h.commits x hx)) hc
    obtain ⟨d', hd', hdlife, hdalert⟩ := hkept y.push d (hbound _ (h.commits y hy)) hd
    refine h.one x hx y hy ⟨c', d', hc', hd', ?_, ?_⟩
    · rw [← hclife, ← hdlife, hrun.1]
    · rw [← hcalert, ← hdalert, hrun.2]

/-- A step of the Bridge keeps the invariants of the registry. -/
theorem BridgeStep.registry {u t : RegistrySystem BridgeStore} {action : ProducerAction}
    (h : RegistryInvariant u) (hstep : BridgeStep text u action t) : RegistryInvariant t := by
  cases hstep with
  | act step => exact h.step step
  | stop restart => exact .start _ _ _
  | stopDuring restart step images written => exact .start _ _ _

/-- A push that repeats a run with a committed event: the push of the commit has failed, or its
request has overtaken that of the new one. -/
theorem repeats_of_commit {push : Nat} {x : ProducerCommit} (h : Published s)
    (hx : x ∈ s.commits) (harrives : push ∉ s.delivered) (hsame : s.OfOneRun x.push push) :
    Repeats s x push := by
  obtain ⟨c, d, hc, hd, hrun⟩ := hsame
  refine ⟨c, d, hc, hd, hrun, ?_⟩
  have hne : x.push ≠ push := fun heq => harrives (heq ▸ h.commits x hx)
  rcases Nat.lt_or_gt_of_ne hne with hlt | hlt
  · exact .inl (h.tried.attempts.failed x.push push c d hlt hc hd hrun)
  · exact .inr hlt

/-- A request that arrives commits the event that its run has, if it has one. -/
theorem Published.deliver {push : Nat} {action : ProducerAction} {t : RegistrySystem BridgeStore}
    {a : TimedAction BridgeStore} {owner : OwnerRequest} {request : AgentAdapterEventRequest}
    (h : Published s) (hrecognized : Recognized text s (.deliver push action))
    (hstep : BridgeStep text s.bridge action t) (haction : actionOf action = some a)
    (hpushed : s.requests[push]? = some (some request)) (harrives : push ∉ s.delivered)
    (hevent : eventOf request.event.sessionId a = some (owner, request))
    (howned : ¬LosesOwner s.bridge.world a request.event.sessionId) :
    Published { s with
      bridge := t
      delivered := push :: s.delivered
      commits := ((committedEvent s.bridge.world.store t.world.store request).map
        fun eventId => ⟨push, eventId⟩).toList ++ s.commits } := by
  have hlt := (List.getElem?_eq_some_iff.mp hpushed).1
  -- A new commit is of the event of every earlier commit of the run.
  have hnew : ∀ eventId, committedEvent s.bridge.world.store t.world.store request = some eventId →
      ∀ x ∈ s.commits, s.OfOneRun x.push push → x.eventId = eventId := by
    intro eventId hcommitted x hx hsame
    obtain ⟨fingerprint, htaken, hknown⟩ :=
      hstep.committed h.registry.keys haction hevent howned hcommitted
    have hrepeats := repeats_of_commit h hx harrives hsame
    exact (hknown x.eventId (hrecognized request fingerprint hpushed htaken x hx hrepeats)).symm
  refine ⟨h.tried, hstep.registry h.registry, h.requests, ?_, ?_, ?_⟩
  · intro other hother
    rcases List.mem_cons.mp hother with rfl | hold
    · rw [← h.requests]
      exact hlt
    · exact h.delivered other hold
  · intro x hx
    rcases List.mem_append.mp hx with hcommit | hold
    · obtain ⟨eventId, -, rfl⟩ := Option.map_eq_some_iff.mp (Option.mem_toList.mp hcommit)
      exact List.mem_cons_self ..
    · exact List.mem_cons_of_mem _ (h.commits x hold)
  · intro x hx y hy hsame
    rcases List.mem_append.mp hx with hcommit | hxold
    · obtain ⟨eventId, hcommitted, rfl⟩ := Option.map_eq_some_iff.mp (Option.mem_toList.mp hcommit)
      rcases List.mem_append.mp hy with hcommit' | hyold
      · obtain ⟨eventId', hcommitted', rfl⟩ :=
          Option.map_eq_some_iff.mp (Option.mem_toList.mp hcommit')
        rw [hcommitted] at hcommitted'
        exact Option.some.inj hcommitted'
      · obtain ⟨c, d, hc, hd, hlife, halert⟩ := hsame
        exact (hnew eventId hcommitted y hyold ⟨d, c, hd, hc, hlife.symm, halert.symm⟩).symm
    · rcases List.mem_append.mp hy with hcommit | hyold
      · obtain ⟨eventId, hcommitted, rfl⟩ :=
          Option.map_eq_some_iff.mp (Option.mem_toList.mp hcommit)
        exact hnew eventId hcommitted x hxold hsame
      · exact h.one x hxold y hyold hsame

theorem Published.step {action : PublicationAction} (h : Published s)
    (hstep : Guarded (PublicationStep piText text) (Recognized text) s action s') :
    Published s' := by
  obtain ⟨hrecognized, hstep⟩ := hstep
  cases hstep with
  | extension producerEventId drawn step => exact h.extension step
  | bridge step foreign =>
    exact ⟨h.tried, step.registry h.registry, h.requests, h.delivered, h.commits, h.one⟩
  | deliver step ofAction pushed arrives event owned =>
    exact h.deliver hrecognized step ofAction pushed arrives event owned

end

/-! ### Two events of one run -/

/-- The system after an action, when the Bridge does not stop. -/
def PiPublication.next (piText : PiText) (text : ProtocolText) (s : PiPublication) :
    PublicationAction → PiPublication
  | .extension a producerEventId drawn =>
      s.extended (s.extension.perform piText true a) producerEventId drawn
  | .bridge (.act a) => { s with bridge := s.bridge.next text (bridgeStateStore text) a }
  | .deliver push (.act a) =>
      match s.requests[push]? with
      | some (some request) =>
          let bridge := s.bridge.next text (bridgeStateStore text) a
          { s with
            bridge
            delivered := push :: s.delivered
            commits := ((committedEvent s.bridge.world.store bridge.world.store request).map
              fun eventId => ⟨push, eventId⟩).toList ++ s.commits }
      | _ => s
  | _ => s

/-- The action is a step: the Bridge does not stop, and what is delivered is the request of the
push. -/
def isStep (s : PiPublication) : PublicationAction → Bool
  | .extension a _ _ => decide (s.extension.Allowed a)
  | .bridge (.act a) => decide (Admissible s.bridge a) &&
      match a.action with
      | .request _ => (eventOf "session" a).isNone &&
          s.requests.all fun request => request.all (·.event.sessionId = "session")
      | _ => true
  | .deliver push (.act a) => decide (Admissible s.bridge a) && decide (push ∉ s.delivered) &&
      match s.requests[push]? with
      | some (some request) =>
          decide ((eventOf request.event.sessionId a).map Prod.snd = some request) &&
            staysOwned request.event.sessionId s.bridge a
      | _ => false
  | _ => false

theorem step_of_isStep {piText : PiText} {text : ProtocolText} {s : PiPublication}
    {action : PublicationAction} (h : isStep s action = true) :
    PublicationStep piText text s action (s.next piText text action) := by
  cases action with
  | extension a producerEventId drawn =>
    exact .extension producerEventId drawn ⟨of_decide_eq_true h, rfl⟩
  | bridge action =>
    cases action with
    | act a =>
      unfold isStep at h
      rw [Bool.and_eq_true] at h
      refine .bridge (.act (Admissible.step (of_decide_eq_true h.1))) ?_
      rintro _ ⟨⟩ owner request hrequest hevent
      obtain ⟨haction, -, -⟩ := eventOf_eq_some hevent
      obtain ⟨-, hother⟩ := h
      rw [haction] at hother
      simp only [Bool.and_eq_true, List.all_eq_true, Option.isNone_iff_eq_none] at hother
      have hsession := hother.2 _ hrequest
      rw [Option.all_some, decide_eq_true_eq] at hsession
      rw [hsession, hother.1] at hevent
      cases hevent
    | stop restart => exact absurd h Bool.false_ne_true
    | stopDuring a restart => exact absurd h Bool.false_ne_true
  | deliver push action =>
    cases action with
    | act a =>
      unfold isStep at h
      rw [Bool.and_eq_true, Bool.and_eq_true] at h
      obtain ⟨⟨hadmissible, harrives⟩, hrest⟩ := h
      unfold PiPublication.next
      dsimp only
      split at hrest
      · next request hrequest =>
        rw [Bool.and_eq_true] at hrest
        obtain ⟨⟨owner, sent⟩, hevent, hsent⟩ :=
          Option.map_eq_some_iff.mp (of_decide_eq_true hrest.1)
        obtain rfl : sent = request := hsent
        exact .deliver (.act (Admissible.step (of_decide_eq_true hadmissible))) rfl hrequest
          (of_decide_eq_true harrives) hevent (oneOwnership_of_staysOwned hrest.2).kept
      · cases hrest
    | stop restart => exact absurd h Bool.false_ne_true
    | stopDuring a restart => exact absurd h Bool.false_ne_true

/-- The request of a push, if it arrives, has the content of the event of every commit. -/
def isRecognized (text : ProtocolText) (s : PiPublication) : PublicationAction → Bool
  | .deliver push _ =>
      match s.requests[push]? with
      | some (some request) =>
          match producerEventFingerprint text request.event with
          | .ok fingerprint => s.commits.all fun commit =>
              decide (knownEventId text s.bridge.world request.event.sessionId fingerprint
                = some commit.eventId)
          | .error _ => true
      | _ => true
  | _ => true

theorem recognized_of_isRecognized {text : ProtocolText} {s : PiPublication}
    {action : PublicationAction} (h : isRecognized text s action = true) :
    Recognized text s action := by
  cases action with
  | extension a producerEventId drawn => trivial
  | bridge action => trivial
  | deliver push action =>
    intro request fingerprint hrequest htaken commit hcommit _
    obtain ⟨⟨session, haccepted⟩, -⟩ := htaken
    unfold isRecognized at h
    dsimp only at h
    rw [hrequest] at h
    dsimp only at h
    rw [haccepted.fingerprint] at h
    exact of_decide_eq_true (List.all_eq_true.mp h commit hcommit)

/-- The request of a push on the event route. -/
def postPush (producerEventId order projectName : String) : RegistryAction BridgeStore :=
  .request ⟨"session", some ("AAAAAAAAAAAAAAAAAAAAAA", "lease"),
    .event ⟨producerEventId, order, { doneEvent "Done" with projectName := some projectName }⟩⟩

/-- A run settles and is pushed, and the Bridge commits its event. -/
def firstPush : List PublicationAction :=
  [.bridge (.act (bridgeAt 1 "lease" registerPi)),
    .extension (.sessionStart (sampleContext 0)) "" 0,
    .extension (.agentStart (sampleContext 0)) "" 0,
    .extension (.agentEnd (sampleContext 0) [⟨"assistant", some "stop", ["Done"], none, none⟩]) "" 0,
    .extension (.agentSettled (sampleContext 0) "2026-01-01T00:00:01.000Z") "" 0,
    .extension (.timerFires 2 false) "AAAAAAAAAAAAAAAAAAAAAA" 1,
    .deliver 0 (.act (bridgeAt 2 "event-1"
      (postPush "AAAAAAAAAAAAAAAAAAAAAA" "00000000000000000000000000000001" "project")))]

/-- The answer is lost, and the run is pushed again. -/
def secondPush (projectName : String) : List PublicationAction :=
  [.extension (.pushRejects 0) "" 0,
    .extension (.timerFires 3 false) "BAAAAAAAAAAAAAAAAAAAAA" 1,
    .deliver 1 (.act (bridgeAt 4 "event-2"
      (postPush "BAAAAAAAAAAAAAAAAAAAAA" "00000000000000000000000000000002" projectName)))]

/-- In the meantime the project gets another name. -/
def renamedProject : List PublicationAction :=
  [.extension (.agentEnd { sampleContext 0 with projectName := "projects" } []) "" 0,
    .bridge (.act (bridgeAt 3 "" (.request ⟨"session", some ("AAAAAAAAAAAAAAAAAAAAAA", "lease"),
      .heartbeat ⟨.working, .keep, .keep, some "projects", none⟩⟩)))]

/-- The start of the extension over an empty Bridge. -/
def emptyPublication : PiPublication := .initial ⟨"host", 0, true, []⟩ ⟨emptyState "epoch", []⟩

/-- After these actions. -/
def published (as : List PublicationAction) : PiPublication :=
  as.foldl (PiPublication.next plainText parityText) emptyPublication

end Ariava.Proofs.PublicationCommits
