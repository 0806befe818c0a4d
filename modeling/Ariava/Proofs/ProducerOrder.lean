import Ariava.AgentAdapter.ProducerEvents

/-!
# `Ariava.Proofs.ProducerOrder`: the order of producer events

The producer of a Session numbers its events, and the Bridge keeps the last tuple that it
took as new, the checkpoint, in its state. A run here is a run of the registry over the
Bridge's store in which the Session stays with its owner. The process may stop at any write
and restart from the files, and the rest of the daemon may change the store between two
steps, except for the checkpoint.

- `acknowledge_stays`, `acknowledge_ok`, `acknowledge_committed`: what one event does to the
  checkpoint.
- `AtLeast`: the checkpoint is a committed tuple or above it. This is what every step keeps,
  in memory, in the file and in every image of the files.
- `committed_orders_increase`: the orders of the committed tuples increase, and after one of
  them only a tuple above it is acknowledged, or the same tuple with the same content.

A duplicate is acknowledged without a new checkpoint, and an id is compared with that of the
checkpoint alone. So `ProducerOrderKept`, which is about every acknowledged tuple and about
ids at any order, does not hold.
-/

set_option autoImplicit false

namespace Ariava.Proofs.ProducerOrder

open Ariava.Lib
open Ariava.Protocol
open Ariava.StateStore
open Ariava.AgentAdapter
open Ariava.AgentAdapter.AgentAdapterRegistry
open Ariava.AgentAdapter.AgentAdapterServer

/-! ### The runs -/

/-- A producer event with the answer it got. -/
structure Acknowledgement where
  request : AgentAdapterEventRequest
  response : AgentAdapterEventResponse
deriving DecidableEq

/-- The registry over the Bridge's store, and the producer events of the Session that were
acknowledged, latest first. -/
structure ProducerSystem where
  system : RegistrySystem BridgeStore
  acknowledged : List Acknowledgement

section
variable (text : ProtocolText)

/-- The event route: the owner check, then `pushEventSource`. -/
def acknowledge (checkedAt at_ : RegistryReadings) (owner : OwnerRequest)
    (request : AgentAdapterEventRequest) :
    RegistryEffect BridgeStore AgentAdapterEventResponse := do
  let _ ← requireCurrentOwner text (bridgeStateStore text) checkedAt owner
  pushEventSource text (bridgeStateStore text) at_ owner.sessionId request

/-- The event that an action sends for the Session. -/
def eventOf (sessionId : String) (a : TimedAction BridgeStore) :
    Option (OwnerRequest × AgentAdapterEventRequest) :=
  match a.action with
  | .request owner =>
      match owner.operation with
      | .event request => if owner.sessionId = sessionId then some (owner, request) else none
      | _ => none
  | _ => none

/-- What an action acknowledges for the Session. -/
def acknowledgementOf (sessionId : String) (w : BridgeWorld) (a : TimedAction BridgeStore) :
    Option Acknowledgement :=
  match eventOf sessionId a with
  | none => none
  | some (owner, request) =>
      match (acknowledge text a.checkedAt a.at_ owner request).outcome w with
      | .ok response => some ⟨request, response⟩
      | .error _ => none

/-- Whatever holds of the checkpoint of the Session, in memory and in the file, still does. -/
def KeepsCheckpoint (sessionId : String) (s next : BridgeStore) : Prop :=
  ∀ J, Stays (AtCheckpoint sessionId J) s next

/-- The programs of the daemon that only keep properties of the checkpoints are such changes:
an upload that completes, a driver that lists its Sessions. -/
theorem keepsCheckpoint_of_stays {α : Type} {p : StoreEffect α}
    (h : ∀ P, OfCheckpoints P → Effect.Leaves (Stays P) p) (sessionId : String)
    (s : BridgeStore) : KeepsCheckpoint sessionId s (p.final s) :=
  fun _ => h _ ofCheckpoints_atCheckpoint s

example (eventId sessionId : String) (s : BridgeStore) :
    KeepsCheckpoint sessionId s ((completeEventUpload eventId).final s) :=
  keepsCheckpoint_of_stays
    (fun _ hP => stays_completeEventUpload hP.keptByCompletions eventId) sessionId s

example (driverName sessionId : String) (sessions : List CanonicalSessionState)
    (s : BridgeStore) :
    KeepsCheckpoint sessionId s ((replaceDriverSessions driverName sessions).final s) :=
  keepsCheckpoint_of_stays (fun _ hP => stays_replaceDriverSessions hP driverName sessions)
    sessionId s

/-- The action leaves the Session with its owner. The rest of the daemon, when it changes the
store, keeps the checkpoint of the Session. -/
structure OneOwnership (sessionId : String) (w : BridgeWorld) (a : TimedAction BridgeStore) :
    Prop where
  kept : ¬LosesOwner w a sessionId
  daemon : ∀ next, a.action = .storeChanges next → KeepsCheckpoint sessionId w.store next

/-- What a restart finds and draws. -/
structure Restart where
  hostId : String
  nowMs : Int
  commandExecutionPinsReady : Bool
  writes : List WriteOutcome

/-- The system after a restart over these files. -/
def restarted (restart : Restart) (files : RuntimeFiles) : RegistrySystem BridgeStore :=
  .start restart.hostId restart.nowMs
    (.opened files restart.commandExecutionPinsReady restart.writes)

/-- The label of a step. -/
inductive ProducerAction
  | act (a : TimedAction BridgeStore)
  | stop (restart : Restart)
  | stopDuring (a : TimedAction BridgeStore) (restart : Restart)

/-- One step: an action of the registry, or a stop and a restart. The process can stop
between two actions, and after any write in the middle of one. -/
inductive ProducerStep (sessionId : String) :
    ProducerSystem → ProducerAction → ProducerSystem → Prop
  | act {s : ProducerSystem} {a : TimedAction BridgeStore} {t : RegistrySystem BridgeStore}
      (step : RegistryStep text (bridgeStateStore text) s.system a t)
      (owned : OneOwnership sessionId s.system.world a) :
      ProducerStep sessionId s (.act a)
        ⟨t, (acknowledgementOf text sessionId s.system.world a).toList ++ s.acknowledged⟩
  | stop {s : ProducerSystem} (restart : Restart) :
      ProducerStep sessionId s (.stop restart)
        ⟨restarted restart s.system.world.store.files, s.acknowledged⟩
  | stopDuring {s : ProducerSystem} {a : TimedAction BridgeStore}
      {t : RegistrySystem BridgeStore} {added : List RuntimeFiles} {image : RuntimeFiles}
      (restart : Restart) (step : RegistryStep text (bridgeStateStore text) s.system a t)
      (owned : OneOwnership sessionId s.system.world a)
      (images : t.world.store.images = added ++ s.system.world.store.images)
      (written : image ∈ added) :
      ProducerStep sessionId s (.stopDuring a restart) ⟨restarted restart image, s.acknowledged⟩

/-- A Bridge that has just started, before the first event. -/
def freshSystem (restart : Restart) (files : RuntimeFiles) : ProducerSystem :=
  ⟨restarted restart files, []⟩

/-! ### The properties -/

/-- The content fingerprint of an event. -/
def Acknowledgement.fingerprint (x : Acknowledgement) : Except Thrown String :=
  producerEventFingerprint text x.request.event

/-- The event was taken as new. -/
def Acknowledgement.committed (x : Acknowledgement) : Bool :=
  decide (x.response.disposition = .committed)

/-- The order of the first event is below that of the second. -/
def Acknowledgement.Below (x y : Acknowledgement) : Prop :=
  OrderBelow x.request.producerEventOrder y.request.producerEventOrder

/-- The second event is the tuple of the first, with its content, answered as a duplicate. -/
structure Acknowledgement.Replays (y x : Acknowledgement) : Prop where
  producerEventId : y.request.producerEventId = x.request.producerEventId
  producerEventOrder : y.request.producerEventOrder = x.request.producerEventOrder
  fingerprint : y.fingerprint text = x.fingerprint text
  duplicate : y.response.disposition = .duplicate

/-- The orders of the events that were taken as new increase, and no event is taken as new
after another one was acknowledged with the same id, or with an order that is not below its
own, unless the content is the same. -/
def ProducerOrderKept : Prop :=
  ∀ sessionId restart files as s,
    Run (ProducerStep text sessionId) (freshSystem restart files) as s →
    (s.acknowledged.filter Acknowledgement.committed).Pairwise (fun later earlier =>
        earlier.Below later) ∧
      s.acknowledged.Pairwise fun later earlier => later.committed = true →
        later.fingerprint text ≠ earlier.fingerprint text →
        later.request.producerEventId ≠ earlier.request.producerEventId ∧ earlier.Below later

/-- A checkpoint is that of the event, or above it. -/
def AtLeast (x : Acknowledgement) : Option ProducerEventSourceCheckpointV1 → Prop
  | none => False
  | some checkpoint =>
      (SameTuple checkpoint x.request ∧ x.fingerprint text = .ok checkpoint.fingerprint) ∨
        OrderBelow x.request.producerEventOrder checkpoint.producerEventOrder

/-! ### One event -/

section
variable {text} {sessionId : String} {w w' : BridgeWorld} {a : TimedAction BridgeStore}
  {owner : OwnerRequest} {request : AgentAdapterEventRequest}
  {response : AgentAdapterEventResponse} {checkedAt at_ : RegistryReadings}

theorem eventOf_eq_some (h : eventOf sessionId a = some (owner, request)) :
    a.action = .request owner ∧ owner.operation = .event request ∧
      owner.sessionId = sessionId := by
  unfold eventOf at h
  split at h
  · next haction =>
    split at h
    · next hoperation =>
      split at h
      · next hid =>
        cases h
        exact ⟨haction, hoperation, hid⟩
      · cases h
    · cases h
  · cases h

theorem eventOf_eq_none (h : eventOf sessionId a = none) :
    ∀ owner source, a.action = .request owner → owner.operation = .event source →
      owner.sessionId ≠ sessionId := by
  intro owner source haction hoperation hid
  unfold eventOf at h
  rw [haction] at h
  dsimp only at h
  rw [hoperation] at h
  dsimp only at h
  rw [if_pos hid] at h
  cases h

/-- The event route leaves what `acknowledge` leaves. -/
theorem perform_event (haction : a.action = .request owner)
    (hoperation : owner.operation = .event request) :
    ((perform text (bridgeStateStore text) a.checkedAt a.at_ a.action).run w).2
      = ((acknowledge text a.checkedAt a.at_ owner request).run w).2 := by
  rw [haction]
  unfold perform handleOwnerRequest acknowledge
  rw [Effect.run_bind, Effect.run_bind, hoperation]
  rcases (requireCurrentOwner text (bridgeStateStore text) a.checkedAt owner).run w with
    ⟨thrown | headers, u⟩
  · rfl
  · rw [Effect.next_ok, Effect.next_ok, performOperation, Effect.run_bind]
    rcases (pushEventSource text (bridgeStateStore text) a.at_ owner.sessionId request).run u with
      ⟨thrown | response, v⟩
    · rfl
    · rfl

/-- An answered event has passed the owner check, which changes nothing. -/
theorem run_acknowledge (h : (acknowledge text checkedAt at_ owner request).run w
    = (.ok response, w')) :
    (pushEventSource text (bridgeStateStore text) at_ owner.sessionId request).run w
      = (.ok response, w') := by
  obtain ⟨headers, u, hcheck, hpush⟩ := Effect.run_bind_eq_ok.mp h
  have hok : ((requireCurrentOwner text (bridgeStateStore text) checkedAt owner).run w).1
      = .ok headers := by rw [hcheck]
  obtain ⟨-, -, -, -, -, hsame⟩ := requireCurrentOwner_cases hok
  rw [hcheck] at hsame
  rw [← show u = w from hsame]
  exact hpush

/-- A tuple above the checkpoint is above what the checkpoint is above. -/
theorem AtLeast.below {x : Acknowledgement} {checkpoint : ProducerEventSourceCheckpointV1}
    {order : String} (h : AtLeast text x (some checkpoint))
    (habove : OrderBelow checkpoint.producerEventOrder order) :
    OrderBelow x.request.producerEventOrder order := by
  rcases h with ⟨⟨-, hsame⟩, -⟩ | hbelow
  · rw [← hsame]
    exact habove
  · exact hbelow.trans habove

/-- An event of the Session keeps the checkpoint at or above an earlier tuple. -/
theorem stays_pushEventSource (x : Acknowledgement) (w : BridgeWorld) :
    OnStore (Stays (AtCheckpoint sessionId (AtLeast text x))) w
      ((pushEventSource text (bridgeStateStore text) at_ sessionId request).run w).2 := by
  intro hheld
  rcases pushEventSource_cases text at_ sessionId request w with
    ⟨thrown, hrun⟩ | ⟨session, fingerprint, -, ⟨hnone, -⟩ | ⟨checkpoint, hcheckpoint,
      ⟨-, hrun⟩ | ⟨habove, hrun⟩⟩⟩
  · rw [hrun]
    exact Stays.refl _ hheld
  · -- a tuple was taken before, so there is a checkpoint
    have hfalse := hheld.1
    rw [AtCheckpoint, hnone] at hfalse
    exact hfalse.elim
  · rw [hrun]
    exact (respects_bridgeStateStore text).answerAcceptedSource _ _ _ _ w hheld
  · rw [hrun]
    have hleast := hheld.1
    rw [AtCheckpoint, hcheckpoint] at hleast
    exact stays_acceptNewSource session (fun _ => .inr (hleast.below habove)) w hheld

/-- The event route keeps the checkpoint at or above an earlier tuple. -/
theorem acknowledge_stays (x : Acknowledgement) (haction : a.action = .request owner)
    (hid : owner.sessionId = sessionId) (hkeys : SessionKeys w)
    (hkept : ¬LosesOwner w a sessionId) :
    OnStore (Stays (AtCheckpoint sessionId (AtLeast text x))) w
      ((acknowledge text a.checkedAt a.at_ owner request).run w).2 := by
  have h : Respects (bridgeStateStore text) sessionId
      (Stays (AtCheckpoint sessionId (AtLeast text x))) := respects_bridgeStateStore text
  refine Effect.Leaves.bind_at h.onStore_trans (h.requireCurrentOwner haction hkeys hkept)
    fun headers _ => ?_
  rw [hid]
  exact stays_pushEventSource x _

/-- An event that is answered after an earlier tuple was committed is above it, or it is the
same tuple with the same content. -/
theorem acknowledge_ok {x : Acknowledgement} (hid : owner.sessionId = sessionId)
    (hheld : Holds (AtCheckpoint sessionId (AtLeast text x)) w.store)
    (h : (acknowledge text checkedAt at_ owner request).run w = (.ok response, w')) :
    x.Below ⟨request, response⟩ ∨ Acknowledgement.Replays text ⟨request, response⟩ x := by
  have hpush := run_acknowledge h
  rw [hid] at hpush
  have hleast := hheld.1
  rcases pushEventSource_cases text at_ sessionId request w with
    ⟨thrown, hrun⟩ | ⟨session, fingerprint, haccepted, ⟨hnone, -⟩ | ⟨checkpoint, hcheckpoint,
      ⟨hsame, hrun⟩ | ⟨habove, -⟩⟩⟩
  · rw [hrun] at hpush
    cases hpush
  · rw [AtCheckpoint, hnone] at hleast
    exact hleast.elim
  · rw [AtCheckpoint, hcheckpoint] at hleast
    rw [hrun] at hpush
    obtain ⟨hcontent, hresponse⟩ := answerAcceptedSource_ok hpush
    rcases hleast with ⟨hexact, hfingerprint⟩ | hbelow
    · right
      refine ⟨hsame.1.symm.trans hexact.1, hsame.2.symm.trans hexact.2, ?_, ?_⟩
      · rw [hfingerprint, hcontent]
        exact haccepted.fingerprint
      · rw [hresponse]
    · left
      rw [hsame.2] at hbelow
      exact hbelow
  · rw [AtCheckpoint, hcheckpoint] at hleast
    exact .inl (hleast.below habove)

/-- A tuple that is taken as new is the checkpoint at the end. -/
theorem acknowledge_committed (hid : owner.sessionId = sessionId)
    (h : (acknowledge text checkedAt at_ owner request).run w = (.ok response, w'))
    (hcommitted : response.disposition = .committed) :
    Holds (AtCheckpoint sessionId (AtLeast text ⟨request, response⟩)) w'.store := by
  have hpush := run_acknowledge h
  rw [hid] at hpush
  rcases pushEventSource_cases text at_ sessionId request w with
    ⟨thrown, hrun⟩ | ⟨session, fingerprint, haccepted, ⟨-, hrun⟩ | ⟨checkpoint, -,
      ⟨-, hrun⟩ | ⟨-, hrun⟩⟩⟩
  · rw [hrun] at hpush
    cases hpush
  · rw [hrun] at hpush
    exact acceptNewSource_committed (fun _ => .inl ⟨⟨rfl, rfl⟩, haccepted.fingerprint⟩) hpush
      hcommitted
  · rw [hrun] at hpush
    obtain ⟨-, hresponse⟩ := answerAcceptedSource_ok hpush
    rw [hresponse] at hcommitted
    cases hcommitted
  · rw [hrun] at hpush
    exact acceptNewSource_committed (fun _ => .inl ⟨⟨rfl, rfl⟩, haccepted.fingerprint⟩) hpush
      hcommitted

end

/-! ### Every run -/

section
variable {text} {sessionId : String}

/-- What every step keeps. -/
structure OrderInvariant (text : ProtocolText) (sessionId : String) (s : ProducerSystem) :
    Prop where
  registry : RegistryInvariant s.system
  checkpoint : ∀ x ∈ s.acknowledged, x.committed = true →
    Holds (AtCheckpoint sessionId (AtLeast text x)) s.system.world.store
  ordered : s.acknowledged.Pairwise fun later earlier =>
    earlier.committed = true → earlier.Below later ∨ later.Replays text earlier

/-- A step of the registry keeps the checkpoint at or above an earlier tuple. -/
theorem step_stays {s t : RegistrySystem BridgeStore} {a : TimedAction BridgeStore}
    (hkeys : SessionKeys s.world) (hstep : RegistryStep text (bridgeStateStore text) s a t)
    (howned : OneOwnership sessionId s.world a) (x : Acknowledgement) :
    OnStore (Stays (AtCheckpoint sessionId (AtLeast text x))) s.world t.world := by
  rw [hstep.world, Effect.final]
  rcases hevent : eventOf sessionId a with _ | ⟨owner, request⟩
  · exact (respects_bridgeStateStore text).perform hkeys howned.kept (eventOf_eq_none hevent)
      fun next hnext => howned.daemon next hnext _
  · obtain ⟨haction, hoperation, hid⟩ := eventOf_eq_some hevent
    rw [perform_event haction hoperation]
    exact acknowledge_stays x haction hid hkeys howned.kept

/-- What an action acknowledges is ordered after the tuples before it, and when it is a new
tuple, it is the checkpoint. -/
theorem acknowledgementOf_cases {s t : RegistrySystem BridgeStore} {a : TimedAction BridgeStore}
    (hstep : RegistryStep text (bridgeStateStore text) s a t) {y : Acknowledgement}
    (hy : acknowledgementOf text sessionId s.world a = some y) :
    (∀ x : Acknowledgement, Holds (AtCheckpoint sessionId (AtLeast text x)) s.world.store →
        x.Below y ∨ y.Replays text x) ∧
      (y.committed = true → Holds (AtCheckpoint sessionId (AtLeast text y)) t.world.store) := by
  unfold acknowledgementOf at hy
  rcases hevent : eventOf sessionId a with _ | ⟨owner, request⟩
  · rw [hevent] at hy
    cases hy
  · rw [hevent] at hy
    dsimp only at hy
    obtain ⟨haction, hoperation, hid⟩ := eventOf_eq_some hevent
    rcases hrun : (acknowledge text a.checkedAt a.at_ owner request).run s.world with
      ⟨thrown | response, w'⟩
    · rw [Effect.outcome, hrun] at hy
      cases hy
    · rw [Effect.outcome, hrun] at hy
      cases hy
      refine ⟨fun x hheld => acknowledge_ok hid hheld hrun, fun hcommitted => ?_⟩
      have hfinal : t.world = w' := by
        rw [hstep.world, Effect.final, perform_event haction hoperation, hrun]
      rw [hfinal]
      exact acknowledge_committed hid hrun (of_decide_eq_true hcommitted)

theorem OrderInvariant.step {s s' : ProducerSystem} {action : ProducerAction}
    (hinv : OrderInvariant text sessionId s)
    (hstep : ProducerStep text sessionId s action s') : OrderInvariant text sessionId s' := by
  cases hstep with
  | @act a t step owned =>
    have hstays := step_stays hinv.registry.keys step owned
    rcases hy : acknowledgementOf text sessionId s.system.world a with _ | y
    · exact ⟨hinv.registry.step step,
        fun x hx hcommitted => (hstays x (hinv.checkpoint x hx hcommitted)).1, hinv.ordered⟩
    · obtain ⟨hafter, hnew⟩ := acknowledgementOf_cases step hy
      refine ⟨hinv.registry.step step, fun x hx hcommitted => ?_, ?_⟩
      · rcases List.mem_cons.mp hx with rfl | hx
        · exact hnew hcommitted
        · exact (hstays x (hinv.checkpoint x hx hcommitted)).1
      · refine List.pairwise_cons.mpr ⟨fun x hx hcommitted => ?_, hinv.ordered⟩
        exact hafter x (hinv.checkpoint x hx hcommitted)
  | stop restart =>
    refine ⟨.start _ _ _, fun x hx hcommitted => ?_, hinv.ordered⟩
    have hfile := (hinv.checkpoint x hx hcommitted).2
    exact ⟨hfile, hfile⟩
  | @stopDuring a t added image restart step owned images written =>
    refine ⟨.start _ _ _, fun x hx hcommitted => ?_, hinv.ordered⟩
    obtain ⟨-, added', himages, hadded⟩ := step_stays hinv.registry.keys step owned x
      (hinv.checkpoint x hx hcommitted)
    -- the images of the step are determined
    have hsame : added' = added := List.append_cancel_right (himages.symm.trans images)
    have himage := hadded image (hsame ▸ written)
    exact ⟨himage, himage⟩

theorem orderInvariant_of_run {restart : Restart} {files : RuntimeFiles}
    {as : List ProducerAction} {s : ProducerSystem}
    (hrun : Run (ProducerStep text sessionId) (freshSystem restart files) as s) :
    OrderInvariant text sessionId s :=
  hrun.invariant (fun _ _ _ hinv hstep => hinv.step hstep)
    ⟨.start _ _ _, fun _ hx => absurd hx List.not_mem_nil, .nil⟩

/-- A replay is not taken as new. -/
theorem Acknowledgement.Replays.not_committed {x y : Acknowledgement} (h : y.Replays text x) :
    y.committed = false := by
  rw [Acknowledgement.committed, h.duplicate]
  rfl

/-- The orders of the committed tuples increase in the order of acceptance, also across
restarts. After a committed tuple no event is acknowledged whose order is not above its
order, but the same tuple with the same content, as a duplicate. -/
theorem committed_orders_increase {restart : Restart} {files : RuntimeFiles}
    {as : List ProducerAction} {s : ProducerSystem}
    (hrun : Run (ProducerStep text sessionId) (freshSystem restart files) as s) :
    (s.acknowledged.filter Acknowledgement.committed).Pairwise (fun later earlier =>
        earlier.Below later) ∧
      s.acknowledged.Pairwise fun later earlier =>
        earlier.committed = true → earlier.Below later ∨ later.Replays text earlier := by
  have hordered := (orderInvariant_of_run hrun).ordered
  refine ⟨?_, hordered⟩
  refine (List.Pairwise.filter Acknowledgement.committed hordered).imp_of_mem ?_
  intro later earlier hlater hearlier h
  have hcommitted := (List.mem_filter.mp hlater).2
  rcases h (List.mem_filter.mp hearlier).2 with hbelow | hreplay
  · exact hbelow
  · rw [hreplay.not_committed] at hcommitted
    cases hcommitted

end

end

/-! ### Two events with one id -/

/-- Actions of the registry, one after the other. -/
def ProducerSystem.after (text : ProtocolText) (sessionId : String) :
    ProducerSystem → List (TimedAction BridgeStore) → ProducerSystem
  | s, [] => s
  | s, a :: rest =>
      ProducerSystem.after text sessionId
        ⟨s.system.next text (bridgeStateStore text) a,
          (acknowledgementOf text sessionId s.system.world a).toList ++ s.acknowledged⟩ rest

/-- The action leaves the Session with its owner and comes from the registry. -/
def staysOwned (sessionId : String) (s : RegistrySystem BridgeStore)
    (a : TimedAction BridgeStore) : Bool :=
  ((s.world.registry.sessions.get? sessionId).all fun session =>
      !decide (a.action.Loses a.checkedAt.monotonicNow a.at_.monotonicNow sessionId session))
    && match a.action with
      | .storeChanges _ => false
      | _ => true

theorem oneOwnership_of_staysOwned {sessionId : String} {s : RegistrySystem BridgeStore}
    {a : TimedAction BridgeStore} (h : staysOwned sessionId s a = true) :
    OneOwnership sessionId s.world a := by
  rw [staysOwned, Bool.and_eq_true] at h
  obtain ⟨hkept, hregistry⟩ := h
  constructor
  · rintro ⟨session, hsession, hloses⟩
    rw [hsession, Option.all_some, Bool.not_eq_true', decide_eq_false_iff_not] at hkept
    exact hkept hloses
  · intro next hnext
    rw [hnext] at hregistry
    cases hregistry

theorem run_of_acts {text : ProtocolText} {sessionId : String} {s : ProducerSystem}
    {as : List (TimedAction BridgeStore)}
    (h : AllAdmissible text (bridgeStateStore text) (fun t a => staysOwned sessionId t a = true)
      s.system as) :
    Run (ProducerStep text sessionId) s (as.map .act) (s.after text sessionId as) := by
  induction as generalizing s with
  | nil => exact Run.nil s
  | cons a rest ih =>
    exact Run.cons (ProducerStep.act h.1.2.step (oneOwnership_of_staysOwned h.1.1)) (ih h.2)

/-- A digest that tells contents of odd and of even length apart. -/
def parityDigest : List BindingField → String
  | [_, _, .bytes content] =>
      if content.length % 2 = 0 then "AAAAAAAAAAAAAAAAAAAAAAAAAAAAAAAAAAAAAAAAAAA"
      else "EAAAAAAAAAAAAAAAAAAAAAAAAAAAAAAAAAAAAAAAAAA"
  | _ => "IAAAAAAAAAAAAAAAAAAAAAAAAAAAAAAAAAAAAAAAAAA"

theorem isCanonicalDigest_parityDigest (fields : List BindingField) :
    isCanonicalDigest (parityDigest fields) = true := by
  unfold parityDigest
  split
  · split <;> decide
  · decide

/-- Text functions with this digest. -/
def parityText : ProtocolText where
  hash := ⟨parityDigest, isCanonicalDigest_parityDigest⟩
  localeCompare := compare
  isNeedHumanError _ := true

/-- An action at a second of the monotonic clock, with the lease or the event id that it
would draw. -/
def bridgeAt (second : Nat) (drawn : String) (action : RegistryAction BridgeStore) :
    TimedAction BridgeStore :=
  let readings : RegistryReadings :=
    ⟨second * 1000000000, 0, "2026-01-01T00:00:00.000Z", drawn, drawn⟩
  ⟨action, readings, readings⟩

/-- A finished turn of the Session. -/
def doneEvent (agentText : String) : AgentAdapterEventInput where
  sessionId := "session"
  provider := "pi"
  agentText := agentText
  humanText := none
  projectName := some "project"
  workingDirectory := some "/project"
  harnessProvider := some "pi"
  createdAt := "2026-01-01T00:00:01.000Z"
  kind := .done

/-- Its request, always with the same producer event id. -/
def doneRequest (order agentText : String) : AgentAdapterEventRequest :=
  ⟨"AAAAAAAAAAAAAAAAAAAAAA", order, doneEvent agentText⟩

/-- The request on the event route. -/
def postDone (order agentText : String) : RegistryAction BridgeStore :=
  .request ⟨"session", some ("AAAAAAAAAAAAAAAAAAAAAA", "lease"),
    .event (doneRequest order agentText)⟩

/-- The registration of the Session. -/
def registerPi : RegistryAction BridgeStore :=
  .register {
    sessionId := "session"
    provider := "pi"
    projectName := "project"
    cwd := "/project"
    nameText := "name"
    openingText := none
    latestActivityText := none
    harnessProvider := none
    pid := none
    status := some .working
    driverInstanceId := "AAAAAAAAAAAAAAAAAAAAAA" }

/-- A Bridge without Sessions that has just started. -/
def emptyBridge : ProducerSystem := freshSystem ⟨"host", 0, true, []⟩ ⟨emptyState "epoch", []⟩

/-- A registration and two events with one id, at increasing orders. -/
def reusedId : List (TimedAction BridgeStore) :=
  [bridgeAt 1 "lease" registerPi,
    bridgeAt 2 "event-1" (postDone "00000000000000000000000000000001" "Done"),
    bridgeAt 3 "event-2" (postDone "00000000000000000000000000000002" "Done!")]

/-- The first event and its answer. -/
def firstDone : Acknowledgement where
  request := doneRequest "00000000000000000000000000000001" "Done"
  response := ⟨"event-1", "AAAAAAAAAAAAAAAAAAAAAA", "00000000000000000000000000000001",
    .committed⟩

/-- The second event and its answer. -/
def secondDone : Acknowledgement where
  request := doneRequest "00000000000000000000000000000002" "Done!"
  response := ⟨"event-2", "AAAAAAAAAAAAAAAAAAAAAA", "00000000000000000000000000000002",
    .committed⟩

set_option maxRecDepth 20000 in
theorem reusedId_run :
    Run (ProducerStep parityText "session") emptyBridge (reusedId.map .act)
      (emptyBridge.after parityText "session" reusedId) :=
  run_of_acts (by decide +kernel)

set_option maxRecDepth 20000 in
theorem reusedId_acknowledged :
    (emptyBridge.after parityText "session" reusedId).acknowledged = [secondDone, firstDone] := by
  decide +kernel

set_option maxRecDepth 20000 in
theorem reusedId_fingerprints :
    secondDone.fingerprint parityText ≠ firstDone.fingerprint parityText := by
  decide +kernel

/-- Both events are committed, in the order of their acceptance. -/
theorem committed_orders_increase_reusedId :
    ((emptyBridge.after parityText "session" reusedId).acknowledged.filter
        Acknowledgement.committed).Pairwise (fun later earlier => earlier.Below later) ∧
      (emptyBridge.after parityText "session" reusedId).acknowledged.Pairwise
        fun later earlier => earlier.committed = true →
          earlier.Below later ∨ later.Replays parityText earlier :=
  committed_orders_increase reusedId_run

/-- The second event is taken as new, with another content under the id of the first. -/
theorem not_producerOrderKept : ¬ProducerOrderKept parityText := by
  intro hkept
  have hpairs := (hkept _ _ _ _ _ reusedId_run).2
  rw [reusedId_acknowledged] at hpairs
  have hpair := (List.pairwise_cons.mp hpairs).1 firstDone (List.mem_cons_self ..)
  exact (hpair rfl reusedId_fingerprints).1 rfl

end Ariava.Proofs.ProducerOrder
