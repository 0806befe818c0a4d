import Ariava.Lib.Lease
import Ariava.AgentAdapter.Server

/-!
# `Ariava.AgentAdapter.RegistryFrames`: what the registry methods leave alone

A registered Session is a tenure of its owner, so the Sessions of a registry are a lease
table (`RegistryWorld.leases`). A method is quiet (`Quiet`) when it changes neither that
table nor the command maps. Everything that the registry does about terminal events,
handles and its store is quiet, and the proofs about ownership and about commands use only
that.
-/

set_option autoImplicit false

namespace Ariava.AgentAdapter

open Ariava.Lib
open Ariava.Protocol
open Ariava.StateStore

/-- The tenure of the owner of a Session. -/
def tenureOf (session : RegisteredSession) : Tenure String String Nat :=
  ⟨session.driverInstanceId, session.ownerLease, session.lastOwnerLeaseMonotonic⟩

/-- The owners of the Sessions, as a lease table. -/
def RegistryWorld.leases {ω : Type} (w : RegistryWorld ω) :
    LeaseTable String String String Nat where
  held sessionId := (w.registry.sessions.get? sessionId).map tenureOf
  used lease := lease ∈ w.drawnLeases

/-- The registry with other command maps. -/
def RegistryWorld.withCommands {ω : Type} (w : RegistryWorld ω) (t : CommandTables) :
    RegistryWorld ω :=
  { w with registry := { w.registry with commands := t } }

section
variable {ω : Type} (w : RegistryWorld ω) (t t' : CommandTables)

@[simp] theorem RegistryWorld.withCommands_commands :
    (w.withCommands t).registry.commands = t := rfl

@[simp] theorem RegistryWorld.withCommands_sessions :
    (w.withCommands t).registry.sessions = w.registry.sessions := rfl

@[simp] theorem RegistryWorld.withCommands_disposed :
    (w.withCommands t).registry.disposed = w.registry.disposed := rfl

@[simp] theorem RegistryWorld.withCommands_withCommands :
    (w.withCommands t).withCommands t' = w.withCommands t' := rfl

@[simp] theorem RegistryWorld.withCommands_leases : (w.withCommands t).leases = w.leases := rfl

end

/-- Every Session is registered under its own id. -/
def SessionKeys {ω : Type} (w : RegistryWorld ω) : Prop :=
  ∀ sessionId session, w.registry.sessions.get? sessionId = some session →
    session.sessionId = sessionId

/-- Neither the owners nor the command maps change. -/
structure Quiet {ω : Type} (w w' : RegistryWorld ω) : Prop where
  leases : w'.leases = w.leases
  commands : w'.registry.commands = w.registry.commands
  disposed : w'.registry.disposed = w.registry.disposed
  keys : SessionKeys w → SessionKeys w'

namespace Quiet

variable {ω α β : Type}

theorem refl (w : RegistryWorld ω) : Quiet w w := ⟨rfl, rfl, rfl, id⟩

theorem trans (u v w : RegistryWorld ω) (h₁ : Quiet u v) (h₂ : Quiet v w) : Quiet u w where
  leases := h₂.leases.trans h₁.leases
  commands := h₂.commands.trans h₁.commands
  disposed := h₂.disposed.trans h₁.disposed
  keys := fun hkeys => h₂.keys (h₁.keys hkeys)

/-- The rules of `Leaves` for `Quiet`. -/
theorem pure' (a : α) : Effect.Leaves Quiet (pure a : RegistryEffect ω α) :=
  Effect.Leaves.pure refl a

theorem throw' (thrown : Thrown) : Effect.Leaves Quiet (throw thrown : RegistryEffect ω α) :=
  Effect.Leaves.throw refl thrown

theorem ofExcept (r : Except Thrown α) :
    Effect.Leaves Quiet (Effect.ofExcept r : RegistryEffect ω α) :=
  Effect.Leaves.ofExcept refl r

theorem bind {p : RegistryEffect ω α} {f : α → RegistryEffect ω β} (hp : Effect.Leaves Quiet p)
    (hf : ∀ a, Effect.Leaves Quiet (f a)) : Effect.Leaves Quiet (p >>= f) :=
  Effect.Leaves.bind trans hp hf

theorem tryCatch' {p : RegistryEffect ω α} {h : Thrown → RegistryEffect ω α}
    (hp : Effect.Leaves Quiet p) (hh : ∀ thrown, Effect.Leaves Quiet (h thrown)) :
    Effect.Leaves Quiet (tryCatch p h) :=
  Effect.Leaves.tryCatch trans hp hh

end Quiet

namespace AgentAdapterRegistry

variable {ω α : Type} {text : ProtocolText} {store : RegistryStateStore ω}
  {at_ : RegistryReadings}

/-! ### The primitive calls -/

theorem run_read (w : RegistryWorld ω) : (read : RegistryEffect ω _).run w = (.ok w.registry, w) :=
  rfl

theorem run_storeCall (p : Effect Thrown ω α) (w : RegistryWorld ω) :
    (storeCall p).run w = ((p.run w.store).1, { w with store := (p.run w.store).2 }) := rfl

theorem run_setCommands (f : CommandTables → CommandTables) (w : RegistryWorld ω) :
    (setCommands f).run w = (.ok (), w.withCommands (f w.registry.commands)) := rfl

theorem run_setSessions (f : Dict String RegisteredSession → Dict String RegisteredSession)
    (w : RegistryWorld ω) :
    (setSessions f).run w
      = (.ok (), { w with registry := { w.registry with sessions := f w.registry.sessions } }) :=
  rfl

theorem run_onMutation (reason : RegistryMutationReason) (w : RegistryWorld ω) :
    (onMutation reason).run w = (.ok (), { w with mutations := reason :: w.mutations }) := rfl

theorem quiet_read : Effect.Leaves Quiet (read : RegistryEffect ω AgentAdapterRegistry) :=
  Quiet.refl

theorem quiet_storeCall (p : Effect Thrown ω α) : Effect.Leaves Quiet (storeCall p) :=
  fun _ => ⟨rfl, rfl, rfl, id⟩

theorem quiet_onMutation (reason : RegistryMutationReason) :
    Effect.Leaves Quiet (onMutation reason : RegistryEffect ω Unit) :=
  fun _ => ⟨rfl, rfl, rfl, id⟩

theorem quiet_setTerminals (f : TerminalTables → TerminalTables) :
    Effect.Leaves Quiet (setTerminals f : RegistryEffect ω Unit) :=
  fun _ => ⟨rfl, rfl, rfl, id⟩

/-- Writing a Session over one of the same owner and id changes no owner. -/
theorem quiet_setSession {w : RegistryWorld ω} {sessionId : String}
    {previous next : RegisteredSession}
    (hprevious : w.registry.sessions.get? sessionId = some previous)
    (howner : tenureOf next = tenureOf previous) (hid : next.sessionId = previous.sessionId) :
    Quiet w ((setSessions fun sessions => sessions.set sessionId next).run w).2 := by
  rw [run_setSessions]
  refine ⟨?_, rfl, rfl, fun hkeys id session hsession => ?_⟩
  · refine congrArg (fun held => LeaseTable.mk held _) (funext fun id => ?_)
    show ((w.registry.sessions.set sessionId next).get? id).map tenureOf
      = (w.registry.sessions.get? id).map tenureOf
    by_cases h : id = sessionId
    · rw [h, Dict.get?_set_self, hprevious, Option.map_some, Option.map_some, howner]
    · rw [Dict.get?_set_ne _ _ h]
  · rcases Dict.get?_set_cases hsession with ⟨rfl, rfl⟩ | ⟨-, hold⟩
    · rw [hid]
      exact hkeys _ _ hprevious
    · exact hkeys _ _ hold

/-! ### Terminal events -/

section
variable (text store at_)

theorem quiet_cancelTerminalRetry (sessionId : String) (options : CancelTerminalOptions) :
    Effect.Leaves Quiet (cancelTerminalRetry text store at_ sessionId options) := by
  unfold cancelTerminalRetry
  refine Quiet.bind quiet_read fun registry => Quiet.bind (Quiet.ofExcept _) fun cancellation => ?_
  refine Quiet.bind ?_ fun _ => quiet_setTerminals _
  unfold persistCancellation
  split
  · exact Effect.Leaves.ite (fun _ => Quiet.pure' ()) fun _ => quiet_storeCall _
  · exact Quiet.pure' ()

/-- Writing a Session over the live one of the same owner is quiet, and so is the call of
`onMutation` after it. -/
theorem quiet_commitTerminalSession {w : RegistryWorld ω} {sessionId : String}
    {previous next : RegisteredSession}
    (hprevious : w.registry.sessions.get? sessionId = some previous)
    (howner : tenureOf next = tenureOf previous) (hid : next.sessionId = previous.sessionId) :
    Quiet w ((commitTerminalSession sessionId previous next).run w).2 := by
  unfold commitTerminalSession
  refine Effect.Leaves.bind_at Quiet.trans (quiet_setSession hprevious howner hid) fun _ _ => ?_
  exact Effect.Leaves.ite (fun _ => Quiet.pure' ()) (fun _ => quiet_onMutation _) _

theorem quiet_commitPendingTerminal (sessionId : String) (pending : PendingTerminal)
    (fingerprint : String) :
    Effect.Leaves Quiet (commitPendingTerminal text store at_ sessionId pending fingerprint) := by
  intro w
  unfold commitPendingTerminal
  refine Effect.Leaves.bind_at Quiet.trans (quiet_read w) fun registry hread => ?_
  cases hread
  show Quiet w _
  split
  · exact Quiet.throw' _ w
  · rename_i current hcurrent
    -- The store call keeps the registry, so the Session is still the one that was read.
    refine Effect.Leaves.bind_at Quiet.trans (quiet_storeCall _ w) fun _ _ => ?_
    refine Effect.Leaves.bind_at Quiet.trans
      (quiet_commitTerminalSession hcurrent rfl rfl) fun _ _ => ?_
    exact quiet_cancelTerminalRetry text store at_ sessionId _ _

theorem quiet_scheduleTerminalRetry (sessionId : String) :
    Effect.Leaves Quiet (scheduleTerminalRetry sessionId : RegistryEffect ω Unit) := by
  unfold scheduleTerminalRetry
  refine Quiet.bind quiet_read fun registry => ?_
  exact Effect.Leaves.ite (fun _ => Quiet.pure' ()) fun _ => quiet_setTerminals _

theorem quiet_promotePendingTerminal (sessionId : String) (pending : PendingTerminal)
    (fingerprint : String) :
    Effect.Leaves Quiet (promotePendingTerminal text store at_ sessionId pending fingerprint) := by
  unfold promotePendingTerminal
  refine Quiet.tryCatch' (quiet_commitPendingTerminal text store at_ _ _ _) fun thrown => ?_
  exact Quiet.bind (quiet_scheduleTerminalRetry sessionId) fun _ => Quiet.throw' thrown

theorem quiet_flushDelayedTerminalEvent (sessionId : String) :
    Effect.Leaves Quiet (flushDelayedTerminalEvent text store at_ sessionId) := by
  unfold flushDelayedTerminalEvent
  refine Quiet.bind quiet_read fun registry => Effect.Leaves.ite (fun _ => Quiet.pure' ())
    fun _ => ?_
  split
  · exact Quiet.pure' ()
  · refine Effect.Leaves.ite (fun _ => ?_) fun _ => quiet_cancelTerminalRetry text store at_ _ _
    refine Quiet.tryCatch' ?_ fun _ => quiet_scheduleTerminalRetry sessionId
    unfold attemptDelayedTerminal
    exact Quiet.bind (Quiet.ofExcept _) fun _ => quiet_commitPendingTerminal text store at_ _ _ _

/-- A flush for a registered Session does not throw: its commit is attempted, and a failure
arms the retry timer. -/
theorem flushDelayedTerminalEvent_ok {w : RegistryWorld ω} {sessionId : String}
    (hregistered : w.registry.sessions.contains sessionId = true) :
    ((flushDelayedTerminalEvent text store at_ sessionId).run w).1 = .ok () := by
  unfold flushDelayedTerminalEvent
  rw [Effect.run_bind, run_read, Effect.next_ok]
  split
  · rfl
  · split
    · rfl
    · rw [Effect.run_tryCatch]
      rcases (attemptDelayedTerminal text store at_ sessionId _).run w with ⟨r, v⟩
      cases r with
      | ok _ => rfl
      | error thrown =>
        rw [Effect.handle_error, scheduleTerminalRetry, Effect.run_bind, run_read, Effect.next_ok]
        split <;> rfl

theorem quiet_terminalRetryTimerFires (sessionId : String) :
    Effect.Leaves Quiet (terminalRetryTimerFires text store at_ sessionId) := by
  unfold terminalRetryTimerFires
  refine Quiet.bind (quiet_setTerminals _) fun _ => Quiet.bind quiet_read fun registry => ?_
  exact Effect.Leaves.ite (fun _ => Quiet.pure' ())
    fun _ => quiet_flushDelayedTerminalEvent text store at_ _

/-! ### Registration -/

theorem quiet_releaseDurably (sessionId : String) :
    Effect.Leaves Quiet (releaseDurably text store at_ sessionId) := by
  unfold releaseDurably
  refine Quiet.bind (quiet_storeCall _) fun _ => Quiet.bind quiet_read fun registry => ?_
  refine Effect.Leaves.ite (fun _ => quiet_cancelTerminalRetry text store at_ _ _) fun _ => ?_
  exact Quiet.bind (quiet_storeCall _) fun _ => quiet_storeCall _

theorem quiet_recoverTuple (input : RegisterSessionInput)
    (reservation : PersistedProducerEventReservationV1) :
    Effect.Leaves Quiet (recoverTuple text store input reservation) := by
  unfold recoverTuple
  refine Quiet.bind (quiet_storeCall _) fun tuple => ?_
  split
  · exact Quiet.pure' _
  · exact Quiet.bind (Quiet.ofExcept _) fun _ => Quiet.pure' _

theorem quiet_recoverRecentEvent (input : RegisterSessionInput)
    (reservation : PersistedProducerEventReservationV1) :
    Effect.Leaves Quiet (recoverRecentEvent text store input reservation) := by
  unfold recoverRecentEvent
  refine Quiet.bind (quiet_storeCall _) fun recent => ?_
  split
  · exact Quiet.pure' _
  · exact Quiet.bind (Quiet.ofExcept _) fun _ => Quiet.pure' _

theorem quiet_restoreFromReservations (input : RegisterSessionInput)
    (reservations : List PersistedProducerEventReservationV1) :
    Effect.Leaves Quiet (restoreFromReservations text store input reservations) := by
  induction reservations with
  | nil => exact Quiet.pure' none
  | cons reservation rest ih =>
    unfold restoreFromReservations
    refine Quiet.bind (quiet_recoverTuple text store _ _) fun tuple => ?_
    split
    · exact Quiet.pure' _
    · refine Quiet.bind (quiet_recoverRecentEvent text store _ _) fun recent => ?_
      split
      · exact Quiet.pure' _
      · exact ih

theorem quiet_restoreForRegistration (input : RegisterSessionInput)
    (previous : Option RegisteredSession) (persisted : Option CanonicalSessionState) :
    Effect.Leaves Quiet (restoreForRegistration text store input previous persisted) := by
  unfold restoreForRegistration
  refine Effect.Leaves.ite (fun _ => ?_) fun _ => Quiet.pure' _
  refine Quiet.bind ?_ fun recovery => ?_
  · unfold restorePersistedTerminalForRegistration
    refine Effect.Leaves.ite (fun _ => Quiet.pure' _) fun _ => ?_
    exact Quiet.bind (quiet_storeCall _) fun _ => quiet_restoreFromReservations text store _ _
  · split
    · exact Quiet.pure' _
    · refine Quiet.bind (Quiet.ofExcept _) fun _ => Quiet.bind (quiet_storeCall _) fun _ => ?_
      exact quiet_storeCall _
    · exact Quiet.bind (quiet_storeCall _) fun _ => quiet_storeCall _

theorem quiet_persistRegistration (input : RegisterSessionInput)
    (transition : RegistrationTransition) :
    Effect.Leaves Quiet (persistRegistration text store at_ input transition) := by
  unfold persistRegistration
  split
  · exact quiet_storeCall _
  · exact quiet_cancelTerminalRetry text store at_ _ _

/-! ### Producer events and handles -/

theorem quiet_promoteWhen (promoteNow : Bool) (sessionId : String) (pending : PendingTerminal)
    (fingerprint : String) :
    Effect.Leaves Quiet (promoteWhen text store at_ promoteNow sessionId pending fingerprint) := by
  unfold promoteWhen
  exact Effect.Leaves.ite (fun _ => quiet_promotePendingTerminal text store at_ _ _ _)
    fun _ => Quiet.pure' ()

theorem quiet_answerAcceptedSource (sessionId : String)
    (checkpoint : ProducerEventSourceCheckpointV1) (request : AgentAdapterEventRequest)
    (fingerprint : String) :
    Effect.Leaves Quiet
      (answerAcceptedSource text store at_ sessionId checkpoint request fingerprint) := by
  unfold answerAcceptedSource
  refine Effect.Leaves.ite (fun _ => Quiet.throw' _) fun _ => ?_
  refine Quiet.bind ?_ fun _ => Quiet.pure' _
  unfold promoteAcceptedSource
  refine Quiet.bind (quiet_storeCall _) fun reservation => ?_
  split
  · exact Quiet.pure' ()
  · refine Effect.Leaves.ite (fun _ => Quiet.throw' _) fun _ => ?_
    refine Quiet.bind (quiet_storeCall _) fun tuple => ?_
    split
    · exact Quiet.throw' _
    · refine Quiet.bind (quiet_setTerminals _) fun _ => Quiet.bind quiet_read fun registry => ?_
      exact quiet_promoteWhen text store at_ _ _ _ _

theorem quiet_stageAndCommit (sessionId : String) (request : AgentAdapterEventRequest)
    (fingerprint : String) (tuple : PendingTerminal)
    (reservation : PersistedProducerEventReservationV1) (promoteNow : Bool) :
    Effect.Leaves Quiet (stageAndCommit text store at_ sessionId request fingerprint tuple
      reservation promoteNow) := by
  unfold stageAndCommit
  refine Quiet.bind (quiet_setTerminals _) fun _ => Quiet.bind (quiet_storeCall _) fun _ => ?_
  exact Quiet.bind (quiet_promoteWhen text store at_ _ _ _ _) fun _ => Quiet.pure' _

theorem quiet_carryOutPlan (sessionId : String) (request : AgentAdapterEventRequest)
    (fingerprint : String) (existing : Option PendingTerminal)
    (reservation : Option PersistedProducerEventReservationV1) (plan : TerminalEventPlan) :
    Effect.Leaves Quiet
      (carryOutPlan text store at_ sessionId request fingerprint existing reservation plan) := by
  unfold carryOutPlan
  split
  · exact Quiet.throw' _
  · split
    · exact Quiet.throw' _
    · exact Quiet.bind (quiet_promoteWhen text store at_ _ _ _ _) fun _ => Quiet.pure' _
  · exact Quiet.pure' _
  · split
    · exact Quiet.throw' _
    · exact quiet_stageAndCommit text store at_ _ _ _ _ _ _
  · refine Quiet.bind (quiet_cancelTerminalRetry text store at_ _ _) fun _ => ?_
    exact Quiet.bind (quiet_storeCall _) fun _ => quiet_stageAndCommit text store at_ _ _ _ _ _ _
  · exact Quiet.bind (quiet_storeCall _) fun _ => quiet_stageAndCommit text store at_ _ _ _ _ _ _

theorem quiet_acceptNewSource (sessionId : String) (session : RegisteredSession)
    (request : AgentAdapterEventRequest) (fingerprint : String) :
    Effect.Leaves Quiet
      (acceptNewSource text store at_ sessionId session request fingerprint) := by
  unfold acceptNewSource
  refine Quiet.bind quiet_read fun registry => Quiet.bind (Quiet.ofExcept _)
    fun duplicate => Quiet.bind ?_ fun reservation => Quiet.bind ?_ fun tuple => ?_
  · exact Effect.Leaves.ite (fun _ => Quiet.pure' _) fun _ => quiet_storeCall _
  · unfold tupleFor
    split
    · exact Quiet.pure' _
    · exact quiet_storeCall _
  · exact Quiet.bind (Quiet.ofExcept _) fun plan => quiet_carryOutPlan text store at_ _ _ _ _ _ _

theorem quiet_pushEventSource (sessionId : String) (request : AgentAdapterEventRequest) :
    Effect.Leaves Quiet (pushEventSource text store at_ sessionId request) := by
  unfold pushEventSource
  refine Quiet.bind quiet_read fun registry => ?_
  split
  · exact Quiet.throw' _
  refine Effect.Leaves.ite (fun _ => ?_) fun _ => Quiet.throw' _
  refine Quiet.bind (Quiet.ofExcept _) fun input => Quiet.bind (Quiet.ofExcept _)
    fun fingerprint => Quiet.bind (quiet_storeCall _) fun checkpoint => ?_
  split
  · exact quiet_acceptNewSource text store at_ _ _ _ _
  · refine Effect.Leaves.ite (fun _ => quiet_answerAcceptedSource text store at_ _ _ _ _)
      fun _ => Effect.Leaves.ite (fun _ => quiet_acceptNewSource text store at_ _ _ _ _)
        fun _ => Quiet.throw' _

theorem quiet_handleSession (sessionId : String) (request : HandleSessionRequest) :
    Effect.Leaves Quiet (handleSession store at_ sessionId request) := by
  unfold handleSession
  refine Quiet.bind quiet_read fun registry => ?_
  split
  · exact Quiet.throw' _
  · refine Effect.Leaves.ite (fun _ => Quiet.throw' _) fun _ => ?_
    exact Quiet.bind (quiet_storeCall _) fun _ => quiet_onMutation _

end

end AgentAdapterRegistry

end Ariava.AgentAdapter
