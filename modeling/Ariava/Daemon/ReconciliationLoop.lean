import Ariava.Lib.Run

/-!
# `Ariava.Daemon.ReconciliationLoop`: passes, polls and the reconciliation timer

`BridgeDaemon` in `daemon.ts`, its pass in `daemon/sync-workflow.ts` and the failure policy in
`daemon/snapshot-policy.ts`, as far as they decide when the daemon looks at the registry next.

`runForever` runs a pass, and then either goes on at once, when a reconciliation is requested, or
waits for the next poll. A registry mutation sets a timer of 300 ms, whose callback raises the
request and ends the wait. A failed publication uses the same timer. A pass clears the request
when it starts, reads the Sessions of the driver, and publishes them.

The daemon runs on one thread, so what it does between two `await`s is one step. Each
constructor of `DaemonEvent` is such a step: the arrival of an answer, a callback or a
mutation. `DaemonEvent.apply` is what the code does then, up to the next `await`.

The registry is seen as the number of its mutations. `readThrough` is their number when the
last pass read the Sessions. The shell has one driver, the one over the registry
(`createBridgeDaemonShell`), and no other driver would write what is modelled here.
-/

set_option autoImplicit false

namespace Ariava.Daemon

open Ariava.Lib

/-! ### The failure policy -/

/-- `SnapshotFailureAction`. -/
inductive SnapshotFailureAction
  | retry
  | recoverPipeline
  | markOffline
deriving DecidableEq

/-- `SnapshotFailureState`. -/
structure SnapshotFailureState where
  count : Nat
  lastLogAt : Int
deriving DecidableEq

/-- `SNAPSHOT_FAILURE_ESCALATION_THRESHOLD`. -/
def snapshotFailureEscalationThreshold : Nat := 2

/-- `SNAPSHOT_FAILURE_LOG_THROTTLE_MS`. -/
def snapshotFailureLogThrottleMs : Int := 30000

/-- `createInitialSnapshotFailureState`. -/
def createInitialSnapshotFailureState : SnapshotFailureState :=
  { count := 0, lastLogAt := 0 }

/-- `resetSnapshotFailures`. -/
def resetSnapshotFailures (state : SnapshotFailureState) : SnapshotFailureState :=
  { count := 0, lastLogAt := state.lastLogAt }

/-- `SnapshotLogDecision`. -/
structure SnapshotLogDecision where
  next : SnapshotFailureState
  shouldLog : Bool

/-- `decideSnapshotFailureLog` in the phase `publish`, the only one it is called in. -/
def decideSnapshotFailureLog (state : SnapshotFailureState) (now : Int) : SnapshotLogDecision :=
  if snapshotFailureLogThrottleMs ≤ now - state.lastLogAt then
    { next := { count := state.count, lastLogAt := now }, shouldLog := true }
  else { next := { count := state.count, lastLogAt := state.lastLogAt }, shouldLog := false }

/-- `SnapshotFailureEvent.type`. -/
inductive SnapshotFailureType
  | publicationFailure
  | recoveryFailure
deriving DecidableEq

/-- `SnapshotFailureDecision`. -/
structure SnapshotFailureDecision where
  next : SnapshotFailureState
  action : SnapshotFailureAction
  shouldLog : Bool

/-- `decideSnapshotFailure`. -/
def decideSnapshotFailure (state : SnapshotFailureState) (type : SnapshotFailureType)
    (now : Int) : SnapshotFailureDecision :=
  match type with
  | .recoveryFailure =>
      { next := { count := state.count, lastLogAt := now }, action := .markOffline,
        shouldLog := true }
  | .publicationFailure =>
      let throttled := decide (now - state.lastLogAt < snapshotFailureLogThrottleMs)
      let count := state.count + 1
      { next := { count := count, lastLogAt := if throttled then state.lastLogAt else now }
        action :=
          if snapshotFailureEscalationThreshold ≤ count then .recoverPipeline else .retry
        shouldLog := !throttled }

/-! ### The daemon -/

/-- Where `runForever` is. The phases from `starting` on are the stretches of a pass between
the `await`s that matter here. -/
inductive Phase
  /-- `runForever` is not running. -/
  | off
  /-- At the head of the loop. -/
  | looping
  /-- The pass awaits `validateStartup`. -/
  | starting
  /-- The pass has cleared the request and has not read the Sessions. -/
  | acknowledged
  /-- The pass awaits `flushCurrentSessionsSnapshot`. -/
  | publishing
  /-- The pass awaits the recovery in `handleCurrentSessionsSnapshotFailure`. -/
  | recovering
  /-- The pass drains events, handles and commands. -/
  | draining
  /-- `runForever` awaits `waitForNextPoll`. -/
  | waiting
deriving DecidableEq

/-- `SessionPublicationOutcome`, less the details of a block. `recipientsNotReady` tells the
two ways of a deferral apart: the Relay said so to the flush itself, which then resets the
failures, or the upload actions returned it. -/
inductive SessionPublicationOutcome
  | published
  | unchanged
  | locallyBlocked
  | deferred (recipientsNotReady : Bool)
  | failClosed
deriving DecidableEq

/-- The fields of `BridgeDaemon`. The timer is set or not. -/
structure BridgeDaemon where
  stopped : Bool
  startupValidated : Bool
  runtimeDisposed : Bool
  reconciliationTimer : Bool
  reconciliationRequested : Bool
  snapshotFailureState : SnapshotFailureState
  phase : Phase
  /-- The mutations of the registry so far. -/
  mutations : Nat
  /-- The mutations that the last read of the Sessions saw. -/
  readThrough : Nat
deriving DecidableEq

namespace BridgeDaemon

/-- The daemon as it is constructed, over a registry with no mutation. -/
def initial : BridgeDaemon where
  stopped := false
  startupValidated := false
  runtimeDisposed := false
  reconciliationTimer := false
  reconciliationRequested := true
  snapshotFailureState := createInitialSnapshotFailureState
  phase := .off
  mutations := 0
  readThrough := 0

/-- `scheduleRegistryReconciliation`. -/
def scheduleRegistryReconciliation (d : BridgeDaemon) : BridgeDaemon :=
  if d.stopped || d.reconciliationTimer then d else { d with reconciliationTimer := true }

/-- The timer is cancelled and forgotten. -/
def cancelReconciliationTimer (d : BridgeDaemon) : BridgeDaemon :=
  { d with reconciliationTimer := false }

/-- `cancelPollWait`: a wait for the next poll ends. -/
def cancelPollWait (d : BridgeDaemon) : BridgeDaemon :=
  if d.phase = .waiting then { d with phase := .looping } else d

/-- The callback of the timer. -/
def reconciliationDue (d : BridgeDaemon) : BridgeDaemon :=
  { d with reconciliationTimer := false, reconciliationRequested := true }.cancelPollWait

/-- `onRegistryMutation`, called with a mutation. -/
def onRegistryMutation (d : BridgeDaemon) : BridgeDaemon :=
  { d with mutations := d.mutations + 1 }.scheduleRegistryReconciliation

/-- `stop`. The state store says whether the recovery of the commands is complete. -/
def stop (d : BridgeDaemon) (commandRecoveryComplete : Bool) : BridgeDaemon :=
  let d := { d with stopped := true }
  if d.runtimeDisposed then d
  else
    let d := d.cancelReconciliationTimer.cancelPollWait
    if commandRecoveryComplete then { d with runtimeDisposed := true } else d

/-- The rest of the loop's body, after a pass that did not break it. -/
def afterPass (d : BridgeDaemon) : BridgeDaemon :=
  if d.reconciliationRequested then { d with phase := .looping }
  else if d.stopped then { d with phase := .looping }
  else { d with phase := .waiting }

/-- The rest of the loop's body, after a pass that rejected. -/
def afterRejection (d : BridgeDaemon) (isAbortError : Bool) : BridgeDaemon :=
  if d.stopped || isAbortError then { d with phase := .off } else d.afterPass

/-- `resetCurrentSessionsSnapshotFailures`. -/
def resetCurrentSessionsSnapshotFailures (d : BridgeDaemon) : BridgeDaemon :=
  { d with snapshotFailureState := resetSnapshotFailures d.snapshotFailureState }

/-- The end of `flushCurrentSessionsSnapshot` with an outcome: the failures are reset when the
Relay accepted the publication, or when it said that the recipients are not ready. -/
def flushCurrentSessionsSnapshot (d : BridgeDaemon) (outcome : SessionPublicationOutcome) :
    BridgeDaemon :=
  match outcome with
  | .published | .deferred true => d.resetCurrentSessionsSnapshotFailures
  | .unchanged | .locallyBlocked | .deferred false | .failClosed => d

/-- `recordLocalSnapshotPublicationFailure`. -/
def recordLocalSnapshotPublicationFailure (d : BridgeDaemon) (now : Int) : BridgeDaemon :=
  { d with snapshotFailureState := (decideSnapshotFailureLog d.snapshotFailureState now).next
    }.scheduleRegistryReconciliation

/-- `handleCurrentSessionsSnapshotFailure` up to the recovery, which it awaits, or to its end. -/
def handleCurrentSessionsSnapshotFailure (d : BridgeDaemon) (now : Int) : BridgeDaemon :=
  let decision := decideSnapshotFailure d.snapshotFailureState .publicationFailure now
  let d := { d with snapshotFailureState := decision.next }.scheduleRegistryReconciliation
  match decision.action with
  | .retry => { d with phase := .draining }
  | .recoverPipeline => { d with phase := .recovering }
  -- `Unexpected snapshot failure action`: the pass rejects.
  | .markOffline => d.afterRejection false

/-- `handleCurrentSessionsSnapshotFailure` after the flush of the recovery returned. -/
def recovered (d : BridgeDaemon) (outcome : SessionPublicationOutcome) : BridgeDaemon :=
  let d := (d.flushCurrentSessionsSnapshot outcome).resetCurrentSessionsSnapshotFailures
  match outcome with
  | .deferred _ => { d.cancelReconciliationTimer with phase := .draining }
  | .published | .unchanged | .locallyBlocked | .failClosed => { d with phase := .draining }

/-- `handleCurrentSessionsSnapshotFailure` after the recovery rejected. -/
def recoveryRejected (d : BridgeDaemon) (now : Int) : BridgeDaemon :=
  let decision := decideSnapshotFailure d.snapshotFailureState .recoveryFailure now
  let d := { d with snapshotFailureState := decision.next }.scheduleRegistryReconciliation
  match decision.action with
  | .markOffline => { d with phase := .draining }
  -- `Unexpected snapshot recovery action`: the pass rejects.
  | .retry | .recoverPipeline => d.afterRejection false

end BridgeDaemon

/-! ### The steps -/

/-- What the daemon does between two `await`s, named after what set it off. -/
inductive DaemonEvent
  /-- `runForever` is called. -/
  | runForever
  /-- The head of the loop. -/
  | iterates
  /-- The registry is mutated. -/
  | registryMutation
  /-- The callback of the reconciliation timer. -/
  | timerFires
  /-- The poll interval is over. -/
  | pollFires
  /-- `stop` is called. -/
  | stop (commandRecoveryComplete : Bool)
  /-- A pass finds the Host domain in a reset: it stops the daemon and rejects. -/
  | resetInProgress (commandRecoveryComplete : Bool)
  /-- `validateStartup` rejects. -/
  | startupRejects (isAbortError : Bool)
  /-- `validateStartup` resolves, and the pass acknowledges. -/
  | startupResolves
  /-- The pass rejects before the Sessions are read: the presence failure is caught, the one of
  the recipients and receipts is not. -/
  | rejectsBeforeRead (isAbortError : Bool)
  /-- The Sessions are read. They are published when the set is complete and the Relay was
  reached. -/
  | readsSessions (authoritativeSetComplete offline : Bool)
  /-- The driver rejects, and the pass goes on without a publication. -/
  | driverRejects
  /-- `flushCurrentSessionsSnapshot` resolves. -/
  | flushResolves (outcome : SessionPublicationOutcome)
  /-- The Relay answers `session_snapshot_conflict`, and the pass rejects. -/
  | flushConflicts
  /-- The flush rejects with a local failure. -/
  | flushRejectsLocally (now : Int)
  /-- The flush rejects with a failure of the Relay. -/
  | flushRejectsAtRelay (now : Int)
  /-- The flush of the recovery resolves. -/
  | recoveryResolves (outcome : SessionPublicationOutcome)
  /-- The recovery rejects. -/
  | recoveryRejects (now : Int)
  /-- The pass resolves. -/
  | passResolves
  /-- The pass rejects while it drains. -/
  | passRejects (isAbortError : Bool)
deriving DecidableEq

namespace DaemonEvent

/-- The event can happen. -/
def Enabled (d : BridgeDaemon) : DaemonEvent → Prop
  | .runForever => d.phase = .off
  | .iterates => d.phase = .looping
  | .registryMutation => True
  | .timerFires => d.reconciliationTimer = true
  | .pollFires => d.phase = .waiting
  | .stop _ => True
  | .resetInProgress _ => d.phase = .starting
  | .startupRejects _ => d.phase = .starting ∧ d.startupValidated = false
  | .startupResolves => d.phase = .starting
  | .rejectsBeforeRead _ => d.phase = .acknowledged
  | .readsSessions _ _ => d.phase = .acknowledged
  | .driverRejects => d.phase = .acknowledged
  | .flushResolves _ => d.phase = .publishing
  | .flushConflicts => d.phase = .publishing
  | .flushRejectsLocally _ => d.phase = .publishing
  | .flushRejectsAtRelay _ => d.phase = .publishing
  | .recoveryResolves _ => d.phase = .recovering
  | .recoveryRejects _ => d.phase = .recovering
  | .passResolves => d.phase = .draining
  | .passRejects _ => d.phase = .draining

instance (d : BridgeDaemon) : (e : DaemonEvent) → Decidable (e.Enabled d)
  | .runForever | .iterates | .timerFires | .pollFires | .resetInProgress _
  | .startupResolves | .rejectsBeforeRead _ | .readsSessions _ _ | .driverRejects
  | .flushResolves _ | .flushConflicts | .flushRejectsLocally _ | .flushRejectsAtRelay _
  | .recoveryResolves _ | .recoveryRejects _ | .passResolves | .passRejects _ =>
      inferInstanceAs (Decidable (_ = _))
  | .registryMutation | .stop _ => inferInstanceAs (Decidable True)
  | .startupRejects _ => inferInstanceAs (Decidable (_ ∧ _))

/-- What the daemon does with the event. -/
def apply (d : BridgeDaemon) : DaemonEvent → BridgeDaemon
  | .runForever =>
      { d with stopped := false, reconciliationRequested := true, phase := .looping }
  | .iterates => if d.stopped then { d with phase := .off } else { d with phase := .starting }
  | .registryMutation => d.onRegistryMutation
  | .timerFires => d.reconciliationDue
  | .pollFires => { d with phase := .looping }
  | .stop commandRecoveryComplete => d.stop commandRecoveryComplete
  | .resetInProgress commandRecoveryComplete =>
      (d.stop commandRecoveryComplete).afterRejection false
  | .startupRejects isAbortError =>
      { d with runtimeDisposed := true }.afterRejection isAbortError
  | .startupResolves =>
      { d with startupValidated := true, reconciliationRequested := false,
               phase := .acknowledged }
  | .rejectsBeforeRead isAbortError => d.afterRejection isAbortError
  | .readsSessions authoritativeSetComplete offline =>
      { d with readThrough := d.mutations,
               phase := if authoritativeSetComplete && !offline then .publishing else .draining }
  | .driverRejects => { d with phase := .draining }
  | .flushResolves outcome => { d.flushCurrentSessionsSnapshot outcome with phase := .draining }
  | .flushConflicts => d.afterRejection false
  | .flushRejectsLocally now =>
      { d.recordLocalSnapshotPublicationFailure now with phase := .draining }
  | .flushRejectsAtRelay now => d.handleCurrentSessionsSnapshotFailure now
  | .recoveryResolves outcome => d.recovered outcome
  | .recoveryRejects now => d.recoveryRejected now
  | .passResolves => d.afterPass
  | .passRejects isAbortError => d.afterRejection isAbortError

end DaemonEvent

/-- One step of the daemon. -/
def DaemonStep (d : BridgeDaemon) (e : DaemonEvent) (d' : BridgeDaemon) : Prop :=
  e.Enabled d ∧ d' = e.apply d

end Ariava.Daemon
