import Ariava.Daemon.ReconciliationLoop

/-!
# `Ariava.Proofs.RegistryWakeups`: no registry mutation waits for the poll alone

While `runForever` waits, a mutation that the last pass did not read should have a pending
reconciliation timer or a raised request. `MutationsCovered` states it of one state.

- `covered_of_run`: it holds in every state of a run whose steps all meet `KeepsWakeup`. The
  invariant is `Wakes`: outside the stretch of a pass between the acknowledgement and the read,
  an unread mutation has its timer or the request.
- `uncovered_of_not_keepsWakeup`: a step that does not meet the condition leads to a wait that
  misses a mutation, when nothing else happens until then.
- `not_noLostRegistryMutation`: the run in which a mutation arrives between the read and a
  failure of the Relay, and the recovery is deferred.

Two places lose a wake-up. `handleCurrentSessionsSnapshotFailure` cancels the timer when its
recovery is deferred, whoever set it. A pass whose reading fails has cleared the request and
does not raise it again.
-/

set_option autoImplicit false

namespace Ariava.Proofs.RegistryWakeups

open Ariava.Lib
open Ariava.Daemon
open Ariava.Daemon.BridgeDaemon

/-! ### The property -/

/-- Every mutation after the last read has a pending timer or a raised request. -/
def Covered (d : BridgeDaemon) : Prop :=
  ∀ mutation, d.readThrough < mutation → mutation ≤ d.mutations →
    d.reconciliationTimer = true ∨ d.reconciliationRequested = true

/-- While the running daemon waits for the next poll, every unread mutation is covered. -/
def MutationsCovered (d : BridgeDaemon) : Prop :=
  d.phase = .waiting → d.stopped = false → Covered d

/-- No registry mutation is lost, whatever the order of the steps. -/
def NoLostRegistryMutation : Prop :=
  ∀ events d, Run DaemonStep initial events d → MutationsCovered d

/-- A mutation is unread. -/
def Unread (d : BridgeDaemon) : Prop :=
  d.readThrough < d.mutations

/-- The condition of a step. It says something of three of them, while the daemon is not
stopped.

- A recovery is deferred with every mutation read, or with the request raised.
- A driver rejects with every mutation read, or with the timer set or the request raised.
- A pass rejects before the read, and the loop goes on, under the same condition. -/
def KeepsWakeup (d : BridgeDaemon) : DaemonEvent → Prop
  | .recoveryResolves (.deferred _) =>
      d.stopped = false → Unread d → d.reconciliationRequested = true
  | .driverRejects =>
      d.stopped = false → Unread d →
        d.reconciliationTimer = true ∨ d.reconciliationRequested = true
  | .rejectsBeforeRead isAbortError =>
      d.stopped = false → isAbortError = false → Unread d →
        d.reconciliationTimer = true ∨ d.reconciliationRequested = true
  | _ => True

/-- One unread mutation stands for all of them. -/
theorem covered_iff (d : BridgeDaemon) :
    Covered d ↔
      (Unread d → d.reconciliationTimer = true ∨ d.reconciliationRequested = true) := by
  constructor
  · intro hcovered hunread
    exact hcovered d.mutations hunread (Nat.le_refl _)
  · intro hcovered mutation hafter hbefore
    exact hcovered (Nat.lt_of_lt_of_le hafter hbefore)

theorem Covered.of_timer {d : BridgeDaemon} (h : d.reconciliationTimer = true) : Covered d :=
  fun _ _ _ => Or.inl h

theorem Covered.of_requested {d : BridgeDaemon} (h : d.reconciliationRequested = true) :
    Covered d :=
  fun _ _ _ => Or.inr h

theorem Covered.of_read {d : BridgeDaemon} (h : d.mutations ≤ d.readThrough) : Covered d := by
  intro mutation hafter hbefore
  omega

/-! ### The invariant -/

/-- The daemon is stopped or off, or the pass has yet to read after it cleared the request, or
every unread mutation is covered. -/
def Wakes (d : BridgeDaemon) : Prop :=
  d.stopped = true ∨ d.phase = .off ∨ d.phase = .acknowledged ∨ Covered d

/-- What `Wakes` says of a phase that is neither `off` nor `acknowledged`. -/
theorem Wakes.covered {d : BridgeDaemon} {phase : Phase} (h : Wakes d) (hphase : d.phase = phase)
    (hoff : phase ≠ .off) (hacknowledged : phase ≠ .acknowledged) :
    d.stopped = true ∨ Covered d := by
  rcases h with h | h | h | h
  · exact Or.inl h
  · exact absurd (hphase.symm.trans h) hoff
  · exact absurd (hphase.symm.trans h) hacknowledged
  · exact Or.inr h

theorem Wakes.of_covered {d : BridgeDaemon} (h : d.stopped = true ∨ Covered d) : Wakes d :=
  h.elim Or.inl fun h => Or.inr (Or.inr (Or.inr h))

/-- A step that touches neither the flag, nor the timer, nor the counters keeps what covers. -/
theorem covered_congr {d d' : BridgeDaemon} (hstopped : d'.stopped = d.stopped)
    (htimer : d'.reconciliationTimer = d.reconciliationTimer)
    (hrequested : d'.reconciliationRequested = d.reconciliationRequested)
    (hmutations : d'.mutations = d.mutations) (hread : d'.readThrough = d.readThrough)
    (h : d.stopped = true ∨ Covered d) : d'.stopped = true ∨ Covered d' := by
  unfold Covered at h ⊢
  rw [hstopped, htimer, hrequested, hmutations, hread]
  exact h

/-! ### What the functions keep -/

/-- The timer is set afterwards, unless the daemon is stopped. -/
theorem scheduleRegistryReconciliation_covers (d : BridgeDaemon) :
    d.scheduleRegistryReconciliation.stopped = true
      ∨ Covered d.scheduleRegistryReconciliation := by
  unfold scheduleRegistryReconciliation
  by_cases hstopped : d.stopped = true
  · left
    simp [hstopped]
  · right
    by_cases htimer : d.reconciliationTimer = true
    · simp only [htimer, Bool.or_true, if_true]
      exact Covered.of_timer htimer
    · simp only [hstopped, htimer, Bool.or_self, Bool.false_eq_true, if_false]
      exact Covered.of_timer rfl

/-- The rest of the loop's body moves the phase, and the daemon waits or is at the head. -/
theorem afterPass_wakes {d : BridgeDaemon} (h : d.stopped = true ∨ Covered d) :
    Wakes d.afterPass := by
  unfold afterPass
  split
  · exact Wakes.of_covered (covered_congr rfl rfl rfl rfl rfl h)
  · split
    · exact Wakes.of_covered (covered_congr rfl rfl rfl rfl rfl h)
    · exact Wakes.of_covered (covered_congr rfl rfl rfl rfl rfl h)

/-- A pass that rejected ends the loop, or goes on like one that resolved. -/
theorem afterRejection_wakes {d : BridgeDaemon} {isAbortError : Bool}
    (h : isAbortError = false → d.stopped = true ∨ Covered d) :
    Wakes (d.afterRejection isAbortError) := by
  unfold afterRejection
  by_cases hends : (d.stopped || isAbortError) = true
  · rw [if_pos hends]
    exact Or.inr (Or.inl rfl)
  · rw [if_neg hends]
    simp only [Bool.or_eq_true, not_or, Bool.not_eq_true] at hends
    exact afterPass_wakes (h hends.2)

theorem stop_stopped (d : BridgeDaemon) (commandRecoveryComplete : Bool) :
    (d.stop commandRecoveryComplete).stopped = true := by
  unfold stop cancelPollWait cancelReconciliationTimer
  dsimp only
  split
  · rfl
  · split <;> split <;> rfl

/-- The callback raises the request. -/
theorem reconciliationDue_covered (d : BridgeDaemon) : Covered d.reconciliationDue := by
  apply Covered.of_requested
  unfold reconciliationDue cancelPollWait
  split <;> rfl

/-- The end of a flush touches the failures only. -/
theorem flushCurrentSessionsSnapshot_eq (d : BridgeDaemon) (outcome : SessionPublicationOutcome) :
    ∃ failures, d.flushCurrentSessionsSnapshot outcome
      = { d with snapshotFailureState := failures } := by
  unfold flushCurrentSessionsSnapshot resetCurrentSessionsSnapshotFailures
  split
  · exact ⟨_, rfl⟩
  · exact ⟨_, rfl⟩
  all_goals exact ⟨d.snapshotFailureState, rfl⟩

/-- A failure of the Relay sets the timer and leaves the phase to the decision. -/
theorem handleCurrentSessionsSnapshotFailure_wakes (d : BridgeDaemon) (now : Int) :
    Wakes (d.handleCurrentSessionsSnapshotFailure now) := by
  have hcovers := scheduleRegistryReconciliation_covers
    { d with snapshotFailureState :=
        (decideSnapshotFailure d.snapshotFailureState .publicationFailure now).next }
  unfold handleCurrentSessionsSnapshotFailure
  dsimp only
  split
  · exact Wakes.of_covered (covered_congr rfl rfl rfl rfl rfl hcovers)
  · exact Wakes.of_covered (covered_congr rfl rfl rfl rfl rfl hcovers)
  · exact afterRejection_wakes fun _ => hcovers

/-- So does a failure of the recovery. -/
theorem recoveryRejected_wakes (d : BridgeDaemon) (now : Int) :
    Wakes (d.recoveryRejected now) := by
  have hcovers := scheduleRegistryReconciliation_covers
    { d with snapshotFailureState :=
        (decideSnapshotFailure d.snapshotFailureState .recoveryFailure now).next }
  unfold recoveryRejected
  dsimp only
  split
  · exact Wakes.of_covered (covered_congr rfl rfl rfl rfl rfl hcovers)
  · exact afterRejection_wakes fun _ => hcovers
  · exact afterRejection_wakes fun _ => hcovers

/-- A recovery that returned keeps what covers, when a deferred one has nothing to lose. -/
theorem recovered_wakes {d : BridgeDaemon} {outcome : SessionPublicationOutcome}
    (hkeeps : KeepsWakeup d (.recoveryResolves outcome)) (h : d.stopped = true ∨ Covered d) :
    Wakes (d.recovered outcome) := by
  obtain ⟨failures, hflush⟩ := flushCurrentSessionsSnapshot_eq d outcome
  unfold recovered
  rw [hflush]
  dsimp only
  split
  · -- the timer is gone, and only the request is left to cover
    rename_i recipientsNotReady
    by_cases hstopped : d.stopped = true
    · exact Or.inl hstopped
    · refine Wakes.of_covered (Or.inr ?_)
      rw [covered_iff]
      intro hunread
      exact Or.inr (hkeeps (by simpa using hstopped) hunread)
  all_goals exact Wakes.of_covered (covered_congr rfl rfl rfl rfl rfl h)

/-! ### Steps and runs -/

/-- A step that meets the condition keeps the invariant. -/
theorem wakes_step {d d' : BridgeDaemon} {e : DaemonEvent} (hwakes : Wakes d)
    (hkeeps : KeepsWakeup d e) (hstep : DaemonStep d e d') : Wakes d' := by
  obtain ⟨henabled, rfl⟩ := hstep
  cases e with
  | runForever => exact Wakes.of_covered (Or.inr (Covered.of_requested rfl))
  | iterates =>
    have hcovers := hwakes.covered henabled (by decide) (by decide)
    simp only [DaemonEvent.apply]
    split
    · exact Or.inr (Or.inl rfl)
    · exact Wakes.of_covered (covered_congr rfl rfl rfl rfl rfl hcovers)
  | registryMutation =>
    exact Wakes.of_covered (scheduleRegistryReconciliation_covers _)
  | timerFires => exact Wakes.of_covered (Or.inr (reconciliationDue_covered d))
  | pollFires =>
    have hcovers := hwakes.covered henabled (by decide) (by decide)
    exact Wakes.of_covered (covered_congr rfl rfl rfl rfl rfl hcovers)
  | stop commandRecoveryComplete => exact Or.inl (stop_stopped d commandRecoveryComplete)
  | resetInProgress commandRecoveryComplete =>
    exact afterRejection_wakes fun _ => Or.inl (stop_stopped d commandRecoveryComplete)
  | startupRejects isAbortError =>
    have hcovers := hwakes.covered henabled.1 (by decide) (by decide)
    exact afterRejection_wakes fun _ => covered_congr rfl rfl rfl rfl rfl hcovers
  | startupResolves => exact Or.inr (Or.inr (Or.inl rfl))
  | rejectsBeforeRead isAbortError =>
    -- the request is cleared and nothing was read: this is where the condition is needed
    apply afterRejection_wakes
    intro habort
    by_cases hstopped : d.stopped = true
    · exact Or.inl hstopped
    · exact Or.inr ((covered_iff d).mpr (hkeeps (by simpa using hstopped) habort))
  | readsSessions authoritativeSetComplete offline =>
    exact Wakes.of_covered (Or.inr (Covered.of_read (Nat.le_refl _)))
  | driverRejects =>
    by_cases hstopped : d.stopped = true
    · exact Or.inl hstopped
    · have hcovers := (covered_iff d).mpr (hkeeps (by simpa using hstopped))
      exact Wakes.of_covered (covered_congr rfl rfl rfl rfl rfl (Or.inr hcovers))
  | flushResolves outcome =>
    have hcovers := hwakes.covered henabled (by decide) (by decide)
    obtain ⟨failures, hflush⟩ := flushCurrentSessionsSnapshot_eq d outcome
    simp only [DaemonEvent.apply, hflush]
    exact Wakes.of_covered (covered_congr rfl rfl rfl rfl rfl hcovers)
  | flushConflicts =>
    exact afterRejection_wakes fun _ => hwakes.covered henabled (by decide) (by decide)
  | flushRejectsLocally now =>
    have hcovers := scheduleRegistryReconciliation_covers
      { d with snapshotFailureState :=
          (decideSnapshotFailureLog d.snapshotFailureState now).next }
    exact Wakes.of_covered (covered_congr rfl rfl rfl rfl rfl hcovers)
  | flushRejectsAtRelay now => exact handleCurrentSessionsSnapshotFailure_wakes d now
  | recoveryResolves outcome =>
    exact recovered_wakes hkeeps (hwakes.covered henabled (by decide) (by decide))
  | recoveryRejects now => exact recoveryRejected_wakes d now
  | passResolves => exact afterPass_wakes (hwakes.covered henabled (by decide) (by decide))
  | passRejects isAbortError =>
    exact afterRejection_wakes fun _ => hwakes.covered henabled (by decide) (by decide)

/-- The invariant covers a wait. -/
theorem Wakes.mutationsCovered {d : BridgeDaemon} (h : Wakes d) : MutationsCovered d := by
  intro hwaiting hrunning
  rcases h.covered hwaiting (by decide) (by decide) with hstopped | hcovered
  · exact absurd hstopped (by simp [hrunning])
  · exact hcovered

/-- In every state of a run whose steps meet the condition, every mutation is covered. -/
theorem covered_of_run {d : BridgeDaemon} {events : List DaemonEvent}
    (hrun : Run (Guarded DaemonStep KeepsWakeup) initial events d) : MutationsCovered d := by
  have hwakes : Wakes d := by
    refine hrun.invariant (I := Wakes) ?_ (Or.inr (Or.inl rfl))
    intro s e s' hs hstep
    exact wakes_step hs hstep.1 hstep.2
  exact hwakes.mutationsCovered

/-! ### The condition is exact -/

/-- An unread mutation with neither timer nor request, when nothing stops the daemon: what is
left of the pass, when it resolves, ends in a wait that misses the mutation. -/
theorem uncovered_of_draining {d : BridgeDaemon} (hphase : d.phase = .draining)
    (hrunning : d.stopped = false) (htimer : d.reconciliationTimer = false)
    (hrequested : d.reconciliationRequested = false) (hunread : Unread d) :
    ∃ rest d', Run (Guarded DaemonStep KeepsWakeup) d rest d' ∧ ¬ MutationsCovered d' := by
  refine ⟨[.passResolves], d.afterPass, Run.single ⟨trivial, hphase, rfl⟩, ?_⟩
  intro hcovered
  have hafter : d.afterPass = { d with phase := .waiting } := by
    simp [afterPass, hrequested, hrunning]
  rw [hafter] at hcovered
  have hsome := (covered_iff _).mp (hcovered rfl hrunning) hunread
  simp [htimer, hrequested] at hsome

/-- A step that does not meet the condition leads to a wait that misses a mutation. -/
theorem uncovered_of_not_keepsWakeup {d : BridgeDaemon} {e : DaemonEvent}
    (hloses : ¬ KeepsWakeup d e) :
    ∃ rest d', Run (Guarded DaemonStep KeepsWakeup) (e.apply d) rest d'
      ∧ ¬ MutationsCovered d' := by
  cases e with
  | recoveryResolves outcome =>
    cases outcome with
    | deferred recipientsNotReady =>
      simp only [KeepsWakeup, Classical.not_imp, Bool.not_eq_true] at hloses
      obtain ⟨hrunning, hunread, hrequested⟩ := hloses
      obtain ⟨failures, hflush⟩ :=
        flushCurrentSessionsSnapshot_eq d (.deferred recipientsNotReady)
      simp only [DaemonEvent.apply, recovered, hflush]
      exact uncovered_of_draining rfl hrunning rfl hrequested hunread
    | published | unchanged | locallyBlocked | failClosed => exact absurd trivial hloses
  | driverRejects =>
    simp only [KeepsWakeup, Classical.not_imp, not_or, Bool.not_eq_true] at hloses
    obtain ⟨hrunning, hunread, htimer, hrequested⟩ := hloses
    exact uncovered_of_draining rfl hrunning htimer hrequested hunread
  | rejectsBeforeRead isAbortError =>
    simp only [KeepsWakeup, Classical.not_imp, not_or, Bool.not_eq_true] at hloses
    obtain ⟨hrunning, habort, hunread, htimer, hrequested⟩ := hloses
    refine ⟨[], _, Run.nil _, ?_⟩
    have hafter : DaemonEvent.apply d (.rejectsBeforeRead isAbortError)
        = { d with phase := .waiting } := by
      simp [DaemonEvent.apply, afterRejection, afterPass, hrunning, habort, hrequested]
    rw [hafter]
    intro hcovered
    have hsome := (covered_iff _).mp (hcovered rfl hrunning) hunread
    simp [htimer, hrequested] at hsome
  | _ => exact absurd trivial hloses

/-! ### Main result -/

/-- After every run whose steps meet the condition, a wait of the running daemon covers every
unread mutation, and a next step keeps it so, whatever follows it under the condition, exactly
when it meets the condition as well. -/
theorem mutationsCovered_iff {d : BridgeDaemon} {events : List DaemonEvent}
    (hrun : Run (Guarded DaemonStep KeepsWakeup) initial events d) :
    MutationsCovered d ∧
      ∀ e : DaemonEvent, e.Enabled d →
        ((∀ rest d', Run (Guarded DaemonStep KeepsWakeup) (e.apply d) rest d' →
            MutationsCovered d')
          ↔ KeepsWakeup d e) := by
  refine ⟨covered_of_run hrun, fun e henabled => ⟨fun hall => ?_, fun hkeeps => ?_⟩⟩
  · refine Classical.byContradiction fun hloses => ?_
    obtain ⟨rest, d', hrest, huncovered⟩ := uncovered_of_not_keepsWakeup hloses
    exact huncovered (hall rest d' hrest)
  · intro rest d' hrest
    have hstep : Guarded DaemonStep KeepsWakeup d e (e.apply d) := ⟨hkeeps, henabled, rfl⟩
    exact covered_of_run ((hrun.snoc hstep).append hrest)

/-- A pass that reads the Sessions before a mutation arrives, and publishes. -/
def mutatedEvents : List DaemonEvent :=
  [.runForever, .iterates, .startupResolves, .readsSessions true false, .registryMutation,
    .flushResolves .published, .passResolves]

/-- The daemon waits with an unread mutation, whose timer is pending. -/
theorem mutationsCovered_mutated :
    (mutatedEvents.foldl (fun d e => e.apply d) initial).phase = .waiting
      ∧ Unread (mutatedEvents.foldl (fun d e => e.apply d) initial)
      ∧ MutationsCovered (mutatedEvents.foldl (fun d e => e.apply d) initial) := by
  have hallowed : AllAllowed (fun d e => e.Enabled d ∧ e ∈ mutatedEvents) (fun d e => e.apply d)
      initial mutatedEvents := by
    decide
  have hrun : Run (Guarded DaemonStep KeepsWakeup) initial mutatedEvents
      (mutatedEvents.foldl (fun d e => e.apply d) initial) := by
    refine Run.of_allAllowed (fun d e h => ⟨?_, h.1, rfl⟩) hallowed
    have hmem := h.2
    simp only [mutatedEvents, List.mem_cons, List.not_mem_nil, or_false] at hmem
    rcases hmem with rfl | rfl | rfl | rfl | rfl | rfl | rfl <;> trivial
  exact ⟨by decide, by show (0 : Nat) < 1; decide, (mutationsCovered_iff hrun).1⟩

/-- Two passes fail at the Relay. During the second one a mutation arrives, and its recovery is
deferred. -/
def deferredEvents : List DaemonEvent :=
  [.runForever, .iterates, .startupResolves, .readsSessions true false, .flushRejectsAtRelay 0,
    .passResolves, .timerFires, .iterates, .startupResolves, .readsSessions true false,
    .registryMutation, .flushRejectsAtRelay 0, .recoveryResolves (.deferred true), .passResolves]

/-- The daemon waits with an unread mutation, and the timer of the mutation was cancelled. -/
theorem not_noLostRegistryMutation : ¬ NoLostRegistryMutation := by
  intro h
  have hallowed : AllAllowed (fun d e => e.Enabled d) (fun d e => e.apply d) initial
      deferredEvents := by
    decide
  have hrun : Run DaemonStep initial deferredEvents
      (deferredEvents.foldl (fun d e => e.apply d) initial) :=
    Run.of_allAllowed (fun d e henabled => ⟨henabled, rfl⟩) hallowed
  have hcovered := h _ _ hrun (by decide) (by decide) 1 (by decide) (by decide)
  revert hcovered
  decide

end Ariava.Proofs.RegistryWakeups
