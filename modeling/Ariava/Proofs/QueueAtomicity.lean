import Ariava.Proofs.ProducerOrder

/-!
# `Ariava.Proofs.QueueAtomicity`: a failed `queuePendingEvent`

`queuePendingEvent` journals the source of an event in the spool, makes a changed copy of the
state the state in memory, and persists it. When the write fails, the state in memory is the
previous one again. The reservation of a fingerprinted event is written to the copy before
that, outside of the guarded region, and it can throw.

- `journalPendingEvent_leavesState`: the journal in the spool leaves the state alone, whether it
  is written or not.
- `journalPendingEvent_ok_iff`: which arguments get past the journal.
- `failsAtomically_iff`: a failed call leaves the state in memory and the state file as they
  were, exactly when no conflicting reservation is met after the event changed the state.

The spool is the journal of the call. By design its source stays when a later step fails.
-/

set_option autoImplicit false

namespace Ariava.Proofs.QueueAtomicity

open Ariava.Lib
open Ariava.Protocol
open Ariava.StateStore
open Ariava.AgentAdapter (PendingTerminal)

/-- The state in memory and the state file are as before. -/
structure SameState (s s' : BridgeStore) : Prop where
  memory : s'.state = s.state
  file : s'.files.state = s.files.state

/-- The state is as before, and the writes still to come are among the ones before. -/
structure LeavesState (s s' : BridgeStore) : Prop where
  same : SameState s s'
  writes : ∀ outcome ∈ s'.writes, outcome ∈ s.writes

namespace LeavesState

theorem refl (s : BridgeStore) : LeavesState s s := ⟨⟨rfl, rfl⟩, fun _ h => h⟩

theorem trans (s t u : BridgeStore) (h₁ : LeavesState s t) (h₂ : LeavesState t u) :
    LeavesState s u where
  same := ⟨h₂.same.memory.trans h₁.same.memory, h₂.same.file.trans h₁.same.file⟩
  writes outcome h := h₁.writes outcome (h₂.writes outcome h)

end LeavesState

/-! ### The journal in the spool -/

section
variable {event : CanonicalEvent} {session : CanonicalSessionState} {fingerprint : String}
variable {s s' : BridgeStore}

theorem persistSpool_leavesState (items : List SpoolItem) :
    Effect.Leaves LeavesState (persistSpool items) := by
  intro s
  have hfile : (s.afterWrite { s.files with items := items }).files.state = s.files.state := by
    rcases s.afterWrite_files { s.files with items := items } with h | h
    · rw [h.1]
    · rw [h.1]
  have hwrites : ∀ outcome ∈ (s.afterWrite { s.files with items := items }).writes,
      outcome ∈ s.writes := by
    rw [BridgeStore.afterWrite_writes]
    exact fun _ h => List.mem_of_mem_tail h
  simp only [persistSpool, Effect.run]
  split
  · exact ⟨⟨s.afterWrite_state _, hfile⟩, hwrites⟩
  · exact ⟨⟨s.afterWrite_state _, hfile⟩, hwrites⟩

theorem enqueue_leavesState (input : SpoolItem) : Effect.Leaves LeavesState (enqueue input) := by
  refine Effect.Leaves.bind LeavesState.trans (Effect.Leaves.get LeavesState.refl) fun s => ?_
  rcases spoolGet s.items input.spoolItemId with _ | existing
  · refine Effect.Leaves.bind LeavesState.trans (persistSpool_leavesState _) fun _ => ?_
    exact Effect.Leaves.pure LeavesState.refl _
  · exact Effect.Leaves.ite (fun _ => Effect.Leaves.pure LeavesState.refl _)
      fun _ => Effect.Leaves.throw LeavesState.refl _

theorem replace_leavesState (removeIds : List String) (additions : List SpoolItem) :
    Effect.Leaves LeavesState (replace removeIds additions) := by
  refine Effect.Leaves.bind LeavesState.trans (Effect.Leaves.get LeavesState.refl) fun s => ?_
  rcases replaceItems s.items removeIds additions with thrown | items
  · exact Effect.Leaves.throw LeavesState.refl _
  · exact persistSpool_leavesState items

theorem enqueuePendingEvent_leavesState (producerFingerprint : Option String)
    (kind : LocalSpoolPayloadKind) :
    Effect.Leaves LeavesState (enqueuePendingEvent event session producerFingerprint kind) :=
  Effect.Leaves.bind LeavesState.trans (enqueue_leavesState _) fun _ =>
    Effect.Leaves.ofExcept LeavesState.refl _

theorem assertStoredTuple_leavesState (kind : LocalSpoolPayloadKind) :
    Effect.Leaves LeavesState (assertStoredTuple kind event session fingerprint) :=
  fun s => LeavesState.refl s

/-- The journal of an event leaves the state alone, also when it fails. -/
theorem journalPendingEvent_leavesState (event : CanonicalEvent)
    (session : CanonicalSessionState) (producerFingerprint : Option String) :
    Effect.Leaves LeavesState (journalPendingEvent event session producerFingerprint) := by
  refine Effect.Leaves.bind LeavesState.trans (Effect.Leaves.get LeavesState.refl) fun s => ?_
  split
  · exact Effect.Leaves.bind LeavesState.trans (assertStoredTuple_leavesState _) fun _ =>
      replace_leavesState _ _
  · exact assertStoredTuple_leavesState _
  · exact enqueuePendingEvent_leavesState _ _

/-- The spool takes the source of a fingerprinted event, or has it: there is no item of the
event yet, or its reservation or its source is the same tuple. A write succeeds where one is
needed. -/
def isJournaled (s : BridgeStore) (event : CanonicalEvent) (session : CanonicalSessionState)
    (fingerprint : String) : Bool :=
  match (spoolGet s.items event.eventId).map SpoolItem.payloadKind with
  | none => decide (s.nextWrite = .written)
  | some .eventReservationV3 =>
      decide (openProducerTuple s.items .eventReservationV3 event.eventId fingerprint
        = .ok (some ⟨event, session⟩)) && decide (s.nextWrite = .written)
  | some .eventSourceV3 =>
      decide (openProducerTuple s.items .eventSourceV3 event.eventId fingerprint
        = .ok (some ⟨event, session⟩))
  | some _ => false

/-- The state file and the spool are replaced by a write or kept by it. -/
def KeepsOnFailure (s : BridgeStore) : Prop :=
  ∀ outcome ∈ s.writes, outcome = .written ∨ outcome = .failed

theorem KeepsOnFailure.nextWrite (hkept : KeepsOnFailure s) :
    s.nextWrite = .written ∨ s.nextWrite = .failed := by
  rcases hwrites : s.writes with _ | ⟨outcome, rest⟩
  · exact .inl (by rw [BridgeStore.nextWrite, hwrites, List.headD_nil])
  · have hhead : s.nextWrite = outcome := by
      rw [BridgeStore.nextWrite, hwrites, List.headD_cons]
    rw [hhead]
    exact hkept outcome (hwrites ▸ List.mem_cons_self ..)

theorem persistSpool_ok_iff (hkept : KeepsOnFailure s) (items : List SpoolItem) :
    (persistSpool items).outcome s = .ok () ↔ s.nextWrite = .written := by
  simp only [Effect.outcome, Effect.run, persistSpool]
  rcases hkept.nextWrite with h | h
  · simp [h]
  · simp [h]

theorem assertStoredTuple_run_ok_iff (kind : LocalSpoolPayloadKind) :
    (assertStoredTuple kind event session fingerprint).run s = (.ok (), s) ↔
      openProducerTuple s.items kind event.eventId fingerprint = .ok (some ⟨event, session⟩) := by
  have hrun : (assertStoredTuple kind event session fingerprint).run s = (do
      let existing ← openProducerTuple s.items kind event.eventId fingerprint
      throwIf (decide (existing ≠ some (PendingTerminal.mk event session)))
        (Thrown.typeError "pending Event retry journal conflicts with the bound tuple"), s) := rfl
  rw [hrun, Prod.mk.injEq, bind_eq_ok_iff]
  constructor
  · rintro ⟨⟨existing, hopened, hequal⟩, -⟩
    rw [throwIf_eq_ok, decide_eq_false_iff_not, not_not] at hequal
    rw [hopened, hequal]
  · intro h
    refine ⟨⟨_, h, ?_⟩, rfl⟩
    rw [throwIf_eq_ok, decide_eq_false_iff_not, not_not]

/-- An unused id gets the source, when the write succeeds. -/
theorem enqueuePendingEvent_ok_iff_of_free (hkept : KeepsOnFailure s)
    (hfree : spoolGet s.items event.eventId = none) (producerFingerprint : Option String) :
    (enqueuePendingEvent event session producerFingerprint .eventSourceV3).outcome s = .ok () ↔
      s.nextWrite = .written := by
  rw [← persistSpool_ok_iff hkept
    (s.items ++ [sealedItem (pendingItem event session producerFingerprint .eventSourceV3)])]
  have hunused : spoolGet s.items
      (pendingItem event session producerFingerprint .eventSourceV3).spoolItemId = none := hfree
  have hrun := enqueue_run_of_none hunused
  simp only [Effect.outcome, enqueuePendingEvent]
  rw [Effect.run_bind, hrun, Effect.run_bind]
  rcases (persistSpool _).run s with ⟨thrown | _, t⟩
  · exact Iff.rfl
  · simp [sealedItem]

variable (session) in
/-- An item of another kind is a conflict. -/
theorem enqueuePendingEvent_throws_of_kind {existing : SpoolItem}
    (hfound : spoolGet s.items event.eventId = some existing)
    (hkind : existing.payloadKind ≠ .eventSourceV3) (producerFingerprint : Option String) :
    (enqueuePendingEvent event session producerFingerprint .eventSourceV3).outcome s ≠ .ok () := by
  have hbinding : sameItemBinding existing
      (pendingItem event session producerFingerprint .eventSourceV3) = false := by
    rw [Bool.eq_false_iff]
    intro h
    simp only [sameItemBinding, Bool.and_eq_true, decide_eq_true_eq] at h
    exact hkind h.2
  have hrun : (enqueue (pendingItem event session producerFingerprint .eventSourceV3)).run s
      = (.error (.typeError "local spool item ID conflict"), s) := by
    rw [enqueue_run_of_some hfound, if_neg (Bool.eq_false_iff.mp hbinding)]
  simp only [Effect.outcome, enqueuePendingEvent]
  rw [Effect.run_bind, hrun]
  intro h
  cases h

/-- The spool takes the item that replaces the one of its own id, when the write succeeds. -/
theorem replace_single_ok_iff (hkept : KeepsOnFailure s) (item : SpoolItem) :
    (replace [item.spoolItemId] [item]).outcome s = .ok () ↔ s.nextWrite = .written := by
  have hfree : spoolGet (withoutItems s.items [item.spoolItemId]) item.spoolItemId = none :=
    spoolGet_withoutItems_of_mem (List.mem_singleton_self _)
  rw [← persistSpool_ok_iff hkept
    (withoutItems s.items [item.spoolItemId] ++ [sealedItem item])]
  have hitems : replaceItems s.items [item.spoolItemId] [item]
      = .ok (withoutItems s.items [item.spoolItemId] ++ [sealedItem item]) := by
    rw [replaceItems, addItems, hfree]
    rfl
  simp only [Effect.outcome, replace_run_of_ok hitems]

/-- Which fingerprinted events get past the journal. -/
theorem journalPendingEvent_ok_iff (hkept : KeepsOnFailure s) :
    (journalPendingEvent event session (some fingerprint)).outcome s = .ok () ↔
      isJournaled s event session fingerprint = true := by
  rw [Effect.outcome, journalPendingEvent, Effect.run_bind, Effect.run_get, Effect.next_ok]
  rcases hfound : spoolGet s.items event.eventId with _ | existing
  · simp only [isJournaled, hfound, Option.map_none, decide_eq_true_eq]
    exact enqueuePendingEvent_ok_iff_of_free hkept hfound _
  · rcases hkind : existing.payloadKind with _ | _ | _ | _ | _ | _ | _
    case eventSourceV3 =>
      simp only [isJournaled, hfound, Option.map_some, hkind, decide_eq_true_eq]
      rw [← assertStoredTuple_run_ok_iff]
      constructor
      · exact fun h => Prod.ext h rfl
      · exact fun h => congrArg Prod.fst h
    case eventReservationV3 =>
      simp only [isJournaled, hfound, Option.map_some, hkind, Bool.and_eq_true, decide_eq_true_eq]
      rw [← replace_single_ok_iff hkept (pendingItem event session (some fingerprint)
        .eventSourceV3), promoteProducerEventTuple, Effect.run_bind,
        ← assertStoredTuple_run_ok_iff]
      constructor
      · intro h
        rcases hstored : (assertStoredTuple .eventReservationV3 event session fingerprint).run s
          with ⟨thrown | _, t⟩
        · rw [hstored] at h
          cases h
        · have hsame : t = s := congrArg Prod.snd hstored.symm
          subst hsame
          rw [hstored] at h
          exact ⟨rfl, h⟩
      · rintro ⟨hstored, hreplace⟩
        rw [hstored]
        exact hreplace
    all_goals
      have hthrows := enqueuePendingEvent_throws_of_kind session hfound (by rw [hkind]; decide)
        (some fingerprint)
      simp only [isJournaled, hfound, Option.map_some, hkind, Bool.false_eq_true, iff_false]
      exact hthrows

end

/-! ### A failed call -/

section
variable (text : ProtocolText) (event : CanonicalEvent) (session : CanonicalSessionState)
  (producerFingerprint : Option String) (s : BridgeStore)

/-- A failed call leaves the state in memory and the state file as they were, and a later
commit writes what it would have written without the call. -/
structure FailsAtomically : Prop where
  sameState : ∀ thrown s', (queuePendingEvent text event session producerFingerprint).run s
    = (.error thrown, s') → SameState s s'
  laterCommit : ∀ thrown s', (queuePendingEvent text event session producerFingerprint).run s
    = (.error thrown, s') → ∀ {α : Type}
      (transition : PersistedBridgeState → Except Thrown (StateTransition α)),
      ((commitTransition transition).final s').files.state
        = ((commitTransition transition).final { s with writes := s'.writes }).files.state

/-- The event gets past the journal and changes the state, and then its fingerprint turns out
to be reserved for another event. -/
structure ConflictAfterChange : Prop where
  bound : assertEventSessionBinding event session = .ok ()
  changed : applyPendingEventState text s.state event session ≠ s.state
  reserved : ∃ fingerprint, producerFingerprint = some fingerprint ∧
    isJournaled s event session fingerprint = true ∧
    (reservationOf s.state event.sessionId fingerprint).any
      (fun existing => decide (existing.eventId ≠ event.eventId)) = true

end

section
variable {text : ProtocolText} {event : CanonicalEvent} {session : CanonicalSessionState}
variable {producerFingerprint : Option String} {s s' : BridgeStore}

/-- What a commit leaves in the state file. -/
theorem commit_final_file (state : PersistedBridgeState) (s : BridgeStore) :
    ((commit state).final s).files.state
      = if s.nextWrite.installs then state else s.files.state := by
  have hwrite : (writeState state).run s
      = (if s.nextWrite = .written then .ok () else .error writeError,
        s.afterWrite { s.files with state := state }) := rfl
  rw [Effect.final, commit, Effect.run_bind, hwrite]
  rcases hnext : s.nextWrite with _ | _ | _ | _
  all_goals
    simp only [BridgeStore.afterWrite, hnext]
    rfl

/-- A later commit reads the state in memory and replaces the state file. -/
theorem commitTransition_file {α : Type}
    (transition : PersistedBridgeState → Except Thrown (StateTransition α))
    (hsame : SameState s s') :
    ((commitTransition transition).final s').files.state
      = ((commitTransition transition).final { s with writes := s'.writes }).files.state := by
  have hend (state : PersistedBridgeState) (result : α) (t : BridgeStore) :
      (do
        commit state
        return result : StoreEffect α).final t = (commit state).final t := by
    rw [Effect.final, Effect.run_bind, Effect.final]
    rcases (commit state).run t with ⟨thrown | _, u⟩
    · rfl
    · rfl
  rw [Effect.final, commitTransition_run, Effect.final, commitTransition_run, hsame.memory]
  rcases transition s.state with thrown | (result | ⟨state, result⟩)
  · exact hsame.file
  · exact hsame.file
  · show ((do
        commit state
        return result : StoreEffect α).final s').files.state = ((do
        commit state
        return result : StoreEffect α).final _).files.state
    rw [hend, hend, commit_final_file, commit_final_file, hsame.file]
    rfl

/-- The part of the call after the journal. -/
def queueState (text : ProtocolText) (event : CanonicalEvent) (session : CanonicalSessionState)
    (producerFingerprint : Option String) : StoreEffect Unit := do
  let previous ← get
  setState (applyPendingEventState text previous.state event session)
  applyReservationWhen event producerFingerprint
  tryCatch persist fun thrown => do
    setState previous.state
    throw thrown

/-- A call is its binding check, its journal and the rest. -/
theorem queuePendingEvent_eq :
    queuePendingEvent text event session producerFingerprint = (do
      Effect.ofExcept (assertEventSessionBinding event session)
      journalPendingEvent event session producerFingerprint
      queueState text event session producerFingerprint) := rfl

/-- The write that a call ends with: a failure keeps the file, and the state in memory is the
previous one again. -/
theorem persist_rollback_sameState {state previous : PersistedBridgeState} {t : BridgeStore}
    {thrown : Thrown} (hkept : KeepsOnFailure s)
    (hrun : (tryCatch persist fun thrown => do
      setState previous
      throw thrown : StoreEffect Unit).run { s with state := state } = (.error thrown, t)) :
    t.state = previous ∧ t.files = s.files := by
  rw [Effect.run_tryCatch] at hrun
  rcases hkept.nextWrite with hwrite | hwrite
  · have hwritten : persist.run { s with state := state } = (.ok (), _) :=
      persist_run_eq_ok.mpr ⟨hwrite, rfl⟩
    rw [hwritten] at hrun
    cases hrun
  · have hpersist : persist.run { s with state := state }
        = (.error writeError, { s with state := state, writes := s.writes.tail }) := by
      show (if s.nextWrite = .written then _ else _, _) = _
      rw [if_neg (by rw [hwrite]; decide)]
      simp only [BridgeStore.afterWrite]
      rw [show ({ s with state := state } : BridgeStore).nextWrite = .failed from hwrite]
      rfl
    rw [hpersist] at hrun
    cases hrun
    exact ⟨rfl, rfl⟩

/-- No conflict is met in the part after the journal, so a failure there is a failed write. -/
theorem queueState_sameState {thrown : Thrown} (hkept : KeepsOnFailure s)
    (hagrees : ∀ fingerprint, producerFingerprint = some fingerprint →
      (reservationOf s.state event.sessionId fingerprint).any
        (fun existing => decide (existing.eventId ≠ event.eventId)) = false)
    (hrun : (queueState text event session producerFingerprint).run s = (.error thrown, s')) :
    SameState s s' := by
  rw [queueState, Effect.run_bind, Effect.run_get, Effect.next_ok, Effect.run_bind] at hrun
  change ((do
    applyReservationWhen event producerFingerprint
    tryCatch persist fun thrown => do
      setState s.state
      throw thrown : StoreEffect Unit).run
      { s with state := applyPendingEventState text s.state event session }) = _ at hrun
  cases producerFingerprint with
  | none =>
    obtain ⟨hmemory, hfile⟩ := persist_rollback_sameState hkept hrun
    exact ⟨hmemory, congrArg RuntimeFiles.state hfile⟩
  | some fingerprint =>
    have happlied : ∃ state, applyProducerReservation
        (applyPendingEventState text s.state event session) event fingerprint = .ok state := by
      refine ⟨_, check_bind_eq_ok.mpr ⟨throwIf_eq_ok.mpr (hagrees fingerprint rfl), rfl⟩⟩
    obtain ⟨state, happlied⟩ := happlied
    have hreserve : (applyReservationWhen event (some fingerprint)).run
        { s with state := applyPendingEventState text s.state event session }
          = (.ok (), { s with state := state }) := by
      show ((do
        let applied ← Effect.ofExcept (applyProducerReservation
          (applyPendingEventState text s.state event session) event fingerprint)
        setState applied : StoreEffect Unit).run _) = _
      rw [Effect.run_bind, Effect.run_ofExcept, happlied]
      rfl
    rw [Effect.run_bind, hreserve] at hrun
    obtain ⟨hmemory, hfile⟩ := persist_rollback_sameState hkept hrun
    exact ⟨hmemory, congrArg RuntimeFiles.state hfile⟩

/-- The conflict leaves the applied event in memory. -/
theorem queueState_of_conflict {fingerprint : String}
    (hreserved : (reservationOf s.state event.sessionId fingerprint).any
      (fun existing => decide (existing.eventId ≠ event.eventId)) = true) :
    (queueState text event session (some fingerprint)).run s
      = (.error (.typeError "producer Event reservation conflict"),
        { s with state := applyPendingEventState text s.state event session }) := by
  have hthrows : applyProducerReservation (applyPendingEventState text s.state event session)
      event fingerprint = .error (.typeError "producer Event reservation conflict") := by
    have hcheck : throwIf ((reservationOf (applyPendingEventState text s.state event session)
        event.sessionId fingerprint).any fun existing => decide (existing.eventId ≠ event.eventId))
        (Thrown.typeError "producer Event reservation conflict")
          = .error (.typeError "producer Event reservation conflict") := if_pos hreserved
    rw [applyProducerReservation, hcheck]
    rfl
  rw [queueState, Effect.run_bind, Effect.run_get, Effect.next_ok, Effect.run_bind]
  show ((do
    applyReservationWhen event (some fingerprint)
    tryCatch persist fun thrown => do
      setState s.state
      throw thrown : StoreEffect Unit).run
      { s with state := applyPendingEventState text s.state event session }) = _
  rw [Effect.run_bind]
  have hreserve : (applyReservationWhen event (some fingerprint)).run
      { s with state := applyPendingEventState text s.state event session }
        = (.error (.typeError "producer Event reservation conflict"),
          { s with state := applyPendingEventState text s.state event session }) := by
    show ((do
      let applied ← Effect.ofExcept (applyProducerReservation
        (applyPendingEventState text s.state event session) event fingerprint)
      setState applied : StoreEffect Unit).run _) = _
    rw [Effect.run_bind, Effect.run_ofExcept, hthrows]
    rfl
  rw [hreserve]
  rfl

/-- A failed call leaves the state as it was exactly when it does not meet a conflicting
reservation after it changed the state. Every write that fails keeps the old content. -/
theorem failsAtomically_iff (hkept : KeepsOnFailure s) :
    FailsAtomically text event session producerFingerprint s ↔
      ¬ ConflictAfterChange text event session producerFingerprint s := by
  rw [← not_iff_not, not_not]
  constructor
  · contrapose
    intro hconflict
    have hatomic : ∀ thrown s', (queuePendingEvent text event session producerFingerprint).run s
        = (.error thrown, s') → SameState s s' := by
      intro thrown s' hrun
      rw [queuePendingEvent_eq, Effect.run_bind, Effect.run_ofExcept] at hrun
      rcases hbound : assertEventSessionBinding event session with thrown' | _
      · rw [hbound] at hrun
        cases hrun
        exact ⟨rfl, rfl⟩
      · rw [hbound, Effect.next_ok, Effect.run_bind] at hrun
        have hleaves := journalPendingEvent_leavesState event session producerFingerprint s
        rcases hjournal : (journalPendingEvent event session producerFingerprint).run s
          with ⟨thrown' | _, t⟩
        · rw [hjournal] at hrun hleaves
          cases hrun
          exact hleaves.same
        · rw [hjournal] at hrun hleaves
          have hsame : SameState s t := hleaves.same
          have hkept' : KeepsOnFailure t := fun outcome h => hkept outcome (hleaves.writes outcome h)
          by_cases hreserved : ∃ fingerprint, producerFingerprint = some fingerprint ∧
              (reservationOf t.state event.sessionId fingerprint).any
                (fun existing => decide (existing.eventId ≠ event.eventId)) = true
          · obtain ⟨fingerprint, rfl, hreserved⟩ := hreserved
            -- the conflict is met, so by assumption the event changed nothing before
            have hjournaled : isJournaled s event session fingerprint = true :=
              (journalPendingEvent_ok_iff hkept).mp (by rw [Effect.outcome, hjournal])
            have hunchanged : applyPendingEventState text s.state event session = s.state := by
              by_contra hchanged
              exact hconflict
                ⟨hbound, hchanged, fingerprint, rfl, hjournaled, hsame.memory ▸ hreserved⟩
            rw [Effect.next_ok, queueState_of_conflict hreserved] at hrun
            cases hrun
            refine ⟨?_, hsame.file⟩
            show applyPendingEventState text t.state event session = s.state
            rw [hsame.memory, hunchanged]
          · have hagrees : ∀ fingerprint, producerFingerprint = some fingerprint →
                (reservationOf t.state event.sessionId fingerprint).any
                  (fun existing => decide (existing.eventId ≠ event.eventId)) = false := by
              intro fingerprint hfingerprint
              rw [Bool.eq_false_iff]
              exact fun h => hreserved ⟨fingerprint, hfingerprint, h⟩
            have hrest := queueState_sameState hkept' hagrees hrun
            exact ⟨hrest.memory.trans hsame.memory, hrest.file.trans hsame.file⟩
    exact ⟨hatomic, fun thrown s' hrun _ transition =>
      commitTransition_file transition (hatomic thrown s' hrun)⟩
  · rintro ⟨hbound, hchanged, fingerprint, rfl, hjournaled, hreserved⟩ hatomic
    rcases hjournal : (journalPendingEvent event session (some fingerprint)).run s
      with ⟨thrown | _, t⟩
    · have hok := (journalPendingEvent_ok_iff hkept).mpr hjournaled
      rw [Effect.outcome, hjournal] at hok
      cases hok
    · have hleaves := journalPendingEvent_leavesState event session (some fingerprint) s
      rw [hjournal] at hleaves
      have hsame : SameState s t := hleaves.same
      have hrun : (queuePendingEvent text event session (some fingerprint)).run s
          = (.error (.typeError "producer Event reservation conflict"),
            { t with state := applyPendingEventState text t.state event session }) := by
        rw [queuePendingEvent_eq, Effect.run_bind, Effect.run_ofExcept, hbound, Effect.next_ok,
          Effect.run_bind, hjournal, Effect.next_ok,
          queueState_of_conflict (by rw [hsame.memory]; exact hreserved)]
      have hmemory := (hatomic.sameState _ _ hrun).memory
      rw [hsame.memory] at hmemory
      exact hchanged hmemory

end

/-! ### A finished turn whose content is reserved for another event -/

open Ariava.Proofs.ProducerOrder (parityText)

/-- The event of a finished turn. -/
def finishedTurn : CanonicalEvent where
  eventId := "event-2"
  hostId := "host"
  sessionId := "session"
  provider := "pi"
  agentText := "Done"
  humanText := none
  projectName := some "project"
  workingDirectory := some "/project"
  harnessProvider := some "pi"
  createdAt := "2026-01-01T00:00:02.000Z"
  kind := .done

/-- The Session that it leaves. -/
def finishedSession : CanonicalSessionState where
  sessionId := "session"
  hostId := "host"
  provider := "pi"
  projectName := "project"
  nameText := "name"
  openingText := none
  latestActivityText := some "Done"
  workingDirectory := some "/project"
  harnessProvider := some "pi"
  status := .idle
  updatedAt := "2026-01-01T00:00:02.000Z"
  lastEventId := some "event-2"
  snoozedUntil := none

/-- A Bridge without Sessions, with the outcomes of its writes. -/
def emptyStore (writes : List WriteOutcome) : BridgeStore :=
  .opened ⟨emptyState "epoch", []⟩ true writes

/-- The content of the turn was reserved for an earlier event. -/
def reservedStore : BridgeStore :=
  (reserveProducerEvent
    ⟨"event-1", "session", "fingerprint", "2026-01-01T00:00:01.000Z"⟩).final (emptyStore [])

/-- Without a reservation, a state write that fails after the journal leaves the state alone. -/
theorem failsAtomically_iff_failedWrite :
    KeepsOnFailure (emptyStore [.written, .failed]) ∧
      (queuePendingEvent parityText finishedTurn finishedSession (some "fingerprint")).outcome
        (emptyStore [.written, .failed]) = .error writeError ∧
      FailsAtomically parityText finishedTurn finishedSession (some "fingerprint")
        (emptyStore [.written, .failed]) := by
  have hkept : KeepsOnFailure (emptyStore [.written, .failed]) := by
    intro outcome h
    have hmem : outcome ∈ [WriteOutcome.written, .failed] := h
    simpa using hmem
  refine ⟨hkept, by decide +kernel, (failsAtomically_iff hkept).mpr ?_⟩
  rintro ⟨-, -, fingerprint, hfingerprint, -, hreserved⟩
  cases hfingerprint
  exact absurd hreserved (by decide)

/-- The conflict is found when the event is already in memory, and it stays there. -/
theorem not_queueAtomicity :
    ¬ ∀ (text : ProtocolText) (event : CanonicalEvent) (session : CanonicalSessionState)
      (producerFingerprint : Option String) (s : BridgeStore), KeepsOnFailure s →
        FailsAtomically text event session producerFingerprint s := by
  intro hall
  have hatomic := hall parityText finishedTurn finishedSession (some "fingerprint") reservedStore
    (by intro outcome h; exact absurd h (List.not_mem_nil))
  have hthrows : (queuePendingEvent parityText finishedTurn finishedSession
      (some "fingerprint")).outcome reservedStore
        = .error (.typeError "producer Event reservation conflict") := by decide +kernel
  have hmemory := (hatomic.sameState _ _ (Prod.ext hthrows rfl)).memory
  have hadded : ((queuePendingEvent parityText finishedTurn finishedSession
      (some "fingerprint")).final reservedStore).state.sessions.contains "session" = true := by
    decide +kernel
  rw [show ((queuePendingEvent parityText finishedTurn finishedSession
    (some "fingerprint")).final reservedStore).state = reservedStore.state from hmemory] at hadded
  exact absurd hadded (by decide)

end Ariava.Proofs.QueueAtomicity
