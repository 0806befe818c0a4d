import Ariava.Lib.Run
import Ariava.StateStore.StoreFrames

/-!
# `Ariava.StateStore.CommandMethods`: the command methods of the store

The eight methods of `BridgeStateStore` that change a command execution. Each one commits
its transition: the state file is written first, and the state in memory changes after
that. `commitTransition_cases` is what a commit can do, with every outcome of the write.

`CommandCall` names the methods with their arguments. `CommandEvent` adds what happens to
the store between two calls: the pins are validated, or the process stops and the next one
opens the file. `CommandStoreStep` allows the events in every order.
-/

set_option autoImplicit false

namespace Ariava.StateStore

open Ariava.Lib
open Ariava.Protocol

section
variable (text : ProtocolText)

/-- `claimCommandExecution`. -/
def claimCommandExecution (input : CommandClaimInput) : StoreEffect CommandClaim := do
  assertCommandExecutionPinsReady
  commitTransition fun state => claimCommandExecutionTransition text.hash state input

/-- `markCommandDispatchStarted`. -/
def markCommandDispatchStarted (commandId : String) (dispatchStartedAt : CanonicalTimestamp) :
    StoreEffect PersistedCommandExecutionV4 := do
  assertCommandExecutionPinsReady
  commitTransition fun state =>
    markCommandDispatchStartedTransition text.hash state commandId dispatchStartedAt

/-- `recoverOrphanedCommandExecutions`. -/
def recoverOrphanedCommandExecutions : StoreEffect Nat := do
  assertCommandExecutionPinsReady
  commitTransition fun state => .ok (recoverOrphanedCommandExecutionsTransition state)

/-- `persistTerminalReceiptBlocked`. -/
def persistTerminalReceiptBlocked (commandId : String) (terminalResult : CommandResult) :
    StoreEffect PersistedCommandExecutionV4 := do
  assertCommandExecutionPinsReady
  commitTransition fun state =>
    persistTerminalReceiptBlockedTransition text.hash state commandId terminalResult

/-- `persistTerminalCommandReceipt`. -/
def persistTerminalCommandReceipt (commandId : String) (terminalResult : CommandResult)
    (outbox : CommandReceiptOutboxInputV1) : StoreEffect PersistedCommandExecutionV4 := do
  assertCommandExecutionPinsReady
  commitTransition fun state =>
    persistTerminalCommandReceiptTransition text.hash state commandId terminalResult outbox

/-- `markCommandReceiptOutbox`. -/
def markCommandReceiptOutbox (commandId : String) (mark : ReceiptOutboxMark) :
    StoreEffect PersistedCommandExecutionV4 := do
  assertCommandExecutionPinsReady
  commitTransition fun state => markCommandReceiptOutboxTransition text.hash state commandId mark

end

/-- `pruneEligibleCommandExecutions`. It runs before the pins are validated, too. -/
def pruneEligibleCommandExecutions (now : CanonicalTimestamp) :
    StoreEffect (List PersistedCommandExecutionV4) :=
  commitTransition fun state => pruneEligibleCommandExecutionsTransition state now

/-- A call of one of the methods. -/
inductive CommandCall
  | claim (input : CommandClaimInput)
  | dispatchStarted (commandId : String) (dispatchStartedAt : CanonicalTimestamp)
  | recoverOrphaned
  | outcomeUnknown (commandId : String)
  | receiptBlocked (commandId : String) (terminalResult : CommandResult)
  | terminalReceipt (commandId : String) (terminalResult : CommandResult)
      (outbox : CommandReceiptOutboxInputV1)
  | outbox (commandId : String) (mark : ReceiptOutboxMark)
  | prune (now : CanonicalTimestamp)

/-- The transition without its result. -/
def StateTransition.withoutResult {α : Type} : StateTransition α → StateTransition Unit
  | .unchanged _ => .unchanged ()
  | .next state _ => .next state ()

/-- A program without its result. -/
def withoutResult {α : Type} (p : StoreEffect α) : StoreEffect Unit := do
  let _ ← p
  return ()

namespace CommandCall

/-- The program of a call. -/
def program (text : ProtocolText) : CommandCall → StoreEffect Unit
  | .claim input => withoutResult (claimCommandExecution text input)
  | .dispatchStarted commandId at_ =>
      withoutResult (markCommandDispatchStarted text commandId at_)
  | .recoverOrphaned => withoutResult recoverOrphanedCommandExecutions
  | .outcomeUnknown commandId => withoutResult (markCommandOutcomeUnknown text commandId)
  | .receiptBlocked commandId result =>
      withoutResult (persistTerminalReceiptBlocked text commandId result)
  | .terminalReceipt commandId result input =>
      withoutResult (persistTerminalCommandReceipt text commandId result input)
  | .outbox commandId mark => withoutResult (markCommandReceiptOutbox text commandId mark)
  | .prune now => withoutResult (pruneEligibleCommandExecutions now)

/-- The transition of a call, without its result. -/
def transition (hash : ContentHash) (state : PersistedBridgeState) :
    CommandCall → Except Thrown (StateTransition Unit)
  | .claim input => (claimCommandExecutionTransition hash state input).map .withoutResult
  | .dispatchStarted commandId at_ =>
      (markCommandDispatchStartedTransition hash state commandId at_).map .withoutResult
  | .recoverOrphaned => .ok (recoverOrphanedCommandExecutionsTransition state).withoutResult
  | .outcomeUnknown commandId =>
      (markCommandOutcomeUnknownTransition hash state commandId).map .withoutResult
  | .receiptBlocked commandId result =>
      (persistTerminalReceiptBlockedTransition hash state commandId result).map .withoutResult
  | .terminalReceipt commandId result input =>
      (persistTerminalCommandReceiptTransition hash state commandId result input).map
        .withoutResult
  | .outbox commandId mark =>
      (markCommandReceiptOutboxTransition hash state commandId mark).map .withoutResult
  | .prune now => (pruneEligibleCommandExecutionsTransition state now).map .withoutResult

end CommandCall

/-- What happens to the store: a call, the validation of the pins, or a restart. The next
process opens the file that the last one left. -/
inductive CommandEvent
  | call (method : CommandCall)
  | pinsValidated
  | restart (writes : List WriteOutcome)

/-- The store after an event. -/
def CommandEvent.apply (text : ProtocolText) (s : BridgeStore) : CommandEvent → BridgeStore
  | .call method => (method.program text).final s
  | .pinsValidated => { s with commandExecutionPinsReady := true }
  | .restart writes => BridgeStore.opened s.files false writes

/-- One step of the store. -/
def CommandStoreStep (text : ProtocolText) (s : BridgeStore) (event : CommandEvent)
    (s' : BridgeStore) : Prop :=
  s' = event.apply text s

/-! ### What a call can do -/

/-- What a commit of a transition can do. A transition that throws or that changes nothing
leaves the whole store alone. A write that fails leaves the memory alone, and the file as it
was or with the next state. -/
inductive CommitResult {α : Type} (transition : Except Thrown (StateTransition α))
    (s : BridgeStore) : Except Thrown α × BridgeStore → Prop
  | thrown (e : Thrown) (h : transition = .error e) : CommitResult transition s (.error e, s)
  | unchanged (result : α) (h : transition = .ok (.unchanged result)) :
      CommitResult transition s (.ok result, s)
  | committed (state : PersistedBridgeState) (result : α) (s' : BridgeStore)
      (h : transition = .ok (.next state result)) (memory : s'.state = state)
      (files : s'.files = { s.files with state := state }) :
      CommitResult transition s (.ok result, s')
  | failed (state : PersistedBridgeState) (result : α) (e : Thrown) (s' : BridgeStore)
      (h : transition = .ok (.next state result)) (memory : s'.state = s.state)
      (files : s'.files = s.files ∨ s'.files = { s.files with state := state }) :
      CommitResult transition s (.error e, s')

/-- A commit ends in one of these ways. -/
theorem commitTransition_cases {α : Type}
    (transition : PersistedBridgeState → Except Thrown (StateTransition α)) (s : BridgeStore) :
    CommitResult (transition s.state) s ((commitTransition transition).run s) := by
  rw [commitTransition_run]
  rcases htransition : transition s.state with thrown | (result | ⟨state, result⟩)
  · exact .thrown thrown rfl
  · exact .unchanged result rfl
  · dsimp only
    have hwrite := s.afterWrite_files { s.files with state := state }
    by_cases hwritten : s.nextWrite = .written
    · have hwriteState : (writeState state).run s
          = (.ok (), s.afterWrite { s.files with state := state }) := by
        show (if s.nextWrite = .written then _ else _, _) = _
        rw [if_pos hwritten]
      have hcommit : (do commit state; return result : StoreEffect α).run s
          = (.ok result, { s.afterWrite { s.files with state := state } with state := state }) := by
        rw [Effect.run_bind, commit, Effect.run_bind, hwriteState]
        rfl
      rw [hcommit]
      refine .committed state result _ rfl rfl ?_
      simp [BridgeStore.afterWrite, hwritten, WriteOutcome.installs, BridgeStore.install]
    · have hwriteState : (writeState state).run s
          = (.error writeError, s.afterWrite { s.files with state := state }) := by
        show (if s.nextWrite = .written then _ else _, _) = _
        rw [if_neg hwritten]
      have hcommit : (do commit state; return result : StoreEffect α).run s
          = (.error writeError, s.afterWrite { s.files with state := state }) := by
        rw [Effect.run_bind, commit, Effect.run_bind, hwriteState]
        rfl
      rw [hcommit]
      exact .failed state result writeError _ rfl (s.afterWrite_state _)
        (hwrite.elim (fun h => .inr h.1) (fun h => .inl h.1))

/-- A program and the same program without its result end in the same way. -/
theorem CommitResult.withoutResult {α : Type} {transition : Except Thrown (StateTransition α)}
    {p : StoreEffect α} {s : BridgeStore} (h : CommitResult transition s (p.run s)) :
    CommitResult (transition.map .withoutResult) s ((withoutResult p).run s) := by
  have hrun : (StateStore.withoutResult p).run s
      = Effect.next (fun _ => pure ()) (p.run s) := rfl
  rw [hrun]
  rcases hp : p.run s with ⟨outcome, s'⟩
  rw [hp] at h
  cases h with
  | thrown e h => exact .thrown e (by rw [h]; rfl)
  | unchanged result h => exact .unchanged () (by rw [h]; rfl)
  | committed state result s' h memory files =>
    exact .committed state () s' (by rw [h]; rfl) memory files
  | failed state result e s' h memory files =>
    exact .failed state () e s' (by rw [h]; rfl) memory files

/-- A method that asks for the validated pins refuses, or commits its transition. -/
theorem assertCommandExecutionPinsReady_cases {α : Type}
    (transition : PersistedBridgeState → Except Thrown (StateTransition α)) (s : BridgeStore) :
    (∃ e, (withoutResult (do
        assertCommandExecutionPinsReady
        commitTransition transition)).run s = (.error e, s)) ∨
      CommitResult ((transition s.state).map .withoutResult) s ((withoutResult (do
        assertCommandExecutionPinsReady
        commitTransition transition)).run s) := by
  have hassert : assertCommandExecutionPinsReady.run s
      = (throwIf (!s.commandExecutionPinsReady) (.error
          "Bridge runtime command execution pins are unavailable before startup validation"), s) :=
    rfl
  rcases hready : s.commandExecutionPinsReady with _ | _
  · rw [hready] at hassert
    refine .inl ⟨.error
      "Bridge runtime command execution pins are unavailable before startup validation", ?_⟩
    rw [withoutResult, Effect.run_bind, Effect.run_bind, hassert]
    rfl
  · rw [hready] at hassert
    refine .inr (CommitResult.withoutResult ?_)
    have hrun : (do assertCommandExecutionPinsReady; commitTransition transition :
        StoreEffect α).run s = (commitTransition transition).run s := by
      rw [Effect.run_bind, hassert]
      rfl
    rw [hrun]
    exact commitTransition_cases transition s

/-- What a call can do: the commit of its transition, or a refusal before the pins are
validated. -/
theorem CommandCall.program_cases (text : ProtocolText) (call : CommandCall) (s : BridgeStore) :
    (∃ e, (call.program text).run s = (.error e, s)) ∨
      CommitResult (call.transition text.hash s.state) s ((call.program text).run s) := by
  cases call with
  | prune now =>
    exact .inr (CommitResult.withoutResult (commitTransition_cases
      (fun state => pruneEligibleCommandExecutionsTransition state now) s))
  | claim input => exact assertCommandExecutionPinsReady_cases _ s
  | dispatchStarted commandId at_ => exact assertCommandExecutionPinsReady_cases _ s
  | recoverOrphaned => exact assertCommandExecutionPinsReady_cases _ s
  | outcomeUnknown commandId => exact assertCommandExecutionPinsReady_cases _ s
  | receiptBlocked commandId result => exact assertCommandExecutionPinsReady_cases _ s
  | terminalReceipt commandId result input => exact assertCommandExecutionPinsReady_cases _ s
  | outbox commandId mark => exact assertCommandExecutionPinsReady_cases _ s

end Ariava.StateStore
