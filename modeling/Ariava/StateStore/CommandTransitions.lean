import Ariava.StateStore.ExecutionCodec

/-!
# `Ariava.StateStore.CommandTransitions`: durable command execution

The pure transitions of `command-transitions.ts`. Each one reads the execution of a
command, checks its state, builds the next record and passes it through
`assertCommandExecution` before it becomes part of the next state.

The second half says what each transition does, for the proofs about runs. A transition
that succeeds leaves every other command alone, and `replaceCommandExecution_cases`,
`claimCommandExecution_cases` and `pruneEligibleCommandExecutions_cases` are its complete
effect. No later proof unfolds a transition.
-/

set_option autoImplicit false

namespace Ariava.StateStore

open Ariava.Lib
open Ariava.Protocol

/-- `COMMAND_RECEIPT_RETENTION_DAYS`. -/
def commandReceiptRetentionDays : Nat := 30

/-- `COMMAND_RECEIPT_RETENTION_MS`. -/
def commandReceiptRetentionMs : Nat := commandReceiptRetentionDays * 24 * 60 * 60 * 1000

/-- The state of a claim. -/
inductive CommandClaim
  | claimed (execution : PersistedCommandExecutionV4)
  | duplicate (execution : PersistedCommandExecutionV4)
  | conflict
deriving DecidableEq

/-- The input of `claimCommandExecution`. -/
structure CommandClaimInput where
  originalEncryptedCommand : EncryptedCommandEnvelopeV1
  commandDigest : String
  pinReference : PersistedCommandPinReferenceV1
  claimedAt : CanonicalTimestamp
deriving DecidableEq

/-- `requireCommandExecution`. -/
def requireCommandExecution (state : PersistedBridgeState) (commandId : String) :
    Except Thrown PersistedCommandExecutionV4 :=
  match state.commandExecutions.get? commandId with
  | some execution => .ok execution
  | none => .error (.typeError "command execution is not claimed")

/-- The state with one command execution written. -/
def withCommandExecution (state : PersistedBridgeState) (commandId : String)
    (execution : PersistedCommandExecutionV4) : PersistedBridgeState :=
  { state with commandExecutions := state.commandExecutions.set commandId execution }

/-- `replaceCommandExecutionTransition`. -/
def replaceCommandExecutionTransition (hash : ContentHash) (state : PersistedBridgeState)
    (commandId : String) (execution : PersistedCommandExecutionV4) :
    Except Thrown (StateTransition PersistedCommandExecutionV4) := do
  assertCommandExecution hash execution
  throwIf (decide (execution.originalEncryptedCommand.commandId ≠ commandId))
    (.typeError "command execution ID binding is invalid")
  return .next (withCommandExecution state commandId execution) execution

/-- The record that a claim would write. -/
def claimCandidate (input : CommandClaimInput) : PersistedCommandExecutionV4 where
  originalEncryptedCommand := input.originalEncryptedCommand
  commandDigest := input.commandDigest
  pinReference := input.pinReference
  watchDeviceId := input.originalEncryptedCommand.watchDeviceId
  nonce := input.originalEncryptedCommand.nonce
  expiresAt := input.originalEncryptedCommand.expiresAt
  state := .claimed
  claimedAt := input.claimedAt
  dispatchStartedAt := none
  terminalResult := none
  receiptOutbox := none

/-- `sameCommandClaim`. -/
def sameCommandClaim (left right : PersistedCommandExecutionV4) : Bool :=
  decide (left.commandDigest = right.commandDigest)
    && decide (left.originalEncryptedCommand = right.originalEncryptedCommand)
    && decide (left.pinReference = right.pinReference)

/-- The replay test of a claim: another record has the same device and nonce. -/
def sameNonceBinding (left right : PersistedCommandExecutionV4) : Bool :=
  decide (left.watchDeviceId = right.watchDeviceId) && decide (left.nonce = right.nonce)

/-- `claimCommandExecutionTransition`. -/
def claimCommandExecutionTransition (hash : ContentHash) (state : PersistedBridgeState)
    (input : CommandClaimInput) : Except Thrown (StateTransition CommandClaim) := do
  let candidate := claimCandidate input
  assertCommandExecution hash candidate
  match state.commandExecutions.get? input.originalEncryptedCommand.commandId with
  | some existing =>
      if sameCommandClaim existing candidate then return .unchanged (.duplicate existing)
      else return .unchanged .conflict
  | none =>
      if state.commandExecutions.values.any (sameNonceBinding · candidate) then
        return .unchanged .conflict
      else
        return .next
          (withCommandExecution state input.originalEncryptedCommand.commandId candidate)
          (.claimed candidate)

/-- `markCommandDispatchStartedTransition`. -/
def markCommandDispatchStartedTransition (hash : ContentHash) (state : PersistedBridgeState)
    (commandId : String) (dispatchStartedAt : CanonicalTimestamp) :
    Except Thrown (StateTransition PersistedCommandExecutionV4) := do
  let current ← requireCommandExecution state commandId
  throwIf (decide (current.state ≠ .claimed))
    (.typeError "command execution cannot start dispatch from its current state")
  replaceCommandExecutionTransition hash state commandId
    { current with state := .dispatchStarted, dispatchStartedAt := some dispatchStartedAt }

/-- The states in which a restart finds a command whose outcome it cannot know. -/
def isOrphaned (execution : PersistedCommandExecutionV4) : Bool :=
  decide (execution.state = .claimed) || decide (execution.state = .dispatchStarted)

/-- `recoverOrphanedCommandExecutionsTransition`. -/
def recoverOrphanedCommandExecutionsTransition (state : PersistedBridgeState) :
    StateTransition Nat :=
  let orphans := state.commandExecutions.filter fun _ execution => isOrphaned execution
  if orphans.isEmpty then .unchanged 0
  else .next
    { state with
        commandExecutions := state.commandExecutions.mapValues fun _ execution =>
          if isOrphaned execution then { execution with state := .outcomeUnknown }
          else execution }
    orphans.size

/-- `markCommandOutcomeUnknownTransition`. -/
def markCommandOutcomeUnknownTransition (hash : ContentHash) (state : PersistedBridgeState)
    (commandId : String) : Except Thrown (StateTransition PersistedCommandExecutionV4) := do
  let current ← requireCommandExecution state commandId
  throwIf (!isOrphaned current)
    (.typeError "command execution cannot become outcome-unknown from its current state")
  replaceCommandExecutionTransition hash state commandId { current with state := .outcomeUnknown }

/-- `persistTerminalReceiptBlockedTransition`. -/
def persistTerminalReceiptBlockedTransition (hash : ContentHash) (state : PersistedBridgeState)
    (commandId : String) (terminalResult : CommandResult) :
    Except Thrown (StateTransition PersistedCommandExecutionV4) := do
  let current ← requireCommandExecution state commandId
  throwIf (!isOrphaned current)
    (.typeError "command execution cannot persist a terminal result from its current state")
  replaceCommandExecutionTransition hash state commandId
    { current with state := .terminalReceiptBlocked, terminalResult := some terminalResult }

/-- `persistTerminalCommandReceiptTransition`. -/
def persistTerminalCommandReceiptTransition (hash : ContentHash) (state : PersistedBridgeState)
    (commandId : String) (terminalResult : CommandResult)
    (outbox : CommandReceiptOutboxInputV1) :
    Except Thrown (StateTransition PersistedCommandExecutionV4) := do
  let current ← requireCommandExecution state commandId
  throwIf (!isOrphaned current && decide (current.state ≠ .terminalReceiptBlocked))
    (.typeError "command execution cannot become terminal from its current state")
  throwIf (decide (current.state = .terminalReceiptBlocked)
      && decide (current.terminalResult ≠ some terminalResult))
    (.typeError "terminal result is immutable")
  assertReceiptOutboxForExecution hash current terminalResult outbox
  replaceCommandExecutionTransition hash state commandId
    { current with
        state := .terminal
        terminalResult := some terminalResult
        receiptOutbox := some ⟨.pending, outbox.canonicalBody, outbox.receiptDigest⟩ }

/-- The outbox states that `markCommandReceiptOutbox` writes. -/
inductive ReceiptOutboxMark
  | acknowledged
  | undeliverable
deriving DecidableEq

/-- The outbox state of a mark. -/
def ReceiptOutboxMark.state : ReceiptOutboxMark → ReceiptOutboxState
  | acknowledged => .acknowledged
  | undeliverable => .undeliverable

/-- `markCommandReceiptOutboxTransition`. -/
def markCommandReceiptOutboxTransition (hash : ContentHash) (state : PersistedBridgeState)
    (commandId : String) (mark : ReceiptOutboxMark) :
    Except Thrown (StateTransition PersistedCommandExecutionV4) := do
  let current ← requireCommandExecution state commandId
  match current.state, current.receiptOutbox with
  | .terminal, some ⟨.pending, canonicalBody, receiptDigest⟩ =>
      replaceCommandExecutionTransition hash state commandId
        { current with receiptOutbox := some ⟨mark.state, canonicalBody, receiptDigest⟩ }
  | _, _ =>
      .error (.typeError "command receipt outbox cannot transition from its current state")

/-- `commandExecutionRetainedThrough`. -/
def commandExecutionRetainedThrough (execution : PersistedCommandExecutionV4) :
    Except Thrown IsoText :=
  match execution.state, execution.terminalResult with
  | .terminalReceiptBlocked, some result
  | .terminal, some result => .ok (result.updatedAt.addMilliseconds commandReceiptRetentionMs)
  | .terminalReceiptBlocked, none
  | .terminal, none =>
      .error (.typeError "terminal command execution retention is noncanonical")
  | _, _ => .ok (execution.expiresAt.addMilliseconds clockSkewMs)

/-- The `filter` of `pruneEligibleCommandExecutionsTransition`. -/
def eligibleCommandExecutions (now : CanonicalTimestamp) :
    List (String × PersistedCommandExecutionV4) →
      Except Thrown (List (String × PersistedCommandExecutionV4))
  | [] => .ok []
  | entry :: rest => do
      let retainedThrough ← commandExecutionRetainedThrough entry.2
      let eligible ← eligibleCommandExecutions now rest
      return if retainedThrough < now.toIsoText then entry :: eligible else eligible

/-- `pruneEligibleCommandExecutionsTransition`. The clock is canonical by type. -/
def pruneEligibleCommandExecutionsTransition (state : PersistedBridgeState)
    (now : CanonicalTimestamp) :
    Except Thrown (StateTransition (List PersistedCommandExecutionV4)) := do
  let eligible ← eligibleCommandExecutions now state.commandExecutions.entries
  if eligible.isEmpty then return .unchanged []
  else
    return .next
      { state with
          commandExecutions := eligible.foldl (fun executions entry => executions.erase entry.1)
            state.commandExecutions }
      (eligible.map Prod.snd)

/-! ### The effect of each transition -/

section
variable {hash : ContentHash} {state : PersistedBridgeState} {commandId : String}

/-- A replacement that succeeds writes a valid execution of that very command. -/
theorem replaceCommandExecution_cases {execution : PersistedCommandExecutionV4}
    {t : StateTransition PersistedCommandExecutionV4}
    (h : replaceCommandExecutionTransition hash state commandId execution = .ok t) :
    ValidExecution hash execution ∧ execution.originalEncryptedCommand.commandId = commandId ∧
      t = .next (withCommandExecution state commandId execution) execution := by
  rw [replaceCommandExecutionTransition, check_bind_eq_ok, check_bind_eq_ok,
    assertCommandExecution_eq_ok_iff, throwIf_eq_ok, decide_eq_false_iff_not, not_not] at h
  obtain ⟨hvalid, hid, ht⟩ := h
  exact ⟨hvalid, hid, (Except.ok.inj ht).symm⟩

/-- `requireCommandExecution` returns the stored record. -/
theorem requireCommandExecution_eq_ok {execution : PersistedCommandExecutionV4} :
    requireCommandExecution state commandId = .ok execution ↔
      state.commandExecutions.get? commandId = some execution := by
  unfold requireCommandExecution
  cases state.commandExecutions.get? commandId <;> simp

/-- A claim leaves the state as it is, or writes the candidate under a new command id and
a new device nonce. -/
theorem claimCommandExecution_cases {input : CommandClaimInput}
    {t : StateTransition CommandClaim}
    (h : claimCommandExecutionTransition hash state input = .ok t) :
    ValidExecution hash (claimCandidate input) ∧
      ((∃ result, t = .unchanged result ∧ ∀ execution, result ≠ .claimed execution) ∨
        (state.commandExecutions.get? input.originalEncryptedCommand.commandId = none ∧
          (∀ id execution, state.commandExecutions.get? id = some execution →
            sameNonceBinding execution (claimCandidate input) = false) ∧
          t = .next
            (withCommandExecution state input.originalEncryptedCommand.commandId
              (claimCandidate input)) (.claimed (claimCandidate input)))) := by
  rw [claimCommandExecutionTransition, check_bind_eq_ok, assertCommandExecution_eq_ok_iff] at h
  obtain ⟨hvalid, h⟩ := h
  refine ⟨hvalid, ?_⟩
  split at h
  · refine Or.inl ?_
    split at h <;>
      exact ⟨_, (Except.ok.inj h).symm, by simp⟩
  · rename_i hnone
    split at h
    · exact Or.inl ⟨_, (Except.ok.inj h).symm, by simp⟩
    · rename_i hany
      refine Or.inr ⟨hnone, fun id execution hget => ?_, (Except.ok.inj h).symm⟩
      by_contra hsame
      apply hany
      rw [List.any_eq_true]
      exact ⟨execution, Dict.mem_values_iff.mpr ⟨id, hget⟩, by simpa using hsame⟩

/-- `markCommandDispatchStarted` moves a claimed command to dispatch started. -/
theorem markCommandDispatchStarted_cases {at_ : CanonicalTimestamp}
    {t : StateTransition PersistedCommandExecutionV4}
    (h : markCommandDispatchStartedTransition hash state commandId at_ = .ok t) :
    ∃ current, state.commandExecutions.get? commandId = some current ∧
      current.state = .claimed ∧
      ∃ next, next = { current with
          state := .dispatchStarted, dispatchStartedAt := some at_ } ∧
        ValidExecution hash next ∧ t = .next (withCommandExecution state commandId next) next := by
  rw [markCommandDispatchStartedTransition, bind_eq_ok_iff] at h
  obtain ⟨current, hcurrent, h⟩ := h
  rw [check_bind_eq_ok, throwIf_eq_ok, decide_eq_false_iff_not, not_not] at h
  obtain ⟨hvalid, -, ht⟩ := replaceCommandExecution_cases h.2
  exact ⟨current, requireCommandExecution_eq_ok.mp hcurrent, h.1, _, rfl, hvalid, ht⟩

/-- `markCommandOutcomeUnknown` moves a claimed or dispatched command to outcome
unknown. -/
theorem markCommandOutcomeUnknown_cases {t : StateTransition PersistedCommandExecutionV4}
    (h : markCommandOutcomeUnknownTransition hash state commandId = .ok t) :
    ∃ current, state.commandExecutions.get? commandId = some current ∧
      isOrphaned current = true ∧
      ∃ next, next = { current with state := .outcomeUnknown } ∧
        ValidExecution hash next ∧ t = .next (withCommandExecution state commandId next) next := by
  rw [markCommandOutcomeUnknownTransition, bind_eq_ok_iff] at h
  obtain ⟨current, hcurrent, h⟩ := h
  rw [check_bind_eq_ok, throwIf_eq_ok, Bool.not_eq_false'] at h
  obtain ⟨hvalid, -, ht⟩ := replaceCommandExecution_cases h.2
  exact ⟨current, requireCommandExecution_eq_ok.mp hcurrent, h.1, _, rfl, hvalid, ht⟩

/-- `persistTerminalReceiptBlocked` gives a claimed or dispatched command its result. -/
theorem persistTerminalReceiptBlocked_cases {result : CommandResult}
    {t : StateTransition PersistedCommandExecutionV4}
    (h : persistTerminalReceiptBlockedTransition hash state commandId result = .ok t) :
    ∃ current, state.commandExecutions.get? commandId = some current ∧
      isOrphaned current = true ∧
      ∃ next, next = { current with
          state := .terminalReceiptBlocked, terminalResult := some result } ∧
        ValidExecution hash next ∧ t = .next (withCommandExecution state commandId next) next := by
  rw [persistTerminalReceiptBlockedTransition, bind_eq_ok_iff] at h
  obtain ⟨current, hcurrent, h⟩ := h
  rw [check_bind_eq_ok, throwIf_eq_ok, Bool.not_eq_false'] at h
  obtain ⟨hvalid, -, ht⟩ := replaceCommandExecution_cases h.2
  exact ⟨current, requireCommandExecution_eq_ok.mp hcurrent, h.1, _, rfl, hvalid, ht⟩

/-- `persistTerminalCommandReceipt` makes a command terminal. A blocked command keeps the
result it has. -/
theorem persistTerminalCommandReceipt_cases {result : CommandResult}
    {outbox : CommandReceiptOutboxInputV1} {t : StateTransition PersistedCommandExecutionV4}
    (h : persistTerminalCommandReceiptTransition hash state commandId result outbox = .ok t) :
    ∃ current, state.commandExecutions.get? commandId = some current ∧
      (isOrphaned current = true ∨
        (current.state = .terminalReceiptBlocked ∧ current.terminalResult = some result)) ∧
      ∃ next, next = { current with
          state := .terminal
          terminalResult := some result
          receiptOutbox := some ⟨.pending, outbox.canonicalBody, outbox.receiptDigest⟩ } ∧
        ValidExecution hash next ∧ t = .next (withCommandExecution state commandId next) next := by
  rw [persistTerminalCommandReceiptTransition, bind_eq_ok_iff] at h
  obtain ⟨current, hcurrent, h⟩ := h
  rw [check_bind_eq_ok, check_bind_eq_ok, check_bind_eq_ok, throwIf_eq_ok, throwIf_eq_ok] at h
  obtain ⟨hstate, hresult, -, h⟩ := h
  obtain ⟨hvalid, -, ht⟩ := replaceCommandExecution_cases h
  refine ⟨current, requireCommandExecution_eq_ok.mp hcurrent, ?_, _, rfl, hvalid, ht⟩
  by_cases horphan : isOrphaned current = true
  · exact Or.inl horphan
  · have hblocked : current.state = .terminalReceiptBlocked := by simpa [horphan] using hstate
    exact Or.inr ⟨hblocked, by simpa [hblocked] using hresult⟩

/-- `markCommandReceiptOutbox` changes only the outbox state of a terminal command, from
pending. -/
theorem markCommandReceiptOutbox_cases {mark : ReceiptOutboxMark}
    {t : StateTransition PersistedCommandExecutionV4}
    (h : markCommandReceiptOutboxTransition hash state commandId mark = .ok t) :
    ∃ current outbox, state.commandExecutions.get? commandId = some current ∧
      current.state = .terminal ∧ current.receiptOutbox = some outbox ∧
      outbox.state = .pending ∧
      ∃ next, next = { current with receiptOutbox := some { outbox with state := mark.state } } ∧
        ValidExecution hash next ∧ t = .next (withCommandExecution state commandId next) next := by
  rw [markCommandReceiptOutboxTransition, bind_eq_ok_iff] at h
  obtain ⟨current, hcurrent, h⟩ := h
  split at h
  · rename_i hstate houtbox
    obtain ⟨hvalid, -, ht⟩ := replaceCommandExecution_cases h
    exact ⟨current, _, requireCommandExecution_eq_ok.mp hcurrent, hstate, houtbox, rfl, _, rfl,
      hvalid, ht⟩
  · exact absurd h (by simp)

/-- Recovery makes every claimed or dispatched command outcome unknown and leaves the
others alone. -/
theorem recoverOrphanedCommandExecutions_get? (state : PersistedBridgeState) (id : String) :
    ((recoverOrphanedCommandExecutionsTransition state).stateFrom state).commandExecutions.get? id
      = (state.commandExecutions.get? id).map fun execution =>
          if isOrphaned execution then { execution with state := .outcomeUnknown }
          else execution := by
  unfold recoverOrphanedCommandExecutionsTransition
  dsimp only
  split
  · rename_i hempty
    -- No orphan is in the dictionary, so the map changes nothing.
    have hnone : ∀ execution, state.commandExecutions.get? id = some execution →
        isOrphaned execution = false := by
      intro execution hget
      by_contra horphan
      have hmem : (id, execution) ∈
          (state.commandExecutions.filter fun _ e => isOrphaned e).entries := by
        rw [Dict.mem_entries_iff, Dict.get?_filter, hget]
        simpa using horphan
      rw [Dict.isEmpty, List.isEmpty_iff] at hempty
      rw [hempty] at hmem
      exact absurd hmem (by simp)
    cases hget : state.commandExecutions.get? id with
    | none => simp [StateTransition.stateFrom, hget]
    | some execution => simp [StateTransition.stateFrom, hget, hnone execution hget]
  · simp only [StateTransition.stateFrom]
    rw [Dict.get?_mapValues]

/-- The entries that are eligible at `now` are those whose retention text is below it. -/
theorem mem_eligibleCommandExecutions {now : CanonicalTimestamp}
    {entries eligible : List (String × PersistedCommandExecutionV4)}
    (h : eligibleCommandExecutions now entries = .ok eligible)
    (entry : String × PersistedCommandExecutionV4) :
    entry ∈ eligible ↔ entry ∈ entries ∧
      ∃ through, commandExecutionRetainedThrough entry.2 = .ok through ∧
        through < now.toIsoText := by
  induction entries generalizing eligible with
  | nil =>
    cases h
    simp
  | cons first rest ih =>
    rw [eligibleCommandExecutions, bind_eq_ok_iff] at h
    obtain ⟨through, hthrough, h⟩ := h
    rw [bind_eq_ok_iff] at h
    obtain ⟨tail, htail, h⟩ := h
    have heligible := Except.ok.inj h
    have hih := ih htail
    by_cases hlt : through < now.toIsoText
    · rw [if_pos hlt] at heligible
      rw [← heligible, List.mem_cons, List.mem_cons, hih]
      constructor
      · rintro (rfl | ⟨hmem, hex⟩)
        · exact ⟨Or.inl rfl, through, hthrough, hlt⟩
        · exact ⟨Or.inr hmem, hex⟩
      · rintro ⟨rfl | hmem, hex⟩
        · exact Or.inl rfl
        · exact Or.inr ⟨hmem, hex⟩
    · rw [if_neg hlt] at heligible
      rw [← heligible, List.mem_cons, hih]
      constructor
      · rintro ⟨hmem, hex⟩
        exact ⟨Or.inr hmem, hex⟩
      · rintro ⟨rfl | hmem, through', hthrough', hlt'⟩
        · rw [hthrough] at hthrough'
          cases hthrough'
          exact absurd hlt' hlt
        · exact ⟨hmem, through', hthrough', hlt'⟩

/-- A lookup after the erasure of the keys of a list of entries. -/
theorem get?_foldl_erase {α : Type} (removed : List (String × α)) (d : Dict String α)
    (k : String) :
    (removed.foldl (fun d entry => d.erase entry.1) d).get? k
      = if k ∈ removed.map Prod.fst then none else d.get? k := by
  induction removed generalizing d with
  | nil => simp
  | cons first rest ih =>
    rw [List.foldl_cons, ih, Dict.get?_erase]
    by_cases hk : k ∈ rest.map Prod.fst <;> by_cases hfirst : k = first.1 <;> simp [hk, hfirst]

/-- Pruning removes exactly the executions whose retention text is below the clock. -/
theorem pruneEligibleCommandExecutions_cases {now : CanonicalTimestamp}
    {t : StateTransition (List PersistedCommandExecutionV4)}
    (h : pruneEligibleCommandExecutionsTransition state now = .ok t) (id : String)
    (execution : PersistedCommandExecutionV4) :
    (t.stateFrom state).commandExecutions.get? id = some execution ↔
      state.commandExecutions.get? id = some execution ∧
        ∀ through, commandExecutionRetainedThrough execution = .ok through →
          ¬ through < now.toIsoText := by
  rw [pruneEligibleCommandExecutionsTransition, bind_eq_ok_iff] at h
  obtain ⟨eligible, heligible, h⟩ := h
  have hmem := mem_eligibleCommandExecutions heligible
  have hnot : state.commandExecutions.get? id = some execution →
      (id ∉ eligible.map Prod.fst ↔ ∀ through,
        commandExecutionRetainedThrough execution = .ok through → ¬ through < now.toIsoText) := by
    intro hget
    rw [List.mem_map, not_exists]
    constructor
    · intro hall through hthrough hlt
      exact hall (id, execution)
        ⟨(hmem _).mpr ⟨Dict.mem_entries_iff.mpr hget, through, hthrough, hlt⟩, rfl⟩
    · rintro hall ⟨id', execution'⟩ ⟨hin, rfl⟩
      obtain ⟨hentry, through, hthrough, hlt⟩ := (hmem _).mp hin
      rw [Dict.mem_entries_iff, hget, Option.some.injEq] at hentry
      subst hentry
      exact hall through hthrough hlt
  split at h
  · rename_i hempty
    cases h
    rw [List.isEmpty_iff] at hempty
    subst hempty
    simp only [StateTransition.stateFrom]
    constructor
    · intro hget
      exact ⟨hget, (hnot hget).mp (by simp)⟩
    · exact fun hget => hget.1
  · cases h
    simp only [StateTransition.stateFrom]
    rw [get?_foldl_erase]
    constructor
    · intro hget
      split at hget
      · exact absurd hget (by simp)
      · rename_i hkey
        exact ⟨hget, (hnot hget).mp hkey⟩
    · rintro ⟨hget, hall⟩
      rw [if_neg ((hnot hget).mpr hall)]
      exact hget

end

end Ariava.StateStore
