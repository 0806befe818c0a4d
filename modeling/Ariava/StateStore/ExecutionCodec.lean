import Ariava.StateStore.State

/-!
# `Ariava.StateStore.ExecutionCodec`: the persisted command execution

`assertCommandExecution` and `assertReceiptOutboxForExecution` of `state-codec.ts`. Both
throw on the first failed check. The readable form of "does not throw" is a predicate:
`OutboxFitsExecution` and `ValidExecution`, and the `_eq_ok_iff` theorems connect the two.
-/

set_option autoImplicit false

namespace Ariava.StateStore

open Ariava.Protocol

variable (hash : ContentHash)

/-- The input half of `assertReceiptOutboxForExecution`: the receipt is valid, the body
encodes it and the digest is its digest. -/
def isReceiptOutboxInput (terminalResult : CommandResult) (outbox : CommandReceiptOutboxInputV1) :
    Bool :=
  validateCommandResult terminalResult && validateCommandReceiptEnvelopeV1 outbox.receipt
    && decide (outbox.receipt = outbox.canonicalBody)
    && decide (deriveCommandReceiptDigest hash outbox.receipt = outbox.receiptDigest)

/-- The binding half of `assertReceiptOutboxForExecution`: the result and the receipt name
the command, its digest, its result instant and its pin. -/
def receiptMatchesExecution (execution : PersistedCommandExecutionV4)
    (terminalResult : CommandResult) (receipt : CommandReceiptEnvelopeV1) : Bool :=
  let command := execution.originalEncryptedCommand
  decide (terminalResult.commandId = command.commandId)
    && decide (terminalResult.hostId = command.hostId)
    && decide (terminalResult.sessionId = command.sessionId)
    && decide (receipt.hostId = command.hostId)
    && decide (receipt.watchDeviceId = command.watchDeviceId)
    && decide (receipt.sessionId = command.sessionId)
    && decide (receipt.commandId = command.commandId)
    && decide (receipt.commandType = command.type)
    && decide (receipt.commandDigest = execution.commandDigest)
    && decide (receipt.completedAt = terminalResult.updatedAt)
    && decide (receipt.linkId = execution.pinReference.linkId)
    && decide (receipt.linkGeneration = execution.pinReference.linkGeneration)
    && decide (receipt.epoch = execution.pinReference.epoch)
    && decide (receipt.keyWrap.senderEncryptionKeyId = execution.pinReference.hostEncryptionKeyId)
    && decide (receipt.keyWrap.recipientEncryptionKeyId
      = execution.pinReference.watchEncryptionKeyId)

/-- `assertReceiptOutboxForExecution`. -/
def assertReceiptOutboxForExecution (execution : PersistedCommandExecutionV4)
    (terminalResult : CommandResult) (outbox : CommandReceiptOutboxInputV1) :
    Except Thrown Unit := do
  throwIf (!isReceiptOutboxInput hash terminalResult outbox)
    (.typeError "command receipt outbox input is invalid")
  throwIf (!receiptMatchesExecution execution terminalResult outbox.receipt)
    (.typeError "command receipt does not match its execution")

/-- `isPersistedCommandPinReference`. -/
def isPersistedCommandPinReference (reference : PersistedCommandPinReferenceV1) : Bool :=
  isNonEmptyString reference.linkId && isPositiveSafeInteger reference.linkGeneration
    && isPositiveSafeInteger reference.epoch && isVerifier reference.transcriptDigest
    && isEncryptionKeyId reference.hostEncryptionKeyId
    && isEncryptionKeyId reference.watchEncryptionKeyId

/-- `isPersistedReceiptOutbox`. -/
def isPersistedReceiptOutbox (outbox : PersistedCommandReceiptOutboxV1) : Bool :=
  isVerifier outbox.receiptDigest && validateCommandReceiptEnvelopeV1 outbox.canonicalBody
    && decide (deriveCommandReceiptDigest hash outbox.canonicalBody = outbox.receiptDigest)

/-- The first check of `assertCommandExecution`: the record's own fields. -/
def isCommandExecutionRecord (execution : PersistedCommandExecutionV4) : Bool :=
  validateEncryptedCommandEnvelopeV1 execution.originalEncryptedCommand
    && isVerifier execution.commandDigest
    && isPersistedCommandPinReference execution.pinReference
    && decide (execution.watchDeviceId = execution.originalEncryptedCommand.watchDeviceId)
    && decide (execution.nonce = execution.originalEncryptedCommand.nonce)
    && decide (execution.expiresAt = execution.originalEncryptedCommand.expiresAt)

/-- The second check of `assertCommandExecution`: the digest and the pin are the command's. -/
def isCommandExecutionBound (execution : PersistedCommandExecutionV4) : Bool :=
  let command := execution.originalEncryptedCommand
  let pin := execution.pinReference
  decide (execution.commandDigest = deriveEncryptedCommandDigest hash command)
    && decide (pin.linkId = command.linkId)
    && decide (pin.linkGeneration = command.linkGeneration)
    && decide (pin.epoch = command.epoch)
    && decide (pin.hostEncryptionKeyId = command.payload.keyWrap.recipientEncryptionKeyId)
    && decide (pin.watchEncryptionKeyId = command.payload.keyWrap.senderEncryptionKeyId)

/-- The check of the terminal result in `assertCommandExecution`. -/
def isTerminalResultBound (execution : PersistedCommandExecutionV4) : Bool :=
  match execution.terminalResult with
  | none => true
  | some result => validateCommandResult result
      && decide (result.commandId = execution.originalEncryptedCommand.commandId)
      && decide (result.hostId = execution.originalEncryptedCommand.hostId)
      && decide (result.sessionId = execution.originalEncryptedCommand.sessionId)

/-- The check of the outbox record in `assertCommandExecution`. -/
def isReceiptOutboxRecord (execution : PersistedCommandExecutionV4) : Bool :=
  match execution.receiptOutbox with
  | none => true
  | some outbox => isPersistedReceiptOutbox hash outbox

/-- `assertPersistedReceiptMatchesExecution`. -/
def assertPersistedReceiptMatchesExecution (execution : PersistedCommandExecutionV4)
    (terminalResult : CommandResult) (outbox : PersistedCommandReceiptOutboxV1) :
    Except Thrown Unit :=
  assertReceiptOutboxForExecution hash execution terminalResult
    ⟨outbox.canonicalBody, outbox.receiptDigest, outbox.canonicalBody⟩

/-- The shape of an execution in each state: the last `switch` of
`assertCommandExecution`. -/
def assertCommandExecutionShape (execution : PersistedCommandExecutionV4) :
    Except Thrown Unit :=
  match execution.state with
  | .claimed =>
      throwIf (execution.dispatchStartedAt.isSome || execution.terminalResult.isSome
        || execution.receiptOutbox.isSome) (.typeError "claimed command shape is invalid")
  | .dispatchStarted =>
      throwIf (execution.dispatchStartedAt.isNone || execution.terminalResult.isSome
        || execution.receiptOutbox.isSome)
        (.typeError "dispatch-started command shape is invalid")
  | .outcomeUnknown =>
      throwIf (execution.terminalResult.isSome || execution.receiptOutbox.isSome)
        (.typeError "outcome-unknown command shape is invalid")
  | .terminalReceiptBlocked =>
      throwIf (execution.terminalResult.isNone || execution.receiptOutbox.isSome)
        (.typeError "receipt-blocked command shape is invalid")
  | .terminal =>
      match execution.terminalResult, execution.receiptOutbox with
      | some result, some outbox =>
          assertPersistedReceiptMatchesExecution hash execution result outbox
      | _, _ => .error (.typeError "terminal command shape is invalid")

/-- `assertCommandExecution`. -/
def assertCommandExecution (execution : PersistedCommandExecutionV4) : Except Thrown Unit := do
  throwIf (!isCommandExecutionRecord execution) (.typeError "command execution is invalid")
  throwIf (!isCommandExecutionBound hash execution)
    (.typeError "command execution binding is invalid")
  throwIf (!isTerminalResultBound execution)
    (.typeError "command terminal result binding is invalid")
  throwIf (!isReceiptOutboxRecord hash execution) (.typeError "command receipt outbox is invalid")
  assertCommandExecutionShape hash execution

/-! ### What the checks accept -/

/-- `assertReceiptOutboxForExecution` accepts exactly the outbox inputs that are valid and
that match the execution. -/
theorem assertReceiptOutboxForExecution_eq_ok_iff {execution : PersistedCommandExecutionV4}
    {result : CommandResult} {outbox : CommandReceiptOutboxInputV1} :
    assertReceiptOutboxForExecution hash execution result outbox = .ok () ↔
      isReceiptOutboxInput hash result outbox = true ∧
        receiptMatchesExecution execution result outbox.receipt = true := by
  rw [assertReceiptOutboxForExecution, check_bind_eq_ok]
  simp only [throwIf_eq_ok, Bool.not_eq_false']

/-- The execution passes every check of `assertCommandExecution`. -/
structure ValidExecution (execution : PersistedCommandExecutionV4) : Prop where
  record : isCommandExecutionRecord execution = true
  bound : isCommandExecutionBound hash execution = true
  result : isTerminalResultBound execution = true
  outbox : isReceiptOutboxRecord hash execution = true
  shape : assertCommandExecutionShape hash execution = .ok ()

/-- `assertCommandExecution` accepts exactly the valid executions. -/
theorem assertCommandExecution_eq_ok_iff {execution : PersistedCommandExecutionV4} :
    assertCommandExecution hash execution = .ok () ↔ ValidExecution hash execution := by
  rw [assertCommandExecution, check_bind_eq_ok, check_bind_eq_ok, check_bind_eq_ok,
    check_bind_eq_ok]
  simp only [throwIf_eq_ok, Bool.not_eq_false']
  constructor
  · rintro ⟨h₁, h₂, h₃, h₄, h₅⟩
    exact ⟨h₁, h₂, h₃, h₄, h₅⟩
  · rintro ⟨h₁, h₂, h₃, h₄, h₅⟩
    exact ⟨h₁, h₂, h₃, h₄, h₅⟩

variable {hash}

namespace ValidExecution

variable {execution : PersistedCommandExecutionV4}

/-- The command of a valid execution is a valid envelope. -/
theorem command (h : ValidExecution hash execution) :
    validateEncryptedCommandEnvelopeV1 execution.originalEncryptedCommand = true := by
  have hrecord := h.record
  simp only [isCommandExecutionRecord, Bool.and_eq_true] at hrecord
  exact hrecord.1.1.1.1.1

end ValidExecution

end Ariava.StateStore
