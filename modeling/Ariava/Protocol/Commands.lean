import Ariava.Protocol.Encryption

/-!
# `Ariava.Protocol.Commands`: encrypted commands, results and receipts

The wire command, the result an adapter reports and the receipt that goes back, with the
validators of `commands.ts` and `encryption.ts`.

`validateCommandResult` ties `accepted` to the status, so a result is its status:
`CommandResultStatus.accepted` gives the flag.

`validateEncryptedCommandEnvelopeV1_window` is the fact the replay protection rests on: a
valid command expires after its issue time and at most `maxTtlMs` later.
-/

set_option autoImplicit false

namespace Ariava.Protocol

/-- `COMMAND_LIMITS.maxTtlMs`. -/
def maxTtlMs : Nat := 300000

/-- `SIGNED_REQUEST_LIMITS.clockSkewMs`. -/
def clockSkewMs : Nat := 300000

/-- `CommandType`. -/
inductive CommandType
  | reply
  | interrupt
deriving DecidableEq

/-- The wire text of a command type. -/
def CommandType.text : CommandType → String
  | reply => "reply"
  | interrupt => "interrupt"

/-- `CommandResultStatus`. -/
inductive CommandResultStatus
  | executed
  | expired
  | rejected
  | failed
deriving DecidableEq

/-- The `accepted` flag that goes with a status. -/
def CommandResultStatus.accepted : CommandResultStatus → Bool
  | executed => true
  | expired => false
  | rejected => false
  | failed => false

/-- `EncryptedPayloadForRecipientV1`. -/
structure EncryptedPayloadForRecipientV1 where
  content : EncryptedContentV1
  keyWrap : RecipientKeyWrapV1
deriving DecidableEq

/-- `EncryptedCommandEnvelopeV1`. A reply has a target alert event, an interrupt has none. -/
structure EncryptedCommandEnvelopeV1 where
  type : CommandType
  commandId : String
  hostId : String
  sessionId : String
  payload : EncryptedPayloadForRecipientV1
  targetAlertEventId : Option String
  issuedAt : CanonicalTimestamp
  expiresAt : CanonicalTimestamp
  nonce : String
  watchDeviceId : String
  linkId : String
  linkGeneration : Nat
  epoch : Nat
deriving DecidableEq

/-- `CommandEnvelope`: the decrypted command that goes to an adapter. The payload is the
decrypted text of a reply. -/
structure CommandEnvelope where
  commandId : String
  hostId : String
  sessionId : String
  type : CommandType
  text : Option String
  targetAlertEventId : Option String
  issuedAt : CanonicalTimestamp
  expiresAt : CanonicalTimestamp
  nonce : String
  watchDeviceId : String
deriving DecidableEq

/-- `CommandResult`. -/
structure CommandResult where
  commandId : String
  hostId : String
  sessionId : String
  status : CommandResultStatus
  updatedAt : CanonicalTimestamp
deriving DecidableEq

/-- `CommandReceiptEnvelopeV1`. -/
structure CommandReceiptEnvelopeV1 where
  hostId : String
  watchDeviceId : String
  sessionId : String
  commandId : String
  commandType : CommandType
  commandDigest : String
  completedAt : CanonicalTimestamp
  linkId : String
  linkGeneration : Nat
  epoch : Nat
  content : EncryptedContentV1
  keyWrap : RecipientKeyWrapV1
deriving DecidableEq

/-- `isCommandExpired`. -/
def isCommandExpired (expiresAt now : CanonicalTimestamp) : Bool := decide (expiresAt ≤ now)

/-- `validateCommandResult`. -/
def validateCommandResult (result : CommandResult) : Bool :=
  isIdentifier result.commandId && isIdentifier result.hostId && isIdentifier result.sessionId

/-- The ciphertext bounds of a command payload. -/
def commandCiphertextBounds : CommandType → Nat × Nat
  | .reply => (16, replyCiphertextBytes)
  | .interrupt => (50, 50)

/-- The payload kind of a command type. -/
def commandPayloadKind : CommandType → ProtectedPayloadKind
  | .reply => .replyContentV1
  | .interrupt => .interruptContentV1

/-- `validateEncryptedPayload`. -/
def validateEncryptedPayload (payload : EncryptedPayloadForRecipientV1) (type : CommandType) :
    Bool :=
  decide (payload.content.payloadKind = commandPayloadKind type)
    && isIdentifier payload.content.contentId
    && decide (payload.content.nonce.length = nonceBytes)
    && decide ((commandCiphertextBounds type).1 ≤ payload.content.ciphertext.length)
    && decide (payload.content.ciphertext.length ≤ (commandCiphertextBounds type).2)
    && decide (payload.keyWrap.contentId = payload.content.contentId)
    && isIdentifier payload.keyWrap.linkId
    && isPositiveSafeInteger payload.keyWrap.linkGeneration
    && isPositiveSafeInteger payload.keyWrap.epoch
    && isEncryptionKeyId payload.keyWrap.senderEncryptionKeyId
    && isEncryptionKeyId payload.keyWrap.recipientEncryptionKeyId
    && decide (payload.keyWrap.nonce.length = nonceBytes)
    && decide (payload.keyWrap.ciphertext.length = wrappedDekBytes)

/-- The target of a command: an identifier for a reply, absent for an interrupt. -/
def validateTargetAlertEventId (type : CommandType) (target : Option String) : Bool :=
  match type, target with
  | .reply, some eventId => isIdentifier eventId
  | .reply, none => false
  | .interrupt, target => target.isNone

/-- `validateEncryptedCommandEnvelopeV1`. -/
def validateEncryptedCommandEnvelopeV1 (command : EncryptedCommandEnvelopeV1) : Bool :=
  isIdentifier command.commandId && isIdentifier command.hostId
    && isIdentifier command.sessionId && isIdentifier command.watchDeviceId
    && isIdentifier command.linkId
    && decide (command.issuedAt.epochMs < command.expiresAt.epochMs)
    && decide (command.expiresAt.epochMs ≤ command.issuedAt.epochMs + maxTtlMs)
    && isIdentifier command.nonce && isPositiveSafeInteger command.linkGeneration
    && isPositiveSafeInteger command.epoch
    && validateEncryptedPayload command.payload command.type
    && decide (command.payload.keyWrap.linkId = command.linkId)
    && decide (command.payload.keyWrap.linkGeneration = command.linkGeneration)
    && decide (command.payload.keyWrap.epoch = command.epoch)
    && validateTargetAlertEventId command.type command.targetAlertEventId

/-- A valid command expires after its issue time, and at most `maxTtlMs` after it. -/
theorem validateEncryptedCommandEnvelopeV1_window {command : EncryptedCommandEnvelopeV1}
    (h : validateEncryptedCommandEnvelopeV1 command = true) :
    command.issuedAt.epochMs < command.expiresAt.epochMs ∧
      command.expiresAt.epochMs ≤ command.issuedAt.epochMs + maxTtlMs := by
  simp only [validateEncryptedCommandEnvelopeV1, Bool.and_eq_true, decide_eq_true_eq] at h
  obtain ⟨⟨⟨⟨⟨⟨⟨⟨⟨⟨-, hlt⟩, hle⟩, -⟩, -⟩, -⟩, -⟩, -⟩, -⟩, -⟩, -⟩ := h
  exact ⟨hlt, hle⟩

/-- `buildEncryptedCommandEnvelopeBindingBytes`: the bound fields of a valid command. -/
def encryptedCommandBindingFields (command : EncryptedCommandEnvelopeV1) : List BindingField :=
  [.text "ariava-encrypted-command-binding-v1", .text command.hostId,
    .text command.watchDeviceId, .text command.sessionId, .text command.commandId,
    .text command.type.text, .text (command.targetAlertEventId.getD ""),
    .instant command.issuedAt, .instant command.expiresAt, .text command.nonce,
    .text command.linkId, .number command.linkGeneration, .number command.epoch]
    ++ contentBindingFields command.payload.content ++ wrapBindingFields command.payload.keyWrap

/-- `deriveEncryptedCommandDigest`. -/
def deriveEncryptedCommandDigest (hash : ContentHash) (command : EncryptedCommandEnvelopeV1) :
    String :=
  hash.digest (encryptedCommandBindingFields command)

/-- `validateCommandReceiptEnvelopeV1`. -/
def validateCommandReceiptEnvelopeV1 (receipt : CommandReceiptEnvelopeV1) : Bool :=
  isCanonicalDigest receipt.commandDigest && isPositiveSafeInteger receipt.linkGeneration
    && isPositiveSafeInteger receipt.epoch
    && isIdentifier receipt.hostId && isIdentifier receipt.watchDeviceId
    && isIdentifier receipt.sessionId && isIdentifier receipt.commandId
    && isIdentifier receipt.linkId
    && validateEncryptedContentV1 receipt.content
    && decide (receipt.content.payloadKind = .commandReceiptContentV1)
    && validateRecipientKeyWrapV1 receipt.keyWrap
    && isEncryptionKeyId receipt.keyWrap.senderEncryptionKeyId
    && isEncryptionKeyId receipt.keyWrap.recipientEncryptionKeyId
    && decide (receipt.content.contentId = receipt.keyWrap.contentId)
    && decide (receipt.linkId = receipt.keyWrap.linkId)
    && decide (receipt.linkGeneration = receipt.keyWrap.linkGeneration)
    && decide (receipt.epoch = receipt.keyWrap.epoch)
    && decide (receipt.content.ciphertext.length
      = commandReceiptPlaintextBytes + authenticationTagBytes)

/-- `buildCommandReceiptEnvelopeBindingBytes`: the bound fields of a valid receipt. -/
def commandReceiptBindingFields (receipt : CommandReceiptEnvelopeV1) : List BindingField :=
  [.text "ariava-command-receipt-binding-v1", .number 1, .text receipt.hostId,
    .text receipt.watchDeviceId, .text receipt.sessionId, .text receipt.commandId,
    .text receipt.commandType.text, .text receipt.commandDigest, .instant receipt.completedAt,
    .text receipt.linkId, .number receipt.linkGeneration, .number receipt.epoch]
    ++ contentBindingFields receipt.content ++ wrapBindingFields receipt.keyWrap

/-- `deriveCommandReceiptDigest`. -/
def deriveCommandReceiptDigest (hash : ContentHash) (receipt : CommandReceiptEnvelopeV1) :
    String :=
  hash.digest (commandReceiptBindingFields receipt)

end Ariava.Protocol
