import Ariava.E2e.KeyringCodec
import Ariava.StateStore.ExecutionCodec

/-!
# `Ariava.E2e.CommandReceipt`: building the receipt of a command

`buildCommandReceipt` of `command-receipt.ts`: check the execution, find the exact pin of its
command, seal the result and wrap the content key for the Watch.

`buildCommandReceipt_eq_ok`: for an execution that was claimed, a result of its command and a
valid pin that still serves it, a receipt is built and `assertReceiptOutboxForExecution` accepts
it. `buildCommandReceipt_unavailable`: when the pin does not serve the command any more, no
receipt is built.
-/

set_option autoImplicit false

namespace Ariava.E2e

open Ariava.Lib
open Ariava.Protocol
open Ariava.StateStore

/-- `CommandReceiptRandomness`. -/
structure CommandReceiptRandomness where
  contentId : String
  dek : List UInt8
  contentNonce : List UInt8
  wrapNonce : List UInt8

/-- The checks of `assertRandomness`. -/
def isReceiptRandomness (randomness : CommandReceiptRandomness) : Bool :=
  isIdentifier randomness.contentId && decide (randomness.dek.length = 32)
    && decide (randomness.contentNonce.length = nonceBytes)
    && decide (randomness.wrapNonce.length = nonceBytes)

/-- `CommandReceiptExecution`: an execution with its terminal result. -/
structure CommandReceiptExecution extends PersistedCommandExecutionV4 where
  result : CommandResult
  terminalResult_eq : terminalResult = some result

/-- An execution with a terminal result that was just reported. -/
def receiptExecution (execution : PersistedCommandExecutionV4) (result : CommandResult) :
    CommandReceiptExecution where
  toPersistedCommandExecutionV4 := { execution with terminalResult := some result }
  result := result
  terminalResult_eq := rfl

/-! ### The checks -/

/-- `base64UrlDecode` of the text of 32 bytes, with the label of the text. -/
def decodeDigest (label s : String) : Except Thrown Unit := do
  throwIf (!(isNonEmptyString s && s.toList.all isBase64UrlChar))
    (.typeError (label ++ " must be canonical unpadded base64url"))
  throwIf (decide (s.toList.length % 4 = 1))
    (.typeError (label ++ " has an invalid base64url length"))
  throwIf (decide (s.toList.length * 6 / 8 ≠ 32))
    (.typeError (label ++ " must contain exactly 32 bytes"))
  throwIf (!isCanonicalDigest s) (.typeError (label ++ " is not canonical base64url"))

/-- `assertPinReference`. -/
def assertPinReference (reference : PersistedCommandPinReferenceV1) : Except Thrown Unit := do
  throwIf (!(isPositiveSafeInteger reference.linkGeneration
      && isPositiveSafeInteger reference.epoch))
    (.typeError "command receipt pin reference is invalid")
  decodeDigest "link transcript digest" reference.transcriptDigest
  throwIf (!(isEncryptionKeyId reference.hostEncryptionKeyId
      && isEncryptionKeyId reference.watchEncryptionKeyId))
    (.typeError "command receipt pin reference is invalid")

/-- A receipt can be built in these states of an execution. -/
def isReceiptState (state : CommandExecutionState) : Bool :=
  decide (state = .claimed) || decide (state = .dispatchStarted)
    || decide (state = .terminalReceiptBlocked)

/-- The bindings that `validateExecution` checks: the execution, its result and its pin reference
name the command. -/
def isReceiptExecutionBound (hash : ContentHash) (execution : CommandReceiptExecution) : Bool :=
  let command := execution.originalEncryptedCommand
  let reference := execution.pinReference
  decide (deriveEncryptedCommandDigest hash command = execution.commandDigest)
    && decide (execution.watchDeviceId = command.watchDeviceId)
    && decide (execution.nonce = command.nonce)
    && decide (execution.expiresAt = command.expiresAt)
    && decide (execution.result.commandId = command.commandId)
    && decide (execution.result.hostId = command.hostId)
    && decide (execution.result.sessionId = command.sessionId)
    && decide (reference.linkId = command.linkId)
    && decide (reference.linkGeneration = command.linkGeneration)
    && decide (reference.epoch = command.epoch)
    && decide (reference.watchEncryptionKeyId = command.payload.keyWrap.senderEncryptionKeyId)
    && decide (reference.hostEncryptionKeyId = command.payload.keyWrap.recipientEncryptionKeyId)

/-- `validateExecution`. -/
def validateExecution (hash : ContentHash) (execution : CommandReceiptExecution) :
    Except Thrown Unit := do
  throwIf execution.receiptOutbox.isSome (.typeError "command receipt input is invalid")
  throwIf (!(isReceiptState execution.state
      && validateEncryptedCommandEnvelopeV1 execution.originalEncryptedCommand
      && validateCommandResult execution.result))
    (.typeError "command receipt execution is invalid")
  assertPinReference execution.pinReference
  throwIf (!isReceiptExecutionBound hash execution)
    (.typeError "command receipt execution binding is invalid")

/-- The pin that was found serves the command, and it is the one of the reference. -/
def isExactPin (command : EncryptedCommandEnvelopeV1)
    (reference : PersistedCommandPinReferenceV1) (material : PinMaterial) : Bool :=
  decide (material.pin.status ≠ .revoked) && isIssuedWithinPin material.pin command.issuedAt
    && decide (material.pin.hostId = command.hostId)
    && decide (material.pin.watchDeviceId = command.watchDeviceId)
    && decide (material.pin.transcriptDigest = reference.transcriptDigest)
    && decide (material.pin.hostBinding.encryptionKeyId = reference.hostEncryptionKeyId)
    && decide (material.pin.watchBinding.encryptionKeyId = reference.watchEncryptionKeyId)
    && decide (material.hostIdentity.encryptionKeyId = reference.hostEncryptionKeyId)
    && decide (material.watchBinding.encryptionKeyId = reference.watchEncryptionKeyId)

/-- `bindingDigest` of `command-receipt.ts`. -/
def checkedBindingDigest (hash : ContentHash) (binding : EncryptionKeyBindingV1) :
    Except Thrown String := do
  throwIf (!validateEncryptionKeyBindingV1 binding)
    (.typeError "command receipt encryption binding is invalid")
  return bindingDigest hash binding

/-- The digests of a pin are those of its bindings and of its transcript. -/
def hasTranscript (hash : ContentHash) (pin : ActiveLinkPinV2)
    (hostBindingDigest watchBindingDigest : String) : Bool :=
  decide (pin.hostBindingDigest = hostBindingDigest)
    && decide (pin.watchBindingDigest = watchBindingDigest)
    && decide (pin.transcriptDigest
      = transcriptDigest hash { pin with hostBindingDigest, watchBindingDigest })

/-- `resolveExactPinMaterial`. -/
def resolveExactPinMaterial (crypto : NodeCrypto) (command : EncryptedCommandEnvelopeV1)
    (reference : PersistedCommandPinReferenceV1) (keyring : LocalLinkKeyring) :
    Except Thrown PinMaterial := do
  let material ← keyring.resolvePinMaterial crypto (referenceKey reference)
  throwIf (!isExactPin command reference material)
    (.typeError "command receipt pin binding is unavailable")
  throwIf (!crypto.canImportPrivateKey material.hostIdentity)
    (.error "Host encryption public/private key evidence does not match")
  throwIf (decide (crypto.deriveHostEncryptionKeyId material.watchBinding.publicKey
      ≠ material.watchBinding.encryptionKeyId))
    (.typeError "command receipt Watch key binding is invalid")
  let hostBindingDigest ← checkedBindingDigest crypto.hash material.pin.hostBinding
  let watchBindingDigest ← checkedBindingDigest crypto.hash material.pin.watchBinding
  throwIf (!hasTranscript crypto.hash material.pin hostBindingDigest watchBindingDigest)
    (.typeError "command receipt pin transcript is invalid")
  return material

/-! ### The receipt -/

/-- The input of the associated data of the content. -/
def receiptContentAADInput (execution : CommandReceiptExecution)
    (randomness : CommandReceiptRandomness) : CommandReceiptContentAADInput where
  hostId := execution.originalEncryptedCommand.hostId
  watchDeviceId := execution.originalEncryptedCommand.watchDeviceId
  sessionId := execution.originalEncryptedCommand.sessionId
  commandId := execution.originalEncryptedCommand.commandId
  commandType := execution.originalEncryptedCommand.type
  commandDigest := execution.commandDigest
  completedAt := execution.result.updatedAt
  contentId := randomness.contentId

/-- The input of the associated data of the key wrap. -/
def receiptWrapAADInput (pin : ActiveLinkPinV2) (randomness : CommandReceiptRandomness) :
    WrapAADInput where
  direction := .bridgeToWatch
  linkId := pin.linkId
  linkGeneration := pin.linkGeneration
  epoch := pin.epoch
  hostId := pin.hostId
  watchDeviceId := pin.watchDeviceId
  senderEncryptionKeyId := pin.hostBinding.encryptionKeyId
  recipientEncryptionKeyId := pin.watchBinding.encryptionKeyId
  contentId := randomness.contentId
  payloadKind := .commandReceiptContentV1

/-- The receipt with its sealed content and its sealed key. -/
def commandReceiptEnvelope (execution : CommandReceiptExecution) (pin : ActiveLinkPinV2)
    (randomness : CommandReceiptRandomness) (sealedContent sealedWrap : List UInt8) :
    CommandReceiptEnvelopeV1 where
  hostId := execution.originalEncryptedCommand.hostId
  watchDeviceId := execution.originalEncryptedCommand.watchDeviceId
  sessionId := execution.originalEncryptedCommand.sessionId
  commandId := execution.originalEncryptedCommand.commandId
  commandType := execution.originalEncryptedCommand.type
  commandDigest := execution.commandDigest
  completedAt := execution.result.updatedAt
  linkId := pin.linkId
  linkGeneration := pin.linkGeneration
  epoch := pin.epoch
  content := ⟨randomness.contentId, .commandReceiptContentV1, randomness.contentNonce,
    sealedContent⟩
  keyWrap := ⟨randomness.contentId, pin.linkId, pin.linkGeneration, pin.epoch,
    pin.hostBinding.encryptionKeyId, pin.watchBinding.encryptionKeyId, randomness.wrapNonce,
    sealedWrap⟩

/-- `buildCommandReceipt`. -/
def buildCommandReceipt (crypto : NodeCrypto) (execution : CommandReceiptExecution)
    (keyring : LocalLinkKeyring) (randomness : CommandReceiptRandomness) :
    Except Thrown CommandReceiptOutboxInputV1 := do
  throwIf (!isReceiptRandomness randomness) (.typeError "command receipt randomness is invalid")
  validateExecution crypto.hash execution
  let material ← resolveExactPinMaterial crypto execution.originalEncryptedCommand
    execution.pinReference keyring
  let plaintext := buildProtectedCommandReceiptBytes execution.result.status
  let contentAAD ← buildCommandReceiptContentAAD (receiptContentAADInput execution randomness)
  let sealedContent :=
    crypto.chachaPolySeal randomness.dek plaintext contentAAD randomness.contentNonce
  let wrapKey ← deriveDirectionKey crypto material.hostIdentity
    material.pin.watchBinding.publicKey material.pin.transcriptDigest material.pin.linkId
    material.pin.linkGeneration material.pin.epoch .bridgeToWatch
  let wrapAAD ← buildWrapAAD (receiptWrapAADInput material.pin randomness)
  let sealedWrap := crypto.chachaPolySeal wrapKey randomness.dek wrapAAD randomness.wrapNonce
  let receipt := commandReceiptEnvelope execution material.pin randomness sealedContent sealedWrap
  throwIf (!validateCommandReceiptEnvelopeV1 receipt)
    (.typeError "command receipt envelope is invalid")
  return ⟨receipt, deriveCommandReceiptDigest crypto.hash receipt, receipt⟩

/-! ### When a receipt is built -/

/-- The result is of the command. -/
structure ResultOf (command : EncryptedCommandEnvelopeV1) (result : CommandResult) : Prop where
  valid : validateCommandResult result = true
  commandId : result.commandId = command.commandId
  hostId : result.hostId = command.hostId
  sessionId : result.sessionId = command.sessionId

/-- The pin is the one that the execution refers to, and it links the Host and the Watch of the
command. -/
structure PinOf (execution : PersistedCommandExecutionV4) (pin : ActiveLinkPinV2) : Prop where
  reference : pinReference pin = execution.pinReference
  hostId : pin.hostId = execution.originalEncryptedCommand.hostId
  watchDeviceId : pin.watchDeviceId = execution.originalEncryptedCommand.watchDeviceId

section
variable {crypto : NodeCrypto} {keyring : LocalLinkKeyring} {pin : ActiveLinkPinV2}
  {execution : PersistedCommandExecutionV4} {result : CommandResult}
  {randomness : CommandReceiptRandomness}

theorem decodeDigest_eq_ok {label s : String} (h : isCanonicalDigest s = true) :
    decodeDigest label s = .ok () := by
  have hverifier := isVerifier_of_isCanonicalDigest h
  rw [isVerifier, Bool.and_eq_true, decide_eq_true_eq] at hverifier
  have hnonempty : isNonEmptyString s = true := by
    rw [isNonEmptyString_iff]
    rintro rfl
    exact absurd hverifier.1 (by decide)
  unfold decodeDigest
  rw [hnonempty, hverifier.2, hverifier.1, h]
  rfl

/-- In a sound keyring a pin that is not revoked is the one that its tuple finds. -/
theorem getUsable_eq_some (hsound : SoundPins crypto keyring.currentHostId keyring.identities
      keyring.pins) (hpin : pin ∈ keyring.pins) (husable : pin.status ≠ .revoked) :
    keyring.getUsable (pinKey pin) = some pin := by
  unfold LocalLinkKeyring.getUsable
  cases hfound : keyring.pins.find? fun item =>
      decide (item.status ≠ .revoked) && decide (pinKey item = pinKey pin) with
  | none =>
    have hnone := List.find?_eq_none.mp hfound pin hpin
    exact absurd hnone (by simp [husable])
  | some found =>
    have hkey := List.find?_some hfound
    rw [Bool.and_eq_true, decide_eq_true_eq, decide_eq_true_eq] at hkey
    rw [hsound.eq_of_key (List.mem_of_find?_eq_some hfound) hpin hkey.2]

/-- The material of a valid pin that is not revoked. -/
theorem resolvePinMaterial_eq_ok (hsound : SoundPins crypto keyring.currentHostId
      keyring.identities keyring.pins) (hpin : pin ∈ keyring.pins) (husable : pin.status ≠ .revoked) :
    ∃ identity, keyring.identities.get? pin.hostBinding.encryptionKeyId = some identity ∧
      keyring.resolvePinMaterial crypto (pinKey pin) = .ok ⟨pin, identity, pin.watchBinding⟩ ∧
      identity.encryptionKeyId = pin.hostBinding.encryptionKeyId := by
  obtain ⟨identity, hidentity, hmatches⟩ := (hsound.valid pin hpin).identity
  refine ⟨identity, hidentity, ?_, ?_⟩
  · unfold LocalLinkKeyring.resolvePinMaterial
    rw [getUsable_eq_some hsound hpin husable]
    simp only [hidentity, hmatches, if_true]
  · simp only [bindingMatchesIdentity, Bool.and_eq_true, decide_eq_true_eq] at hmatches
    exact hmatches.1.1.1.1.2.symm

/-- The exact pin of a reference, when it serves the command. -/
theorem resolveExactPinMaterial_eq_ok (hsound : SoundPins crypto keyring.currentHostId
      keyring.identities keyring.pins)
    (himport : ∀ keyId identity, keyring.identities.get? keyId = some identity →
      crypto.canImportPrivateKey identity = true)
    (hpin : pin ∈ keyring.pins) (husable : pin.status ≠ .revoked) (hof : PinOf execution pin)
    (hissued : isIssuedWithinPin pin execution.originalEncryptedCommand.issuedAt = true) :
    ∃ identity, keyring.identities.get? pin.hostBinding.encryptionKeyId = some identity ∧
      resolveExactPinMaterial crypto execution.originalEncryptedCommand execution.pinReference
        keyring = .ok ⟨pin, identity, pin.watchBinding⟩ := by
  obtain ⟨identity, hidentity, hmaterial, hkey⟩ := resolvePinMaterial_eq_ok hsound hpin husable
  have hvalid := hsound.valid pin hpin
  have hbinding := hvalid.binding
  have hrecord := hvalid.record
  simp only [isPinBinding, Bool.and_eq_true, decide_eq_true_eq] at hbinding
  simp only [isPinRecord, Bool.and_eq_true] at hrecord
  obtain ⟨⟨⟨⟨⟨-, hwatchKey⟩, -⟩, hhostDigest⟩, hwatchDigest⟩, htranscript⟩ := hbinding
  obtain ⟨⟨-, hhostBinding⟩, hwatchBinding⟩ := hrecord
  refine ⟨identity, hidentity, ?_⟩
  have hreference : referenceKey execution.pinReference = pinKey pin := by
    rw [← hof.reference]
    rfl
  have hexact : isExactPin execution.originalEncryptedCommand execution.pinReference
      ⟨pin, identity, pin.watchBinding⟩ = true := by
    rw [← hof.reference]
    simp only [isExactPin, pinReference, hissued, hof.hostId, hof.watchDeviceId, hkey, husable,
      ne_eq, not_false_eq_true, decide_true, Bool.and_self]
  have hdigests : hasTranscript crypto.hash pin (bindingDigest crypto.hash pin.hostBinding)
      (bindingDigest crypto.hash pin.watchBinding) = true := by
    simp only [hasTranscript, ← hhostDigest, ← hwatchDigest, ← htranscript, decide_true,
      Bool.and_self]
  have hchecked : ∀ binding, validateEncryptionKeyBindingV1 binding = true →
      checkedBindingDigest crypto.hash binding = .ok (bindingDigest crypto.hash binding) := by
    intro binding hbinding
    rw [checkedBindingDigest, hbinding]
    rfl
  rw [resolveExactPinMaterial, hreference, bind_eq_ok_iff]
  refine ⟨_, hmaterial, ?_⟩
  rw [check_bind_eq_ok, throwIf_eq_ok, hexact, check_bind_eq_ok, throwIf_eq_ok,
    himport _ _ hidentity, check_bind_eq_ok, throwIf_eq_ok, decide_eq_false_iff_not, not_not,
    bind_eq_ok_iff]
  refine ⟨rfl, rfl, hwatchKey, _, hchecked _ hhostBinding, ?_⟩
  rw [bind_eq_ok_iff]
  refine ⟨_, hchecked _ hwatchBinding, ?_⟩
  rw [check_bind_eq_ok, throwIf_eq_ok, hdigests]
  exact ⟨rfl, rfl⟩

/-- A valid execution for which a receipt can be built has none yet. -/
theorem receiptOutbox_eq_none (hvalid : ValidExecution crypto.hash execution)
    (hstate : isReceiptState execution.state = true) : execution.receiptOutbox = none := by
  have hshape := hvalid.shape
  unfold assertCommandExecutionShape at hshape
  cases hs : execution.state with
  | claimed =>
    rw [hs, throwIf_eq_ok, Bool.or_eq_false_iff] at hshape
    simpa using hshape.2
  | dispatchStarted =>
    rw [hs, throwIf_eq_ok, Bool.or_eq_false_iff] at hshape
    simpa using hshape.2
  | outcomeUnknown => rw [hs] at hstate; exact absurd hstate (by decide)
  | terminalReceiptBlocked =>
    rw [hs, throwIf_eq_ok, Bool.or_eq_false_iff] at hshape
    simpa using hshape.2
  | terminal => rw [hs] at hstate; exact absurd hstate (by decide)

/-- A valid execution passes the checks with a result of its command. -/
theorem validateExecution_eq_ok (hvalid : ValidExecution crypto.hash execution)
    (hstate : isReceiptState execution.state = true)
    (hresult : ResultOf execution.originalEncryptedCommand result)
    (hdigest : isCanonicalDigest execution.pinReference.transcriptDigest = true) :
    validateExecution crypto.hash (receiptExecution execution result) = .ok () := by
  have hrecord := hvalid.record
  have hbound := hvalid.bound
  simp only [isCommandExecutionRecord, isPersistedCommandPinReference, Bool.and_eq_true,
    decide_eq_true_eq] at hrecord
  simp only [isCommandExecutionBound, Bool.and_eq_true, decide_eq_true_eq] at hbound
  obtain ⟨⟨⟨⟨⟨hcommand, -⟩, ⟨⟨⟨⟨-, hgeneration⟩, hepoch⟩, -⟩, hhostKey⟩, hwatchKey⟩, hwatch⟩,
    hnonce⟩, hexpires⟩ := hrecord
  obtain ⟨⟨⟨⟨⟨hcommandDigest, hlink⟩, hlinkGeneration⟩, hlinkEpoch⟩, hhostKeyId⟩, hwatchKeyId⟩ :=
    hbound
  have hreference : assertPinReference execution.pinReference = .ok () := by
    rw [assertPinReference, check_bind_eq_ok, throwIf_eq_ok, check_bind_eq_ok, throwIf_eq_ok,
      hgeneration, hepoch, hhostKey, hwatchKey]
    exact ⟨rfl, decodeDigest_eq_ok hdigest, rfl⟩
  have hexecution : isReceiptExecutionBound crypto.hash (receiptExecution execution result)
      = true := by
    simp only [isReceiptExecutionBound, receiptExecution, ← hcommandDigest, hwatch, hnonce,
      hexpires, hresult.commandId, hresult.hostId, hresult.sessionId, hlink, hlinkGeneration,
      hlinkEpoch, hhostKeyId, hwatchKeyId, decide_true, Bool.and_self]
  rw [validateExecution, check_bind_eq_ok, throwIf_eq_ok, check_bind_eq_ok, throwIf_eq_ok,
    check_bind_eq_ok, throwIf_eq_ok, hexecution]
  refine ⟨?_, ?_, hreference, rfl⟩
  · show execution.receiptOutbox.isSome = false
    rw [receiptOutbox_eq_none hvalid hstate]
    rfl
  · show (!(isReceiptState execution.state && _ && validateCommandResult result)) = false
    rw [hstate, hresult.valid]
    show (!(true && validateEncryptedCommandEnvelopeV1 execution.originalEncryptedCommand
      && true)) = false
    rw [hcommand]
    rfl

/-- The identifiers and the numbers of a valid command. -/
theorem validateEncryptedCommandEnvelopeV1_ids {command : EncryptedCommandEnvelopeV1}
    (h : validateEncryptedCommandEnvelopeV1 command = true) :
    isIdentifier command.commandId = true ∧ isIdentifier command.hostId = true ∧
      isIdentifier command.sessionId = true ∧ isIdentifier command.watchDeviceId = true ∧
      isIdentifier command.linkId = true ∧ isPositiveSafeInteger command.linkGeneration = true ∧
      isPositiveSafeInteger command.epoch = true := by
  simp only [validateEncryptedCommandEnvelopeV1, Bool.and_eq_true] at h
  obtain ⟨⟨⟨⟨⟨⟨⟨⟨⟨⟨⟨⟨⟨⟨hcommandId, hhostId⟩, hsessionId⟩, hwatchDeviceId⟩, hlinkId⟩, -⟩, -⟩, -⟩,
    hgeneration⟩, hepoch⟩, -⟩, -⟩, -⟩, -⟩, -⟩ := h
  exact ⟨hcommandId, hhostId, hsessionId, hwatchDeviceId, hlinkId, hgeneration, hepoch⟩

/-- What the pin and the randomness contribute to a receipt of a valid command. -/
structure ReceiptParts (receipt : CommandReceiptExecution) (pin : ActiveLinkPinV2)
    (randomness : CommandReceiptRandomness) : Prop where
  command : validateEncryptedCommandEnvelopeV1 receipt.originalEncryptedCommand = true
  commandDigest : isCanonicalDigest receipt.commandDigest = true
  key : pinKey pin = commandPinKey receipt.originalEncryptedCommand
  hostId : pin.hostId = receipt.originalEncryptedCommand.hostId
  watchDeviceId : pin.watchDeviceId = receipt.originalEncryptedCommand.watchDeviceId
  hostKey : isEncryptionKeyId pin.hostBinding.encryptionKeyId = true
  watchKey : isEncryptionKeyId pin.watchBinding.encryptionKeyId = true
  randomness : isReceiptRandomness randomness = true

namespace ReceiptParts

variable {receipt : CommandReceiptExecution}

/-- The link of the pin is the one of the command. -/
theorem link (h : ReceiptParts receipt pin randomness) :
    pin.linkId = receipt.originalEncryptedCommand.linkId ∧
      pin.linkGeneration = receipt.originalEncryptedCommand.linkGeneration ∧
      pin.epoch = receipt.originalEncryptedCommand.epoch := by
  have hkey := h.key
  simp only [pinKey, commandPinKey, PinKey.mk.injEq] at hkey
  exact hkey

/-- The associated data of the content can be built. -/
theorem contentAAD (h : ReceiptParts receipt pin randomness) :
    isCommandReceiptContentAADInput (receiptContentAADInput receipt randomness) = true := by
  obtain ⟨hcommandId, hhostId, hsessionId, hwatchDeviceId, -, -, -⟩ :=
    validateEncryptedCommandEnvelopeV1_ids h.command
  have hrandom := h.randomness
  simp only [isReceiptRandomness, Bool.and_eq_true] at hrandom
  simp only [isCommandReceiptContentAADInput, receiptContentAADInput, h.commandDigest, hhostId,
    hwatchDeviceId, hsessionId, hcommandId, hrandom.1.1.1, Bool.and_self]

/-- The associated data of the wrap can be built. -/
theorem wrapAAD (h : ReceiptParts receipt pin randomness) :
    isWrapAADInput (receiptWrapAADInput pin randomness) = true := by
  obtain ⟨-, hhostId, -, hwatchDeviceId, hlinkId, hgeneration, hepoch⟩ :=
    validateEncryptedCommandEnvelopeV1_ids h.command
  obtain ⟨hlink, hlinkGeneration, hlinkEpoch⟩ := h.link
  have hrandom := h.randomness
  simp only [isReceiptRandomness, Bool.and_eq_true] at hrandom
  simp only [isWrapAADInput, receiptWrapAADInput, hlink, hlinkId, hlinkGeneration, hgeneration,
    hlinkEpoch, hepoch, h.hostId, hhostId, h.watchDeviceId, hwatchDeviceId,
    isIdentifier_of_isEncryptionKeyId h.hostKey, isIdentifier_of_isEncryptionKeyId h.watchKey,
    hrandom.1.1.1, Bool.and_self]

/-- The envelope that `buildCommandReceipt` makes is valid. -/
theorem envelope (h : ReceiptParts receipt pin randomness) {sealedContent sealedWrap : List UInt8}
    (hcontent : sealedContent.length = commandReceiptPlaintextBytes + authenticationTagBytes)
    (hwrap : sealedWrap.length = wrappedDekBytes) :
    validateCommandReceiptEnvelopeV1
      (commandReceiptEnvelope receipt pin randomness sealedContent sealedWrap) = true := by
  obtain ⟨hcommandId, hhostId, hsessionId, hwatchDeviceId, hlinkId, hgeneration, hepoch⟩ :=
    validateEncryptedCommandEnvelopeV1_ids h.command
  obtain ⟨hlink, hlinkGeneration, hlinkEpoch⟩ := h.link
  have hrandom := h.randomness
  simp only [isReceiptRandomness, Bool.and_eq_true] at hrandom
  obtain ⟨⟨⟨hcontentId, -⟩, hcontentNonce⟩, hwrapNonce⟩ := hrandom
  have hsealed : validateEncryptedContentV1 ⟨randomness.contentId, .commandReceiptContentV1,
      randomness.contentNonce, sealedContent⟩ = true := by
    simp only [validateEncryptedContentV1, hcontentId, hcontentNonce, hcontent, Bool.true_and]
    decide
  have hwrapped : validateRecipientKeyWrapV1 ⟨randomness.contentId, pin.linkId,
      pin.linkGeneration, pin.epoch, pin.hostBinding.encryptionKeyId,
      pin.watchBinding.encryptionKeyId, randomness.wrapNonce, sealedWrap⟩ = true := by
    simp only [validateRecipientKeyWrapV1, hcontentId, hlink, hlinkId, hlinkGeneration,
      hgeneration, hlinkEpoch, hepoch, isIdentifier_of_isEncryptionKeyId h.hostKey,
      isIdentifier_of_isEncryptionKeyId h.watchKey, hwrapNonce, hwrap, decide_true,
      Bool.and_self]
  rw [hlink, hlinkGeneration, hlinkEpoch] at hwrapped
  simp only [validateCommandReceiptEnvelopeV1, commandReceiptEnvelope, hsealed, hwrapped,
    h.commandDigest, hlink, hlinkGeneration, hgeneration, hlinkEpoch, hepoch, hhostId,
    hwatchDeviceId, hsessionId, hcommandId, hlinkId, h.hostKey, h.watchKey, hcontent,
    decide_true, Bool.and_self]

end ReceiptParts

/-- The receipt of an execution, when the pin and the identity of its command are at hand. -/
theorem buildCommandReceipt_of_material {receipt : CommandReceiptExecution}
    {identity : HostEncryptionIdentity} {wrapKey : List UInt8}
    (hparts : ReceiptParts receipt pin randomness)
    (hvalid : validateExecution crypto.hash receipt = .ok ())
    (hmaterial : resolveExactPinMaterial crypto receipt.originalEncryptedCommand
      receipt.pinReference keyring = .ok ⟨pin, identity, pin.watchBinding⟩)
    (hkey : deriveDirectionKey crypto identity pin.watchBinding.publicKey pin.transcriptDigest
      pin.linkId pin.linkGeneration pin.epoch .bridgeToWatch = .ok wrapKey) :
    ∃ sealedContent sealedWrap,
      validateCommandReceiptEnvelopeV1
          (commandReceiptEnvelope receipt pin randomness sealedContent sealedWrap) = true ∧
        buildCommandReceipt crypto receipt keyring randomness
          = .ok ⟨commandReceiptEnvelope receipt pin randomness sealedContent sealedWrap,
              deriveCommandReceiptDigest crypto.hash
                (commandReceiptEnvelope receipt pin randomness sealedContent sealedWrap),
              commandReceiptEnvelope receipt pin randomness sealedContent sealedWrap⟩ := by
  have hrandom := hparts.randomness
  simp only [isReceiptRandomness, Bool.and_eq_true, decide_eq_true_eq] at hrandom
  have hcontent : (crypto.chachaPolySeal randomness.dek
      (buildProtectedCommandReceiptBytes receipt.result.status)
      (commandReceiptContentAADFields (receiptContentAADInput receipt randomness))
      randomness.contentNonce).length = commandReceiptPlaintextBytes + authenticationTagBytes := by
    rw [crypto.length_chachaPolySeal, length_buildProtectedCommandReceiptBytes]
  have hwrap : (crypto.chachaPolySeal wrapKey randomness.dek
      (wrapAADFields (receiptWrapAADInput pin randomness)) randomness.wrapNonce).length
        = wrappedDekBytes := by
    rw [crypto.length_chachaPolySeal, hrandom.1.1.2]
    rfl
  have henvelope := hparts.envelope hcontent hwrap
  refine ⟨_, _, henvelope, ?_⟩
  rw [buildCommandReceipt, check_bind_eq_ok, throwIf_eq_ok, hparts.randomness, check_bind_eq_ok,
    bind_eq_ok_iff]
  refine ⟨rfl, hvalid, _, hmaterial, ?_⟩
  rw [bind_eq_ok_iff]
  refine ⟨_, buildCommandReceiptContentAAD_eq_ok hparts.contentAAD, ?_⟩
  rw [bind_eq_ok_iff]
  refine ⟨wrapKey, hkey, ?_⟩
  rw [bind_eq_ok_iff]
  refine ⟨_, buildWrapAAD_eq_ok hparts.wrapAAD, ?_⟩
  rw [check_bind_eq_ok, throwIf_eq_ok, henvelope]
  exact ⟨rfl, rfl⟩

/-- The receipt of an execution matches it. -/
theorem receiptMatchesExecution_envelope
    (hresult : ResultOf execution.originalEncryptedCommand result) (hof : PinOf execution pin)
    (sealedContent sealedWrap : List UInt8) :
    receiptMatchesExecution execution result
      (commandReceiptEnvelope (receiptExecution execution result) pin randomness sealedContent
        sealedWrap) = true := by
  have hreference := hof.reference
  simp only [receiptMatchesExecution, commandReceiptEnvelope, receiptExecution,
    hresult.commandId, hresult.hostId, hresult.sessionId, ← hreference, pinReference, decide_true,
    Bool.and_self]

/-- The parts of the receipt of a valid execution. -/
theorem receiptParts (hvalid : ValidExecution crypto.hash execution) (hof : PinOf execution pin)
    (hhostKey : isEncryptionKeyId pin.hostBinding.encryptionKeyId = true)
    (hwatchKey : isEncryptionKeyId pin.watchBinding.encryptionKeyId = true)
    (hrandom : isReceiptRandomness randomness = true) :
    ReceiptParts (receiptExecution execution result) pin randomness := by
  have hbound := hvalid.bound
  simp only [isCommandExecutionBound, ← hof.reference, pinReference, Bool.and_eq_true,
    decide_eq_true_eq] at hbound
  obtain ⟨⟨⟨⟨⟨hcommandDigest, hlink⟩, hlinkGeneration⟩, hlinkEpoch⟩, -⟩, -⟩ := hbound
  have hkey : pinKey pin = commandPinKey execution.originalEncryptedCommand := by
    rw [pinKey, commandPinKey, hlink, hlinkGeneration, hlinkEpoch]
  have hdigest : isCanonicalDigest execution.commandDigest = true := by
    rw [hcommandDigest]
    exact crypto.hash.isCanonicalDigest_digest _
  exact ⟨hvalid.command, hdigest, hkey, hof.hostId, hof.watchDeviceId, hhostKey, hwatchKey, hrandom⟩

/-- The receipt of a result is built and accepted, and it is deliverable, when the pin of the
command is not revoked and served the command when it was issued. -/
theorem buildCommandReceipt_eq_ok (hvalid : ValidExecution crypto.hash execution)
    (hstate : isReceiptState execution.state = true)
    (hresult : ResultOf execution.originalEncryptedCommand result)
    (hsound : SoundPins crypto keyring.currentHostId keyring.identities keyring.pins)
    (himport : ∀ keyId identity, keyring.identities.get? keyId = some identity →
      crypto.canImportPrivateKey identity = true)
    (hpin : pin ∈ keyring.pins) (husable : pin.status ≠ .revoked) (hof : PinOf execution pin)
    (hissued : isIssuedWithinPin pin execution.originalEncryptedCommand.issuedAt = true)
    (hagrees : ∀ identity, keyring.identities.get? pin.hostBinding.encryptionKeyId = some identity →
      ∃ shared, crypto.x25519SharedSecret identity.privateKeyPkcs8 pin.watchBinding.publicKey
        = .ok shared)
    (hrandom : isReceiptRandomness randomness = true) :
    ∃ outbox, buildCommandReceipt crypto (receiptExecution execution result) keyring randomness
        = .ok outbox ∧
      assertReceiptOutboxForExecution crypto.hash execution result outbox = .ok () := by
  obtain ⟨identity, hidentity, hmaterial⟩ :=
    resolveExactPinMaterial_eq_ok hsound himport hpin husable hof hissued
  obtain ⟨wrapKey, hwrapKey⟩ := deriveDirectionKey_isOk_iff.mpr (hagrees identity hidentity)
  have hrecord := (hsound.valid pin hpin).record
  simp only [isPinRecord, validateEncryptionKeyBindingV1, Bool.and_eq_true] at hrecord
  obtain ⟨⟨⟨⟨⟨-, htranscript⟩, -⟩, -⟩, -⟩, hhostBinding⟩ := hrecord.1
  obtain ⟨⟨⟨⟨-, hhostKey⟩, -⟩, -⟩, -⟩ := hhostBinding
  obtain ⟨⟨⟨⟨-, hwatchKey⟩, -⟩, -⟩, -⟩ := hrecord.2
  have hdigest : isCanonicalDigest execution.pinReference.transcriptDigest = true := by
    rw [← hof.reference]
    exact htranscript
  have hparts : ReceiptParts (receiptExecution execution result) pin randomness :=
    receiptParts hvalid hof hhostKey hwatchKey hrandom
  obtain ⟨sealedContent, sealedWrap, henvelope, hbuilt⟩ := buildCommandReceipt_of_material hparts
    (validateExecution_eq_ok hvalid hstate hresult hdigest) hmaterial hwrapKey
  refine ⟨_, hbuilt, (assertReceiptOutboxForExecution_eq_ok_iff crypto.hash).mpr ⟨?_, ?_⟩⟩
  · simp only [isReceiptOutboxInput, hresult.valid, henvelope, decide_true, Bool.and_self]
  · exact receiptMatchesExecution_envelope hresult hof _ _

/-- When the pin of the command does not serve it any more, no receipt is built. -/
theorem buildCommandReceipt_unavailable
    (hsound : SoundPins crypto keyring.currentHostId keyring.identities keyring.pins)
    (hpin : pin ∈ keyring.pins) (husable : pin.status ≠ .revoked) (hof : PinOf execution pin)
    (hissued : isIssuedWithinPin pin execution.originalEncryptedCommand.issuedAt = false)
    (outbox : CommandReceiptOutboxInputV1) :
    buildCommandReceipt crypto (receiptExecution execution result) keyring randomness
      ≠ .ok outbox := by
  intro hbuilt
  obtain ⟨identity, -, hmaterial, -⟩ := resolvePinMaterial_eq_ok hsound hpin husable
  have hreference : referenceKey execution.pinReference = pinKey pin := by
    rw [← hof.reference]
    rfl
  have hinexact : isExactPin execution.originalEncryptedCommand execution.pinReference
      ⟨pin, identity, pin.watchBinding⟩ = false := by
    simp only [isExactPin, hissued, Bool.and_false, Bool.false_and]
  rw [buildCommandReceipt, check_bind_eq_ok, check_bind_eq_ok, bind_eq_ok_iff] at hbuilt
  obtain ⟨-, -, material, hexact, -⟩ := hbuilt
  change resolveExactPinMaterial crypto execution.originalEncryptedCommand
    execution.pinReference keyring = _ at hexact
  rw [resolveExactPinMaterial, hreference, bind_eq_ok_iff] at hexact
  obtain ⟨found, hfound, hexact⟩ := hexact
  rw [hmaterial] at hfound
  cases hfound
  rw [check_bind_eq_ok, throwIf_eq_ok, hinexact] at hexact
  exact absurd hexact.1 (by decide)

/-- The delivery check of the pin of a command: it is the test of its issue time. -/
theorem resolveCommandReceiptPinStatus_eq
    (hsound : SoundPins crypto keyring.currentHostId keyring.identities keyring.pins)
    (hpin : pin ∈ keyring.pins) (husable : pin.status ≠ .revoked) (hof : PinOf execution pin)
    (issuedAt : CanonicalTimestamp) :
    keyring.resolveCommandReceiptPinStatus execution.pinReference issuedAt
      = if isIssuedWithinPin pin issuedAt then .deliverable else .unavailable := by
  unfold LocalLinkKeyring.resolveCommandReceiptPinStatus
  rw [← hof.reference]
  have hreference : referenceKey (pinReference pin) = pinKey pin := rfl
  rw [hreference]
  cases hfound : keyring.pins.find? fun item => decide (pinKey item = pinKey pin) with
  | none =>
    have hnone := List.find?_eq_none.mp hfound pin hpin
    exact absurd hnone (by simp)
  | some found =>
    have hkey : pinKey found = pinKey pin := by simpa using List.find?_some hfound
    have hsame := hsound.eq_of_key (List.mem_of_find?_eq_some hfound) hpin hkey
    subst hsame
    simp [pinReference, husable]

end

end Ariava.E2e
