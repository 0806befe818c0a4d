import Ariava.E2e.NodeCrypto
import Ariava.StateStore.State

/-!
# `Ariava.E2e.LinkKeyring`: the pins of a link keyring and how they are read

`LocalLinkKeyring` of `link-keyring.ts`, as far as it is read. A pin is one epoch of a link
to a Watch device. It is active, retiring since an instant, or revoked.

`prepare` decides whether a command may be accepted under a pin. `isIssuedWithinPin` is
the test it shares with the receipt construction and the receipt delivery: a retiring pin
still serves the commands issued before it began to retire.
-/

set_option autoImplicit false

namespace Ariava.E2e

open Ariava.Lib
open Ariava.Protocol
open Ariava.StateStore

/-- `LocalPinStatus`. -/
inductive LocalPinStatus
  | active
  | retiring
  | revoked
deriving DecidableEq

/-- `ActiveLinkPinV2`. -/
structure ActiveLinkPinV2 where
  status : LocalPinStatus
  linkId : String
  hostId : String
  watchDeviceId : String
  linkGeneration : Nat
  epoch : Nat
  transcriptDigest : String
  hostBinding : EncryptionKeyBindingV1
  hostBindingDigest : String
  watchBinding : EncryptionKeyBindingV1
  watchBindingDigest : String
  peerProofDigest : String
  activatedAt : CanonicalTimestamp
  retiringAt : Option CanonicalTimestamp
deriving DecidableEq

/-- `PendingActivationV2`. -/
structure PendingActivationV2 where
  linkId : String
  linkGeneration : Nat
  epoch : Nat
  peerProofDigest : String
  activatedAt : CanonicalTimestamp
  pin : ActiveLinkPinV2
deriving DecidableEq

/-- `LocalLinkKeyring`, with the identities its resolver finds. -/
structure LocalLinkKeyring where
  currentHostId : String
  pins : List ActiveLinkPinV2
  pendingActivations : List PendingActivationV2
  identities : Dict String HostEncryptionIdentity
deriving DecidableEq

/-- The tuple of a pin: `pinKey`. -/
structure PinKey where
  linkId : String
  linkGeneration : Nat
  epoch : Nat
deriving DecidableEq

/-- `pinKey`. -/
def pinKey (pin : ActiveLinkPinV2) : PinKey := ⟨pin.linkId, pin.linkGeneration, pin.epoch⟩

/-- The tuple of a pin reference. -/
def referenceKey (reference : PersistedCommandPinReferenceV1) : PinKey :=
  ⟨reference.linkId, reference.linkGeneration, reference.epoch⟩

/-- The tuple of a command. -/
def commandPinKey (command : EncryptedCommandEnvelopeV1) : PinKey :=
  ⟨command.linkId, command.linkGeneration, command.epoch⟩

/-- `bindingMatchesIdentity`. -/
def bindingMatchesIdentity (crypto : NodeCrypto) (binding : EncryptionKeyBindingV1)
    (identity : HostEncryptionIdentity) : Bool :=
  decide (binding.entityType = .host) && decide (binding.entityId = identity.hostId)
    && decide (binding.encryptionKeyId = identity.encryptionKeyId)
    && decide (binding.publicKey = identity.publicKey)
    && decide (binding.sequence = identity.sequence)
    && decide (binding.createdAt = identity.createdAt)
    && decide (crypto.deriveHostEncryptionKeyId binding.publicKey = binding.encryptionKeyId)

/-- The command was issued while the pin could be used: the pin is not retiring, or it
began to retire after the issue time. -/
def isIssuedWithinPin (pin : ActiveLinkPinV2) (issuedAt : CanonicalTimestamp) : Bool :=
  match pin.status, pin.retiringAt with
  | .retiring, some retiringAt => decide (issuedAt < retiringAt)
  | .retiring, none => false
  | _, _ => true

/-- The reference to a pin that a command execution keeps. -/
def pinReference (pin : ActiveLinkPinV2) : PersistedCommandPinReferenceV1 where
  linkId := pin.linkId
  linkGeneration := pin.linkGeneration
  epoch := pin.epoch
  transcriptDigest := pin.transcriptDigest
  hostEncryptionKeyId := pin.hostBinding.encryptionKeyId
  watchEncryptionKeyId := pin.watchBinding.encryptionKeyId

/-- The pin, the Host identity and the Watch binding of a usable pin. -/
structure PinMaterial where
  pin : ActiveLinkPinV2
  hostIdentity : HostEncryptionIdentity
  watchBinding : EncryptionKeyBindingV1

namespace LocalLinkKeyring

/-- `listActive`. -/
def listActive (keyring : LocalLinkKeyring) : List ActiveLinkPinV2 :=
  keyring.pins.filter fun pin => decide (pin.status = .active)

/-- `getUsable`: the first pin of the tuple that is not revoked. -/
def getUsable (keyring : LocalLinkKeyring) (key : PinKey) : Option ActiveLinkPinV2 :=
  keyring.pins.find? fun pin => decide (pin.status ≠ .revoked) && decide (pinKey pin = key)

/-- `resolvePinReference`. -/
def resolvePinReference (keyring : LocalLinkKeyring) (key : PinKey) :
    Option PersistedCommandPinReferenceV1 :=
  (keyring.getUsable key).map pinReference

/-- `resolvePinMaterial`. -/
def resolvePinMaterial (crypto : NodeCrypto) (keyring : LocalLinkKeyring) (key : PinKey) :
    Except Thrown PinMaterial :=
  match keyring.getUsable key with
  | none => .error (.typeError "link pin is unavailable")
  | some pin =>
      match keyring.identities.get? pin.hostBinding.encryptionKeyId with
      | none => .error (.typeError "Host identity for link pin is unavailable")
      | some identity =>
          if bindingMatchesIdentity crypto pin.hostBinding identity then
            .ok ⟨pin, identity, pin.watchBinding⟩
          else .error (.typeError "Host identity for link pin is unavailable")

/-- The answers of `resolveCommandReceiptPinStatus`. -/
inductive ReceiptPinStatus
  | deliverable
  | revoked
  | unavailable
deriving DecidableEq

/-- `resolveCommandReceiptPinStatus`. -/
def resolveCommandReceiptPinStatus (keyring : LocalLinkKeyring)
    (reference : PersistedCommandPinReferenceV1) (issuedAt : CanonicalTimestamp) :
    ReceiptPinStatus :=
  match keyring.pins.find? fun pin => decide (pinKey pin = referenceKey reference) with
  | none => .unavailable
  | some pin =>
      if pin.transcriptDigest ≠ reference.transcriptDigest
          ∨ pin.hostBinding.encryptionKeyId ≠ reference.hostEncryptionKeyId
          ∨ pin.watchBinding.encryptionKeyId ≠ reference.watchEncryptionKeyId then .unavailable
      else if pin.status = .revoked then .revoked
      else if isIssuedWithinPin pin issuedAt then .deliverable
      else .unavailable

/-- `decryptCommandForPin`. The wire ids of the command are copied. -/
def decryptCommandForPin (crypto : NodeCrypto) (command : EncryptedCommandEnvelopeV1)
    (material : PinMaterial) : Except Thrown CommandEnvelope := do
  let wrapKey ← deriveDirectionKey crypto material.hostIdentity
    material.pin.watchBinding.publicKey material.pin.transcriptDigest command.linkId
    command.linkGeneration command.epoch .watchToBridge
  let text ← crypto.openCommandPlaintext wrapKey command
  return {
    commandId := command.commandId
    hostId := command.hostId
    sessionId := command.sessionId
    type := command.type
    text := text
    targetAlertEventId := command.targetAlertEventId
    issuedAt := command.issuedAt
    expiresAt := command.expiresAt
    nonce := command.nonce
    watchDeviceId := command.watchDeviceId }

/-- The authorization test of `prepare`. -/
def isCommandAuthorized (material : PinMaterial) (command : EncryptedCommandEnvelopeV1)
    (now : CanonicalTimestamp) : Bool :=
  decide (material.pin.hostId = command.hostId)
    && decide (material.pin.watchDeviceId = command.watchDeviceId)
    && !isCommandExpired command.expiresAt now
    && isIssuedWithinPin material.pin command.issuedAt
    && decide (command.payload.keyWrap.senderEncryptionKeyId
      = material.pin.watchBinding.encryptionKeyId)
    && decide (command.payload.keyWrap.recipientEncryptionKeyId
      = material.pin.hostBinding.encryptionKeyId)

/-- `CommandEpochAuthorizationError`, as `prepare` throws it. -/
def commandEpochAuthorizationError : Thrown :=
  .typeError "command epoch is not locally authorized"

/-- `prepare`. -/
def prepare (crypto : NodeCrypto) (keyring : LocalLinkKeyring)
    (command : EncryptedCommandEnvelopeV1) (now : CanonicalTimestamp) :
    Except Thrown (PersistedCommandPinReferenceV1 × CommandEnvelope) :=
  match keyring.resolvePinMaterial crypto (commandPinKey command) with
  | .error _ => .error commandEpochAuthorizationError
  | .ok material =>
      if isCommandAuthorized material command now then do
        let loopbackCommand ← decryptCommandForPin crypto command material
        return (pinReference material.pin, loopbackCommand)
      else .error commandEpochAuthorizationError

/-- What a successful `prepare` has established. -/
theorem prepare_eq_ok {crypto : NodeCrypto} {keyring : LocalLinkKeyring}
    {command : EncryptedCommandEnvelopeV1} {now : CanonicalTimestamp}
    {reference : PersistedCommandPinReferenceV1} {loopback : CommandEnvelope}
    (h : keyring.prepare crypto command now = .ok (reference, loopback)) :
    ∃ material, keyring.resolvePinMaterial crypto (commandPinKey command) = .ok material ∧
      isCommandAuthorized material command now = true ∧
      decryptCommandForPin crypto command material = .ok loopback ∧
      reference = pinReference material.pin := by
  unfold prepare at h
  split at h
  · exact absurd h (by simp)
  · rename_i material hmaterial
    split at h
    · rename_i hauthorized
      obtain ⟨loopback', hdecrypt, h⟩ := bind_eq_ok_iff.mp h
      cases h
      exact ⟨material, hmaterial, hauthorized, hdecrypt, rfl⟩
    · exact absurd h (by simp)

/-- A prepared command had not expired at the clock reading. -/
theorem prepare_notExpired {crypto : NodeCrypto} {keyring : LocalLinkKeyring}
    {command : EncryptedCommandEnvelopeV1} {now : CanonicalTimestamp}
    {prepared : PersistedCommandPinReferenceV1 × CommandEnvelope}
    (h : keyring.prepare crypto command now = .ok prepared) :
    now.epochMs < command.expiresAt.epochMs := by
  obtain ⟨material, -, hauthorized, -, -⟩ := prepare_eq_ok h
  simp only [isCommandAuthorized, Bool.and_eq_true, Bool.not_eq_true', isCommandExpired,
    decide_eq_false_iff_not] at hauthorized
  exact lt_of_not_ge hauthorized.1.1.1.2

end LocalLinkKeyring

end Ariava.E2e
