import Ariava.E2e.KeyringRepresentation

/-!
# `Ariava.E2e.KeyringMigration`: opening a keyring of version 1

A pin of version 1 has no Host binding. The constructor of `LocalLinkKeyring` gives all pins of
such a file the signed binding of the current Host key, checks the result like any other state,
and writes it. From then on the file is of version 2, so `KeyringWorld` keeps no other.

The Ed25519 check and the fingerprint of the Host key come from the platform: `MigrationCrypto`.
-/

set_option autoImplicit false

namespace Ariava.E2e

open Ariava.Lib
open Ariava.Protocol

/-- `LegacyLinkPinV1`. -/
structure LegacyLinkPinV1 where
  status : LocalPinStatus
  linkId : String
  hostId : String
  watchDeviceId : String
  linkGeneration : Nat
  epoch : Nat
  transcriptDigest : String
  watchBinding : EncryptionKeyBindingV1
  watchBindingDigest : String
  peerProofDigest : String
  activatedAt : CanonicalTimestamp
  retiringAt : Option CanonicalTimestamp

/-- `LegacyPendingActivationV1`. -/
structure LegacyPendingActivationV1 where
  linkId : String
  linkGeneration : Nat
  epoch : Nat
  peerProofDigest : String
  activatedAt : CanonicalTimestamp
  pin : LegacyLinkPinV1

/-- `PersistedKeyringV1`. -/
structure PersistedKeyringV1 where
  pins : List LegacyLinkPinV1
  pendingActivations : Option (List LegacyPendingActivationV1)

/-- The fields of the Host identity that a migration reads. -/
structure MigrationHostIdentity where
  hostId : String
  keyId : String
  isEd25519 : Bool
  publicKey : List UInt8
  publicKeyFingerprint : String

/-- `LinkKeyringMigrationContext`. -/
structure LinkKeyringMigrationContext where
  currentHostIdentity : MigrationHostIdentity
  signedCurrentHostBinding : EncryptionKeyBindingV1

/-- The primitives of a migration. -/
structure MigrationCrypto where
  /-- The base64url SHA-256 of a public key. -/
  fingerprint : List UInt8 → String
  /-- `verifyBindingWithIdentityPublicKey`. -/
  verifyBindingWithIdentityPublicKey : EncryptionKeyBindingV1 → List UInt8 → Bool

/-- `isCanonicalMigrationIdentity`. -/
def isCanonicalMigrationIdentity (migration : MigrationCrypto) (identity : MigrationHostIdentity)
    (hostId : String) : Bool :=
  identity.isEd25519 && decide (identity.publicKey.length = 32)
    && decide (identity.publicKeyFingerprint = migration.fingerprint identity.publicKey)
    && decide (identity.hostId = "host_" ++ migration.fingerprint identity.publicKey)
    && decide (identity.keyId = "key_" ++ migration.fingerprint identity.publicKey)
    && decide (identity.hostId = hostId)

/-- `validLegacyPin`. -/
def validLegacyPin (crypto : NodeCrypto) (hostId : String) (pin : LegacyLinkPinV1) : Bool :=
  decide (pin.hostId = hostId) && isPositiveSafeInteger pin.linkGeneration
    && isPositiveSafeInteger pin.epoch && isCanonicalDigest pin.transcriptDigest
    && validateEncryptionKeyBindingV1 pin.watchBinding
    && decide (pin.watchBinding.entityId = pin.watchDeviceId)
    && decide (pin.watchBindingDigest = bindingDigest crypto.hash pin.watchBinding)
    && isCanonicalDigest pin.peerProofDigest
    && (match pin.status, pin.retiringAt with
      | .active, retiringAt => retiringAt.isNone
      | .retiring, none => false
      | .revoked, none => true
      | _, some retiringAt => decide (pin.activatedAt ≤ retiringAt))

/-- `validLegacyPending`. -/
def validLegacyPending (crypto : NodeCrypto) (hostId : String)
    (pending : LegacyPendingActivationV1) : Bool :=
  validLegacyPin crypto hostId pending.pin && decide (pending.pin.status = .active)
    && pending.pin.retiringAt.isNone && decide (pending.linkId = pending.pin.linkId)
    && decide (pending.linkGeneration = pending.pin.linkGeneration)
    && decide (pending.epoch = pending.pin.epoch)
    && decide (pending.peerProofDigest = pending.pin.peerProofDigest)
    && decide (pending.activatedAt = pending.pin.activatedAt)

/-- `migratePin`. -/
def migratePin (crypto : NodeCrypto) (hostBinding : EncryptionKeyBindingV1)
    (pin : LegacyLinkPinV1) : ActiveLinkPinV2 where
  status := pin.status
  linkId := pin.linkId
  hostId := pin.hostId
  watchDeviceId := pin.watchDeviceId
  linkGeneration := pin.linkGeneration
  epoch := pin.epoch
  transcriptDigest := pin.transcriptDigest
  hostBinding := hostBinding
  hostBindingDigest := bindingDigest crypto.hash hostBinding
  watchBinding := pin.watchBinding
  watchBindingDigest := pin.watchBindingDigest
  peerProofDigest := pin.peerProofDigest
  activatedAt := pin.activatedAt
  retiringAt := pin.retiringAt

/-- The state that a migration makes of a file. -/
def migratedState (crypto : NodeCrypto) (hostBinding : EncryptionKeyBindingV1)
    (value : PersistedKeyringV1) : PersistedKeyringV2 where
  pins := value.pins.map (migratePin crypto hostBinding)
  pendingActivations := (value.pendingActivations.getD []).map fun pending =>
    { linkId := pending.linkId
      linkGeneration := pending.linkGeneration
      epoch := pending.epoch
      peerProofDigest := pending.peerProofDigest
      activatedAt := pending.activatedAt
      pin := migratePin crypto hostBinding pending.pin }

/-- The first branch of `decodeKeyring`. -/
def decodeLegacyKeyring (crypto : NodeCrypto) (migration : MigrationCrypto) (hostId : String)
    (identities : HostIdentities) (currentKeyId : String) (value : PersistedKeyringV1)
    (context : LinkKeyringMigrationContext) : Except Thrown PersistedKeyringV2 := do
  let binding := context.signedCurrentHostBinding
  let bindingInvalid := Thrown.typeError "local E2E keyring v1 migration binding is invalid"
  match identities.get? currentKeyId with
  | none => .error bindingInvalid
  | some current => do
      throwIf (!crypto.canImportPrivateKey current)
        (.typeError "Host encryption private key is invalid")
      throwIf (!isCanonicalMigrationIdentity migration context.currentHostIdentity hostId
          || decide (binding.identityKeyId ≠ context.currentHostIdentity.keyId)
          || !migration.verifyBindingWithIdentityPublicKey binding
            context.currentHostIdentity.publicKey
          || !bindingMatchesIdentity crypto binding current || decide (binding.entityId ≠ hostId))
        bindingInvalid
      throwIf (value.pins.any (fun pin => !validLegacyPin crypto hostId pin)
          || (value.pendingActivations.getD []).any fun pending =>
            !validLegacyPending crypto hostId pending)
        (.typeError "local E2E keyring v1 is invalid")
      validateState crypto hostId identities (migratedState crypto binding value)
      return migratedState crypto binding value

namespace LocalLinkKeyring

/-- The constructor on a file of version 1: it writes what it migrated. -/
def openLegacy (crypto : NodeCrypto) (migration : MigrationCrypto) (value : PersistedKeyringV1)
    (context : LinkKeyringMigrationContext) : KeyringEffect Unit := do
  let w ← get
  let state ← Effect.ofExcept (decodeLegacyKeyring crypto migration w.keyring.currentHostId
    w.keyring.identities w.currentKeyId value context)
  modify fun w => w.written state

end LocalLinkKeyring

/-- What was migrated is accepted. -/
theorem decodeLegacyKeyring_eq_ok {crypto : NodeCrypto} {migration : MigrationCrypto}
    {hostId currentKeyId : String} {identities : HostIdentities} {value : PersistedKeyringV1}
    {context : LinkKeyringMigrationContext} {state : PersistedKeyringV2}
    (h : decodeLegacyKeyring crypto migration hostId identities currentKeyId value context
      = .ok state) :
    validateState crypto hostId identities state = .ok () := by
  unfold decodeLegacyKeyring at h
  cases hcurrent : identities.get? currentKeyId with
  | none =>
    rw [hcurrent] at h
    exact absurd h (by simp)
  | some current =>
    rw [hcurrent] at h
    obtain ⟨-, h⟩ := check_bind_eq_ok.mp h
    obtain ⟨-, h⟩ := check_bind_eq_ok.mp h
    obtain ⟨-, h⟩ := check_bind_eq_ok.mp h
    obtain ⟨hvalid, h⟩ := check_bind_eq_ok.mp h
    rw [← Except.ok.inj h]
    exact hvalid

end Ariava.E2e
