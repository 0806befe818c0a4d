import Ariava.Protocol.AssociatedData
import Ariava.Protocol.Sessions

/-!
# `Ariava.E2e.NodeCrypto`: the cryptographic primitives the Bridge calls

Key agreement, key derivation and the AEAD come from the platform, so they are parameters.
`NodeCrypto` collects them. What the model relies on is stated as fields that hold of the
real primitives: a public key id has its fixed form, and a sealed text is the plaintext
plus an authentication tag.

The key bindings and the Host identities are the data these primitives work on.
-/

set_option autoImplicit false

namespace Ariava.E2e

open Ariava.Protocol

/-- The `entityType` of a key binding. -/
inductive EntityType
  | host
  | watch
deriving DecidableEq

/-- The wire text of an entity type. -/
def EntityType.text : EntityType → String
  | host => "host"
  | watch => "watch"

/-- `EncryptionKeyBindingV1`. -/
structure EncryptionKeyBindingV1 where
  entityType : EntityType
  entityId : String
  identityKeyId : String
  encryptionKeyId : String
  publicKey : List UInt8
  sequence : Nat
  createdAt : CanonicalTimestamp
  bindingSignature : List UInt8
deriving DecidableEq

/-- `validateEncryptionKeyBindingV1`. -/
def validateEncryptionKeyBindingV1 (binding : EncryptionKeyBindingV1) : Bool :=
  (match binding.entityType with
    | .host => isHostId binding.entityId
    | .watch => isWatchId binding.entityId)
    && isIdentityKeyId binding.identityKeyId && isEncryptionKeyId binding.encryptionKeyId
    && decide (binding.publicKey.length = 32) && isPositiveSafeInteger binding.sequence
    && decide (binding.bindingSignature.length = 64)

/-- `buildEncryptionBindingBytes`: the fields of a valid binding, less its signature. -/
def encryptionBindingFields (binding : EncryptionKeyBindingV1) : List BindingField :=
  [.text "ariava-e2e-binding-v1", .text binding.entityType.text, .text binding.entityId,
    .text binding.identityKeyId, .text binding.encryptionKeyId, .text e2eSuiteV1,
    .number binding.sequence, .instant binding.createdAt, .bytes binding.publicKey]

/-- `bindingDigestSync`, and `bindingDigest` after its check. -/
def bindingDigest (hash : ContentHash) (binding : EncryptionKeyBindingV1) : String :=
  hash.digest (encryptionBindingFields binding)

/-- `HostEncryptionIdentity`. -/
structure HostEncryptionIdentity where
  hostId : String
  encryptionKeyId : String
  publicKey : List UInt8
  privateKeyPkcs8 : List UInt8
  sequence : Nat
  createdAt : CanonicalTimestamp
deriving DecidableEq

/-- The primitives of the platform. -/
structure NodeCrypto where
  /-- `contentSha256` of an encoded field list. -/
  hash : ContentHash
  /-- `deriveHostEncryptionKeyId`. -/
  deriveHostEncryptionKeyId : List UInt8 → String
  isEncryptionKeyId_derive : ∀ publicKey,
    isEncryptionKeyId (deriveHostEncryptionKeyId publicKey) = true
  /-- `importHostEncryptionPrivateKey` succeeds. -/
  canImportPrivateKey : HostEncryptionIdentity → Bool
  /-- `x25519SharedSecret`. -/
  x25519SharedSecret : List UInt8 → List UInt8 → Except Thrown (List UInt8)
  /-- `hkdfSha256` over the root and the direction info. -/
  deriveWrapKey : List UInt8 → String → List BindingField → List UInt8
  /-- `chachaPolySeal`: key, plaintext, associated data, nonce. -/
  chachaPolySeal : List UInt8 → List UInt8 → List BindingField → List UInt8 → List UInt8
  length_chachaPolySeal : ∀ key plaintext aad nonce,
    (chachaPolySeal key plaintext aad nonce).length = plaintext.length + authenticationTagBytes
  /-- The AEAD openings of `decryptCommandForPin` and the decoding of the canonical
  plaintext, under the wrap key. A reply has a text, an interrupt has none. -/
  openCommandPlaintext : List UInt8 → EncryptedCommandEnvelopeV1 → Except Thrown (Option String)

/-- `deriveDirectionKey`: the wrap key of one direction of a link. -/
def deriveDirectionKey (crypto : NodeCrypto) (identity : HostEncryptionIdentity)
    (peerPublicKey : List UInt8) (transcriptDigest linkId : String) (generation epoch : Nat)
    (direction : E2EDirection) : Except Thrown (List UInt8) := do
  let shared ← crypto.x25519SharedSecret identity.privateKeyPkcs8 peerPublicKey
  return crypto.deriveWrapKey shared transcriptDigest
    [.text linkId, .number generation, .number epoch, .text direction.text]

/-- Deriving a wrap key fails only when the key agreement does, so both directions of one
link fail together. -/
theorem deriveDirectionKey_isOk_iff {crypto : NodeCrypto} {identity : HostEncryptionIdentity}
    {peer : List UInt8} {transcriptDigest linkId : String} {generation epoch : Nat}
    {direction : E2EDirection} :
    (∃ key, deriveDirectionKey crypto identity peer transcriptDigest linkId generation epoch
        direction = .ok key) ↔
      ∃ shared, crypto.x25519SharedSecret identity.privateKeyPkcs8 peer = .ok shared := by
  unfold deriveDirectionKey
  constructor
  · rintro ⟨key, h⟩
    obtain ⟨shared, hshared, -⟩ := bind_eq_ok_iff.mp h
    exact ⟨shared, hshared⟩
  · rintro ⟨shared, hshared⟩
    exact ⟨_, bind_eq_ok_iff.mpr ⟨shared, hshared, rfl⟩⟩

end Ariava.E2e
