import Ariava.E2e.LinkKeyring

/-!
# `Ariava.E2e.CommandExecution`: from a wire command to a prepared command

`prepareCommandForExecution` of `command-execution.ts`: the envelope is valid, it is not
issued further ahead of the clock than the allowed skew, the keyring accepts it, and the
decrypted command names the same command. The keyring may be absent.

`prepareCommandForExecution_window` is what replay protection uses: at the clock reading, a
prepared command was issued at most the skew ahead and had not expired.
-/

set_option autoImplicit false

namespace Ariava.E2e

open Ariava.Protocol
open Ariava.StateStore

/-- `PreparedEncryptedCommand`. -/
structure PreparedEncryptedCommand where
  originalEncryptedCommand : EncryptedCommandEnvelopeV1
  commandDigest : String
  pinReference : PersistedCommandPinReferenceV1
  loopbackCommand : CommandEnvelope

/-- The refusals of `prepareCommandForExecution`. -/
inductive PreparationRefusal
  | keyUnavailable
  | epochUnauthorized
  | payloadInvalid
deriving DecidableEq

/-- The decrypted command is the command of the envelope. -/
def isLoopbackOf (command : EncryptedCommandEnvelopeV1) (loopback : CommandEnvelope) : Bool :=
  decide (loopback.type = command.type) && decide (loopback.commandId = command.commandId)
    && decide (loopback.hostId = command.hostId)
    && decide (loopback.sessionId = command.sessionId)
    && decide (loopback.nonce = command.nonce)
    && decide (loopback.watchDeviceId = command.watchDeviceId)

/-- `prepareCommandForExecution`. -/
def prepareCommandForExecution (crypto : NodeCrypto) (keyring : Option LocalLinkKeyring)
    (command : EncryptedCommandEnvelopeV1) (observedAt : CanonicalTimestamp) :
    Except PreparationRefusal PreparedEncryptedCommand :=
  if !validateEncryptedCommandEnvelopeV1 command then .error .payloadInvalid
  else if observedAt.epochMs + clockSkewMs < command.issuedAt.epochMs then
    .error .epochUnauthorized
  else match keyring with
    | none => .error .keyUnavailable
    | some keyring =>
        match keyring.prepare crypto command observedAt with
        | .error thrown =>
            if thrown = LocalLinkKeyring.commandEpochAuthorizationError then
              .error .epochUnauthorized
            else .error .payloadInvalid
        | .ok (pinReference, loopbackCommand) =>
            if isLoopbackOf command loopbackCommand then
              .ok {
                originalEncryptedCommand := command
                commandDigest := deriveEncryptedCommandDigest crypto.hash command
                pinReference := pinReference
                loopbackCommand := loopbackCommand }
            else .error .payloadInvalid

section
variable {crypto : NodeCrypto} {keyring : Option LocalLinkKeyring}
  {command : EncryptedCommandEnvelopeV1} {observedAt : CanonicalTimestamp}
  {prepared : PreparedEncryptedCommand}

/-- What a successful preparation has established. -/
theorem prepareCommandForExecution_eq_ok
    (h : prepareCommandForExecution crypto keyring command observedAt = .ok prepared) :
    validateEncryptedCommandEnvelopeV1 command = true ∧
      command.issuedAt.epochMs ≤ observedAt.epochMs + clockSkewMs ∧
      ∃ ring, keyring = some ring ∧
        ring.prepare crypto command observedAt
          = .ok (prepared.pinReference, prepared.loopbackCommand) ∧
        prepared.originalEncryptedCommand = command ∧
        prepared.commandDigest = deriveEncryptedCommandDigest crypto.hash command ∧
        isLoopbackOf command prepared.loopbackCommand = true := by
  unfold prepareCommandForExecution at h
  split at h
  · exact absurd h (by simp)
  rename_i hvalid
  split at h
  · exact absurd h (by simp)
  rename_i hskew
  split at h
  · exact absurd h (by simp)
  rename_i ring
  split at h
  · split at h <;> exact absurd h (by simp)
  rename_i reference loopback hprepare
  split at h
  · rename_i hloopback
    cases h
    exact ⟨by simpa using hvalid, by omega, ring, rfl, hprepare, rfl, rfl, hloopback⟩
  · exact absurd h (by simp)

/-- A prepared command was issued at most the skew ahead of the clock and had not
expired. -/
theorem prepareCommandForExecution_window
    (h : prepareCommandForExecution crypto keyring command observedAt = .ok prepared) :
    command.issuedAt.epochMs ≤ observedAt.epochMs + clockSkewMs ∧
      observedAt.epochMs < command.expiresAt.epochMs := by
  obtain ⟨-, hskew, ring, -, hprepare, -⟩ := prepareCommandForExecution_eq_ok h
  exact ⟨hskew, LocalLinkKeyring.prepare_notExpired hprepare⟩

end

/-! ### A sample link

One Host, one Watch device, one active pin and one command under it. The run examples of
the development start from these. -/

/-- The instant `ms` milliseconds after 1970, for an instant in range. -/
def sampleInstant (ms : Nat) (h : decide ((ms : Int) ≤ maxEpochMs) = true := by exact Eq.refl true) :
    CanonicalTimestamp where
  epochMs := ms
  lower := le_trans (by decide) (Int.natCast_nonneg ms)
  upper := of_decide_eq_true h

/-- A verifier text. -/
def sampleDigest : String := "AAAAAAAAAAAAAAAAAAAAAAAAAAAAAAAAAAAAAAAAAAA"

/-- An encryption key id. -/
def sampleKeyId : String := "ekey_AAAAAAAAAAAAAAAAAAAAAAAAAAAAAAAAAAAAAAAAAAA"

/-- Primitives that seal by appending a zero tag. -/
def sampleCrypto : NodeCrypto where
  hash := ⟨fun _ => sampleDigest, fun _ => by decide⟩
  deriveHostEncryptionKeyId := fun _ => sampleKeyId
  isEncryptionKeyId_derive := fun _ => by decide
  canImportPrivateKey := fun _ => true
  x25519SharedSecret := fun _ _ => .ok []
  deriveWrapKey := fun _ _ _ => []
  chachaPolySeal := fun _ plaintext _ _ => plaintext ++ List.replicate authenticationTagBytes 0
  length_chachaPolySeal := fun _ _ _ _ => by simp
  openCommandPlaintext := fun _ _ => .ok none

/-- The Host identity of the sample link. -/
def sampleIdentity : HostEncryptionIdentity where
  hostId := "host"
  encryptionKeyId := sampleKeyId
  publicKey := []
  privateKeyPkcs8 := []
  sequence := 1
  createdAt := sampleInstant 0

/-- The binding of one end of the sample link. -/
def sampleBinding (entityType : EntityType) (entityId : String) : EncryptionKeyBindingV1 where
  entityType := entityType
  entityId := entityId
  identityKeyId := "identity"
  encryptionKeyId := sampleKeyId
  publicKey := []
  sequence := 1
  createdAt := sampleInstant 0
  bindingSignature := []

/-- The active pin of the sample link. -/
def samplePin : ActiveLinkPinV2 where
  status := .active
  linkId := "link"
  hostId := "host"
  watchDeviceId := "watch"
  linkGeneration := 1
  epoch := 1
  transcriptDigest := sampleDigest
  hostBinding := sampleBinding .host "host"
  hostBindingDigest := sampleDigest
  watchBinding := sampleBinding .watch "watch"
  watchBindingDigest := sampleDigest
  peerProofDigest := sampleDigest
  activatedAt := sampleInstant 0
  retiringAt := none

/-- The keyring of the sample link. -/
def sampleKeyring : LocalLinkKeyring where
  currentHostId := "host"
  pins := [samplePin]
  pendingActivations := []
  identities := (∅ : Lib.Dict String HostEncryptionIdentity).set sampleKeyId sampleIdentity

/-- An interrupt that is issued after 40 days and valid for one minute. -/
def sampleCommand : EncryptedCommandEnvelopeV1 where
  type := .interrupt
  commandId := "command"
  hostId := "host"
  sessionId := "session"
  payload :=
    { content := ⟨"content", .interruptContentV1, List.replicate 12 0, List.replicate 50 0⟩
      keyWrap := ⟨"content", "link", 1, 1, sampleKeyId, sampleKeyId, List.replicate 12 0,
        List.replicate 48 0⟩ }
  targetAlertEventId := none
  issuedAt := sampleInstant 3456000000
  expiresAt := sampleInstant 3456060000
  nonce := "nonce"
  watchDeviceId := "watch"
  linkId := "link"
  linkGeneration := 1
  epoch := 1

end Ariava.E2e
