import Mathlib.Logic.Relation
import Ariava.E2e.CommandReceipt
import Ariava.E2e.KeyringInvariants
import Ariava.E2e.CommandExecution
import Ariava.StateStore.CommandTransitions

/-!
# `Ariava.Proofs.ReceiptConstruction`: a receipt for every command that its pin still serves

Three checks look at the pin of a command: `prepareCommandForExecution` accepts the command
under it, `buildCommandReceipt` builds the receipt under it, and
`resolveCommandReceiptPinStatus` lets the receipt out. The keyring may change in between.

`receiptAgreement`: take a command that was accepted and claimed under a pin, and any run of the
keyring after which the pin is still there and not revoked. If the pin is active, or began to
retire after the command was issued, then every result of the command has a receipt, it is
accepted by the durable state, and it is deliverable. If the pin began to retire at the issue
time or before, no receipt is built and none would be delivered.

The second case is real, because a command may be issued ahead of the clock of the Bridge: in
`receiptBlocked_of_rotation` the pin retires after the command was accepted and yet before the
command was issued.
-/

set_option autoImplicit false

namespace Ariava.Proofs.ReceiptConstruction

open Ariava.Lib
open Ariava.Protocol
open Ariava.StateStore
open Ariava.E2e

/-- The record of a command that was prepared under the keyring and then claimed. -/
inductive Claimed (crypto : NodeCrypto) (keyring : LocalLinkKeyring) :
    PersistedCommandExecutionV4 → Prop
  | claim {command : EncryptedCommandEnvelopeV1} {observedAt claimedAt : CanonicalTimestamp}
      {prepared : PreparedEncryptedCommand} {state : PersistedBridgeState}
      {t : StateTransition CommandClaim} {execution : PersistedCommandExecutionV4}
      (hprepared : prepareCommandForExecution crypto (some keyring) command observedAt
        = .ok prepared)
      (hclaimed : claimCommandExecutionTransition crypto.hash state
        ⟨prepared.originalEncryptedCommand, prepared.commandDigest, prepared.pinReference,
          claimedAt⟩ = .ok t)
      (hresult : t.result = .claimed execution) : Claimed crypto keyring execution

/-- A transition that takes the record of a command to its next state, before its receipt. -/
inductive RecordStep (hash : ContentHash) :
    PersistedCommandExecutionV4 → PersistedCommandExecutionV4 → Prop
  | dispatchStarted {state : PersistedBridgeState} {commandId : String}
      {now : CanonicalTimestamp} {t : StateTransition PersistedCommandExecutionV4}
      {execution : PersistedCommandExecutionV4}
      (hrecord : state.commandExecutions.get? commandId = some execution)
      (hmark : markCommandDispatchStartedTransition hash state commandId now = .ok t) :
      RecordStep hash execution t.result
  | terminalReceiptBlocked {state : PersistedBridgeState} {commandId : String}
      {result : CommandResult} {t : StateTransition PersistedCommandExecutionV4}
      {execution : PersistedCommandExecutionV4}
      (hrecord : state.commandExecutions.get? commandId = some execution)
      (hmark : persistTerminalReceiptBlockedTransition hash state commandId result = .ok t) :
      RecordStep hash execution t.result

/-- The two pins are one link at two times: they differ at most in the status. -/
structure SameLink (pin pin' : ActiveLinkPinV2) : Prop where
  same : { pin' with status := pin.status, retiringAt := pin.retiringAt } = pin

section
variable {crypto : NodeCrypto} {keyring : LocalLinkKeyring}
  {execution execution' : PersistedCommandExecutionV4} {pin pin' : ActiveLinkPinV2}

/-- What a claimed record has: it is valid, and its command was accepted under a pin whose key
agreement succeeded. -/
structure AcceptedUnder (crypto : NodeCrypto) (keyring : LocalLinkKeyring)
    (execution : PersistedCommandExecutionV4) (pin : ActiveLinkPinV2) : Prop where
  valid : ValidExecution crypto.hash execution
  state : isReceiptState execution.state = true
  found : keyring.getUsable (commandPinKey execution.originalEncryptedCommand) = some pin
  pinOf : PinOf execution pin
  agrees : ∃ identity, keyring.identities.get? pin.hostBinding.encryptionKeyId = some identity ∧
    ∃ shared, crypto.x25519SharedSecret identity.privateKeyPkcs8 pin.watchBinding.publicKey
      = .ok shared

/-- A claimed record was accepted under a pin of the keyring. -/
theorem Claimed.acceptedUnder (h : Claimed crypto keyring execution) :
    ∃ pin, AcceptedUnder crypto keyring execution pin := by
  obtain @⟨command, observedAt, claimedAt, prepared, state, t, execution, hprepared, hclaimed,
    hresult⟩ := h
  obtain ⟨hvalid, hcases⟩ := claimCommandExecution_cases hclaimed
  have hcandidate : execution = claimCandidate ⟨prepared.originalEncryptedCommand,
      prepared.commandDigest, prepared.pinReference, claimedAt⟩ := by
    rcases hcases with ⟨result, rfl, hnot⟩ | ⟨-, -, rfl⟩
    · exact absurd hresult (hnot execution)
    · exact (CommandClaim.claimed.inj hresult).symm
  obtain ⟨-, -, ring, hring, hprepare, hcommand, -, -⟩ := prepareCommandForExecution_eq_ok hprepared
  cases hring
  obtain ⟨material, hmaterial, hauthorized, hdecrypt, hreference⟩ :=
    LocalLinkKeyring.prepare_eq_ok hprepare
  unfold LocalLinkKeyring.resolvePinMaterial at hmaterial
  split at hmaterial
  · exact absurd hmaterial (by simp)
  rename_i pin hfound
  split at hmaterial
  · exact absurd hmaterial (by simp)
  rename_i identity hidentity
  split at hmaterial
  · cases hmaterial
    simp only [LocalLinkKeyring.isCommandAuthorized, Bool.and_eq_true, decide_eq_true_eq]
      at hauthorized
    obtain ⟨⟨⟨⟨⟨hhostId, hwatch⟩, -⟩, -⟩, -⟩, -⟩ := hauthorized
    obtain ⟨wrapKey, hwrapKey, -⟩ := bind_eq_ok_iff.mp hdecrypt
    subst hcandidate hcommand
    exact ⟨pin, hvalid, rfl, hfound, ⟨hreference.symm, hhostId, hwatch⟩, identity, hidentity,
      deriveDirectionKey_isOk_iff.mp ⟨wrapKey, hwrapKey⟩⟩
  · exact absurd hmaterial (by simp)

/-- A record that moves on was accepted under the same pin. -/
theorem AcceptedUnder.step (h : AcceptedUnder crypto keyring execution pin)
    (hstep : RecordStep crypto.hash execution execution') :
    AcceptedUnder crypto keyring execution' pin := by
  cases hstep with
  | dispatchStarted hrecord hmark =>
    obtain ⟨current, hcurrent, -, next, rfl, hvalid, rfl⟩ := markCommandDispatchStarted_cases hmark
    cases hrecord.symm.trans hcurrent
    exact ⟨hvalid, rfl, h.found, ⟨h.pinOf.reference, h.pinOf.hostId, h.pinOf.watchDeviceId⟩,
      h.agrees⟩
  | terminalReceiptBlocked hrecord hmark =>
    obtain ⟨current, hcurrent, -, next, rfl, hvalid, rfl⟩ :=
      persistTerminalReceiptBlocked_cases hmark
    cases hrecord.symm.trans hcurrent
    exact ⟨hvalid, rfl, h.found, ⟨h.pinOf.reference, h.pinOf.hostId, h.pinOf.watchDeviceId⟩,
      h.agrees⟩

/-- A record that moves on any number of times was accepted under the same pin. -/
theorem AcceptedUnder.steps (h : AcceptedUnder crypto keyring execution pin)
    (hsteps : Relation.ReflTransGen (RecordStep crypto.hash) execution execution') :
    AcceptedUnder crypto keyring execution' pin := by
  induction hsteps with
  | refl => exact h
  | tail _ hlast ih => exact ih.step hlast

/-- The pin of a record is still its pin with another status. -/
theorem PinOf.sameLink (h : PinOf execution pin) (hsame : SameLink pin pin') :
    PinOf execution pin' := by
  have hpin := hsame.same
  refine ⟨?_, ?_, ?_⟩
  · rw [← h.reference, ← hpin]
    rfl
  · rw [← h.hostId, ← hpin]
  · rw [← h.watchDeviceId, ← hpin]

end

/-! ### The three checks agree -/

/-- The keyring of a new process is sound if the keys of the Host can be imported. -/
theorem keyringSound_start {crypto : NodeCrypto} {hostId currentKeyId : String}
    {identities : HostIdentities} {file : Option PersistedKeyringV2}
    (himport : ∀ keyId identity, identities.get? keyId = some identity →
      identity.encryptionKeyId = keyId ∧ crypto.canImportPrivateKey identity = true) :
    KeyringSound crypto (KeyringWorld.start hostId identities currentKeyId file) where
  identities := by
    intro keyId identity hget
    obtain ⟨hid, hcan⟩ := himport keyId identity hget
    exact ⟨hid, hcan, Dict.mem_keys_iff.mpr ⟨identity, hget⟩⟩
  pins := ⟨fun _ hpin => absurd hpin List.not_mem_nil, List.nodup_nil⟩

/-- The receipt of the result is built, the durable state accepts it, and it may be delivered. -/
def ReceiptServed (crypto : NodeCrypto) (keyring : LocalLinkKeyring)
    (execution : PersistedCommandExecutionV4) (result : CommandResult)
    (randomness : CommandReceiptRandomness) : Prop :=
  (∃ outbox, buildCommandReceipt crypto (receiptExecution execution result) keyring randomness
      = .ok outbox ∧
    assertReceiptOutboxForExecution crypto.hash execution result outbox = .ok ()) ∧
  keyring.resolveCommandReceiptPinStatus execution.pinReference
    execution.originalEncryptedCommand.issuedAt = .deliverable

/-- No receipt of the result is built, and none would be delivered. -/
def ReceiptBlocked (crypto : NodeCrypto) (keyring : LocalLinkKeyring)
    (execution : PersistedCommandExecutionV4) (result : CommandResult)
    (randomness : CommandReceiptRandomness) : Prop :=
  (∀ outbox, buildCommandReceipt crypto (receiptExecution execution result) keyring randomness
    ≠ .ok outbox) ∧
  keyring.resolveCommandReceiptPinStatus execution.pinReference
    execution.originalEncryptedCommand.issuedAt = .unavailable

section
variable {crypto : NodeCrypto} {hostId currentKeyId : String} {identities : HostIdentities}
  {file : Option PersistedKeyringV2} {as bs : List KeyringAction} {w w' : KeyringWorld}
  {claimed execution : PersistedCommandExecutionV4} {result : CommandResult}
  {randomness : CommandReceiptRandomness} {pin pin' : ActiveLinkPinV2}

/-- The checks at acceptance, at construction and at delivery agree: the result of a claimed
command has a receipt that is accepted and deliverable if its pin, which is not revoked, is
active or began to retire after the command was issued. Else it has none. -/
theorem receiptAgreement
    (himport : ∀ keyId identity, identities.get? keyId = some identity →
      identity.encryptionKeyId = keyId ∧ crypto.canImportPrivateKey identity = true)
    (hbefore : Run (KeyringStep crypto) (.start hostId identities currentKeyId file) as w)
    (hclaimed : Claimed crypto w.keyring claimed)
    (hpin : w.keyring.getUsable (commandPinKey claimed.originalEncryptedCommand) = some pin)
    (hsteps : Relation.ReflTransGen (RecordStep crypto.hash) claimed execution)
    (hafter : Run (KeyringStep crypto) w bs w') (hpin' : pin' ∈ w'.keyring.pins)
    (hsame : SameLink pin pin') (husable : pin'.status ≠ .revoked)
    (hresult : ResultOf execution.originalEncryptedCommand result)
    (hrandom : isReceiptRandomness randomness = true) :
    if isIssuedWithinPin pin' execution.originalEncryptedCommand.issuedAt then
      ReceiptServed crypto w'.keyring execution result randomness
    else ReceiptBlocked crypto w'.keyring execution result randomness := by
  have hsoundStep : ∀ v a v', KeyringSound crypto v → KeyringStep crypto v a v' →
      KeyringSound crypto v' := fun _ _ _ hsound hstep => hsound.step hstep
  have hsound : KeyringSound crypto w := hbefore.invariant hsoundStep (keyringSound_start himport)
  have hsound' : KeyringSound crypto w' := hafter.invariant hsoundStep hsound
  have hretains : Retains w w' := hafter.relates Retains.refl (fun _ _ _ => Retains.trans)
    fun _ _ _ hstep => hstep.retains
  -- The record still refers to the pin that it was accepted under.
  obtain ⟨found, hfirst⟩ := hclaimed.acceptedUnder
  cases hfirst.found.symm.trans hpin
  have haccepted := hfirst.steps hsteps
  have hof : PinOf execution pin' := PinOf.sameLink haccepted.pinOf hsame
  have hstatus := resolveCommandReceiptPinStatus_eq hsound'.pins hpin' husable hof
    execution.originalEncryptedCommand.issuedAt
  split
  · rename_i hissued
    rw [hissued] at hstatus
    refine ⟨buildCommandReceipt_eq_ok haccepted.valid haccepted.state hresult hsound'.pins
      (fun keyId identity hget => (hsound'.identities keyId identity hget).2.1) hpin' husable hof
      hissued (fun identity' hidentity' => ?_) hrandom, hstatus⟩
    -- The identity of the pin is the one of the time when the command was accepted.
    obtain ⟨identity, hidentity, hagrees⟩ := haccepted.agrees
    have hkey : pin'.hostBinding.encryptionKeyId = pin.hostBinding.encryptionKeyId := by
      rw [← hsame.same]
    have hwatch : pin'.watchBinding.publicKey = pin.watchBinding.publicKey := by
      rw [← hsame.same]
    rw [hkey] at hidentity'
    have hold := hretains.identities _ (hsound.identities _ _ hidentity).2.2 _ hidentity'
    cases hold.symm.trans hidentity
    rw [hwatch]
    exact hagrees
  · rename_i hissued
    rw [Bool.not_eq_true] at hissued
    rw [hissued] at hstatus
    exact ⟨buildCommandReceipt_unavailable hsound'.pins hpin' husable hof hissued, hstatus⟩

end

/-! ### A pin that retires before its command was issued -/

/-- The id of a key: one for the Host, one for the Watch. -/
def linkKeyId (publicKey : List UInt8) : String :=
  if publicKey.head? = some 0 then "ekey_HHHHHHHHHHHHHHHHHHHHHHHHHHHHHHHHHHHHHHHHHHA"
  else "ekey_WWWWWWWWWWWWWWWWWWWWWWWWWWWWWWWWWWWWWWWWWWA"

/-- Primitives that tell the key of the Host from the key of the Watch. -/
def linkCrypto : NodeCrypto :=
  { sampleCrypto with
    deriveHostEncryptionKeyId := linkKeyId
    isEncryptionKeyId_derive := fun publicKey => by
      unfold linkKeyId
      split <;> decide }

/-- The Host of the link. -/
def linkHostId : String := "host_AAAAAAAAAAAAAAAAAAAAAAAAAAAAAAAAAAAAAAAAAAA"

/-- The Watch of the link. -/
def linkWatchId : String := "watch_AAAAAAAAAAAAAAAAAAAAAAAAAAAAAAAAAAAAAAAAAAA"

/-- The identity of the Host. -/
def linkIdentity : HostEncryptionIdentity where
  hostId := linkHostId
  encryptionKeyId := linkKeyId [0]
  publicKey := List.replicate 32 0
  privateKeyPkcs8 := []
  sequence := 1
  createdAt := sampleInstant 0

/-- The binding of an end of the link, with its key. -/
def linkBinding (entityType : EntityType) (entityId : String) (key : UInt8) :
    EncryptionKeyBindingV1 where
  entityType := entityType
  entityId := entityId
  identityKeyId := "key_AAAAAAAAAAAAAAAAAAAAAAAAAAAAAAAAAAAAAAAAAAA"
  encryptionKeyId := linkKeyId [key]
  publicKey := List.replicate 32 key
  sequence := 1
  createdAt := sampleInstant 0
  bindingSignature := List.replicate 64 0

/-- The active pin of an epoch of the link. -/
def linkPin (epoch : Nat) : ActiveLinkPinV2 where
  status := .active
  linkId := "link"
  hostId := linkHostId
  watchDeviceId := linkWatchId
  linkGeneration := 1
  epoch := epoch
  transcriptDigest := sampleDigest
  hostBinding := linkBinding .host linkHostId 0
  hostBindingDigest := sampleDigest
  watchBinding := linkBinding .watch linkWatchId 1
  watchBindingDigest := sampleDigest
  peerProofDigest := sampleDigest
  activatedAt := sampleInstant 0
  retiringAt := none

/-- An interrupt under the first epoch, issued two minutes after 1970. -/
def linkCommand : EncryptedCommandEnvelopeV1 where
  type := .interrupt
  commandId := "command"
  hostId := linkHostId
  sessionId := "session"
  payload :=
    { content := ⟨"content", .interruptContentV1, List.replicate 12 0, List.replicate 50 0⟩
      keyWrap := ⟨"content", "link", 1, 1, linkKeyId [1], linkKeyId [0], List.replicate 12 0,
        List.replicate 48 0⟩ }
  targetAlertEventId := none
  issuedAt := sampleInstant 120000
  expiresAt := sampleInstant 180000
  nonce := "nonce"
  watchDeviceId := linkWatchId
  linkId := "link"
  linkGeneration := 1
  epoch := 1

/-- The result of the command. -/
def linkResult : CommandResult where
  commandId := "command"
  hostId := linkHostId
  sessionId := "session"
  status := .executed
  updatedAt := sampleInstant 130000

/-- The identities of the Host. -/
def linkIdentities : HostIdentities := (∅ : HostIdentities).set (linkKeyId [0]) linkIdentity

/-- A process that has not read its file yet. -/
def linkStart : KeyringWorld :=
  .start linkHostId linkIdentities (linkKeyId [0]) (some ⟨[linkPin 1], []⟩)

/-- The process after it read its file. -/
def linkWorld : KeyringWorld := (LocalLinkKeyring.perform linkCrypto .reopen).final linkStart

/-- The next epoch is activated one minute after 1970. -/
def linkRotation : KeyringAction := .update (.persistActive (linkPin 2) (sampleInstant 60000))

/-- The keyring after the next epoch was activated. -/
def rotatedWorld : KeyringWorld := (LocalLinkKeyring.perform linkCrypto linkRotation).final linkWorld

/-- The pin of the first epoch after the rotation. -/
def rotatedPin : ActiveLinkPinV2 :=
  { linkPin 1 with status := .retiring, retiringAt := some (sampleInstant 60000) }

/-- The record of the command, claimed one minute after 1970. -/
def linkRecord : PersistedCommandExecutionV4 :=
  claimCandidate ⟨linkCommand, deriveEncryptedCommandDigest linkCrypto.hash linkCommand,
    pinReference (linkPin 1), sampleInstant 60000⟩

/-- The randomness of a receipt. -/
def linkRandomness : CommandReceiptRandomness where
  contentId := "content"
  dek := List.replicate 32 0
  contentNonce := List.replicate 12 0
  wrapNonce := List.replicate 12 0

set_option maxRecDepth 20000 in
theorem linkWorld_keyring : linkWorld.keyring = ⟨linkHostId, [linkPin 1], [], linkIdentities⟩ := by
  decide +kernel

set_option maxRecDepth 20000 in
theorem rotatedWorld_keyring :
    rotatedWorld.keyring = ⟨linkHostId, [rotatedPin, linkPin 2], [], linkIdentities⟩ := by
  decide +kernel

theorem linkWorld_getUsable :
    linkWorld.keyring.getUsable (commandPinKey linkRecord.originalEncryptedCommand)
      = some (linkPin 1) := by
  rw [linkWorld_keyring]
  decide

/-- The command as it was prepared. -/
def linkPrepared : PreparedEncryptedCommand where
  originalEncryptedCommand := linkCommand
  commandDigest := deriveEncryptedCommandDigest linkCrypto.hash linkCommand
  pinReference := pinReference (linkPin 1)
  loopbackCommand := ⟨"command", linkHostId, "session", .interrupt, none, none,
    sampleInstant 120000, sampleInstant 180000, "nonce", linkWatchId⟩

set_option maxRecDepth 20000 in
/-- The command is prepared and claimed one minute before its issue time. -/
theorem linkRecord_claimed : Claimed linkCrypto linkWorld.keyring linkRecord := by
  have hprepared : prepareCommandForExecution linkCrypto (some linkWorld.keyring) linkCommand
      (sampleInstant 60000) = .ok linkPrepared := by
    rw [linkWorld_keyring]
    rfl
  have hclaimed : claimCommandExecutionTransition linkCrypto.hash (emptyState "epoch")
      ⟨linkPrepared.originalEncryptedCommand, linkPrepared.commandDigest,
        linkPrepared.pinReference, sampleInstant 60000⟩
      = .ok (.next (withCommandExecution (emptyState "epoch") "command" linkRecord)
          (.claimed linkRecord)) := by
    rfl
  exact Claimed.claim hprepared hclaimed rfl

theorem linkIdentities_import : ∀ keyId identity, linkIdentities.get? keyId = some identity →
    identity.encryptionKeyId = keyId ∧ linkCrypto.canImportPrivateKey identity = true := by
  intro keyId identity hget
  rcases Dict.get?_set_cases hget with ⟨rfl, rfl⟩ | ⟨-, hold⟩
  · exact ⟨rfl, rfl⟩
  · exact absurd hold (by simp)

/-- The result is of the command. -/
theorem linkResult_of : ResultOf linkRecord.originalEncryptedCommand linkResult := by
  refine ⟨by decide, rfl, rfl, rfl⟩

/-- In a process that has just read its file, the receipt of the command is served. -/
theorem receiptAgreement_unrotated :
    ReceiptServed linkCrypto linkWorld.keyring linkRecord linkResult linkRandomness := by
  have hbefore : Run (KeyringStep linkCrypto) linkStart [.reopen] linkWorld :=
    Run.single ⟨trivial, rfl⟩
  have hpin : linkPin 1 ∈ linkWorld.keyring.pins := by
    rw [linkWorld_keyring]
    exact List.mem_cons_self
  have h := receiptAgreement linkIdentities_import hbefore linkRecord_claimed
    linkWorld_getUsable Relation.ReflTransGen.refl (Run.nil linkWorld) hpin ⟨rfl⟩ (by decide)
    linkResult_of (by decide : isReceiptRandomness linkRandomness = true)
  exact h

/-- Every result of a claimed command has a receipt that is built, accepted and deliverable,
whatever became of the keyring, as long as the pin of the command is there and not revoked. -/
def ReceiptsConstructible (crypto : NodeCrypto) (start : KeyringWorld) : Prop :=
  ∀ (as bs : List KeyringAction) (w w' : KeyringWorld)
    (claimed execution : PersistedCommandExecutionV4) (pin pin' : ActiveLinkPinV2)
    (result : CommandResult) (randomness : CommandReceiptRandomness),
    Run (KeyringStep crypto) start as w → Claimed crypto w.keyring claimed →
    w.keyring.getUsable (commandPinKey claimed.originalEncryptedCommand) = some pin →
    Relation.ReflTransGen (RecordStep crypto.hash) claimed execution →
    Run (KeyringStep crypto) w bs w' → pin' ∈ w'.keyring.pins → SameLink pin pin' →
    pin'.status ≠ .revoked → ResultOf execution.originalEncryptedCommand result →
    isReceiptRandomness randomness = true →
    ReceiptServed crypto w'.keyring execution result randomness

set_option maxRecDepth 20000 in
/-- The command is accepted one minute before its issue time and claimed. Then the next epoch is
activated, still before the issue time. The pin of the command retires, and it does not serve the
command any more: the receipt cannot be delivered. -/
theorem receiptBlocked_of_rotation : ¬ ReceiptsConstructible linkCrypto linkStart := by
  intro h
  have hbefore : Run (KeyringStep linkCrypto) linkStart [.reopen] linkWorld :=
    Run.single ⟨trivial, rfl⟩
  have hafter : Run (KeyringStep linkCrypto) linkWorld [linkRotation] rotatedWorld :=
    Run.single ⟨trivial, rfl⟩
  have hpin : rotatedPin ∈ rotatedWorld.keyring.pins := by
    rw [rotatedWorld_keyring]
    exact List.mem_cons_self
  have hserved := h _ _ _ _ linkRecord linkRecord (linkPin 1) rotatedPin linkResult linkRandomness
    hbefore linkRecord_claimed linkWorld_getUsable Relation.ReflTransGen.refl hafter
    hpin ⟨rfl⟩ (by decide) linkResult_of (by decide)
  have hdelivered := hserved.2
  rw [rotatedWorld_keyring] at hdelivered
  exact absurd hdelivered (by decide)

end Ariava.Proofs.ReceiptConstruction
