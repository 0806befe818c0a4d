import Ariava.Lib.Effect
import Ariava.Lib.Run
import Ariava.E2e.KeyringCodec

/-!
# `Ariava.E2e.KeyringUpdates`: how a keyring changes

The methods of `LocalLinkKeyring` that change it, as programs over `KeyringWorld`: the keyring
object of this process, the keyring file and the identities of the Host. A throw leaves what was
written before it. The process lock is not modelled: a method that does not get it changes
nothing. A file of version 1 is not modelled either.

`persistActive`, `stageActivation` and `revokeWatchGeneration` read the file first, so what they
do to the file does not depend on the object. The command line tools use these three from
processes of their own, which is `KeyringAction.foreign`.

`KeyringSound` holds in every reachable world (`KeyringSound.step`): the pins of the object are
valid and have different tuples. The pins of the file are checked whenever they are loaded.
-/

set_option autoImplicit false

namespace Ariava.E2e

open Ariava.Lib
open Ariava.Protocol

/-- The state that a keyring writes. -/
def LocalLinkKeyring.state (keyring : LocalLinkKeyring) : PersistedKeyringV2 :=
  ⟨keyring.pins, keyring.pendingActivations⟩

/-- The keyring with another state. -/
def LocalLinkKeyring.withState (keyring : LocalLinkKeyring) (state : PersistedKeyringV2) :
    LocalLinkKeyring :=
  { keyring with pins := state.pins, pendingActivations := state.pendingActivations }

/-- The keyring of this process, the text it last read or wrote, the file, the id of the current
Host key and the ids of all Host keys that were generated. -/
structure KeyringWorld where
  keyring : LocalLinkKeyring
  persistedState : PersistedKeyringV2
  file : Option PersistedKeyringV2
  currentKeyId : String
  generatedKeyIds : List String
deriving DecidableEq

/-- A program of the keyring. -/
abbrev KeyringEffect (α : Type) : Type := Effect Thrown KeyringWorld α

/-- `E2ERecipientV1`. Its state is active by type. -/
structure E2ERecipientV1 where
  linkId : String
  linkGeneration : Nat
  watchDeviceId : String
  epoch : Nat
  watchBinding : EncryptionKeyBindingV1
deriving DecidableEq

/-- `E2ERecipientSnapshotV1`. -/
structure E2ERecipientSnapshotV1 where
  hostId : String
  recipientSetVersion : Nat
  recipients : List E2ERecipientV1
deriving DecidableEq

/-- `pinKey` of a recipient. -/
def recipientKey (recipient : E2ERecipientV1) : PinKey :=
  ⟨recipient.linkId, recipient.linkGeneration, recipient.epoch⟩

/-- `PinRetentionReferences`. A missing record is an empty one. -/
structure PinRetentionReferences where
  contentRetainedThrough : Dict PinKey IsoText
  commandRetainedThrough : Dict PinKey IsoText
  executionRetainedThrough : Dict PinKey IsoText
  terminalReceiptRetainedThrough : Dict PinKey IsoText
  pendingOutboxRetainedThrough : Dict PinKey IsoText
  undeliverableOutboxRetainedThrough : Dict PinKey IsoText
deriving DecidableEq

/-- The records of the references. -/
def PinRetentionReferences.records (references : PinRetentionReferences) :
    List (Dict PinKey IsoText) :=
  [references.contentRetainedThrough, references.commandRetainedThrough,
    references.executionRetainedThrough, references.terminalReceiptRetainedThrough,
    references.pendingOutboxRetainedThrough, references.undeliverableOutboxRetainedThrough]

/-- The line terminators, which the dot of a pattern does not match. -/
def isLineTerminator (c : Char) : Bool :=
  c.toNat == 0x0a || c.toNat == 0x0d || c.toNat == 0x2028 || c.toNat == 0x2029

/-- The pattern of the keys of `assertCanonicalRetentionReferences`. -/
def isRetentionKey (key : PinKey) : Bool :=
  isNonEmptyString key.linkId && !(key.linkId.toList.any isLineTerminator)
    && decide (0 < key.linkGeneration) && decide (0 < key.epoch)

/-- `assertCanonicalRetentionReferences`. The clock is canonical by type. -/
def assertCanonicalRetentionReferences (references : PinRetentionReferences) :
    Except Thrown Unit :=
  checkAll references.records fun record =>
    throwIf (!(record.entries.all fun entry => isRetentionKey entry.1 && !entry.2.expanded))
      (.typeError "pin retention reference is invalid")

/-- `maxTimestamp`. -/
def maxTimestamp (values : List (Option IsoText)) : Option IsoText :=
  values.reduceOption.foldl
    (fun latest value => some (match latest with
      | none => value
      | some latest => if latest < value then value else latest)) none

/-- A pin without its boundary, revoked. -/
def revokedPin (pin : ActiveLinkPinV2) : ActiveLinkPinV2 :=
  { pin with status := .revoked, retiringAt := none }

namespace LocalLinkKeyring

variable (crypto : NodeCrypto)

/-! ### Reading and writing the file -/

/-- `load`. -/
def load : KeyringEffect PersistedKeyringV2 := do
  let w ← get
  match w.file with
  | none => return ⟨[], []⟩
  | some state => do
      Effect.ofExcept (validateState crypto w.keyring.currentHostId w.keyring.identities state)
      return state

/-- Take over a state that was loaded: `refreshPersisted` after its `load`. -/
def adopt (state : PersistedKeyringV2) : KeyringEffect Unit :=
  modify fun w => { w with keyring := w.keyring.withState state, persistedState := state }

/-- `refreshPersisted`, and the constructor. -/
def refreshPersisted : KeyringEffect Unit := do
  let latest ← load crypto
  adopt latest

/-- Replace the pins of the object. -/
def setPins (pins : List ActiveLinkPinV2) : KeyringEffect Unit :=
  modify fun w => { w with keyring := { w.keyring with pins } }

/-- `persist`. -/
def persist : KeyringEffect Unit :=
  modify fun w => { w with file := some w.keyring.state, persistedState := w.keyring.state }

/-- `updatePersisted`: load, change, check, and write what changed. The change replaces the
state of the object unless it throws. -/
def updatePersisted (mutate : PersistedKeyringV2 → Except Thrown PersistedKeyringV2) :
    KeyringEffect Unit := do
  let latest ← load crypto
  adopt latest
  let next ← Effect.ofExcept (mutate latest)
  modify fun w => { w with keyring := w.keyring.withState next }
  let w ← get
  Effect.ofExcept (validateState crypto w.keyring.currentHostId w.keyring.identities next)
  if latest ≠ next then persist else pure ()

/-! ### Activations -/

/-- A known pin of the same Watch rules the new pin out. -/
def rejectsRollback (pin item : ActiveLinkPinV2) : Bool :=
  decide (pin.linkGeneration < item.linkGeneration)
    || decide (item.linkGeneration = pin.linkGeneration
      ∧ (pin.epoch < item.epoch ∨ (item.epoch = pin.epoch ∧ item.linkId ≠ pin.linkId)))
    || decide (pin.watchBinding.sequence < item.watchBinding.sequence)
    || decide (pin.hostBinding.sequence < item.hostBinding.sequence)

/-- The pending activations without those of a tuple. -/
def withoutPending (key : PinKey) (pending : List PendingActivationV2) :
    List PendingActivationV2 :=
  pending.filter fun item => decide (⟨item.linkId, item.linkGeneration, item.epoch⟩ ≠ key)

/-- An older active pin of the same Watch begins to retire. -/
def retireFor (pin : ActiveLinkPinV2) (now : CanonicalTimestamp) (item : ActiveLinkPinV2) :
    ActiveLinkPinV2 :=
  if item.watchDeviceId = pin.watchDeviceId ∧ item.status = .active
      ∧ 0 < comparePinTuple (pinTuple pin) (pinTuple item) then
    { item with status := .retiring, retiringAt := some (max now item.activatedAt) }
  else item

/-- The change of `persistActive`. -/
def activated (pin : ActiveLinkPinV2) (now : CanonicalTimestamp) (state : PersistedKeyringV2) :
    Except Thrown PersistedKeyringV2 :=
  let pending := withoutPending (pinKey pin) state.pendingActivations
  if (state.pins.filter fun item => decide (item.watchDeviceId = pin.watchDeviceId)).any
      (rejectsRollback pin) then
    .error (.typeError "active link pin rollback rejected")
  else match state.pins.find? fun item => decide (pinKey item = pinKey pin) with
    | some known =>
        if known ≠ pin then .error (.typeError "active link pin immutable tuple conflict")
        else .ok ⟨state.pins, pending⟩
    | none => .ok ⟨state.pins.map (retireFor pin now) ++ [pin], pending⟩

/-- `persistActive`. -/
def persistActive (pin : ActiveLinkPinV2) (now : CanonicalTimestamp) : KeyringEffect Unit := do
  let w ← get
  Effect.ofExcept (assertValidPin crypto w.keyring.currentHostId w.keyring.identities pin)
  Effect.ofExcept (throwIf (decide (pin.status ≠ .active))
    (.typeError "new link pin must be active"))
  updatePersisted crypto (activated pin now)

/-- The change of `stageActivation`. -/
def staged (pending : PendingActivationV2) (state : PersistedKeyringV2) :
    Except Thrown PersistedKeyringV2 :=
  match state.pendingActivations.find? fun item => decide
      (item.linkId = pending.linkId ∧ item.linkGeneration = pending.linkGeneration
        ∧ item.epoch = pending.epoch) with
  | some existing =>
      if existing ≠ pending then .error (.typeError "pending activation conflict") else .ok state
  | none => .ok { state with pendingActivations := state.pendingActivations ++ [pending] }

/-- `stageActivation`. -/
def stageActivation (pending : PendingActivationV2) : KeyringEffect Unit := do
  let w ← get
  Effect.ofExcept (assertValidPending crypto w.keyring.currentHostId w.keyring.identities pending)
  updatePersisted crypto (staged pending)

/-! ### Revocations -/

/-- A pin after one generation of its Watch was revoked. -/
def generationRevokedPin (watchDeviceId : String) (linkGeneration : Nat) (pin : ActiveLinkPinV2) :
    ActiveLinkPinV2 :=
  if pin.watchDeviceId = watchDeviceId ∧ pin.linkGeneration = linkGeneration then revokedPin pin
  else pin

/-- The change of `revokeWatchGeneration`. -/
def generationRevoked (watchDeviceId : String) (linkGeneration : Nat)
    (state : PersistedKeyringV2) : PersistedKeyringV2 where
  pins := state.pins.map (generationRevokedPin watchDeviceId linkGeneration)
  pendingActivations := state.pendingActivations.filter fun pending =>
    decide (pending.pin.watchDeviceId ≠ watchDeviceId ∨ pending.linkGeneration ≠ linkGeneration)

/-- `revokeWatchGeneration`. -/
def revokeWatchGeneration (watchDeviceId : String) (linkGeneration : Nat) :
    KeyringEffect Unit := do
  Effect.ofExcept (throwIf
    (!(isNonEmptyString watchDeviceId && isPositiveSafeInteger linkGeneration))
    (.typeError "Watch relation generation is invalid"))
  updatePersisted crypto fun state => .ok (generationRevoked watchDeviceId linkGeneration state)

/-- A pin after its Watch was revoked. -/
def watchRevoked (watchDeviceId : String) (pin : ActiveLinkPinV2) : ActiveLinkPinV2 :=
  if pin.watchDeviceId = watchDeviceId then revokedPin pin else pin

/-- A pin after its Host key was compromised. The boundary stays. -/
def keyRevoked (encryptionKeyId : String) (pin : ActiveLinkPinV2) : ActiveLinkPinV2 :=
  if pin.status ≠ .revoked ∧ pin.hostBinding.encryptionKeyId = encryptionKeyId then
    { pin with status := .revoked }
  else pin

/-- Change the pins of the object one by one, and write them if one changed. -/
def mapPins (f : ActiveLinkPinV2 → ActiveLinkPinV2) : KeyringEffect Unit := do
  let w ← get
  setPins (w.keyring.pins.map f)
  if w.keyring.pins.map f ≠ w.keyring.pins then persist else pure ()

/-- `revokeWatch`. -/
def revokeWatch (watchDeviceId : String) : KeyringEffect Unit :=
  mapPins (watchRevoked watchDeviceId)

/-- `revokeCompromisedEncryptionKey`. -/
def revokeCompromisedEncryptionKey (encryptionKeyId : String) : KeyringEffect Unit :=
  mapPins (keyRevoked encryptionKeyId)

/-! ### Reconciliation -/

/-- `materialForRecipient`. -/
def materialForRecipient (keyring : LocalLinkKeyring) (recipient : E2ERecipientV1) :
    Except Thrown (E2ERecipientV1 × PinMaterial) :=
  match keyring.resolvePinMaterial crypto (recipientKey recipient) with
  | .ok material =>
      if material.pin.status = .active ∧ recipient.watchDeviceId = material.pin.watchDeviceId
          ∧ recipient.watchBinding = material.pin.watchBinding then .ok (recipient, material)
      else .error (.typeError "recipient lacks a matching locally verified active pin")
  | .error _ => .error (.typeError "recipient lacks a matching locally verified active pin")

/-- The materials of all recipients, by the object as it is now. -/
def recipientMaterials (snapshot : E2ERecipientSnapshotV1) :
    KeyringEffect (List (E2ERecipientV1 × PinMaterial)) := do
  let w ← get
  Effect.ofExcept (snapshot.recipients.mapM (materialForRecipient crypto w.keyring))

/-- A later pin of the same Watch is listed. The last recipient of the Watch counts. -/
def hasSuccessor (snapshot : E2ERecipientSnapshotV1) (pin : ActiveLinkPinV2) : Bool :=
  (snapshot.recipients.reverse.find? fun recipient =>
    decide (recipient.watchDeviceId = pin.watchDeviceId)).any fun recipient =>
      decide (0 < comparePinTuple (recipient.linkGeneration, recipient.epoch) (pinTuple pin))

/-- A pin after a reconciliation: it stays if it is listed, or if it is retiring and a later pin
of its Watch is listed. Else it is revoked. -/
def reconciledPin (snapshot : E2ERecipientSnapshotV1) (pin : ActiveLinkPinV2) : ActiveLinkPinV2 :=
  if pin.status = .revoked ∨ pinKey pin ∈ snapshot.recipients.map recipientKey then pin
  else if pin.status = .retiring ∧ hasSuccessor snapshot pin = true then pin
  else revokedPin pin

/-- `reconciledPins`. -/
def reconciledPins (snapshot : E2ERecipientSnapshotV1) (knownBeforeRefresh : Option (List PinKey))
    (pins : List ActiveLinkPinV2) : Except Thrown (List ActiveLinkPinV2) := do
  throwIf (knownBeforeRefresh.any fun known => pins.any fun pin =>
      decide (pin.status = .active ∧ pinKey pin ∉ snapshot.recipients.map recipientKey
        ∧ pinKey pin ∉ known))
    (.typeError "recipient snapshot predates a locally persisted active pin")
  return pins.map (reconciledPin snapshot)

/-- The second half of `reconcileRecipients`: write the reconciled pins, from the file when it
changed behind the object. -/
def persistReconciled (snapshot : E2ERecipientSnapshotV1) (known : List PinKey)
    (reconciled : List ActiveLinkPinV2) : KeyringEffect Unit := do
  let latest ← load crypto
  let w ← get
  if latest ≠ w.persistedState then do
    adopt latest
    let _ ← recipientMaterials crypto snapshot
    let pins ← Effect.ofExcept (reconciledPins snapshot (some known) latest.pins)
    setPins pins
  else setPins reconciled
  persist

/-- The first half of `reconcileRecipients`: find the pins of the recipients, after a refresh
from the file when one is missing. Returns whether it refreshed. -/
def findRecipients (snapshot : E2ERecipientSnapshotV1) : KeyringEffect Bool :=
  tryCatch (do
    let _ ← recipientMaterials crypto snapshot
    return false) fun error => do
      refreshPersisted crypto
      tryCatch (do
        let _ ← recipientMaterials crypto snapshot
        return true) fun _ => throw error

/-- `reconcileRecipients`. -/
def reconcileRecipients (snapshot : E2ERecipientSnapshotV1) : KeyringEffect Unit := do
  let before ← get
  Effect.ofExcept (throwIf (decide (snapshot.hostId ≠ before.keyring.currentHostId)
      || !isPositiveSafeInteger snapshot.recipientSetVersion)
    (.typeError "recipient snapshot is invalid"))
  let refreshed ← findRecipients crypto snapshot
  let w ← get
  let known := before.keyring.pins.map pinKey
  let reconciled ← Effect.ofExcept
    (reconciledPins snapshot (if refreshed then some known else none) w.keyring.pins)
  if reconciled = w.keyring.pins then pure () else persistReconciled crypto snapshot known reconciled

/-! ### Pruning -/

/-- `referencedHostEncryptionKeyIds`. -/
def referencedHostEncryptionKeyIds (keyring : LocalLinkKeyring) : List String :=
  keyring.pins.map (fun pin => pin.hostBinding.encryptionKeyId)
    ++ keyring.pendingActivations.map fun pending => pending.pin.hostBinding.encryptionKeyId

/-- The test of `pruneRetiring`: an active pin stays, another stays while a reference lasts. -/
def isPinRetained (references : PinRetentionReferences) (now : CanonicalTimestamp)
    (pin : ActiveLinkPinV2) : Bool :=
  decide (pin.status = .active) ||
    (maxTimestamp (references.records.map fun record => record.get? (pinKey pin))).any
      fun retainUntil => decide (now.toIsoText ≤ retainUntil)

/-- `prune` of the identity store: the current key and the referenced keys stay. -/
def pruneIdentities : KeyringEffect Unit :=
  modify fun w => { w with keyring := { w.keyring with
    identities := w.keyring.identities.filter fun keyId _ =>
      decide (keyId = w.currentKeyId) || w.keyring.referencedHostEncryptionKeyIds.contains keyId } }

/-- `pruneRetiring`. -/
def pruneRetiring (references : PinRetentionReferences) (now : CanonicalTimestamp) :
    KeyringEffect Unit := do
  Effect.ofExcept (assertCanonicalRetentionReferences references)
  let w ← get
  setPins (w.keyring.pins.filter (isPinRetained references now))
  if w.keyring.pins.all (isPinRetained references now) then pure ()
  else do
    persist
    pruneIdentities

end LocalLinkKeyring

/-! ### Steps -/

/-- A method that changes the keyring. -/
inductive KeyringUpdate
  | persistActive (pin : ActiveLinkPinV2) (now : CanonicalTimestamp)
  | stageActivation (pending : PendingActivationV2)
  | revokeWatchGeneration (watchDeviceId : String) (linkGeneration : Nat)

/-- One step of the keyring. `reopen` is a new process, `rotate` a new Host key. -/
inductive KeyringAction
  | update (update : KeyringUpdate)
  | foreign (update : KeyringUpdate)
  | revokeWatch (watchDeviceId : String)
  | revokeCompromisedEncryptionKey (encryptionKeyId : String)
  | reconcileRecipients (snapshot : E2ERecipientSnapshotV1)
  | pruneRetiring (references : PinRetentionReferences) (now : CanonicalTimestamp)
  | reopen
  | rotate (identity : HostEncryptionIdentity)

namespace LocalLinkKeyring

variable (crypto : NodeCrypto)

/-- What an update changes in the state it loaded. -/
def changed : KeyringUpdate → PersistedKeyringV2 → Except Thrown PersistedKeyringV2
  | .persistActive pin now => activated pin now
  | .stageActivation pending => staged pending
  | .revokeWatchGeneration watchDeviceId linkGeneration => fun state =>
      .ok (generationRevoked watchDeviceId linkGeneration state)

/-- The program of an update. -/
def performUpdate : KeyringUpdate → KeyringEffect Unit
  | .persistActive pin now => persistActive crypto pin now
  | .stageActivation pending => stageActivation crypto pending
  | .revokeWatchGeneration watchDeviceId linkGeneration =>
      revokeWatchGeneration crypto watchDeviceId linkGeneration

/-- An update by another process: only the file is shared. -/
def performForeign (update : KeyringUpdate) : KeyringEffect Unit :=
  modify fun w => { w with file := ((performUpdate crypto update).final w).file }

/-- `replaceCurrent` of the identity store, with the key that it generated. -/
def rotate (identity : HostEncryptionIdentity) : KeyringEffect Unit :=
  modify fun w => { w with
    keyring := { w.keyring with
      identities := w.keyring.identities.set identity.encryptionKeyId identity }
    currentKeyId := identity.encryptionKeyId
    generatedKeyIds := identity.encryptionKeyId :: w.generatedKeyIds }

/-- The program of an action. -/
def perform : KeyringAction → KeyringEffect Unit
  | .update update => performUpdate crypto update
  | .foreign update => performForeign crypto update
  | .revokeWatch watchDeviceId => revokeWatch watchDeviceId
  | .revokeCompromisedEncryptionKey keyId => revokeCompromisedEncryptionKey keyId
  | .reconcileRecipients snapshot => reconcileRecipients crypto snapshot
  | .pruneRetiring references now => pruneRetiring references now
  | .reopen => refreshPersisted crypto
  | .rotate identity => rotate identity

end LocalLinkKeyring

/-- A key that was generated is new, and its private key can be imported. -/
def IsGenerated (crypto : NodeCrypto) (w : KeyringWorld) : KeyringAction → Prop
  | .rotate identity => identity.encryptionKeyId ∉ w.generatedKeyIds ∧
      crypto.canImportPrivateKey identity = true
  | _ => True

/-- One step of a run of the keyring. -/
structure KeyringStep (crypto : NodeCrypto) (w : KeyringWorld) (a : KeyringAction)
    (w' : KeyringWorld) : Prop where
  generated : IsGenerated crypto w a
  effect : w' = (LocalLinkKeyring.perform crypto a).final w

/-- The keyring of a new process before it reads its file. -/
def KeyringWorld.start (hostId : String) (identities : HostIdentities) (currentKeyId : String)
    (file : Option PersistedKeyringV2) : KeyringWorld where
  keyring := ⟨hostId, [], [], identities⟩
  persistedState := ⟨[], []⟩
  file := file
  currentKeyId := currentKeyId
  generatedKeyIds := identities.keys

end Ariava.E2e
