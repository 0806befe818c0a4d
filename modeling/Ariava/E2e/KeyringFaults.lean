import Ariava.E2e.KeyringStored

/-!
# `Ariava.E2e.KeyringFaults`: the keyring methods when the storage fails

`KeyringUpdates` has the methods of `LocalLinkKeyring` with a lock that is free and a file that can
be read and written. Here each method takes the outcomes of the process lock, of the reads and of
the write, and an outcome can be an error.

A write replaces the file by renaming a temporary one and then syncs the directory
(`writeSecureFile`), so it can throw before the file is replaced or after it. The lock is released
in a `finally`, whose error replaces the one of the body.

- `callOn_fine`: without a fault these are the methods of `KeyringUpdates`.
- `withLock_run`, `updateBodyOn_run`, `mapPinsOn_run`, `findRecipientsOn_run`,
  `reconciledBodyOn_run`: what the methods do with the outcomes.
-/

set_option autoImplicit false

namespace Ariava.E2e

open Ariava.Lib
open Ariava.Protocol

/-- How `writeSecureJson` ends. `refused` is an error that leaves the old file, `promoted` an error
after the new file has taken its path. -/
inductive WriteOutcome
  | written
  | refused (error : Thrown)
  | promoted (error : Thrown)
deriving DecidableEq

/-- The outcomes of the storage during a call: of the lock, of the reading in `refreshPersisted`,
of the reading under the lock, of the write and of the release. -/
structure StorageOutcomes where
  acquire : Except Thrown Unit
  refresh : Except Thrown Unit
  read : Except Thrown Unit
  write : WriteOutcome
  release : Except Thrown Unit

/-- No fault. -/
def StorageOutcomes.fine : StorageOutcomes where
  acquire := .ok ()
  refresh := .ok ()
  read := .ok ()
  write := .written
  release := .ok ()

/-- A method that changes the keyring in reply to a change of a Watch. -/
inductive KeyringCall
  | update (update : KeyringUpdate)
  | revokeWatch (watchDeviceId : String)
  | revokeCompromisedEncryptionKey (encryptionKeyId : String)
  | reconcileRecipients (snapshot : E2ERecipientSnapshotV1)

/-- The action of a call. -/
def KeyringCall.action : KeyringCall → KeyringAction
  | .update change => .update change
  | .revokeWatch watchDeviceId => .revokeWatch watchDeviceId
  | .revokeCompromisedEncryptionKey keyId => .revokeCompromisedEncryptionKey keyId
  | .reconcileRecipients snapshot => .reconcileRecipients snapshot

namespace LocalLinkKeyring

variable (crypto : NodeCrypto) (o : StorageOutcomes)

/-! ### The storage -/

/-- `load`, after the file was read or its reading threw. -/
def loadOn (reading : Except Thrown Unit) : KeyringEffect PersistedKeyringV2 := do
  Effect.ofExcept reading
  load crypto

/-- `persist`. -/
def persistOn : WriteOutcome → KeyringEffect Unit
  | .written => persist
  | .refused error => throw error
  | .promoted error => do
      modify fun w => { w with file := some w.keyring.state }
      throw error

/-- A body under the process lock, which is released in a `finally`. -/
def withLock (body : KeyringEffect Unit) : KeyringEffect Unit := do
  Effect.ofExcept o.acquire
  let result ← tryCatch (do
    body
    return Except.ok ()) fun error => return Except.error error
  Effect.ofExcept o.release
  Effect.ofExcept result

/-! ### The methods -/

/-- The checks of an update that come before its lock. -/
def updateArguments (keyring : LocalLinkKeyring) : KeyringUpdate → Except Thrown Unit
  | .persistActive pin _ => do
      assertValidPin crypto keyring.currentHostId keyring.identities pin
      throwIf (decide (pin.status ≠ .active)) (.typeError "new link pin must be active")
  | .stageActivation pending =>
      assertValidPending crypto keyring.currentHostId keyring.identities pending
  | .revokeWatchGeneration watchDeviceId linkGeneration =>
      throwIf (!(isNonEmptyString watchDeviceId && isPositiveSafeInteger linkGeneration))
        (.typeError "Watch relation generation is invalid")

/-- The body of `updatePersisted`. -/
def updateBodyOn (mutate : PersistedKeyringV2 → Except Thrown PersistedKeyringV2) :
    KeyringEffect Unit := do
  let latest ← loadOn crypto o.read
  adopt latest
  let next ← Effect.ofExcept (mutate latest)
  modify fun w => { w with keyring := w.keyring.withState next }
  let w ← get
  Effect.ofExcept (validateState crypto w.keyring.currentHostId w.keyring.identities next)
  if latest ≠ next then persistOn o.write else pure ()

/-- `updatePersisted`. -/
def updatePersistedOn (mutate : PersistedKeyringV2 → Except Thrown PersistedKeyringV2) :
    KeyringEffect Unit :=
  withLock o (updateBodyOn crypto o mutate)

/-- `persistActive`, `stageActivation` and `revokeWatchGeneration`. -/
def performUpdateOn (update : KeyringUpdate) : KeyringEffect Unit := do
  let w ← get
  Effect.ofExcept (updateArguments crypto w.keyring update)
  updatePersistedOn crypto o (changed update)

/-- `revokeWatch` and `revokeCompromisedEncryptionKey`, which take no lock. -/
def mapPinsOn (f : ActiveLinkPinV2 → ActiveLinkPinV2) : KeyringEffect Unit := do
  let w ← get
  setPins (w.keyring.pins.map f)
  if w.keyring.pins.map f ≠ w.keyring.pins then persistOn o.write else pure ()

/-- `refreshPersisted`. -/
def refreshPersistedOn : KeyringEffect Unit := do
  let latest ← loadOn crypto o.refresh
  adopt latest

/-- The first half of `reconcileRecipients`. -/
def findRecipientsOn (snapshot : E2ERecipientSnapshotV1) : KeyringEffect Bool :=
  tryCatch (do
    let _ ← recipientMaterials crypto snapshot
    return false) fun error => do
      refreshPersistedOn crypto o
      tryCatch (do
        let _ ← recipientMaterials crypto snapshot
        return true) fun _ => throw error

/-- The body of the second half of `reconcileRecipients`. -/
def reconciledBodyOn (snapshot : E2ERecipientSnapshotV1) (known : List PinKey)
    (reconciled : List ActiveLinkPinV2) : KeyringEffect Unit := do
  let latest ← loadOn crypto o.read
  let w ← get
  if latest ≠ w.persistedState then do
    adopt latest
    let _ ← recipientMaterials crypto snapshot
    let pins ← Effect.ofExcept (reconciledPins snapshot (some known) latest.pins)
    setPins pins
  else setPins reconciled
  persistOn o.write

/-- The second half of `reconcileRecipients`. -/
def persistReconciledOn (snapshot : E2ERecipientSnapshotV1) (known : List PinKey)
    (reconciled : List ActiveLinkPinV2) : KeyringEffect Unit :=
  withLock o (reconciledBodyOn crypto o snapshot known reconciled)

/-- `reconcileRecipients`. -/
def reconcileRecipientsOn (snapshot : E2ERecipientSnapshotV1) : KeyringEffect Unit := do
  let before ← get
  Effect.ofExcept (throwIf (decide (snapshot.hostId ≠ before.keyring.currentHostId)
      || !isPositiveSafeInteger snapshot.recipientSetVersion)
    (.typeError "recipient snapshot is invalid"))
  let refreshed ← findRecipientsOn crypto o snapshot
  let w ← get
  let known := before.keyring.pins.map pinKey
  let reconciled ← Effect.ofExcept
    (reconciledPins snapshot (if refreshed then some known else none) w.keyring.pins)
  if reconciled = w.keyring.pins then pure ()
  else persistReconciledOn crypto o snapshot known reconciled

/-- The program of a call. -/
def callOn : KeyringCall → KeyringEffect Unit
  | .update update => performUpdateOn crypto o update
  | .revokeWatch watchDeviceId => mapPinsOn o (watchRevoked watchDeviceId)
  | .revokeCompromisedEncryptionKey keyId => mapPinsOn o (keyRevoked keyId)
  | .reconcileRecipients snapshot => reconcileRecipientsOn crypto o snapshot

/-! ### What the methods do -/

section
variable {crypto o}

/-- The lock is refused, or its release throws, or the body decides. -/
theorem withLock_run (body : KeyringEffect Unit) (w : KeyringWorld) :
    (withLock o body).run w = match o.acquire with
      | .error e => (.error e, w)
      | .ok () => match o.release with
        | .error e => (.error e, (body.run w).2)
        | .ok () => body.run w := by
  unfold withLock
  rw [Effect.run_bind, Effect.run_ofExcept]
  cases o.acquire with
  | error e => rfl
  | ok u =>
    rw [Effect.next_ok, Effect.run_bind, Effect.run_tryCatch, Effect.run_bind]
    rcases body.run w with ⟨e | u, w'⟩
    · rw [Effect.next_error, Effect.handle_error, Effect.run_pure, Effect.next_ok, Effect.run_bind,
        Effect.run_ofExcept]
      cases o.release with
      | error e' => rfl
      | ok u => rfl
    · rw [Effect.next_ok, Effect.run_pure, Effect.handle_ok, Effect.next_ok, Effect.run_bind,
        Effect.run_ofExcept]
      cases o.release with
      | error e' => rfl
      | ok u => rfl

/-- `load` reads. -/
theorem load_run (w : KeyringWorld) :
    (load crypto).run w = ((load crypto).outcome w, w) := by
  rcases @load_cases crypto w with ⟨state, -, hrun⟩ | ⟨e, hrun⟩
  · rw [Effect.outcome, hrun]
  · rw [Effect.outcome, hrun]

/-- What `load` returned is described by `Loads`. -/
theorem loads_of_load {w : KeyringWorld} {state : PersistedKeyringV2}
    (h : (load crypto).outcome w = .ok state) : w.Loads crypto state := by
  rcases @load_cases crypto w with ⟨state', hloads, hrun⟩ | ⟨e, hrun⟩
  · rw [Effect.outcome, hrun] at h
    cases h
    exact hloads
  · rw [Effect.outcome, hrun] at h
    cases h

/-- The body of an update throws while it reads, in its change, in the check of the changed state
or in the write. -/
theorem updateBodyOn_run (mutate : PersistedKeyringV2 → Except Thrown PersistedKeyringV2)
    (w : KeyringWorld) :
    (updateBodyOn crypto o mutate).run w = match o.read with
      | .error e => (.error e, w)
      | .ok () => match (load crypto).outcome w with
        | .error e => (.error e, w)
        | .ok latest => match mutate latest with
          | .error e => (.error e, w.withObject latest latest)
          | .ok next =>
            match validateState crypto w.keyring.currentHostId w.keyring.identities next with
            | .error e => (.error e, w.withObject next latest)
            | .ok () =>
              if latest = next then (.ok (), w.withObject latest latest)
              else (persistOn o.write).run (w.withObject next latest) := by
  unfold updateBodyOn loadOn
  rw [Effect.run_bind, Effect.run_bind, Effect.run_ofExcept]
  cases o.read with
  | error e => rfl
  | ok u =>
    rw [Effect.next_ok, load_run]
    cases (load crypto).outcome w with
    | error e => rfl
    | ok latest =>
      rw [Effect.next_ok, Effect.run_bind]
      show (_ >>= _ : KeyringEffect Unit).run (w.withObject latest latest) = _
      rw [Effect.run_bind, Effect.run_ofExcept]
      dsimp only
      cases mutate latest with
      | error e => rfl
      | ok next =>
        rw [Effect.next_ok, Effect.run_bind, Effect.run_modify, Effect.next_ok, Effect.run_bind,
          Effect.run_get, Effect.next_ok, Effect.run_bind, Effect.run_ofExcept]
        show Effect.next _
          (validateState crypto w.keyring.currentHostId w.keyring.identities next,
            w.withObject next latest) = _
        dsimp only
        cases validateState crypto w.keyring.currentHostId w.keyring.identities next with
        | error e => rfl
        | ok u =>
          rw [Effect.next_ok]
          dsimp only
          by_cases hsame : latest = next
          · subst hsame
            rw [if_neg (fun h => h rfl), if_pos rfl]
            rfl
          · rw [if_pos hsame, if_neg hsame]

/-- A revocation throws in the write only, after it changed the object. -/
theorem mapPinsOn_run (f : ActiveLinkPinV2 → ActiveLinkPinV2) (w : KeyringWorld) :
    (mapPinsOn o f).run w = if w.keyring.pins.map f = w.keyring.pins then (.ok (), w)
      else (persistOn o.write).run
        (w.withObject ⟨w.keyring.pins.map f, w.keyring.pendingActivations⟩ w.persistedState) := by
  unfold mapPinsOn
  rw [Effect.run_bind, Effect.run_get, Effect.next_ok, Effect.run_bind]
  show (ite _ _ _ : KeyringEffect Unit).run
    { w with keyring := { w.keyring with pins := w.keyring.pins.map f } } = _
  by_cases hsame : w.keyring.pins.map f = w.keyring.pins
  · rw [if_neg (fun h => h hsame), if_pos hsame, hsame]
    rfl
  · rw [if_pos hsame, if_neg hsame]
    rfl

/-- The recipients are found in the object, or the object takes over the file and they are looked
for once more. -/
theorem findRecipientsOn_run (snapshot : E2ERecipientSnapshotV1) (w : KeyringWorld) :
    (findRecipientsOn crypto o snapshot).run w =
      match snapshot.recipients.mapM (materialForRecipient crypto w.keyring) with
      | .ok _ => (.ok false, w)
      | .error error => match o.refresh with
        | .error e => (.error e, w)
        | .ok () => match (load crypto).outcome w with
          | .error e => (.error e, w)
          | .ok latest =>
            match snapshot.recipients.mapM
              (materialForRecipient crypto (w.keyring.withState latest)) with
            | .ok _ => (.ok true, w.withObject latest latest)
            | .error _ => (.error error, w.withObject latest latest) := by
  unfold findRecipientsOn refreshPersistedOn loadOn recipientMaterials
  rw [Effect.run_tryCatch, Effect.run_bind, Effect.run_bind, Effect.run_get, Effect.next_ok,
    Effect.run_ofExcept]
  cases snapshot.recipients.mapM (materialForRecipient crypto w.keyring) with
  | ok materials => rfl
  | error error =>
    rw [Effect.next_error, Effect.handle_error, Effect.run_bind, Effect.run_bind, Effect.run_bind,
      Effect.run_ofExcept]
    cases o.refresh with
    | error e => rfl
    | ok u =>
      rw [Effect.next_ok, load_run]
      cases (load crypto).outcome w with
      | error e => rfl
      | ok latest =>
        show (tryCatch _ _ : KeyringEffect Bool).run (w.withObject latest latest) = _
        rw [Effect.run_tryCatch, Effect.run_bind, Effect.run_bind, Effect.run_get, Effect.next_ok,
          Effect.run_ofExcept]
        dsimp only
        show Effect.handle _ (Effect.next _ (snapshot.recipients.mapM
          (materialForRecipient crypto (w.keyring.withState latest)), w.withObject latest latest))
            = _
        cases snapshot.recipients.mapM
          (materialForRecipient crypto (w.keyring.withState latest)) with
        | ok materials => rfl
        | error e => rfl

/-- The second half of a reconciliation writes what was reconciled when the file is what the object
last read or wrote, and else starts over from the file. -/
theorem reconciledBodyOn_run (snapshot : E2ERecipientSnapshotV1) (known : List PinKey)
    (reconciled : List ActiveLinkPinV2) (w : KeyringWorld) :
    (reconciledBodyOn crypto o snapshot known reconciled).run w = match o.read with
      | .error e => (.error e, w)
      | .ok () => match (load crypto).outcome w with
        | .error e => (.error e, w)
        | .ok latest =>
          if latest = w.persistedState then
            (persistOn o.write).run
              (w.withObject ⟨reconciled, w.keyring.pendingActivations⟩ w.persistedState)
          else match snapshot.recipients.mapM
              (materialForRecipient crypto (w.keyring.withState latest)) with
            | .error e => (.error e, w.withObject latest latest)
            | .ok _ => match reconciledPins snapshot (some known) latest.pins with
              | .error e => (.error e, w.withObject latest latest)
              | .ok pins =>
                (persistOn o.write).run
                  (w.withObject ⟨pins, latest.pendingActivations⟩ latest) := by
  unfold reconciledBodyOn loadOn recipientMaterials
  rw [Effect.run_bind, Effect.run_bind, Effect.run_ofExcept]
  cases o.read with
  | error e => rfl
  | ok u =>
    rw [Effect.next_ok, load_run]
    cases (load crypto).outcome w with
    | error e => rfl
    | ok latest =>
      rw [Effect.next_ok, Effect.run_bind, Effect.run_get, Effect.next_ok]
      dsimp only
      by_cases hsame : latest = w.persistedState
      · rw [if_neg (fun h => h hsame), if_pos hsame]
        rfl
      · rw [if_pos hsame, if_neg hsame]
        show Effect.next _ (snapshot.recipients.mapM
          (materialForRecipient crypto (w.keyring.withState latest)), w.withObject latest latest)
            = _
        cases snapshot.recipients.mapM
          (materialForRecipient crypto (w.keyring.withState latest)) with
        | error e => rfl
        | ok materials =>
          rw [Effect.next_ok, Effect.run_bind, Effect.run_ofExcept]
          dsimp only
          cases reconciledPins snapshot (some known) latest.pins with
          | error e => rfl
          | ok pins => rfl

/-- A body without faults under a free lock. -/
theorem withLock_fine (body : KeyringEffect Unit) : withLock .fine body = body :=
  Effect.ext fun w => withLock_run body w

/-- An update without faults. -/
theorem performUpdateOn_fine (update : KeyringUpdate) :
    performUpdateOn crypto .fine update = performUpdate crypto update := by
  have hbody : updatePersistedOn crypto .fine (changed update)
      = updatePersisted crypto (changed update) := withLock_fine _
  unfold performUpdateOn
  rw [hbody]
  refine Effect.ext fun w => ?_
  rw [Effect.run_bind, Effect.run_get, Effect.next_ok]
  cases update with
  | persistActive pin now =>
    show (Effect.ofExcept (_ >>= _) >>= _ : KeyringEffect Unit).run w
      = (persistActive crypto pin now).run w
    unfold persistActive
    rw [Effect.run_bind, Effect.run_bind, Effect.run_get, Effect.next_ok, Effect.run_bind,
      Effect.run_ofExcept, Effect.run_ofExcept]
    cases assertValidPin crypto w.keyring.currentHostId w.keyring.identities pin with
    | error e => rfl
    | ok u => rfl
  | stageActivation pending => rfl
  | revokeWatchGeneration watchDeviceId linkGeneration => rfl

/-- Without a fault, a call is the method of `KeyringUpdates`. -/
theorem callOn_fine (call : KeyringCall) :
    callOn crypto .fine call = perform crypto call.action := by
  cases call with
  | update change => exact performUpdateOn_fine change
  | revokeWatch watchDeviceId => rfl
  | revokeCompromisedEncryptionKey keyId => rfl
  | reconcileRecipients snapshot =>
    have hpersist : persistReconciledOn crypto .fine snapshot
        = persistReconciled crypto snapshot := by
      funext known reconciled
      exact withLock_fine _
    show reconcileRecipientsOn crypto .fine snapshot = reconcileRecipients crypto snapshot
    unfold reconcileRecipientsOn
    rw [hpersist]
    rfl

end

end LocalLinkKeyring

end Ariava.E2e
