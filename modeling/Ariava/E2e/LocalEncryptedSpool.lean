import Ariava.Lib.Effect
import Ariava.Protocol.WireText
import Ariava.StateStore.LocalSpool

/-!
# `Ariava.E2e.LocalEncryptedSpool`: the encrypted spool and its file

`LocalEncryptedSpool` of `local-spool.ts`, with its sealed items. `Ariava.StateStore.LocalSpool`
sees the same list opened. The cipher and the key store are parameters, and a call meets a
`SpoolRuntime`: whether it has access, what the key store returns, and what becomes of its
write. A failed write leaves the file as it was, or replaces it and reports an error after
that; `persist` reads the file back to find out which.

The nonce and the ciphertext of an item are their bytes. A file whose JSON is not of this
form is `malformed`, with the error that reading it throws.
-/

set_option autoImplicit false

namespace Ariava.E2e

open Ariava.Lib
open Ariava.Protocol
open Ariava.StateStore (LocalSpoolPayloadKind)

/-! ### The cipher and the file -/

/-- The wire text of a payload kind. -/
def payloadKindText : LocalSpoolPayloadKind → String
  | .eventSourceV3 => "event-source-v3"
  | .eventReservationV3 => "event-reservation-v3"
  | .eventDeadLetterV3 => "event-dead-letter-v3"
  | .sessionSourceV3 => "session-source-v3"
  | .eventUploadV3 => "event-upload-v3"
  | .sessionUploadV3 => "session-upload-v3"
  | .terminalCancellationV3 => "terminal-cancellation-v3"

/-- The random nonce of `chachaPolySeal`. -/
structure SpoolNonce where
  bytes : List UInt8
  length_eq : bytes.length = 12
deriving DecidableEq

/-- The AEAD of the spool and the id of its key. A ciphertext has a tag of sixteen bytes. -/
structure SpoolCipher where
  /-- `spoolKeyIdForKey`. -/
  keyIdForKey : List UInt8 → String
  /-- `chachaPolySeal`, with the nonce that it draws. -/
  chachaPolySeal : (key plaintext additionalData : List UInt8) → SpoolNonce → List UInt8
  /-- `chachaPolyOpen`, which throws when the text is not authentic. -/
  chachaPolyOpen : (key nonce ciphertext additionalData : List UInt8) → Option (List UInt8)
  length_chachaPolySeal : ∀ key plaintext additionalData nonce,
    (chachaPolySeal key plaintext additionalData nonce).length = plaintext.length + 16

/-- `LocalEncryptedPendingPayloadV1`. -/
structure EncryptedSpoolItem where
  version : Nat
  spoolItemId : String
  hostId : String
  sessionId : String
  eventId : Option String
  payloadKind : LocalSpoolPayloadKind
  nonce : List UInt8
  ciphertext : List UInt8
  aadVersion : Nat
  createdAt : String
deriving DecidableEq

/-- The input of `enqueue`, and of an addition in `replace`. -/
structure SpoolInput where
  spoolItemId : String
  sessionId : String
  eventId : Option String
  payloadKind : LocalSpoolPayloadKind
  createdAt : String
  plaintext : List UInt8
  nonce : SpoolNonce
deriving DecidableEq

/-- `spoolAAD`. -/
def spoolAAD (item : EncryptedSpoolItem) : List UInt8 :=
  encodeLengthPrefixedFields ["ariava-local-spool-v1", item.spoolItemId, item.hostId,
    item.sessionId, item.eventId.getD "", payloadKindText item.payloadKind,
    decimalText item.aadVersion, item.createdAt]

/-- `validItem`. -/
def validItem (hostId : String) (item : EncryptedSpoolItem) : Bool :=
  decide (item.version = 1) && decide (item.hostId = hostId) && decide (item.aadVersion = 1)
    && decide (item.nonce.length = 12) && decide (16 ≤ item.ciphertext.length)

/-- `LocalSpoolFileV2`. -/
structure LocalSpoolFileV2 where
  version : Nat
  runtimeStateSchemaVersion : Nat
  runtimeResetEpoch : String
  hostId : String
  keyId : String
  items : List EncryptedSpoolItem
deriving DecidableEq

/-- What is at the path of the spool. -/
inductive SpoolFile
  | absent
  | malformed (thrown : Thrown)
  | record (file : LocalSpoolFileV2)
deriving DecidableEq

/-- `LocalSpoolRecoveryRequiredError`. -/
def recoveryRequired (message : String) : Thrown := ⟨.spoolRecoveryRequired, message⟩

/-! ### The calls -/

/-- The arguments of the constructor. -/
structure SpoolSettings where
  hostId : String
  runtimeStateSchemaVersion : Nat
  runtimeResetEpoch : String

/-- What becomes of a write: the file is replaced; it is not; or it is, and an error is
reported all the same. -/
inductive SpoolWrite
  | written
  | failed (thrown : Thrown)
  | replaced (thrown : Thrown)

/-- What a call meets: `assertAccess`, `loadOrCreate` by its `allowCreate`, and the write. -/
structure SpoolRuntime where
  access : Except Thrown Unit
  loadOrCreate : Bool → Except Thrown (List UInt8)
  write : SpoolWrite

/-- The fields of a `LocalEncryptedSpool` and its file. -/
structure EncryptedSpool where
  items : List EncryptedSpoolItem
  keyId : Option String
  hasPersistedItems : Bool
  file : SpoolFile

/-- The result of `load`. -/
structure LoadedSpool where
  items : List EncryptedSpoolItem
  keyId : Option String
deriving DecidableEq

/-- A method of the spool. -/
abbrev SpoolEffect (α : Type) : Type := Effect Thrown EncryptedSpool α

/-- `load`, after its check of the access. -/
def SpoolSettings.read (settings : SpoolSettings) : SpoolFile → Except Thrown LoadedSpool
  | .absent => .ok ⟨[], none⟩
  | .malformed thrown => .error thrown
  | .record file => do
      throwIf (decide (file.version ≠ 2)
          || decide (file.runtimeStateSchemaVersion ≠ settings.runtimeStateSchemaVersion)
          || decide (file.runtimeResetEpoch ≠ settings.runtimeResetEpoch)
          || decide (file.hostId ≠ settings.hostId)
          || file.items.any fun item => !validItem settings.hostId item)
        (recoveryRequired "local spool metadata is invalid; recovery is required")
      return ⟨file.items, some file.keyId⟩

/-- The file that `persist` writes. -/
def SpoolSettings.target (settings : SpoolSettings) (keyId : String)
    (items : List EncryptedSpoolItem) : LocalSpoolFileV2 where
  version := 2
  runtimeStateSchemaVersion := settings.runtimeStateSchemaVersion
  runtimeResetEpoch := settings.runtimeResetEpoch
  hostId := settings.hostId
  keyId := keyId
  items := items

/-- The item of an input, sealed under a key. An empty event id is left out. -/
def sealInput (settings : SpoolSettings) (cipher : SpoolCipher) (key : List UInt8)
    (input : SpoolInput) : EncryptedSpoolItem :=
  let metadata : EncryptedSpoolItem :=
    { version := 1
      spoolItemId := input.spoolItemId
      hostId := settings.hostId
      sessionId := input.sessionId
      eventId := input.eventId.filter fun eventId => decide (eventId ≠ "")
      payloadKind := input.payloadKind
      nonce := []
      ciphertext := []
      aadVersion := 1
      createdAt := input.createdAt }
  { metadata with
    nonce := input.nonce.bytes
    ciphertext := cipher.chachaPolySeal key input.plaintext (spoolAAD metadata) input.nonce }

/-- `openWithKey`. -/
def openWithKey (cipher : SpoolCipher) (key : List UInt8) (item : EncryptedSpoolItem) :
    Option (List UInt8) :=
  cipher.chachaPolyOpen key item.nonce item.ciphertext (spoolAAD item)

/-- The loop of `replace` over its additions. -/
def addSealed (settings : SpoolSettings) (cipher : SpoolCipher) (key : List UInt8) :
    List EncryptedSpoolItem → List SpoolInput → Except Thrown (List EncryptedSpoolItem)
  | next, [] => .ok next
  | next, input :: rest =>
      if next.any fun item => decide (item.spoolItemId = input.spoolItemId) then
        .error (.typeError "local spool item ID conflict")
      else addSealed settings cipher key (next ++ [sealInput settings cipher key input]) rest

namespace EncryptedSpool

variable (settings : SpoolSettings) (cipher : SpoolCipher) (runtime : SpoolRuntime)

/-- `load`. -/
def load (file : SpoolFile) : Except Thrown LoadedSpool := do
  runtime.access
  settings.read file

/-- `loadVerifiedKey`. -/
def loadVerifiedKey : SpoolEffect (List UInt8) := do
  Effect.ofExcept runtime.access
  let s ← get
  match runtime.loadOrCreate (!s.hasPersistedItems) with
  | .error thrown =>
      if thrown.errorClass = .spoolRecoveryRequired then throw thrown
      else throw (recoveryRequired "local spool key is unavailable; recovery is required")
  | .ok key =>
      if s.keyId.any fun keyId => decide (keyId ≠ cipher.keyIdForKey key) then
        throw (recoveryRequired "local spool key does not match; recovery is required")
      else
        set { s with keyId := some (cipher.keyIdForKey key) }
        return key

/-- The handler of a write that reported an error: the file may be the target all the same. -/
def confirmTarget (target : LocalSpoolFileV2) (thrown : Thrown) : SpoolEffect Unit := do
  let s ← get
  match load settings runtime s.file with
  | .error _ => throw thrown
  | .ok persisted =>
      if persisted.keyId = some target.keyId ∧ persisted.items = target.items then return ()
      else throw thrown

/-- `persist`. -/
def persist (items : List EncryptedSpoolItem) : SpoolEffect Unit := do
  Effect.ofExcept runtime.access
  let s ← get
  match s.keyId with
  | none => throw (recoveryRequired "local spool key identity is unavailable; recovery is required")
  | some keyId =>
      let target := settings.target keyId items
      match runtime.write with
      | .written => set { s with file := .record target }
      | .failed thrown => confirmTarget settings runtime target thrown
      | .replaced thrown =>
          set { s with file := .record target }
          confirmTarget settings runtime target thrown

/-- `this.items = items`, after a write that may be the first one of items. -/
def setItems (items : List EncryptedSpoolItem) : SpoolEffect Unit :=
  modify fun s => { s with
    items := items
    hasPersistedItems := s.hasPersistedItems || decide (0 < items.length) }

/-- `enqueue`. -/
def enqueue (input : SpoolInput) : SpoolEffect EncryptedSpoolItem := do
  Effect.ofExcept runtime.access
  let s ← get
  match s.items.find? fun item => decide (item.spoolItemId = input.spoolItemId) with
  | some existing =>
      if existing.sessionId ≠ input.sessionId ∨ existing.eventId ≠ input.eventId
          ∨ existing.payloadKind ≠ input.payloadKind then
        throw (.typeError "local spool item ID conflict")
      else return existing
  | none =>
      let key ← loadVerifiedKey cipher runtime
      let item := sealInput settings cipher key input
      persist settings runtime (s.items ++ [item])
      setItems (s.items ++ [item])
      return item

/-- `replace`. -/
def replace (removeIds : List String) (additions : List SpoolInput) : SpoolEffect Unit := do
  Effect.ofExcept runtime.access
  let s ← get
  let kept := s.items.filter fun item => decide (item.spoolItemId ∉ removeIds)
  let key ← loadVerifiedKey cipher runtime
  let next ← Effect.ofExcept (addSealed settings cipher key kept additions)
  persist settings runtime next
  setItems next

/-- `recoverUnreadable`. -/
def recoverUnreadable : SpoolEffect Nat := do
  Effect.ofExcept runtime.access
  let key ← loadVerifiedKey cipher runtime
  let s ← get
  let readable := s.items.filter fun item => (openWithKey cipher key item).isSome
  if readable.length < s.items.length then
    persist settings runtime readable
    modify fun s => { s with items := readable }
  return s.items.length - readable.length

/-- The constructor: the fields of the object are what `load` gives. -/
def construct : SpoolEffect Unit := do
  let s ← get
  let loaded ← Effect.ofExcept (load settings runtime s.file)
  set (⟨loaded.items, loaded.keyId, loaded.keyId.isSome, s.file⟩ : EncryptedSpool)

end EncryptedSpool

/-- An operation on the spool. `construct` is the next process, which loads the file. -/
inductive SpoolOperation
  | enqueue (input : SpoolInput)
  | replace (removeIds : List String) (additions : List SpoolInput)
  | remove (spoolItemId : String)
  | removeMany (spoolItemIds : List String)
  | recoverUnreadable
  | construct

/-- The inputs that an operation seals. -/
def SpoolOperation.inputs : SpoolOperation → List SpoolInput
  | .enqueue input => [input]
  | .replace _ additions => additions
  | _ => []

/-- The program of an operation. -/
def SpoolOperation.program (settings : SpoolSettings) (cipher : SpoolCipher)
    (runtime : SpoolRuntime) : SpoolOperation → SpoolEffect Unit
  | .enqueue input => do
      let _ ← EncryptedSpool.enqueue settings cipher runtime input
      return ()
  | .replace removeIds additions => EncryptedSpool.replace settings cipher runtime removeIds additions
  | .remove spoolItemId => EncryptedSpool.replace settings cipher runtime [spoolItemId] []
  | .removeMany spoolItemIds => EncryptedSpool.replace settings cipher runtime spoolItemIds []
  | .recoverUnreadable => do
      let _ ← EncryptedSpool.recoverUnreadable settings cipher runtime
      return ()
  | .construct => EncryptedSpool.construct settings runtime

end Ariava.E2e
