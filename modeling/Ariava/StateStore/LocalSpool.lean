import Ariava.Protocol.Uploads
import Ariava.StateStore.State

/-!
# `Ariava.StateStore.LocalSpool`: the items of the encrypted spool

The items of `LocalEncryptedSpool`. Each item is sealed under the key of the spool, and an
item that does not open is dropped when the Bridge starts, so an item is modelled with its
plaintext. The Host of an item is the Host of the spool, as `validItem` checks.

`SpoolPlaintext` says what a plaintext decodes to: bytes that are not UTF-8, text that is
not JSON, or the JSON value of one of the records that the Bridge seals. `other` is any
other JSON value. Two texts of one JSON value are one plaintext here.

`enqueueItem` and `replaceItems` are what `enqueue` and `replace` do to the list of items;
their writes are in `Ariava.StateStore.Store`.
-/

set_option autoImplicit false

namespace Ariava.StateStore

open Ariava.Protocol

/-- `LocalSpoolPayloadKind`. -/
inductive LocalSpoolPayloadKind
  | eventSourceV3
  | eventReservationV3
  | eventDeadLetterV3
  | sessionSourceV3
  | eventUploadV3
  | sessionUploadV3
  | terminalCancellationV3
deriving DecidableEq

/-- The `producerFingerprint` of a pending tuple: absent, a text, or any other value. -/
inductive ProducerFingerprint
  | absent
  | text (fingerprint : String)
  | notText
deriving DecidableEq

/-- `EventDeadLetterReasonCode`. -/
inductive EventDeadLetterReasonCode
  | protectedContentInvalid
  | eventSessionBindingInvalid
  | sourceUtf8Invalid
  | sourceJsonInvalid
  | relayPermanentConflict
deriving DecidableEq

/-- `EventDeadLetterRecordV2` without its archives. -/
structure EventDeadLetterHeader where
  eventId : String
  sessionId : String
  reasonCode : EventDeadLetterReasonCode
  quarantinedAt : String
deriving DecidableEq

/-- What the plaintext of an item decodes to. The archives of a dead letter are the
plaintexts that it encodes in base64url. -/
inductive SpoolPlaintext
  | notUtf8 (bytes : List UInt8)
  | notJson (text : String)
  | pendingEvent (event : CanonicalEvent) (session : CanonicalSessionState)
      (producerFingerprint : ProducerFingerprint)
  | eventUpload (sourceDigest : Option String) (upload : E2EEventAndSessionUploadV3)
  | sessionUpload (sourceDigest : Option String) (upload : EncryptedSessionSnapshotUploadV3)
  | terminalCancellation (cancellation : PersistedTerminalCancellationV1)
  | eventDeadLetter (header : EventDeadLetterHeader) (sourceArchive : SpoolPlaintext)
  | eventDeadLetterWithInflight (header : EventDeadLetterHeader)
      (sourceArchive inflightArchive : SpoolPlaintext)
  | other (json : String)
deriving DecidableEq

/-- `LocalEncryptedPendingPayloadV1`, opened. -/
structure SpoolItem where
  spoolItemId : String
  sessionId : String
  eventId : Option String
  payloadKind : LocalSpoolPayloadKind
  createdAt : String
  plaintext : SpoolPlaintext
deriving DecidableEq

/-- `terminalCancellationItemId`. -/
def terminalCancellationItemId (eventId : String) : String := "cancel:terminal:" ++ eventId

/-- The item id of an event's upload in flight. -/
def inflightEventItemId (eventId : String) : String := "inflight:event:" ++ eventId

/-- The item id of a Session's upload in flight. -/
def inflightSessionItemId (sessionId : String) : String := "inflight:session:" ++ sessionId

/-- The item id of an event's dead letter. -/
def deadLetterItemId (eventId : String) : String := "dead-letter:event:" ++ eventId

/-- `get`. -/
def spoolGet (items : List SpoolItem) (spoolItemId : String) : Option SpoolItem :=
  items.find? fun item => decide (item.spoolItemId = spoolItemId)

/-- `list`, for one kind. -/
def spoolList (items : List SpoolItem) (kind : LocalSpoolPayloadKind) : List SpoolItem :=
  items.filter fun item => decide (item.payloadKind = kind)

/-- An item as `enqueue` and `replace` build it: an empty event id is left out. -/
def sealedItem (item : SpoolItem) : SpoolItem :=
  { item with eventId := item.eventId.filter fun eventId => decide (eventId ≠ "") }

/-- The conflict test of `enqueue` against an item of the same id. -/
def sameItemBinding (existing input : SpoolItem) : Bool :=
  decide (existing.sessionId = input.sessionId) && decide (existing.eventId = input.eventId)
    && decide (existing.payloadKind = input.payloadKind)

/-- The items that `replace` keeps. -/
def withoutItems (items : List SpoolItem) (removeIds : List String) : List SpoolItem :=
  items.filter fun item => decide (item.spoolItemId ∉ removeIds)

/-- The items after `replace`, which refuses an addition whose id is taken. -/
def addItems : List SpoolItem → List SpoolItem → Except Thrown (List SpoolItem)
  | items, [] => .ok items
  | items, input :: rest =>
      if (spoolGet items input.spoolItemId).isSome then
        .error (.typeError "local spool item ID conflict")
      else addItems (items ++ [sealedItem input]) rest

/-- What `replace` writes. -/
def replaceItems (items : List SpoolItem) (removeIds : List String)
    (additions : List SpoolItem) : Except Thrown (List SpoolItem) :=
  addItems (withoutItems items removeIds) additions

/-! ### Lemmas of the list operations -/

section
variable {items : List SpoolItem} {spoolItemId : String}

theorem spoolGet_some {item : SpoolItem} (h : spoolGet items spoolItemId = some item) :
    item ∈ items ∧ item.spoolItemId = spoolItemId :=
  ⟨List.mem_of_find?_eq_some h, by simpa using List.find?_some h⟩

theorem spoolGet_none : spoolGet items spoolItemId = none ↔
    ∀ item ∈ items, item.spoolItemId ≠ spoolItemId := by
  simp [spoolGet]

theorem mem_withoutItems {removeIds : List String} {item : SpoolItem} :
    item ∈ withoutItems items removeIds ↔ item ∈ items ∧ item.spoolItemId ∉ removeIds := by
  simp [withoutItems]

/-- A removed id is free. -/
theorem spoolGet_withoutItems_of_mem {removeIds : List String} (h : spoolItemId ∈ removeIds) :
    spoolGet (withoutItems items removeIds) spoolItemId = none := by
  rw [spoolGet_none]
  intro item hitem hid
  exact (mem_withoutItems.mp hitem).2 (hid ▸ h)

/-- The other ids are read as before. -/
theorem spoolGet_withoutItems_of_not_mem {removeIds : List String}
    (h : spoolItemId ∉ removeIds) :
    spoolGet (withoutItems items removeIds) spoolItemId = spoolGet items spoolItemId := by
  rw [spoolGet, spoolGet, withoutItems, List.find?_filter]
  refine congrFun (congrArg List.find? (funext fun item => ?_)) items
  by_cases hid : item.spoolItemId = spoolItemId
  · simp [hid, h]
  · simp [hid]

/-- What is found after a removal was there before. -/
theorem spoolGet_of_withoutItems {removeIds : List String} {item : SpoolItem}
    (h : spoolGet (withoutItems items removeIds) spoolItemId = some item) :
    spoolGet items spoolItemId = some item := by
  by_cases hid : spoolItemId ∈ removeIds
  · rw [spoolGet_withoutItems_of_mem hid] at h
    cases h
  · rwa [spoolGet_withoutItems_of_not_mem hid] at h

theorem spoolGet_append_single (item : SpoolItem) :
    spoolGet (items ++ [item]) spoolItemId
      = (spoolGet items spoolItemId).or
        (if item.spoolItemId = spoolItemId then some item else none) := by
  rw [spoolGet, List.find?_append, List.find?_singleton]
  simp only [decide_eq_true_eq]
  rfl

/-- An item that replaces the one of its own id. -/
theorem replaceItems_single {item : SpoolItem} {items' : List SpoolItem}
    (h : replaceItems items [item.spoolItemId] [item] = .ok items') :
    items' = withoutItems items [item.spoolItemId] ++ [sealedItem item] := by
  have hfree : spoolGet (withoutItems items [item.spoolItemId]) item.spoolItemId = none :=
    spoolGet_withoutItems_of_mem (List.mem_singleton_self _)
  rw [replaceItems, addItems, hfree] at h
  cases h
  rfl

theorem spoolGet_replaceItems_single {item : SpoolItem} {items' : List SpoolItem}
    (h : replaceItems items [item.spoolItemId] [item] = .ok items') :
    spoolGet items' item.spoolItemId = some (sealedItem item) := by
  have hfree : spoolGet (withoutItems items [item.spoolItemId]) item.spoolItemId = none :=
    spoolGet_withoutItems_of_mem (List.mem_singleton_self _)
  rw [replaceItems_single h, spoolGet_append_single, hfree]
  exact if_pos rfl

end

end Ariava.StateStore
