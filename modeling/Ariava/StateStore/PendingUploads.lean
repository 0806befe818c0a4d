import Ariava.StateStore.DurableWrites

/-!
# `Ariava.StateStore.PendingUploads`: the records of a pending event

The methods of `state-store.ts` for the two records that the spool has of a pending event: its
source and its upload in flight. The source goes out of the spool when the upload is complete, or
into a dead letter. A dead letter takes both records with it in one write
(`quarantinePendingEventRaw`), and it asks for the inflight that was proven uncommitted.

- `loadPendingEventParts_ok`: the inflight that is loaded is the one of the spool, and it is bound
  to the descriptor.
-/

set_option autoImplicit false

namespace Ariava.StateStore

open Ariava.Lib
open Ariava.Protocol

/-! ### Loading -/

/-- `InflightLoadFailure`. -/
inductive InflightLoadFailure
  | utf8Invalid
  | jsonInvalid
  | shapeInvalid
deriving DecidableEq

/-- `LoadedEventInflight`. A legacy record has no digest. -/
structure LoadedEventInflight where
  raw : SpoolPlaintext
  sourceDigest : Option String
  upload : E2EEventAndSessionUploadV3
deriving DecidableEq

/-- `uploadMatchesDescriptor`. -/
def uploadMatchesDescriptor (upload : E2EEventAndSessionUploadV3)
    (descriptor : PendingEventDescriptor) : Bool :=
  decide (upload.event.eventId = descriptor.eventId)
    && decide (upload.session.sessionId = descriptor.sessionId)
    && decide (upload.event.sessionId = upload.session.sessionId)
    && decide (upload.event.hostId = upload.session.hostId)
    && decide (upload.event.provider = upload.session.provider)
    && decide (upload.event.type.status = upload.session.status)
    && decide (upload.session.lastEventId = some upload.event.eventId)

/-- The inflight part of `loadPendingEventParts`. -/
def loadInflight (descriptor : PendingEventDescriptor) (raw : SpoolPlaintext) :
    Except InflightLoadFailure LoadedEventInflight :=
  match raw with
  | .notUtf8 _ => .error .utf8Invalid
  | .notJson _ => .error .jsonInvalid
  | .eventUpload sourceDigest upload =>
      if isEncryptedEventUploadShape upload && sourceDigest.all isVerifier
          && uploadMatchesDescriptor upload descriptor then .ok ⟨raw, sourceDigest, upload⟩
      else .error .shapeInvalid
  | _ => .error .shapeInvalid

/-- `LoadPendingEventPartsResult`, of an inflight that loads or is missing. -/
structure PendingEventParts where
  source : Except PendingSourceFailure PendingEventSource
  inflight : Option LoadedEventInflight

/-- `loadPendingEventParts`. An inflight that does not load is the answer whatever the source
is. -/
def loadPendingEventParts (text : ProtocolText) (items : List SpoolItem)
    (descriptor : PendingEventDescriptor) : Except InflightLoadFailure PendingEventParts :=
  let source := openPendingEventSource text items descriptor
  match spoolGet items (inflightEventItemId descriptor.eventId) with
  | none => .ok ⟨source, none⟩
  | some item => do
      let inflight ← loadInflight descriptor item.plaintext
      return ⟨source, some inflight⟩

/-! What was loaded -/

section
variable {text : ProtocolText} {items : List SpoolItem} {descriptor : PendingEventDescriptor}

theorem loadInflight_ok {raw : SpoolPlaintext} {inflight : LoadedEventInflight}
    (h : loadInflight descriptor raw = .ok inflight) :
    raw = inflight.raw ∧ raw = .eventUpload inflight.sourceDigest inflight.upload ∧
      uploadMatchesDescriptor inflight.upload descriptor = true := by
  unfold loadInflight at h
  split at h
  · cases h
  · cases h
  · split at h
    · next hchecks =>
      rw [Bool.and_eq_true] at hchecks
      cases h
      exact ⟨rfl, rfl, hchecks.2⟩
    · cases h
  · cases h

/-- The inflight is the one of the spool. -/
def IsLoaded (items : List SpoolItem) (descriptor : PendingEventDescriptor) :
    Option LoadedEventInflight → Prop
  | none => spoolGet items (inflightEventItemId descriptor.eventId) = none
  | some inflight => ∃ item,
      spoolGet items (inflightEventItemId descriptor.eventId) = some item ∧
      item.plaintext = inflight.raw ∧
      item.plaintext = .eventUpload inflight.sourceDigest inflight.upload ∧
      uploadMatchesDescriptor inflight.upload descriptor = true

theorem loadPendingEventParts_ok {parts : PendingEventParts}
    (h : loadPendingEventParts text items descriptor = .ok parts) :
    parts.source = openPendingEventSource text items descriptor ∧
      IsLoaded items descriptor parts.inflight := by
  unfold loadPendingEventParts at h
  dsimp only at h
  cases hitem : spoolGet items (inflightEventItemId descriptor.eventId) with
  | none =>
    rw [hitem] at h
    cases h
    exact ⟨rfl, hitem⟩
  | some item =>
    rw [hitem] at h
    cases hinflight : loadInflight descriptor item.plaintext with
    | error failure =>
      simp only [hinflight] at h
      cases h
    | ok inflight =>
      simp only [hinflight] at h
      cases h
      exact ⟨rfl, item, hitem, loadInflight_ok hinflight⟩

end

/-! ### The upload in flight -/

/-- The item of an upload in flight. `withSourceDigestWrapper` leaves out what is not a digest. -/
def inflightEventItem (eventId sessionId : String) (upload : E2EEventAndSessionUploadV3)
    (sourceDigest createdAt : String) : SpoolItem where
  spoolItemId := inflightEventItemId eventId
  sessionId := sessionId
  eventId := some eventId
  payloadKind := .eventUploadV3
  createdAt := createdAt
  plaintext := .eventUpload (if isVerifier sourceDigest then some sourceDigest else none) upload

/-- `persistInflightEventUpload`. -/
def persistInflightEventUpload (eventId sessionId : String) (upload : E2EEventAndSessionUploadV3)
    (sourceDigest createdAt : String) : StoreEffect Unit := do
  let _ ← enqueue (inflightEventItem eventId sessionId upload sourceDigest createdAt)

/-- `replaceInflightEventUpload`. -/
def replaceInflightEventUpload (eventId sessionId : String) (upload : E2EEventAndSessionUploadV3)
    (sourceDigest createdAt : String) : StoreEffect Unit :=
  replace [inflightEventItemId eventId]
    [inflightEventItem eventId sessionId upload sourceDigest createdAt]

/-- `openInflightEventRaw`. -/
def openInflightEventRaw (items : List SpoolItem) (eventId : String) : Option SpoolPlaintext :=
  (spoolGet items (inflightEventItemId eventId)).map SpoolItem.plaintext

/-! ### The quarantine -/

/-- The record of a dead letter. -/
def deadLetterRecord (header : EventDeadLetterHeader) (source : SpoolPlaintext) :
    Option SpoolPlaintext → SpoolPlaintext
  | none => .eventDeadLetter header source
  | some inflight => .eventDeadLetterWithInflight header source inflight

/-- The item of a dead letter. -/
def deadLetterItem (descriptor : PendingEventDescriptor) (reasonCode : EventDeadLetterReasonCode)
    (quarantinedAt : String) (source : SpoolPlaintext) (inflight : Option SpoolPlaintext) :
    SpoolItem where
  spoolItemId := deadLetterItemId descriptor.eventId
  sessionId := descriptor.sessionId
  eventId := some descriptor.eventId
  payloadKind := .eventDeadLetterV3
  createdAt := quarantinedAt
  plaintext := deadLetterRecord
    ⟨descriptor.eventId, descriptor.sessionId, reasonCode, quarantinedAt⟩ source inflight

/-- The checks of `quarantinePendingEventRaw` on the inflight that the spool has now. -/
def assertProvenUncommitted (current proven : Option SpoolPlaintext) : Except Thrown Unit := do
  throwIf (current.isSome && proven.isNone)
    (.typeError "pending Event inflight must be proven uncommitted before quarantine")
  throwIf (current.isSome && decide (current ≠ proven))
    (.typeError "pending Event inflight evidence changed before quarantine")

/-- `quarantinePendingEventRaw`. -/
def quarantinePendingEventRaw (descriptor : PendingEventDescriptor)
    (reasonCode : EventDeadLetterReasonCode) (provenUncommittedInflight : Option SpoolPlaintext)
    (quarantinedAt : String) : StoreEffect Bool := do
  let s ← get
  match spoolGet s.items descriptor.eventId with
  | none => return false
  | some source => do
      Effect.ofExcept (assertProvenUncommitted
        (openInflightEventRaw s.items descriptor.eventId) provenUncommittedInflight)
      replace [descriptor.eventId, inflightEventItemId descriptor.eventId]
        [deadLetterItem descriptor reasonCode quarantinedAt source.plaintext
          provenUncommittedInflight]
      return true

end Ariava.StateStore
