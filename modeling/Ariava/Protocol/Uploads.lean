import Ariava.Protocol.Encryption
import Ariava.Protocol.Sessions
import Ariava.Protocol.Timestamp

/-!
# `Ariava.Protocol.Uploads`: encrypted Sessions and events for the Relay

`EncryptedSessionSnapshotUploadV3`, `EncryptedEventUploadV3` and the pair of the two, with
the shape checks that `state-store.ts` makes on an upload that it reads back. The type of
an encrypted event is its status too, as for a plaintext event.

The notification previews of an event are left out: no modelled function reads them.
-/

set_option autoImplicit false

namespace Ariava.Protocol

/-- `EncryptedSessionSnapshotUploadV3`. -/
structure EncryptedSessionSnapshotUploadV3 where
  hostId : String
  sessionId : String
  provider : String
  status : SessionStatus
  updatedAt : String
  lastEventId : Option String
  snoozedUntil : Option String
  revision : Nat
  recipientSetVersion : Nat
  content : EncryptedContentV1
  keyWraps : List RecipientKeyWrapV1
deriving DecidableEq

/-- The `type` of an encrypted event. -/
inductive EventType
  | done
  | needHuman
deriving DecidableEq

/-- The status that goes with the type of an event. -/
def EventType.status : EventType → SessionStatus
  | done => .idle
  | needHuman => .needHuman

/-- The `type` of a plaintext event. -/
def EventKind.type : EventKind → EventType
  | .done => .done
  | .needHuman _ => .needHuman

/-- `EncryptedEventUploadV3`. -/
structure EncryptedEventUploadV3 where
  eventId : String
  hostId : String
  sessionId : String
  provider : String
  type : EventType
  createdAt : String
  recipientSetVersion : Nat
  content : EncryptedContentV1
  keyWraps : List RecipientKeyWrapV1
deriving DecidableEq

/-- `E2EEventAndSessionUploadV3`. -/
structure E2EEventAndSessionUploadV3 where
  event : EncryptedEventUploadV3
  session : EncryptedSessionSnapshotUploadV3
deriving DecidableEq

/-- An optional timestamp is absent or canonical. -/
def isOptionalTimestamp : Option String → Bool
  | none => true
  | some s => isCanonicalTimestampText s

/-- `isEncryptedSessionUploadShape`. -/
def isEncryptedSessionUploadShape (upload : EncryptedSessionSnapshotUploadV3) : Bool :=
  isCanonicalTimestampText upload.updatedAt && decide (upload.lastEventId ≠ some "")
    && isOptionalTimestamp upload.snoozedUntil && isPositiveSafeInteger upload.revision
    && isPositiveSafeInteger upload.recipientSetVersion
    && validateEncryptedContentV1 upload.content
    && decide (upload.content.payloadKind = .sessionContentV3)
    && upload.keyWraps.all validateRecipientKeyWrapV1

/-- `isEncryptedEventUploadShape`. -/
def isEncryptedEventUploadShape (upload : E2EEventAndSessionUploadV3) : Bool :=
  isCanonicalTimestampText upload.event.createdAt
    && isPositiveSafeInteger upload.event.recipientSetVersion
    && validateEncryptedContentV1 upload.event.content
    && decide (upload.event.content.payloadKind = .eventContentV3)
    && upload.event.keyWraps.all validateRecipientKeyWrapV1
    && isEncryptedSessionUploadShape upload.session

end Ariava.Protocol
