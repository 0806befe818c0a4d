import Ariava.Protocol.AssociatedData
import Ariava.Protocol.Uploads
import Ariava.Protocol.WireText

/-!
# `Ariava.Protocol.ContentAssociatedData`: what binds the contents and the links

The rest of the builders of `encryption.ts` that use `encodeLengthPrefixedFields`: the
associated data of event, session, reply, interrupt and preview contents, the transcript of a
link, the confirmation proof and the input of the safety code. Each returns its field list;
`bindingBytes` encodes it.

`buildReplyContentAAD` checks its content id only, so the other fields of its input are plain
texts here, its timestamps included. The transcript, the proof and the safety code are not
checked at all.
-/

set_option autoImplicit false

namespace Ariava.Protocol

/-- The wire text of a session status. -/
def SessionStatus.text : SessionStatus → String
  | idle => "idle"
  | working => "working"
  | needHuman => "need_human"

/-- The wire text of an event type. -/
def EventType.text : EventType → String
  | done => "done"
  | needHuman => "need_human"

/-! ### Contents from the Bridge to a watch -/

/-- `EventContentAADInput`. -/
structure EventContentAADInput where
  hostId : String
  sessionId : String
  provider : String
  eventId : String
  type : EventType
  status : SessionStatus
  createdAt : CanonicalTimestamp
  contentId : String

/-- The checks of `buildEventContentAAD`. -/
def isEventContentAADInput (input : EventContentAADInput) : Bool :=
  decide (input.status = input.type.status) && isIdentifier input.hostId
    && isIdentifier input.sessionId && isIdentifier input.provider && isIdentifier input.eventId
    && isIdentifier input.contentId

/-- The fields of the associated data of an event content. -/
def eventContentAADFields (input : EventContentAADInput) : List BindingField :=
  [.text "ariava-event-content-aad-v3", .text "bridge-to-watch", .text input.hostId,
    .text input.sessionId, .text input.provider, .text input.eventId, .text input.type.text,
    .text input.status.text, .instant input.createdAt, .text input.contentId,
    .text "event-content-v3"]

/-- `buildEventContentAAD`. -/
def buildEventContentAAD (input : EventContentAADInput) : Except Thrown (List BindingField) := do
  throwIf (!isEventContentAADInput input) (.typeError "event content AAD input is invalid")
  return eventContentAADFields input

/-- `SessionContentAADInput`. -/
structure SessionContentAADInput where
  hostId : String
  sessionId : String
  provider : String
  status : SessionStatus
  updatedAt : CanonicalTimestamp
  lastEventId : Option String
  snoozedUntil : Option CanonicalTimestamp
  revision : Nat
  contentId : String

/-- `isCanonicalOptionalAADString`. -/
def isCanonicalOptionalAADString (value : Option String) : Bool := value.all isIdentifier

/-- The checks of `buildSessionContentAAD`. -/
def isSessionContentAADInput (input : SessionContentAADInput) : Bool :=
  isIdentifier input.hostId && isIdentifier input.sessionId && isIdentifier input.provider
    && isPositiveSafeInteger input.revision && isCanonicalOptionalAADString input.lastEventId
    && isIdentifier input.contentId

/-- The fields of the associated data of a session content. -/
def sessionContentAADFields (input : SessionContentAADInput) : List BindingField :=
  [.text "ariava-session-content-aad-v3", .text "bridge-to-watch", .text input.hostId,
    .text input.sessionId, .text input.provider, .text input.status.text,
    .instant input.updatedAt, .text (input.lastEventId.getD ""),
    .text ((input.snoozedUntil.map CanonicalTimestamp.isoText).getD ""),
    .number input.revision, .text input.contentId, .text "session-content-v3"]

/-- `buildSessionContentAAD`. -/
def buildSessionContentAAD (input : SessionContentAADInput) :
    Except Thrown (List BindingField) := do
  throwIf (!isSessionContentAADInput input) (.typeError "session content AAD input is invalid")
  return sessionContentAADFields input

/-- `NotificationPreviewAADInput`. -/
structure NotificationPreviewAADInput where
  hostId : String
  watchDeviceId : String
  eventId : String
  sessionId : String
  eventType : EventType
  linkId : String
  linkGeneration : Nat
  epoch : Nat
  senderEncryptionKeyId : String
  recipientEncryptionKeyId : String
  contentId : String
  payloadKind : ProtectedPayloadKind

/-- The checks of `buildNotificationPreviewAAD`. -/
def isNotificationPreviewAADInput (input : NotificationPreviewAADInput) : Bool :=
  decide (input.payloadKind = .notificationPreviewV2) && isIdentifier input.hostId
    && isIdentifier input.watchDeviceId && isIdentifier input.eventId
    && isIdentifier input.sessionId && isIdentifier input.linkId
    && isPositiveSafeInteger input.linkGeneration && isPositiveSafeInteger input.epoch
    && isIdentifier input.senderEncryptionKeyId && isIdentifier input.recipientEncryptionKeyId
    && isIdentifier input.contentId

/-- The fields of the associated data of a notification preview. -/
def notificationPreviewAADFields (input : NotificationPreviewAADInput) : List BindingField :=
  [.text "ariava-notification-preview-aad-v2", .text "bridge-to-watch", .text input.hostId,
    .text input.watchDeviceId, .text input.eventId, .text input.sessionId,
    .text input.eventType.text, .text input.linkId, .number input.linkGeneration,
    .number input.epoch, .text input.senderEncryptionKeyId,
    .text input.recipientEncryptionKeyId, .text input.contentId, .text input.payloadKind.text]

/-- `buildNotificationPreviewAAD`. -/
def buildNotificationPreviewAAD (input : NotificationPreviewAADInput) :
    Except Thrown (List BindingField) := do
  throwIf (!isNotificationPreviewAADInput input)
    (.typeError "notification preview AAD input is invalid")
  return notificationPreviewAADFields input

/-! ### Contents from a watch to the Bridge -/

/-- `ReplyContentAADInput`. -/
structure ReplyContentAADInput where
  hostId : String
  watchDeviceId : String
  sessionId : String
  commandId : String
  targetAlertEventId : String
  issuedAt : String
  expiresAt : String
  nonce : String
  contentId : String

/-- The fields of the associated data of a reply content. -/
def replyContentAADFields (input : ReplyContentAADInput) : List BindingField :=
  [.text "ariava-content-aad-v1", .text "watch-to-bridge", .text input.hostId,
    .text input.watchDeviceId, .text input.sessionId, .text input.commandId,
    .text input.targetAlertEventId, .text input.issuedAt, .text input.expiresAt,
    .text input.nonce, .text input.contentId, .text "reply-content-v1"]

/-- `buildReplyContentAAD`. -/
def buildReplyContentAAD (input : ReplyContentAADInput) : Except Thrown (List BindingField) := do
  throwIf (!isIdentifier input.contentId) (.typeError "reply content AAD input is invalid")
  return replyContentAADFields input

/-- `InterruptContentAADInput`. -/
structure InterruptContentAADInput where
  hostId : String
  watchDeviceId : String
  sessionId : String
  commandId : String
  issuedAt : CanonicalTimestamp
  expiresAt : CanonicalTimestamp
  nonce : String
  contentId : String

/-- The checks of `assertCommandAADBase`. -/
def isCommandAADBase (input : InterruptContentAADInput) : Bool :=
  isIdentifier input.hostId && isIdentifier input.watchDeviceId && isIdentifier input.sessionId
    && isIdentifier input.commandId && isIdentifier input.contentId
    && decide (input.issuedAt.epochMs < input.expiresAt.epochMs)
    && decide (input.expiresAt.epochMs ≤ input.issuedAt.epochMs + maxTtlMs)
    && isIdentifier input.nonce

/-- The fields of the associated data of an interrupt content. -/
def interruptContentAADFields (input : InterruptContentAADInput) : List BindingField :=
  [.text "ariava-interrupt-content-aad-v1", .text "watch-to-bridge", .text input.hostId,
    .text input.watchDeviceId, .text input.sessionId, .text input.commandId, .text "interrupt",
    .instant input.issuedAt, .instant input.expiresAt, .text input.nonce, .text input.contentId,
    .text "interrupt-content-v1"]

/-- `buildInterruptContentAAD`. -/
def buildInterruptContentAAD (input : InterruptContentAADInput) :
    Except Thrown (List BindingField) := do
  throwIf (!isCommandAADBase input) (.typeError "interrupt content AAD input is invalid")
  return interruptContentAADFields input

/-! ### Links -/

/-- The one value of the `suite` field. -/
inductive E2ESuite
  | v1
deriving DecidableEq

/-- The wire text of a suite. -/
def E2ESuite.text : E2ESuite → String
  | v1 => e2eSuiteV1

/-- The input of `buildLinkTranscriptBytes`. -/
structure LinkTranscriptInput where
  linkId : String
  hostId : String
  watchDeviceId : String
  linkGeneration : Nat
  epoch : Nat
  hostBindingDigest : String
  watchBindingDigest : String
  suite : Option E2ESuite

/-- `buildLinkTranscriptBytes`: an absent suite is the first one. -/
def buildLinkTranscriptFields (input : LinkTranscriptInput) : List BindingField :=
  [.text "ariava-e2e-link-transcript-v1", .text input.linkId, .text input.hostId,
    .text input.watchDeviceId, .number input.linkGeneration, .number input.epoch,
    .text input.hostBindingDigest, .text input.watchBindingDigest,
    .text (input.suite.getD .v1).text]

/-- The side that proves a link. -/
inductive ProofRole
  | host
  | watch
deriving DecidableEq

/-- The wire text of a side. -/
def ProofRole.text : ProofRole → String
  | host => "host"
  | watch => "watch"

/-- `buildConfirmationProofBytes`. -/
def buildConfirmationProofFields (role : ProofRole) (transcriptDigest : String) :
    List BindingField :=
  [.text "ariava-e2e-confirmation-proof-v1", .text role.text, .text transcriptDigest]

/-- `buildSafetyCodeInput`. -/
def buildSafetyCodeFields (transcriptDigest : String) (linkGeneration epoch : Nat) :
    List BindingField :=
  [.text "ariava-e2e-safety-code-v1", .text transcriptDigest, .number linkGeneration,
    .number epoch]

end Ariava.Protocol
