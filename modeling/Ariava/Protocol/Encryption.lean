import Ariava.Protocol.Validation

/-!
# `Ariava.Protocol.Encryption`: encrypted contents and key wraps

The records that carry ciphertext, with the checks and the binding fields of
`encryption.ts`. The version and the suite of each record have one value each, so they are
not fields. Base64url fields are their bytes.
-/

set_option autoImplicit false

namespace Ariava.Protocol

/-- `E2E_SUITE_V1`. -/
def e2eSuiteV1 : String := "x25519-hkdf-sha256-chachapoly-v1"

/-- `ProtectedPayloadKind`. -/
inductive ProtectedPayloadKind
  | eventContentV3
  | sessionContentV3
  | replyContentV1
  | interruptContentV1
  | commandReceiptContentV1
  | notificationPreviewV2
deriving DecidableEq

/-- The wire text of a payload kind. -/
def ProtectedPayloadKind.text : ProtectedPayloadKind → String
  | eventContentV3 => "event-content-v3"
  | sessionContentV3 => "session-content-v3"
  | replyContentV1 => "reply-content-v1"
  | interruptContentV1 => "interrupt-content-v1"
  | commandReceiptContentV1 => "command-receipt-content-v1"
  | notificationPreviewV2 => "notification-preview-v2"

/-- `EncryptedContentV1`. -/
structure EncryptedContentV1 where
  contentId : String
  payloadKind : ProtectedPayloadKind
  nonce : List UInt8
  ciphertext : List UInt8
deriving DecidableEq

/-- `RecipientKeyWrapV1`. -/
structure RecipientKeyWrapV1 where
  contentId : String
  linkId : String
  linkGeneration : Nat
  epoch : Nat
  senderEncryptionKeyId : String
  recipientEncryptionKeyId : String
  nonce : List UInt8
  ciphertext : List UInt8
deriving DecidableEq

/-- `E2E_LIMITS.nonceBytes`. -/
def nonceBytes : Nat := 12

/-- `E2E_LIMITS.authenticationTagBytes`. -/
def authenticationTagBytes : Nat := 16

/-- `E2E_LIMITS.wrappedDekBytes`. -/
def wrappedDekBytes : Nat := 48

/-- `E2E_LIMITS.commandReceiptPlaintextBytes`. -/
def commandReceiptPlaintextBytes : Nat := 128

/-- `COMMAND_LIMITS.replyCanonicalPlaintextBytes`. -/
def replyCanonicalPlaintextBytes : Nat := 24023

/-- `COMMAND_LIMITS.replyCiphertextBytes`. -/
def replyCiphertextBytes : Nat := 24039

/-- The plaintext bound of a payload kind in `validateEncryptedContentV1`. -/
def maxPlaintextBytes : ProtectedPayloadKind → Nat
  | .eventContentV3 => 64 * 1024
  | .sessionContentV3 => 64 * 1024
  | .replyContentV1 => replyCanonicalPlaintextBytes
  | .interruptContentV1 => 34
  | .commandReceiptContentV1 => commandReceiptPlaintextBytes
  | .notificationPreviewV2 => 4000

/-- `validateEncryptedContentV1`. -/
def validateEncryptedContentV1 (content : EncryptedContentV1) : Bool :=
  isIdentifier content.contentId && decide (content.nonce.length = nonceBytes)
    && decide (16 ≤ content.ciphertext.length)
    && decide (content.ciphertext.length ≤ maxPlaintextBytes content.payloadKind + 16)

/-- `validateRecipientKeyWrapV1`. -/
def validateRecipientKeyWrapV1 (wrap : RecipientKeyWrapV1) : Bool :=
  isIdentifier wrap.contentId && isIdentifier wrap.linkId
    && isPositiveSafeInteger wrap.linkGeneration && isPositiveSafeInteger wrap.epoch
    && isIdentifier wrap.senderEncryptionKeyId && isIdentifier wrap.recipientEncryptionKeyId
    && decide (wrap.nonce.length = nonceBytes)
    && decide (wrap.ciphertext.length = wrappedDekBytes)

/-- `contentBindingFields`. -/
def contentBindingFields (content : EncryptedContentV1) : List BindingField :=
  [.number 1, .text e2eSuiteV1, .text content.contentId, .text content.payloadKind.text,
    .bytes content.nonce, .bytes content.ciphertext]

/-- `wrapBindingFields`. -/
def wrapBindingFields (wrap : RecipientKeyWrapV1) : List BindingField :=
  [.number 1, .text e2eSuiteV1, .text wrap.contentId, .text wrap.linkId,
    .number wrap.linkGeneration, .number wrap.epoch, .text wrap.senderEncryptionKeyId,
    .text wrap.recipientEncryptionKeyId, .bytes wrap.nonce, .bytes wrap.ciphertext]

end Ariava.Protocol
