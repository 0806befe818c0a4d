import Ariava.Protocol.Commands
import Ariava.Protocol.Thrown

/-!
# `Ariava.Protocol.AssociatedData`: the associated data of sealed contents

`buildCommandReceiptContentAAD`, `buildWrapAAD` and `buildProtectedCommandReceiptBytes` of
`encryption.ts`. The builders of associated data throw when a field is out of its bounds. The
`_eq_ok` theorems say when they do not.
-/

set_option autoImplicit false

namespace Ariava.Protocol

/-- `CommandReceiptContentAADInput`. -/
structure CommandReceiptContentAADInput where
  hostId : String
  watchDeviceId : String
  sessionId : String
  commandId : String
  commandType : CommandType
  commandDigest : String
  completedAt : CanonicalTimestamp
  contentId : String

/-- The checks of `buildCommandReceiptContentAAD`. -/
def isCommandReceiptContentAADInput (input : CommandReceiptContentAADInput) : Bool :=
  isCanonicalDigest input.commandDigest && isIdentifier input.hostId
    && isIdentifier input.watchDeviceId && isIdentifier input.sessionId
    && isIdentifier input.commandId && isIdentifier input.contentId

/-- The fields of the associated data of a receipt content. -/
def commandReceiptContentAADFields (input : CommandReceiptContentAADInput) : List BindingField :=
  [.text "ariava-command-receipt-content-aad-v1", .text "bridge-to-watch", .text input.hostId,
    .text input.watchDeviceId, .text input.sessionId, .text input.commandId,
    .text input.commandType.text, .text input.commandDigest, .instant input.completedAt,
    .text input.contentId, .text ProtectedPayloadKind.commandReceiptContentV1.text]

/-- `buildCommandReceiptContentAAD`. -/
def buildCommandReceiptContentAAD (input : CommandReceiptContentAADInput) :
    Except Thrown (List BindingField) := do
  throwIf (!isCommandReceiptContentAADInput input)
    (.typeError "command receipt content AAD input is invalid")
  return commandReceiptContentAADFields input

/-- The directions of a key wrap. -/
inductive E2EDirection
  | bridgeToWatch
  | watchToBridge
deriving DecidableEq

/-- The wire text of a direction. -/
def E2EDirection.text : E2EDirection → String
  | bridgeToWatch => "bridge-to-watch"
  | watchToBridge => "watch-to-bridge"

/-- `WrapAADInput`. -/
structure WrapAADInput where
  direction : E2EDirection
  linkId : String
  linkGeneration : Nat
  epoch : Nat
  hostId : String
  watchDeviceId : String
  senderEncryptionKeyId : String
  recipientEncryptionKeyId : String
  contentId : String
  payloadKind : ProtectedPayloadKind

/-- The checks of `buildWrapAAD`. -/
def isWrapAADInput (input : WrapAADInput) : Bool :=
  isIdentifier input.linkId && isPositiveSafeInteger input.linkGeneration
    && isPositiveSafeInteger input.epoch && isIdentifier input.hostId
    && isIdentifier input.watchDeviceId && isIdentifier input.senderEncryptionKeyId
    && isIdentifier input.recipientEncryptionKeyId && isIdentifier input.contentId

/-- The domain of a wrap: the command payloads keep the first version. -/
def wrapAADDomain : ProtectedPayloadKind → String
  | .replyContentV1 | .interruptContentV1 => "ariava-wrap-aad-v1"
  | _ => "ariava-wrap-aad-v2"

/-- The fields of the associated data of a wrap. -/
def wrapAADFields (input : WrapAADInput) : List BindingField :=
  [.text (wrapAADDomain input.payloadKind), .text input.direction.text, .text input.linkId,
    .number input.linkGeneration, .number input.epoch, .text input.hostId,
    .text input.watchDeviceId, .text input.senderEncryptionKeyId,
    .text input.recipientEncryptionKeyId, .text input.contentId, .text input.payloadKind.text]

/-- `buildWrapAAD`. -/
def buildWrapAAD (input : WrapAADInput) : Except Thrown (List BindingField) := do
  throwIf (!isWrapAADInput input) (.typeError "wrap AAD input is invalid")
  return wrapAADFields input

theorem buildCommandReceiptContentAAD_eq_ok {input : CommandReceiptContentAADInput}
    (h : isCommandReceiptContentAADInput input = true) :
    buildCommandReceiptContentAAD input = .ok (commandReceiptContentAADFields input) := by
  rw [buildCommandReceiptContentAAD, h]
  rfl

theorem buildWrapAAD_eq_ok {input : WrapAADInput} (h : isWrapAADInput input = true) :
    buildWrapAAD input = .ok (wrapAADFields input) := by
  rw [buildWrapAAD, h]
  rfl

/-! ### The plaintext of a receipt -/

/-- The wire text of a result status. -/
def CommandResultStatus.text : CommandResultStatus → String
  | executed => "executed"
  | expired => "expired"
  | rejected => "rejected"
  | failed => "failed"

/-- The JSON text of a protected receipt. The flag goes with the status. -/
def protectedCommandReceiptJson (status : CommandResultStatus) : String :=
  "\x7b\"version\":1,\"accepted\":" ++ (if status.accepted then "true" else "false")
    ++ ",\"status\":\"" ++ status.text ++ "\"\x7d"

/-- `buildProtectedCommandReceiptBytes`: the JSON text, padded with blanks. It has only ASCII
characters. -/
def buildProtectedCommandReceiptBytes (status : CommandResultStatus) : List UInt8 :=
  let canonical := (protectedCommandReceiptJson status).toList.map fun c => UInt8.ofNat c.toNat
  canonical ++ List.replicate (commandReceiptPlaintextBytes - canonical.length) 0x20

/-- The plaintext of a receipt has the same length for every status. -/
theorem length_buildProtectedCommandReceiptBytes (status : CommandResultStatus) :
    (buildProtectedCommandReceiptBytes status).length = commandReceiptPlaintextBytes := by
  have hshort : (protectedCommandReceiptJson status).toList.length
      ≤ commandReceiptPlaintextBytes := by
    cases status <;> decide
  rw [buildProtectedCommandReceiptBytes, List.length_append, List.length_replicate,
    List.length_map]
  omega

end Ariava.Protocol
