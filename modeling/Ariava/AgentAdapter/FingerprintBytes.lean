import Ariava.Protocol.CommandValues
import Ariava.Protocol.ProtectedReply
import Ariava.Protocol.WireText
import Ariava.StateStore.StateMigration

/-!
# `Ariava.AgentAdapter.FingerprintBytes`: what `producerEventFingerprint` hashes

`producerEventFingerprint` of `registry-codec.ts`, as far as the bytes it gives to the hash, with
`buildProtectedEventContentBytes` of `encryption.ts`. An event is a record of JavaScript: its
properties come in any order, and a property that is not there is `undefined`. A member that is
`undefined` is left out of a record by a conditional spread, and out of a text by `JSON.stringify`;
both are `objectLiteral`.

The checks of an error message and of a provider code are regular expressions of `validation.ts`;
they decide whether there is a fingerprint, and none of its bytes. `NeedHumanChecks` has them.
-/

set_option autoImplicit false

namespace Ariava.AgentAdapter.FingerprintBytes

open Ariava.Protocol
open Ariava.Protocol.CommandValues
open Ariava.StateStore.RawState (objectLiteral)

/-- `isCanonicalNeedHumanErrorMessage`, and the checks of a provider code that is a string. -/
structure NeedHumanChecks where
  isCanonicalNeedHumanErrorMessage : JsString → Bool
  isProviderCode : JsString → Bool

/-! ### The context of a `need_human` event -/

/-- `validateNeedHumanErrorValue` finds no issue. -/
def isNeedHumanError (checks : NeedHumanChecks) : Option JsonValue → Bool
  | some (.object error) =>
      isRecordOf error ["kind", "message", "providerCode", "retryExhausted"]
          ["kind", "message", "retryExhausted"]
        && ["context_overflow", "provider_failure", "response_length", "incomplete_tool_use",
            "unknown"].any (fun kind => isText kind (JsonObject.get? error "kind"))
        && (string? (JsonObject.get? error "message")).any checks.isCanonicalNeedHumanErrorMessage
        && (match JsonObject.get? error "providerCode" with
          | none => true
          | some (.string providerCode) => checks.isProviderCode providerCode
          | some _ => false)
        && (match JsonObject.get? error "retryExhausted" with
          | some (.bool retryExhausted) => retryExhausted
          | _ => false)
  | _ => false

/-- `validateNeedHumanContext` finds no issue. -/
def isNeedHumanContext (checks : NeedHumanChecks) : JsonValue → Bool
  | .object context =>
      isRecordOf context ["reason", "error"] ["reason"]
        && if isText "error" (JsonObject.get? context "reason") then
            isNeedHumanError checks (JsonObject.get? context "error")
          else
            (isText "question" (JsonObject.get? context "reason")
              || isText "blocked" (JsonObject.get? context "reason"))
            && !JsonObject.hasOwn context "error"
  | _ => false

/-- The `error` of `canonicalNeedHumanContext`. A context that passed its check has a record
there. -/
def canonicalNeedHumanError : Option JsonValue → Option JsonValue
  | some (.object error) => some (.object (objectLiteral
      [("kind", JsonObject.get? error "kind"), ("message", JsonObject.get? error "message"),
        ("providerCode", JsonObject.get? error "providerCode"),
        ("retryExhausted", JsonObject.get? error "retryExhausted")]))
  | other => other

/-- `canonicalNeedHumanContext`. -/
def canonicalNeedHumanContext : JsonValue → JsonValue
  | .object context =>
      if isText "error" (JsonObject.get? context "reason") then
        .object (objectLiteral [("reason", some (textValue "error")),
          ("error", canonicalNeedHumanError (JsonObject.get? context "error"))])
      else .object (objectLiteral [("reason", JsonObject.get? context "reason")])
  | other => other

/-! ### The protected content -/

/-- A string that is not empty. -/
def isNonEmptyText : Option JsonValue → Bool
  | some (.string value) => !value.isEmpty
  | _ => false

/-- `undefined`, or a string that is not empty. -/
def isOptionalText (value : Option JsonValue) : Bool := value.isNone || isNonEmptyText value

/-- The texts of a protected event content. -/
def protectedTexts : List String :=
  ["agentText", "humanText", "projectName", "workingDirectory", "harnessProvider"]

/-- `assertProtectedEventContent`. Every error becomes one of its own class. -/
def assertProtectedEventContent (checks : NeedHumanChecks) (content : JsonObject) :
    Except Thrown Unit :=
  let checked : Except Thrown Unit := do
    let _ ← Encryption.assertExactKeys (.object content) ("version" :: protectedTexts ++ ["needHuman"])
      "protected event content" ["version", "agentText"]
    throwIf (!(isNumber 3 (content.get? "version") && isNonEmptyText (content.get? "agentText")
        && isOptionalText (content.get? "humanText") && isOptionalText (content.get? "projectName")
        && isOptionalText (content.get? "workingDirectory")
        && isOptionalText (content.get? "harnessProvider")))
      (.typeError "protected event content is invalid")
    throwIf (protectedTexts.any fun key =>
        (string? (content.get? key)).any fun value => !isWellFormedUnicode value)
      (.typeError "protected content contains malformed Unicode")
    throwIf ((content.get? "needHuman").any fun needHuman => !isNeedHumanContext checks needHuman)
      (.typeError "protected needHuman context is invalid")
  match checked with
  | .ok () => .ok ()
  | .error thrown => .error ⟨.protectedContentValidation, thrown.message⟩

/-- `E2E_LIMITS.eventPlaintextBytes`. -/
def eventPlaintextBytes : Nat := 64 * 1024

/-- The canonical record of `buildProtectedEventContentBytes`. -/
def canonicalEventContent (content : JsonObject) : JsonValue :=
  .object (objectLiteral
    [("version", some (numberValue 3)), ("agentText", content.get? "agentText"),
      ("humanText", content.get? "humanText"), ("projectName", content.get? "projectName"),
      ("workingDirectory", content.get? "workingDirectory"),
      ("harnessProvider", content.get? "harnessProvider"),
      ("needHuman", (content.get? "needHuman").map canonicalNeedHumanContext)])

/-- `buildProtectedEventContentBytes`. -/
def buildProtectedEventContentBytes (checks : NeedHumanChecks) (content : JsonObject) :
    Except Thrown (List UInt8) := do
  assertProtectedEventContent checks content
  let bytes := encodeUtf8 (stringify (canonicalEventContent content))
  throwIf (decide (eventPlaintextBytes < bytes.length))
    ⟨.protectedContentValidation, "protected event content is invalid"⟩
  return bytes

/-! ### The fingerprint -/

/-- The content that `producerEventFingerprint` protects. -/
def protectedContent (producer : JsonObject) : JsonObject :=
  objectLiteral
    [("version", some (numberValue 3)), ("agentText", producer.get? "agentText"),
      ("humanText", producer.get? "humanText"), ("projectName", producer.get? "projectName"),
      ("workingDirectory", producer.get? "workingDirectory"),
      ("harnessProvider", producer.get? "harnessProvider"),
      ("needHuman", producer.get? "needHuman")]

/-- The public metadata of `producerEventFingerprint`. -/
def publicMetadata (producer : JsonObject) : JsonValue :=
  .object (objectLiteral
    [("sessionId", producer.get? "sessionId"), ("provider", producer.get? "provider"),
      ("type", producer.get? "type"), ("status", producer.get? "status"),
      ("createdAt", producer.get? "createdAt")])

/-- `encodeLengthPrefixedFields`. The encoder replaces a lone surrogate, and so does the text. -/
def encodeLengthPrefixedFields (fields : List JsString) : List UInt8 :=
  Protocol.encodeLengthPrefixedFields (fields.map displayText)

/-- The bytes that `producerEventFingerprint` hashes. -/
def producerEventFingerprintBytes (checks : NeedHumanChecks) (producer : JsonObject) :
    Except Thrown (List UInt8) := do
  let protectedBytes ← buildProtectedEventContentBytes checks (protectedContent producer)
  return encodeLengthPrefixedFields [jsString "ariava-producer-event-fingerprint-v1",
    stringify (publicMetadata producer), Base64Url.base64UrlEncode protectedBytes]

/-- `producerEventFingerprint`. -/
def producerEventFingerprint (sha256 : List UInt8 → JsString) (checks : NeedHumanChecks)
    (producer : JsonObject) : Except Thrown JsString := do
  let canonical ← producerEventFingerprintBytes checks producer
  return sha256 canonical

end Ariava.AgentAdapter.FingerprintBytes
