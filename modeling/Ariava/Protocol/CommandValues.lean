import Ariava.Protocol.Base64Url
import Ariava.Protocol.Commands
import Ariava.Protocol.JsonParse
import Ariava.Protocol.Utf8Text

/-!
# `Ariava.Protocol.CommandValues`: the validators on the wire values

`validateEncryptedContentV1` of `encryption.ts` and `validateEncryptedPayload` of `commands.ts`,
as they look at a value that `JSON.parse` gave: exact keys, the texts of the fields, and the
base64url texts, which they decode before they count bytes.

`Ariava.Protocol.Commands` has the validators of the decoded records. A record is written with
`EncryptedContentV1.value`, and the two agree on what is written
(`validateEncryptedContentV1_value`, `validateEncryptedPayload_value`).
-/

set_option autoImplicit false

namespace Ariava.Protocol

theorem jsString_inj {text other : String} : jsString text = jsString other ↔ text = other :=
  jsString_injective.eq_iff

namespace CommandValues

/-! ### Values -/

/-- `value === n`. -/
def isNumber (n : ℚ) : Option JsonValue → Bool
  | some (.number value) => decide (value = .finite n)
  | _ => false

/-- `value === text`. -/
def isText (text : String) : Option JsonValue → Bool
  | some (.string value) => decide (value = jsString text)
  | _ => false

/-- The string that a value is. -/
def string? : Option JsonValue → Option JsString
  | some (.string value) => some value
  | _ => none

/-- `left === right`, of values that are strings or numbers. -/
def isSame : Option JsonValue → Option JsonValue → Bool
  | some (.string left), some (.string right) => decide (left = right)
  | some (.number left), some (.number right) => decide (left = right)
  | _, _ => false

/-- `isPositiveInteger`. -/
def isPositiveInteger : Option JsonValue → Bool
  | some (.number value) => value.isSafeInteger && !value.isNegative && decide (value ≠ .finite 0)
  | _ => false

/-- `isExactRecord` of `encryption.ts`: as many own keys as these, and no other. -/
def isExactRecord (record : JsonObject) (keys : List String) : Bool :=
  decide (record.length = keys.length) && (record.unsupportedKey? keys).isNone

/-- `isExactRecord` of `commands.ts`: every required own key, and no key that is not allowed. -/
def isRecordOf (record : JsonObject) (allowedKeys requiredKeys : List String) : Bool :=
  (record.unsupportedKey? allowedKeys).isNone && requiredKeys.all record.hasOwn

/-! ### Strings -/

/-- `isIdentifier` of `commands.ts`, and `isBoundedWellFormedString(value, 256)`. -/
def isIdentifier (value : JsString) : Bool :=
  !value.isEmpty && decide (utf8ByteLength value ≤ 256) && isWellFormedUnicode value

/-- `ID_PATTERNS.encryptionKey.test(value)`: its pattern has ASCII characters only. -/
def isEncryptionKeyId (value : JsString) : Bool :=
  (asciiText? value).any Protocol.isEncryptionKeyId

/-- `isBase64UrlBytes`, and `decodeBase64Url`. -/
def isBase64UrlBytes (value : JsString) (length : Nat) : Bool :=
  match Base64Url.base64UrlDecode value (some length) "base64url value" with
  | .ok _ => true
  | .error _ => false

/-- `isBase64UrlCiphertext`. -/
def isBase64UrlCiphertext (value : JsString) (minimumLength maximumLength : Nat) : Bool :=
  match Base64Url.base64UrlDecode value none "base64url value" with
  | .ok bytes => decide (minimumLength ≤ bytes.length) && decide (bytes.length ≤ maximumLength)
  | .error _ => false

/-! ### The validators -/

/-- The kind that a text names. -/
def payloadKind? (text : JsString) : Option ProtectedPayloadKind :=
  [.eventContentV3, .sessionContentV3, .replyContentV1, .interruptContentV1,
    .commandReceiptContentV1, .notificationPreviewV2].find? fun kind =>
      decide (jsString kind.text = text)

/-- The keys of a content. -/
def contentKeys : List String :=
  ["version", "suite", "contentId", "payloadKind", "nonce", "ciphertext"]

/-- The checks of `validateEncryptedContentV1` on the record. A ciphertext that is no string has
no bytes, which is too few. -/
def isEncryptedContent (record : JsonObject) : Bool :=
  isExactRecord record contentKeys
    && ((string? (record.get? "payloadKind")).bind payloadKind?).any fun kind =>
      match Base64Url.base64UrlDecode ((string? (record.get? "ciphertext")).getD []) none
          "base64url value" with
      | .ok ciphertext =>
          isNumber 1 (record.get? "version") && isText e2eSuiteV1 (record.get? "suite")
            && (string? (record.get? "contentId")).any isIdentifier
            && (string? (record.get? "nonce")).any (isBase64UrlBytes · nonceBytes)
            && decide (16 ≤ ciphertext.length)
            && decide (ciphertext.length ≤ maxPlaintextBytes kind + 16)
      | .error _ => false

/-- `validateEncryptedContentV1`. -/
def validateEncryptedContentV1 : JsonValue → Bool
  | .object record => isEncryptedContent record
  | _ => false

/-- The checks of `validateEncryptedPayload` on the record of the content. -/
def isCommandContent (content : JsonObject) (type : CommandType) : Bool :=
  isText (commandPayloadKind type).text (content.get? "payloadKind")
    && isNumber 1 (content.get? "version") && isText e2eSuiteV1 (content.get? "suite")
    && (string? (content.get? "contentId")).any isIdentifier
    && (string? (content.get? "nonce")).any (isBase64UrlBytes · 12)
    && (string? (content.get? "ciphertext")).any fun text =>
      isBase64UrlCiphertext text (commandCiphertextBounds type).1 (commandCiphertextBounds type).2

/-- The checks of `validateEncryptedPayload` on the record of the key wrap. -/
def isCommandKeyWrap (content keyWrap : JsonObject) : Bool :=
  isNumber 1 (keyWrap.get? "version") && isSame (keyWrap.get? "suite") (content.get? "suite")
    && isSame (keyWrap.get? "contentId") (content.get? "contentId")
    && (string? (keyWrap.get? "linkId")).any isIdentifier
    && isPositiveInteger (keyWrap.get? "linkGeneration")
    && isPositiveInteger (keyWrap.get? "epoch")
    && (string? (keyWrap.get? "senderEncryptionKeyId")).any isEncryptionKeyId
    && (string? (keyWrap.get? "recipientEncryptionKeyId")).any isEncryptionKeyId
    && (string? (keyWrap.get? "nonce")).any (isBase64UrlBytes · 12)
    && (string? (keyWrap.get? "ciphertext")).any (isBase64UrlBytes · 48)

/-- The keys of a key wrap. -/
def keyWrapKeys : List String :=
  ["version", "suite", "contentId", "linkId", "linkGeneration", "epoch", "senderEncryptionKeyId",
    "recipientEncryptionKeyId", "nonce", "ciphertext"]

/-- The two records of a payload. -/
def payloadRecords? (payload : JsonObject) : Option (JsonObject × JsonObject) :=
  match payload.get? "content", payload.get? "keyWrap" with
  | some (.object content), some (.object keyWrap) => some (content, keyWrap)
  | _, _ => none

/-- `validateEncryptedPayload`. -/
def validateEncryptedPayload (type : CommandType) : JsonValue → Bool
  | .object payload =>
      isRecordOf payload ["content", "keyWrap"] ["content", "keyWrap"]
        && (payloadRecords? payload).any fun records =>
          isRecordOf records.1 contentKeys contentKeys
            && isRecordOf records.2 keyWrapKeys keyWrapKeys
            && isCommandContent records.1 type && isCommandKeyWrap records.1 records.2
  | _ => false

end CommandValues

/-! ### The values of the records -/

/-- A text as a value. -/
def textValue (text : String) : JsonValue := .string (jsString text)

/-- Bytes as a value. -/
def bytesValue (bytes : List UInt8) : JsonValue := .string (Base64Url.base64UrlEncode bytes)

/-- A whole number as a value. -/
def numberValue (n : Nat) : JsonValue := .number (.finite n)

/-- The properties of a content on the wire. -/
def EncryptedContentV1.properties (content : EncryptedContentV1) : JsonObject :=
  [(jsString "version", numberValue 1), (jsString "suite", textValue e2eSuiteV1),
    (jsString "contentId", textValue content.contentId),
    (jsString "payloadKind", textValue content.payloadKind.text),
    (jsString "nonce", bytesValue content.nonce),
    (jsString "ciphertext", bytesValue content.ciphertext)]

/-- The properties of a key wrap on the wire. -/
def RecipientKeyWrapV1.properties (keyWrap : RecipientKeyWrapV1) : JsonObject :=
  [(jsString "version", numberValue 1), (jsString "suite", textValue e2eSuiteV1),
    (jsString "contentId", textValue keyWrap.contentId),
    (jsString "linkId", textValue keyWrap.linkId),
    (jsString "linkGeneration", numberValue keyWrap.linkGeneration),
    (jsString "epoch", numberValue keyWrap.epoch),
    (jsString "senderEncryptionKeyId", textValue keyWrap.senderEncryptionKeyId),
    (jsString "recipientEncryptionKeyId", textValue keyWrap.recipientEncryptionKeyId),
    (jsString "nonce", bytesValue keyWrap.nonce),
    (jsString "ciphertext", bytesValue keyWrap.ciphertext)]

/-- A content on the wire. -/
def EncryptedContentV1.value (content : EncryptedContentV1) : JsonValue :=
  .object content.properties

/-- A payload on the wire. -/
def EncryptedPayloadForRecipientV1.value (payload : EncryptedPayloadForRecipientV1) : JsonValue :=
  .object [(jsString "content", payload.content.value),
    (jsString "keyWrap", .object payload.keyWrap.properties)]

namespace CommandValues

/-! ### Agreement with the validators of the records -/

/-- A text is an identifier here when it is one there. -/
theorem isIdentifier_jsString (text : String) :
    isIdentifier (jsString text) = Protocol.isIdentifier text := by
  have hempty : (jsString text).isEmpty = decide (text = "") := by
    rw [Bool.eq_iff_iff, List.isEmpty_iff, decide_eq_true_eq]
    have hinj : jsString text = jsString "" ↔ text = "" := jsString_inj
    exact hinj
  rw [isIdentifier, Protocol.isIdentifier, isNonEmptyString, utf8ByteLength_jsString,
    isWellFormedUnicode_jsString, hempty, Bool.and_true, Bool.eq_iff_iff]
  simp only [Bool.and_eq_true, Bool.not_eq_true', decide_eq_true_eq, decide_eq_false_iff_not]
  exact Iff.rfl

theorem isEncryptionKeyId_jsString (text : String) :
    isEncryptionKeyId (jsString text) = Protocol.isEncryptionKeyId text := by
  apply any_asciiText?_jsString
  intro h c hc
  -- A tag of ASCII letters, and characters of base64url behind it.
  simp only [Protocol.isEncryptionKeyId, matchesIdPattern, Bool.and_eq_true,
    List.isPrefixOf_iff_prefix, decide_eq_true_eq, List.all_eq_true] at h
  obtain ⟨⟨⟨rest, hsplit⟩, -⟩, hrest⟩ := h
  rw [← hsplit, List.drop_left] at hrest
  rw [← hsplit, List.mem_append] at hc
  rcases hc with hc | hc
  · have htag : ("ekey_".toList.all fun c => decide (c.toNat < 0x80)) = true := by decide
    exact of_decide_eq_true (List.all_eq_true.mp htag c hc)
  · have hchar := hrest c hc
    rw [isBase64UrlChar] at hchar
    delta Char.isAlphanum at hchar
    delta Char.isAlpha Char.isDigit at hchar
    delta Char.isUpper Char.isLower at hchar
    simp only [Bool.or_eq_true, Bool.and_eq_true, decide_eq_true_eq, beq_iff_eq,
      UInt32.le_iff_toNat_le] at hchar
    have hval : c.val.toNat = c.toNat := rfl
    rw [hval] at hchar
    rcases hchar with (((h | h) | h) | rfl) | rfl
    · exact lt_of_le_of_lt h.2 (by decide)
    · exact lt_of_le_of_lt h.2 (by decide)
    · exact lt_of_le_of_lt h.2 (by decide)
    · decide
    · decide

/-- The text of bytes is decoded to them, when there are some. -/
theorem base64UrlDecode_base64UrlEncode {bytes : List UInt8} (h : bytes ≠ []) (label : String) :
    Base64Url.base64UrlDecode (Base64Url.base64UrlEncode bytes) none label = .ok bytes :=
  Base64Url.base64UrlDecode_eq_ok_iff.mpr ⟨rfl, h, by simp⟩

/-- Without bytes there is no text to decode. -/
theorem base64UrlDecode_nil (expectedBytes : Option Nat) (label : String) :
    ∃ error, Base64Url.base64UrlDecode [] expectedBytes label = .error error := ⟨_, rfl⟩

theorem isBase64UrlBytes_base64UrlEncode {length : Nat} (h : 0 < length) (bytes : List UInt8) :
    isBase64UrlBytes (Base64Url.base64UrlEncode bytes) length = decide (bytes.length = length) := by
  unfold isBase64UrlBytes
  split
  · rename_i decoded heq
    rw [Base64Url.base64UrlDecode_eq_ok_iff] at heq
    obtain ⟨htext, -, hlength⟩ := heq
    cases Base64Url.base64UrlEncode_injective htext
    simp [hlength length rfl]
  · rename_i error heq
    rw [eq_comm, decide_eq_false_iff_not]
    rintro rfl
    have hok : Base64Url.base64UrlDecode (Base64Url.base64UrlEncode bytes) (some bytes.length)
        "base64url value" = .ok bytes :=
      Base64Url.base64UrlDecode_eq_ok_iff.mpr ⟨rfl, List.ne_nil_of_length_pos h, by simp⟩
    rw [hok] at heq
    cases heq

@[simp] theorem string?_textValue (text : String) :
    string? (some (textValue text)) = some (jsString text) := rfl

@[simp] theorem string?_bytesValue (bytes : List UInt8) :
    string? (some (bytesValue bytes)) = some (Base64Url.base64UrlEncode bytes) := rfl

@[simp] theorem isNumber_numberValue : isNumber 1 (some (numberValue 1)) = true := by
  simp [isNumber, numberValue]

@[simp] theorem isText_textValue (text other : String) :
    isText text (some (textValue other)) = decide (other = text) := by
  simp [isText, textValue, jsString_inj]

@[simp] theorem isSame_textValue (text other : String) :
    isSame (some (textValue text)) (some (textValue other)) = decide (text = other) := by
  simp [isSame, textValue, jsString_inj]

@[simp] theorem isPositiveInteger_numberValue (n : Nat) :
    isPositiveInteger (some (numberValue n)) = isPositiveSafeInteger n := by
  rw [Bool.eq_iff_iff, isPositiveSafeInteger_iff]
  simp only [isPositiveInteger, numberValue, JsonNumber.isSafeInteger, JsonNumber.isNegative,
    Bool.and_eq_true, Bool.not_eq_true', decide_eq_true_eq, decide_eq_false_iff_not]
  have hpositive : ¬ (n : ℚ) < 0 := not_lt.mpr (Nat.cast_nonneg n)
  simp only [hpositive, ne_eq, JsonNumber.finite.injEq, Nat.cast_eq_zero, Rat.den_natCast,
    Rat.num_natCast, Int.natAbs_natCast, not_false_eq_true, true_and, and_true]
  omega

/-- Every kind is the kind that its text names. -/
@[simp] theorem payloadKind?_text (kind : ProtectedPayloadKind) :
    payloadKind? (jsString kind.text) = some kind := by
  cases kind <;>
    simp [payloadKind?, List.find?, jsString_inj, ProtectedPayloadKind.text]

/-- The two validators of contents agree on what is written. -/
theorem validateEncryptedContentV1_value (content : EncryptedContentV1) :
    validateEncryptedContentV1 content.value = Protocol.validateEncryptedContentV1 content := by
  have hkeys : isExactRecord content.properties contentKeys = true := by
    simp [isExactRecord, EncryptedContentV1.properties, contentKeys, JsonObject.unsupportedKey?,
      jsString_inj]
  show isEncryptedContent content.properties = _
  rw [isEncryptedContent, hkeys, Protocol.validateEncryptedContentV1]
  simp only [EncryptedContentV1.properties, JsonObject.get?, jsString_inj, List.find?,
    String.reduceEq, decide_false, decide_true, Option.map_some, string?_textValue,
    string?_bytesValue, Option.bind_some, payloadKind?_text, Option.any_some, Option.getD_some,
    Bool.true_and, isNumber_numberValue, isText_textValue, isIdentifier_jsString,
    isBase64UrlBytes_base64UrlEncode (show 0 < nonceBytes by decide)]
  rcases eq_or_ne content.ciphertext [] with hnil | hne
  · have hempty : Base64Url.base64UrlEncode [] = [] := by
      simp [Base64Url.base64UrlEncode_eq, Lib.Sextets.ofBytes]
    obtain ⟨error, herror⟩ := base64UrlDecode_nil none "base64url value"
    rw [hnil, hempty, herror]
    simp
  · rw [base64UrlDecode_base64UrlEncode hne]

theorem payloadKind_text_injective : Function.Injective ProtectedPayloadKind.text := by
  intro kind other h
  have hkind := payloadKind?_text kind
  rw [h, payloadKind?_text, Option.some.injEq] at hkind
  exact hkind.symm

/-- A text of bytes within the bounds, when the lower one is positive. -/
theorem isBase64UrlCiphertext_base64UrlEncode {minimumLength : Nat} (h : 0 < minimumLength)
    (maximumLength : Nat) (bytes : List UInt8) :
    isBase64UrlCiphertext (Base64Url.base64UrlEncode bytes) minimumLength maximumLength
      = (decide (minimumLength ≤ bytes.length) && decide (bytes.length ≤ maximumLength)) := by
  rcases eq_or_ne bytes [] with rfl | hne
  · obtain ⟨error, herror⟩ := base64UrlDecode_nil none "base64url value"
    have hempty : Base64Url.base64UrlEncode [] = [] := by
      simp [Base64Url.base64UrlEncode_eq, Lib.Sextets.ofBytes]
    rw [isBase64UrlCiphertext, hempty, herror]
    simp
    omega
  · rw [isBase64UrlCiphertext, base64UrlDecode_base64UrlEncode hne]

theorem isCommandContent_properties (content : EncryptedContentV1) (type : CommandType) :
    isCommandContent content.properties type
      = (decide (content.payloadKind = commandPayloadKind type)
        && Protocol.isIdentifier content.contentId && decide (content.nonce.length = nonceBytes)
        && decide ((commandCiphertextBounds type).1 ≤ content.ciphertext.length)
        && decide (content.ciphertext.length ≤ (commandCiphertextBounds type).2)) := by
  have hbound : 0 < (commandCiphertextBounds type).1 := by
    cases type <;> decide
  simp only [isCommandContent, EncryptedContentV1.properties, JsonObject.get?, jsString_inj,
    List.find?, String.reduceEq, decide_false, decide_true, Option.map_some, string?_textValue,
    string?_bytesValue, Option.any_some, isNumber_numberValue, isText_textValue,
    isIdentifier_jsString, isBase64UrlBytes_base64UrlEncode (show 0 < 12 by decide),
    isBase64UrlCiphertext_base64UrlEncode hbound, payloadKind_text_injective.eq_iff,
    Bool.and_true, Bool.and_assoc]
  rfl

theorem isCommandKeyWrap_properties (content : EncryptedContentV1) (keyWrap : RecipientKeyWrapV1) :
    isCommandKeyWrap content.properties keyWrap.properties
      = (decide (keyWrap.contentId = content.contentId) && Protocol.isIdentifier keyWrap.linkId
        && isPositiveSafeInteger keyWrap.linkGeneration && isPositiveSafeInteger keyWrap.epoch
        && Protocol.isEncryptionKeyId keyWrap.senderEncryptionKeyId
        && Protocol.isEncryptionKeyId keyWrap.recipientEncryptionKeyId
        && decide (keyWrap.nonce.length = nonceBytes)
        && decide (keyWrap.ciphertext.length = wrappedDekBytes)) := by
  simp only [isCommandKeyWrap, EncryptedContentV1.properties, RecipientKeyWrapV1.properties,
    JsonObject.get?, jsString_inj, List.find?, String.reduceEq, decide_false, decide_true,
    Option.map_some, string?_textValue, string?_bytesValue, Option.any_some,
    isNumber_numberValue, isSame_textValue, isIdentifier_jsString, isEncryptionKeyId_jsString,
    isPositiveInteger_numberValue, isBase64UrlBytes_base64UrlEncode (show 0 < 12 by decide),
    isBase64UrlBytes_base64UrlEncode (show 0 < 48 by decide), Bool.true_and]
  rfl

/-- The two validators of command payloads agree on what is written. -/
theorem validateEncryptedPayload_value (payload : EncryptedPayloadForRecipientV1)
    (type : CommandType) :
    validateEncryptedPayload type payload.value
      = Protocol.validateEncryptedPayload payload type := by
  have hcontent : isRecordOf payload.content.properties contentKeys contentKeys = true := by
    simp [isRecordOf, EncryptedContentV1.properties, contentKeys, JsonObject.unsupportedKey?,
      JsonObject.hasOwn, JsonObject.get?, jsString_inj]
  have hkeyWrap : isRecordOf payload.keyWrap.properties keyWrapKeys keyWrapKeys = true := by
    simp [isRecordOf, RecipientKeyWrapV1.properties, keyWrapKeys, JsonObject.unsupportedKey?,
      JsonObject.hasOwn, JsonObject.get?, jsString_inj]
  have hrecords : payloadRecords? [(jsString "content", payload.content.value),
      (jsString "keyWrap", .object payload.keyWrap.properties)]
        = some (payload.content.properties, payload.keyWrap.properties) := by
    simp [payloadRecords?, JsonObject.get?, jsString_inj, EncryptedContentV1.value]
  have hpayload : isRecordOf [(jsString "content", payload.content.value),
      (jsString "keyWrap", .object payload.keyWrap.properties)] ["content", "keyWrap"]
        ["content", "keyWrap"] = true := by
    simp [isRecordOf, JsonObject.unsupportedKey?, JsonObject.hasOwn, JsonObject.get?, jsString_inj]
  rw [EncryptedPayloadForRecipientV1.value, validateEncryptedPayload, hpayload, hrecords, Option.any_some, hcontent, hkeyWrap, isCommandContent_properties,
    isCommandKeyWrap_properties, Protocol.validateEncryptedPayload]
  simp only [Bool.true_and, Bool.and_assoc]

end CommandValues

end Ariava.Protocol
