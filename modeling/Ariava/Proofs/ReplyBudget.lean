import Ariava.E2e.CommandOpening
import Ariava.Proofs.BoundedJson
import Ariava.Protocol.JsonRoundTrip

/-!
# `Ariava.Proofs.ReplyBudget`: the bounds that a reply meets on its way

A reply is bounded five times: its text in bytes, its plaintext in bytes of JSON, its ciphertext
in `validateEncryptedContentV1` and again in `validateEncryptedPayload`, each behind base64url,
and its text once more when the Bridge has opened it. `replyBudget` says that whatever passes the
first bound passes the others, and that nothing is prepared that does not pass the last.

* The plaintext has 21 characters besides the quoted text, which takes at most six bytes for each
  byte of the text: 23 + 6 * 4000 in all. A text of control characters takes as many
  (`length_plaintext_controls`).
* The canonical plaintext is parsed to what was written (`parseCommandPlaintext_encodeUtf8`), a lone
  surrogate included, so the comparison with the canonical bytes succeeds.
-/

set_option autoImplicit false

namespace Ariava.Proofs.ReplyBudget

open Ariava.E2e
open Ariava.Protocol
open Ariava.Protocol.CommandValues
open Ariava.Proofs.BoundedJson

/-! ### The plaintext -/

/-- The bytes of the plaintext: 21 besides the quoted text. -/
theorem length_plaintext (text : JsString) :
    (encodeUtf8 (stringify (replyContent text))).length = 21 + utf8ByteLength (quoteJson text) := by
  have hversion : utf8ByteLength (quoteJson (jsString "version")) = 9 := by decide
  have htext : utf8ByteLength (quoteJson (jsString "text")) = 6 := by decide
  have hnumber : jsonBytes (numberValue 1) = 1 := by decide +kernel
  have hstring : jsonBytes (.string text) = utf8ByteLength (quoteJson text) := rfl
  rw [length_encodeUtf8]
  show jsonBytes (replyContent text) = _
  rw [replyContent, jsonBytes_object]
  simp only [stringifyProperties, separatedBytes, utf8ByteLength_property, hversion, htext, hnumber,
    hstring]
  simp only [if_true, Bool.false_eq_true, if_false]
  omega

/-- A text within the bound has a plaintext within its bound. -/
theorem length_plaintext_le {text : JsString} (h : utf8ByteLength text ≤ replyTextBytes) :
    (encodeUtf8 (stringify (replyContent text))).length ≤ replyCanonicalPlaintextBytes := by
  have hquoted := utf8ByteLength_quoteJson_le text
  rw [length_plaintext]
  unfold replyTextBytes at h
  unfold replyCanonicalPlaintextBytes
  omega

/-- No smaller bound would do: a text of control characters has six bytes for each. -/
theorem length_plaintext_controls (n : Nat) :
    (encodeUtf8 (stringify (replyContent (List.replicate n 0x01)))).length = 23 + 6 * n ∧
      utf8ByteLength (List.replicate n 0x01) = n := by
  have hunit : escapeUnits none [0x01] = unicodeEscape 0x01 := by decide
  have hescape : ∀ n, utf8ByteLength (escapeUnits none (List.replicate n 0x01) ++ [ascii '"'])
      = 6 * n + 1 := by
    intro n
    induction n with
    | zero => decide
    | succ n ih =>
      have hcons : escapeUnits none (List.replicate (n + 1) 0x01)
          = unicodeEscape 0x01 ++ escapeUnits none (List.replicate n 0x01) := by
        rw [List.replicate_succ, escapeUnits]
        rfl
      have hclosed : StartsClosed (escapeUnits none (List.replicate n 0x01) ++ [ascii '"']) := by
        cases n with
        | zero => exact startsClosed_cons (by decide) _
        | succ n => exact startsClosed_cons (by decide) _
      rw [hcons, List.append_assoc, utf8ByteLength_unicodeEscape _ hclosed, ih]
      omega
  have hascii : ∀ unit ∈ List.replicate n (0x01 : UInt16), unit < 0x80 := by
    intro unit hmem
    rw [List.eq_of_mem_replicate hmem]
    decide
  rw [length_plaintext, utf8ByteLength_of_ascii hascii, List.length_replicate, quoteJson,
    List.cons_append, utf8ByteLength_cons (by decide)]
  have hbytes := hescape n
  rw [utf8ByteLength] at hbytes
  omega

/-- A reply comes back from its text. -/
theorem isReadable_replyContent (text : JsString) : IsReadable (replyContent text) := by
  have hversion : arrayIndex? (jsString "version") = none := by decide
  have htext : arrayIndex? (jsString "text") = none := by decide
  refine ⟨by simp [jsString_inj], hversion, ⟨1, by decide, rfl⟩, htext, trivial, trivial⟩

/-- The bytes of a plaintext are decoded and parsed to what was written. -/
theorem parseCommandPlaintext_encodeUtf8 (text : JsString) :
    parseCommandPlaintext (encodeUtf8 (stringify (replyContent text))) = .ok (replyContent text) := by
  rw [parseCommandPlaintext, decodeUtf8_stringify (isReadable_replyContent text)]
  simp only [parseJson_stringify (isReadable_replyContent text)]

/-! ### The way of a reply -/

/-- The builder accepts a text within the bound. -/
theorem buildProtectedReplyContentBytes_replyContent {text : JsString}
    (h : utf8ByteLength text ≤ replyTextBytes) :
    buildProtectedReplyContentBytes (replyContent text)
      = .ok (encodeUtf8 (stringify (replyContent text))) := by
  have hkeys : Encryption.assertExactKeys (replyContent text) ["version", "text"] "protected reply content"
      ["version", "text"]
        = .ok [(jsString "version", numberValue 1), (jsString "text", .string text)] := by
    simp [Encryption.assertExactKeys, replyContent, JsonObject.unsupportedKey?, JsonObject.hasOwn,
      JsonObject.get?, jsString_inj, checkAll, throwIf, bind, Except.bind, pure, Except.pure]
  have hbytes : ¬ replyPlaintextBytes < (encodeUtf8 text).length := by
    rw [length_encodeUtf8]
    exact not_lt.mpr h
  rw [buildProtectedReplyContentBytes, hkeys]
  simp [JsonObject.get?, jsString_inj, string?, hbytes, throwIf, bind, Except.bind, pure,
    Except.pure]

/-- A reply opens to its text: the command is a reply, its wrapped key opens to the key of the
content, and the content is the plaintext under that key, bound to the command. -/
theorem openCommandPlaintext_sealed {cipher : ChaChaPoly} {wrapKey dek : List UInt8}
    {command : EncryptedCommandEnvelopeV1} {wrapAAD contentAAD : List BindingField}
    {text : JsString} (htext : utf8ByteLength text ≤ replyTextBytes)
    (htype : command.type = .reply)
    (hwrapAAD : buildWrapAAD (commandWrapAADInput command) = .ok wrapAAD)
    (hwrap : chachaPolyOpen cipher wrapKey command.payload.keyWrap.nonce
      command.payload.keyWrap.ciphertext (bindingBytes wrapAAD) = .ok dek)
    (hcontentAAD : commandContentAAD command = .ok contentAAD)
    (hcontent : chachaPolySeal cipher dek (encodeUtf8 (stringify (replyContent text)))
      (bindingBytes contentAAD) command.payload.content.nonce
        = .ok command.payload.content.ciphertext) :
    openCommandPlaintext cipher wrapKey command = .ok (some text) := by
  have hopen := chachaPolyOpen_of_chachaPolySeal hcontent
  have hbuild : canonicalPlaintext command.type (replyContent text)
      = .ok (encodeUtf8 (stringify (replyContent text))) := by
    rw [htype]
    exact buildProtectedReplyContentBytes_replyContent htext
  have hread : replyText? (replyContent text) = some text := by
    simp [replyText?, replyContent, JsonObject.get?, jsString_inj, string?]
  -- Each step succeeds, and the canonical bytes are those that were opened.
  apply bind_eq_ok_iff.mpr ⟨wrapAAD, hwrapAAD, _⟩
  apply bind_eq_ok_iff.mpr ⟨dek, hwrap, _⟩
  apply bind_eq_ok_iff.mpr ⟨contentAAD, hcontentAAD, _⟩
  apply bind_eq_ok_iff.mpr ⟨_, hopen, _⟩
  apply bind_eq_ok_iff.mpr ⟨_, parseCommandPlaintext_encodeUtf8 text, _⟩
  apply bind_eq_ok_iff.mpr ⟨_, hbuild, _⟩
  simp [htype, hread, throwIf, bind, Except.bind, pure, Except.pure]

/-- A reply within the bound of its text meets every later bound: its plaintext is built, its
content and its payload are valid on the wire, where the ciphertext is decoded from base64url, and
the Bridge opens it to the text again. And a command that is prepared for dispatch has a text
within the bound, whatever its payload was. -/
theorem replyBudget (cipher : ChaChaPoly) :
    (∀ text : JsString, utf8ByteLength text ≤ replyTextBytes →
      ∃ plaintext, buildProtectedReplyContentBytes (replyContent text) = .ok plaintext ∧
        plaintext.length ≤ replyCanonicalPlaintextBytes ∧
        ∀ (dek aad : List UInt8) (content : EncryptedContentV1),
          content.payloadKind = .replyContentV1 → Protocol.isIdentifier content.contentId = true →
          chachaPolySeal cipher dek plaintext aad content.nonce = .ok content.ciphertext →
            content.ciphertext.length ≤ replyCiphertextBytes ∧
            (∀ label, Base64Url.base64UrlDecode (Base64Url.base64UrlEncode content.ciphertext) none
              label = .ok content.ciphertext) ∧
            CommandValues.validateEncryptedContentV1 content.value = true ∧
            (∀ keyWrap : RecipientKeyWrapV1,
              isCommandKeyWrap content.properties keyWrap.properties = true →
              CommandValues.validateEncryptedPayload .reply
                (EncryptedPayloadForRecipientV1.value ⟨content, keyWrap⟩) = true) ∧
            ∀ (wrapKey : List UInt8) (command : EncryptedCommandEnvelopeV1)
              (wrapAAD contentAAD : List BindingField),
              command.type = .reply → command.payload.content = content →
              buildWrapAAD (commandWrapAADInput command) = .ok wrapAAD →
              chachaPolyOpen cipher wrapKey command.payload.keyWrap.nonce
                command.payload.keyWrap.ciphertext (bindingBytes wrapAAD) = .ok dek →
              commandContentAAD command = .ok contentAAD → aad = bindingBytes contentAAD →
                openCommandPlaintext cipher wrapKey command = .ok (some text)) ∧
    ∀ (crypto : NodeCrypto) (keyring : LocalLinkKeyring) (command : EncryptedCommandEnvelopeV1)
      (now : CanonicalTimestamp) (reference : StateStore.PersistedCommandPinReferenceV1)
      (loopback : CommandEnvelope) (text : String),
      keyring.prepare (crypto.withCipher cipher) command now = .ok (reference, loopback) →
      loopback.text = some text → text.utf8ByteSize ≤ replyTextBytes := by
  constructor
  · intro text htext
    refine ⟨_, buildProtectedReplyContentBytes_replyContent htext, length_plaintext_le htext, ?_⟩
    intro dek aad content hkind hcontentId hseal
    have hplaintext := length_plaintext_le htext
    have hlength := length_of_chachaPolySeal hseal
    have hbounds : 16 ≤ content.ciphertext.length
        ∧ content.ciphertext.length ≤ replyCiphertextBytes := by
      unfold authenticationTagBytes at hlength
      unfold replyCanonicalPlaintextBytes at hplaintext
      unfold replyCiphertextBytes
      omega
    have hnonce : content.nonce.length = nonceBytes := by
      rw [chachaPolySeal, check_bind_eq_ok, assertAeadInput, check_bind_eq_ok, throwIf_eq_ok,
        throwIf_eq_ok, decide_eq_false_iff_not, decide_eq_false_iff_not] at hseal
      exact not_not.mp hseal.1.2
    refine ⟨hbounds.2, ?_, ?_, ?_, ?_⟩
    · intro label
      have hne : content.ciphertext ≠ [] := List.ne_nil_of_length_pos (by omega)
      exact base64UrlDecode_base64UrlEncode hne label
    · rw [validateEncryptedContentV1_value]
      simp [Protocol.validateEncryptedContentV1, hkind, hcontentId, hnonce, hbounds.1,
        maxPlaintextBytes]
      exact hbounds.2
    · intro keyWrap hkeyWrap
      rw [isCommandKeyWrap_properties] at hkeyWrap
      rw [validateEncryptedPayload_value, Protocol.validateEncryptedPayload]
      simp only [Bool.and_assoc] at hkeyWrap ⊢
      simp [hkind, hcontentId, hnonce, hbounds, commandPayloadKind, commandCiphertextBounds,
        hkeyWrap]
    · rintro wrapKey command wrapAAD contentAAD htype rfl hwrapAAD hwrap hcontentAAD rfl
      exact openCommandPlaintext_sealed htext htype hwrapAAD hwrap hcontentAAD hseal
  · intro crypto keyring command now reference loopback text hprepare htext
    exact (prepare_withCipher hprepare htext).2

/-- A cipher that appends a tag of zeros. -/
def tagCipher : ChaChaPoly where
  encrypt := fun _ _ _ plaintext => plaintext ++ List.replicate authenticationTagBytes 0
  decrypt := fun _ _ _ text => some (text.take (text.length - authenticationTagBytes))
  length_encrypt := fun _ _ _ _ => by simp
  decrypt_encrypt := fun _ _ _ _ => by simp

/-- A key wrap for the content `content`. -/
def sampleKeyWrap : RecipientKeyWrapV1 where
  contentId := "content"
  linkId := "link"
  linkGeneration := 1
  epoch := 1
  senderEncryptionKeyId := "ekey_AAAAAAAAAAAAAAAAAAAAAAAAAAAAAAAAAAAAAAAAAAA"
  recipientEncryptionKeyId := "ekey_AAAAAAAAAAAAAAAAAAAAAAAAAAAAAAAAAAAAAAAAAAA"
  nonce := List.replicate 12 0
  ciphertext := List.replicate 48 0

/-- The largest plaintext that a reply of control characters has is sealed and valid. -/
theorem replyBudget_controls : ∃ content : EncryptedContentV1,
    content.ciphertext.length = replyCiphertextBytes ∧
      CommandValues.validateEncryptedContentV1 content.value = true ∧
      CommandValues.validateEncryptedPayload .reply
        (EncryptedPayloadForRecipientV1.value ⟨content, sampleKeyWrap⟩) = true := by
  have hcontrols := length_plaintext_controls 4000
  have htext : utf8ByteLength (List.replicate 4000 0x01) ≤ replyTextBytes := le_of_eq hcontrols.2
  obtain ⟨plaintext, hbuild, -, hbudget⟩ := (replyBudget tagCipher).1 _ htext
  rw [buildProtectedReplyContentBytes_replyContent htext, Except.ok.injEq] at hbuild
  let content : EncryptedContentV1 :=
    { contentId := "content"
      payloadKind := .replyContentV1
      nonce := List.replicate 12 0
      ciphertext := plaintext ++ List.replicate authenticationTagBytes 0 }
  have hseal : chachaPolySeal tagCipher (List.replicate 32 0) plaintext [] content.nonce
      = .ok content.ciphertext := by
    simp [chachaPolySeal, assertAeadInput, content, tagCipher, throwIf, bind, Except.bind, pure,
      Except.pure]
  have hkeyWrap : isCommandKeyWrap content.properties sampleKeyWrap.properties = true := by
    have hsame : sampleKeyWrap.contentId = content.contentId := rfl
    rw [isCommandKeyWrap_properties, ← hsame]
    decide
  have hidentifier : Protocol.isIdentifier "content" = true := by decide
  obtain ⟨-, -, hcontent, hpayload, -⟩ := hbudget _ _ content rfl hidentifier hseal
  refine ⟨content, ?_, hcontent, hpayload sampleKeyWrap hkeyWrap⟩
  rw [List.length_append, List.length_replicate, ← hbuild, hcontrols.1]
  rfl

end Ariava.Proofs.ReplyBudget
