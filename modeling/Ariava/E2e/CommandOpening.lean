import Ariava.E2e.LinkKeyring
import Ariava.Protocol.ContentAssociatedData
import Ariava.Protocol.ProtectedReply

/-!
# `Ariava.E2e.CommandOpening`: how a command is opened

What `decryptCommandForPin` of `envelope.ts` does under the wrap key: the wrapped key and the
content are opened with `chachaPolyOpen` of `node-crypto.ts`, the plaintext is parsed, and its
canonical bytes are built again and compared with it. `NodeCrypto.openCommandPlaintext` stands for
all of this where only its outcome matters; `NodeCrypto.withCipher` fills it in.

The cipher itself is the platform's. `ChaChaPoly` says what it is documented to do: a ciphertext
is as long as the plaintext and the tag, and opens to the plaintext.

`openCommandPlaintext_reply` is the fact the bound of a dispatched reply rests on: what is
returned has passed `buildProtectedReplyContentBytes`.
-/

set_option autoImplicit false

namespace Ariava.E2e

open Ariava.Protocol
open Ariava.Protocol.CommandValues

/-! ### The cipher -/

/-- `chacha20-poly1305` with a tag of 16 bytes, as `createCipheriv` and `createDecipheriv` run
it: key, nonce, associated data and text. The tag is behind the ciphertext. -/
structure ChaChaPoly where
  encrypt : List UInt8 → List UInt8 → List UInt8 → List UInt8 → List UInt8
  decrypt : List UInt8 → List UInt8 → List UInt8 → List UInt8 → Option (List UInt8)
  length_encrypt : ∀ key nonce aad plaintext,
    (encrypt key nonce aad plaintext).length = plaintext.length + authenticationTagBytes
  decrypt_encrypt : ∀ key nonce aad plaintext,
    decrypt key nonce aad (encrypt key nonce aad plaintext) = some plaintext

/-- `assertAeadInput`. -/
def assertAeadInput (key nonce : List UInt8) : Except Thrown Unit := do
  throwIf (decide (key.length ≠ 32)) (.typeError "ChaChaPoly key must contain exactly 32 bytes")
  throwIf (decide (nonce.length ≠ 12))
    (.typeError "ChaChaPoly nonce must contain exactly 12 bytes")

/-- `chachaPolySeal`, with its nonce: the ciphertext. -/
def chachaPolySeal (cipher : ChaChaPoly) (key plaintext aad nonce : List UInt8) :
    Except Thrown (List UInt8) := do
  assertAeadInput key nonce
  return cipher.encrypt key nonce aad plaintext

/-- `chachaPolyOpen`. -/
def chachaPolyOpen (cipher : ChaChaPoly) (key nonce wireCiphertext aad : List UInt8) :
    Except Thrown (List UInt8) := do
  assertAeadInput key nonce
  throwIf (decide (wireCiphertext.length < 16))
    (.typeError "ChaChaPoly ciphertext is shorter than its tag")
  match cipher.decrypt key nonce aad wireCiphertext with
  | some plaintext => return plaintext
  | none => .error (.error "ChaChaPoly authentication failed")

/-- A sealed text is as long as the plaintext and the tag. -/
theorem length_of_chachaPolySeal {cipher : ChaChaPoly} {key plaintext aad nonce text : List UInt8}
    (h : chachaPolySeal cipher key plaintext aad nonce = .ok text) :
    text.length = plaintext.length + authenticationTagBytes := by
  rw [chachaPolySeal, check_bind_eq_ok] at h
  cases h.2
  exact cipher.length_encrypt key nonce aad plaintext

/-- A sealed text opens to the plaintext. -/
theorem chachaPolyOpen_of_chachaPolySeal {cipher : ChaChaPoly}
    {key plaintext aad nonce text : List UInt8}
    (h : chachaPolySeal cipher key plaintext aad nonce = .ok text) :
    chachaPolyOpen cipher key nonce text aad = .ok plaintext := by
  have hlength := length_of_chachaPolySeal h
  have htag : authenticationTagBytes = 16 := rfl
  rw [chachaPolySeal, check_bind_eq_ok] at h
  obtain ⟨hinput, htext⟩ := h
  cases htext
  rw [chachaPolyOpen, check_bind_eq_ok, check_bind_eq_ok, throwIf_eq_ok, decide_eq_false_iff_not,
    cipher.decrypt_encrypt]
  exact ⟨hinput, by omega, rfl⟩

/-! ### Opening a command -/

/-- `assertCommandEnvelopeTuple`. -/
def assertCommandEnvelopeTuple (command : EncryptedCommandEnvelopeV1) : Except Thrown Unit :=
  let content := command.payload.content
  let keyWrap := command.payload.keyWrap
  throwIf (decide (content.payloadKind ≠ commandPayloadKind command.type)
      || decide (keyWrap.contentId ≠ content.contentId)
      || decide (keyWrap.linkId ≠ command.linkId)
      || decide (keyWrap.linkGeneration ≠ command.linkGeneration)
      || decide (keyWrap.epoch ≠ command.epoch)
      || decide (keyWrap.senderEncryptionKeyId = "")
      || decide (keyWrap.recipientEncryptionKeyId = ""))
    (.typeError "encrypted command envelope tuple is invalid")

/-- What the wrapped key of a command is bound to. -/
def commandWrapAADInput (command : EncryptedCommandEnvelopeV1) : WrapAADInput where
  direction := .watchToBridge
  linkId := command.linkId
  linkGeneration := command.linkGeneration
  epoch := command.epoch
  hostId := command.hostId
  watchDeviceId := command.watchDeviceId
  senderEncryptionKeyId := command.payload.keyWrap.senderEncryptionKeyId
  recipientEncryptionKeyId := command.payload.keyWrap.recipientEncryptionKeyId
  contentId := command.payload.content.contentId
  payloadKind := command.payload.content.payloadKind

/-- What the content of a command is bound to. -/
def commandContentAAD (command : EncryptedCommandEnvelopeV1) :
    Except Thrown (List BindingField) :=
  match command.type with
  | .reply => buildReplyContentAAD {
      hostId := command.hostId
      watchDeviceId := command.watchDeviceId
      sessionId := command.sessionId
      commandId := command.commandId
      targetAlertEventId := command.targetAlertEventId.getD ""
      issuedAt := command.issuedAt.isoText
      expiresAt := command.expiresAt.isoText
      nonce := command.nonce
      contentId := command.payload.content.contentId }
  | .interrupt => buildInterruptContentAAD {
      hostId := command.hostId
      watchDeviceId := command.watchDeviceId
      sessionId := command.sessionId
      commandId := command.commandId
      issuedAt := command.issuedAt
      expiresAt := command.expiresAt
      nonce := command.nonce
      contentId := command.payload.content.contentId }

/-- `JSON.parse(decoder.decode(plaintext))`. The messages are those of the platform. -/
def parseCommandPlaintext (plaintext : List UInt8) : Except Thrown JsonValue :=
  match decodeUtf8 plaintext with
  | none => .error (.typeError "The encoded data was not valid for encoding utf-8")
  | some text =>
      match parseJson text with
      | none => .error (.error "JSON.parse")
      | some parsed => .ok parsed

/-- The canonical plaintext of what was parsed. -/
def canonicalPlaintext (type : CommandType) (parsed : JsonValue) : Except Thrown (List UInt8) :=
  match type with
  | .reply => buildProtectedReplyContentBytes parsed
  | .interrupt => buildProtectedInterruptContentBytes parsed

/-- The text of a reply. -/
def replyText? : JsonValue → Option JsString
  | .object record => string? (JsonObject.get? record "text")
  | _ => none

/-- What `decryptCommandForPin` does under the wrap key. A reply has a text, an interrupt has
none. -/
def openCommandPlaintext (cipher : ChaChaPoly) (wrapKey : List UInt8)
    (command : EncryptedCommandEnvelopeV1) : Except Thrown (Option JsString) := do
  let content := command.payload.content
  let keyWrap := command.payload.keyWrap
  let wrapAAD ← buildWrapAAD (commandWrapAADInput command)
  let dek ← chachaPolyOpen cipher wrapKey keyWrap.nonce keyWrap.ciphertext (bindingBytes wrapAAD)
  let contentAAD ← commandContentAAD command
  let plaintext ← chachaPolyOpen cipher dek content.nonce content.ciphertext
    (bindingBytes contentAAD)
  let parsed ← parseCommandPlaintext plaintext
  let canonical ← canonicalPlaintext command.type parsed
  throwIf (decide (canonical ≠ plaintext))
    (.typeError "decrypted command plaintext is not canonical")
  throwIf (decide (command.type = .interrupt) && !validateProtectedInterruptContentV1 parsed)
    (.typeError "decrypted interrupt is invalid")
  return match command.type with
    | .reply => replyText? parsed
    | .interrupt => none

/-- The primitives with this opening of commands. -/
def NodeCrypto.withCipher (crypto : NodeCrypto) (cipher : ChaChaPoly) : NodeCrypto :=
  { crypto with
    openCommandPlaintext := fun wrapKey command => do
      assertCommandEnvelopeTuple command
      let text ← E2e.openCommandPlaintext cipher wrapKey command
      return text.map displayText }

/-! ### What is returned -/

/-- What the builder of replies accepts: a text within the bound. -/
theorem buildProtectedReplyContentBytes_eq_ok {content : JsonValue} {bytes : List UInt8}
    (h : buildProtectedReplyContentBytes content = .ok bytes) :
    ∃ text, replyText? content = some text ∧ utf8ByteLength text ≤ replyTextBytes ∧
      bytes = encodeUtf8 (stringify (replyContent text)) := by
  obtain ⟨record, hrecord, h⟩ := bind_eq_ok_iff.mp h
  have hcontent : content = .object record := by
    unfold Encryption.assertExactKeys at hrecord
    split at hrecord
    · rw [check_bind_eq_ok, check_bind_eq_ok] at hrecord
      cases hrecord.2.2
      rfl
    · cases hrecord
  cases htext : string? (record.get? "text") with
  | none =>
    rw [htext] at h
    cases h
  | some text =>
    simp only [htext, check_bind_eq_ok, throwIf_eq_ok, Bool.or_eq_false_iff,
      decide_eq_false_iff_not, not_lt, length_encodeUtf8] at h
    obtain ⟨⟨-, hbytes⟩, hcanonical⟩ := h
    cases hcanonical
    rw [hcontent]
    exact ⟨text, htext, hbytes, rfl⟩

/-- A text that is returned is within the bound of replies. -/
theorem openCommandPlaintext_reply {cipher : ChaChaPoly} {wrapKey : List UInt8}
    {command : EncryptedCommandEnvelopeV1} {text : JsString}
    (h : openCommandPlaintext cipher wrapKey command = .ok (some text)) :
    command.type = .reply ∧ utf8ByteLength text ≤ replyTextBytes := by
  unfold openCommandPlaintext at h
  obtain ⟨wrapAAD, -, h⟩ := bind_eq_ok_iff.mp h
  obtain ⟨dek, -, h⟩ := bind_eq_ok_iff.mp h
  obtain ⟨contentAAD, -, h⟩ := bind_eq_ok_iff.mp h
  obtain ⟨plaintext, -, h⟩ := bind_eq_ok_iff.mp h
  obtain ⟨parsed, -, h⟩ := bind_eq_ok_iff.mp h
  obtain ⟨canonical, hcanonical, h⟩ := bind_eq_ok_iff.mp h
  rw [check_bind_eq_ok, check_bind_eq_ok] at h
  obtain ⟨-, -, h⟩ := h
  cases htype : command.type with
  | interrupt =>
    rw [htype] at h
    cases h
  | reply =>
    rw [htype] at h hcanonical
    obtain ⟨found, hfound, hbytes, -⟩ := buildProtectedReplyContentBytes_eq_ok hcanonical
    have heq : replyText? parsed = some text := Except.ok.inj h
    rw [hfound, Option.some.injEq] at heq
    subst heq
    exact ⟨rfl, hbytes⟩

/-- A command that `prepare` returns with a text has a text within the bound of replies. -/
theorem prepare_withCipher {crypto : NodeCrypto} {cipher : ChaChaPoly}
    {keyring : LocalLinkKeyring} {command : EncryptedCommandEnvelopeV1}
    {now : CanonicalTimestamp} {reference : StateStore.PersistedCommandPinReferenceV1}
    {loopback : CommandEnvelope} {text : String}
    (h : keyring.prepare (crypto.withCipher cipher) command now = .ok (reference, loopback))
    (htext : loopback.text = some text) :
    loopback.type = .reply ∧ text.utf8ByteSize ≤ replyTextBytes := by
  obtain ⟨material, -, -, hdecrypt, -⟩ := LocalLinkKeyring.prepare_eq_ok h
  obtain ⟨wrapKey, -, hdecrypt⟩ := bind_eq_ok_iff.mp hdecrypt
  obtain ⟨opened, hopened, hdecrypt⟩ := bind_eq_ok_iff.mp hdecrypt
  obtain ⟨-, hopened⟩ := check_bind_eq_ok.mp hopened
  obtain ⟨found, hfound, hopened⟩ := bind_eq_ok_iff.mp hopened
  cases hdecrypt
  cases hopened
  obtain ⟨units, rfl, rfl⟩ := Option.map_eq_some_iff.mp htext
  obtain ⟨htype, hbytes⟩ := openCommandPlaintext_reply hfound
  rw [← utf8ByteLength_jsString, jsString_displayText, utf8ByteLength_toWellFormed]
  exact ⟨htype, hbytes⟩

end Ariava.E2e
