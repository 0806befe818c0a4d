import Mathlib.Tactic.Cases
import Ariava.E2e.KeyringCodec
import Ariava.Protocol.ContentAssociatedData

/-!
# `Ariava.Proofs.DomainSeparation`: no two contexts share a binding

`BindingInput` is any input of a builder of `encryption.ts` that encodes its fields with
`encodeLengthPrefixedFields`, and `build` is that builder: it throws on an input it rejects and
else returns the bytes.

* `build_injective`: two inputs that build the same bytes have the same domain and the same
  encoded fields.

The bytes determine the list of texts (`bindingBytes_inj`). The first text is the domain, and a
domain belongs to one builder (`kindOfDomain_domain`). Within a builder the texts determine the
fields, one by one. The optional fields need the builder's checks: an event id or a timestamp
that is present is never empty, so it differs from an absent one.

`encoded` blanks what a builder does not encode: the signature of a key binding, and the
difference between an absent suite and the one suite there is.
-/

set_option autoImplicit false

namespace Ariava.Proofs.DomainSeparation

open Ariava.Protocol
open Ariava.E2e

/-! ### Inputs and builders -/

/-- The zeros that stand for a signature while a key binding is checked. -/
def base64UrlZeros (bytes : Nat) : List UInt8 := List.replicate bytes 0

/-- A key binding as `assertValidEncryptionBinding` checks it, its signature blanked. -/
def unsignedBinding (binding : EncryptionKeyBindingV1) : EncryptionKeyBindingV1 :=
  { binding with bindingSignature := base64UrlZeros 64 }

/-- `buildEncryptionBindingBytes`. -/
def buildEncryptionBindingFields (binding : EncryptionKeyBindingV1) :
    Except Thrown (List BindingField) := do
  throwIf (!validateEncryptionKeyBindingV1 (unsignedBinding binding))
    (.typeError "encryption key binding is not canonical")
  return encryptionBindingFields binding

/-- `buildEncryptedCommandEnvelopeBindingBytes`. -/
def buildEncryptedCommandEnvelopeBindingFields (command : EncryptedCommandEnvelopeV1) :
    Except Thrown (List BindingField) := do
  throwIf (!validateEncryptedCommandEnvelopeV1 command)
    (.typeError "encrypted command envelope is invalid")
  return encryptedCommandBindingFields command

/-- `buildCommandReceiptEnvelopeBindingBytes`. -/
def buildCommandReceiptEnvelopeBindingFields (receipt : CommandReceiptEnvelopeV1) :
    Except Thrown (List BindingField) := do
  throwIf (!validateCommandReceiptEnvelopeV1 receipt)
    (.typeError "command receipt envelope is invalid")
  return commandReceiptBindingFields receipt

/-- The input of one of the builders. -/
inductive BindingInput
  | encryptionKey (binding : EncryptionKeyBindingV1)
  | linkTranscript (input : LinkTranscriptInput)
  | confirmationProof (role : ProofRole) (transcriptDigest : String)
  | safetyCode (transcriptDigest : String) (linkGeneration epoch : Nat)
  | eventContent (input : EventContentAADInput)
  | sessionContent (input : SessionContentAADInput)
  | replyContent (input : ReplyContentAADInput)
  | interruptContent (input : InterruptContentAADInput)
  | commandReceiptContent (input : CommandReceiptContentAADInput)
  | notificationPreview (input : NotificationPreviewAADInput)
  | wrap (input : WrapAADInput)
  | encryptedCommand (command : EncryptedCommandEnvelopeV1)
  | commandReceipt (receipt : CommandReceiptEnvelopeV1)

namespace BindingInput

/-- The field list that the builder of an input encodes. -/
def fields : BindingInput → Except Thrown (List BindingField)
  | encryptionKey binding => buildEncryptionBindingFields binding
  | linkTranscript input => .ok (buildLinkTranscriptFields input)
  | confirmationProof role digest => .ok (buildConfirmationProofFields role digest)
  | safetyCode digest linkGeneration epoch => .ok (buildSafetyCodeFields digest linkGeneration epoch)
  | eventContent input => buildEventContentAAD input
  | sessionContent input => buildSessionContentAAD input
  | replyContent input => buildReplyContentAAD input
  | interruptContent input => buildInterruptContentAAD input
  | commandReceiptContent input => buildCommandReceiptContentAAD input
  | notificationPreview input => buildNotificationPreviewAAD input
  | wrap input => buildWrapAAD input
  | encryptedCommand command => buildEncryptedCommandEnvelopeBindingFields command
  | commandReceipt receipt => buildCommandReceiptEnvelopeBindingFields receipt

/-- The builder of an input. -/
def build (input : BindingInput) : Except Thrown (List UInt8) := do
  return bindingBytes (← input.fields)

/-- The domain of a binding, its first field. -/
def domain : BindingInput → String
  | encryptionKey _ => "ariava-e2e-binding-v1"
  | linkTranscript _ => "ariava-e2e-link-transcript-v1"
  | confirmationProof .. => "ariava-e2e-confirmation-proof-v1"
  | safetyCode .. => "ariava-e2e-safety-code-v1"
  | eventContent _ => "ariava-event-content-aad-v3"
  | sessionContent _ => "ariava-session-content-aad-v3"
  | replyContent _ => "ariava-content-aad-v1"
  | interruptContent _ => "ariava-interrupt-content-aad-v1"
  | commandReceiptContent _ => "ariava-command-receipt-content-aad-v1"
  | notificationPreview _ => "ariava-notification-preview-aad-v2"
  | wrap input => wrapAADDomain input.payloadKind
  | encryptedCommand _ => "ariava-encrypted-command-binding-v1"
  | commandReceipt _ => "ariava-command-receipt-binding-v1"

/-- The input with what the builder does not encode set to one value. -/
def encoded : BindingInput → BindingInput
  | encryptionKey binding => encryptionKey (unsignedBinding binding)
  | linkTranscript input => linkTranscript { input with suite := some (input.suite.getD .v1) }
  | input => input

/-- The checks that a builder makes. -/
def Accepted : BindingInput → Prop
  | encryptionKey binding => validateEncryptionKeyBindingV1 (unsignedBinding binding) = true
  | eventContent input => isEventContentAADInput input = true
  | sessionContent input => isSessionContentAADInput input = true
  | replyContent input => isIdentifier input.contentId = true
  | interruptContent input => isCommandAADBase input = true
  | commandReceiptContent input => isCommandReceiptContentAADInput input = true
  | notificationPreview input => isNotificationPreviewAADInput input = true
  | wrap input => isWrapAADInput input = true
  | encryptedCommand command => validateEncryptedCommandEnvelopeV1 command = true
  | commandReceipt receipt => validateCommandReceiptEnvelopeV1 receipt = true
  | _ => True

/-- The fields of an accepted input. -/
def fieldList : BindingInput → List BindingField
  | encryptionKey binding => encryptionBindingFields binding
  | linkTranscript input => buildLinkTranscriptFields input
  | confirmationProof role digest => buildConfirmationProofFields role digest
  | safetyCode digest linkGeneration epoch => buildSafetyCodeFields digest linkGeneration epoch
  | eventContent input => eventContentAADFields input
  | sessionContent input => sessionContentAADFields input
  | replyContent input => replyContentAADFields input
  | interruptContent input => interruptContentAADFields input
  | commandReceiptContent input => commandReceiptContentAADFields input
  | notificationPreview input => notificationPreviewAADFields input
  | wrap input => wrapAADFields input
  | encryptedCommand command => encryptedCommandBindingFields command
  | commandReceipt receipt => commandReceiptBindingFields receipt

/-- A guarded builder returns exactly on the inputs its check accepts. -/
theorem guard_eq_ok {check : Bool} {error : Thrown} {list result : List BindingField}
    (h : (throwIf (!check) error >>= fun _ => Except.ok list) = .ok result) :
    check = true ∧ result = list := by
  obtain ⟨hcheck, hresult⟩ := check_bind_eq_ok.mp h
  rw [throwIf_eq_ok, Bool.not_eq_false'] at hcheck
  exact ⟨hcheck, (Except.ok.inj hresult).symm⟩

/-- What a builder returns, and what it has checked. -/
theorem fields_eq_ok {input : BindingInput} {list : List BindingField}
    (h : input.fields = .ok list) : input.Accepted ∧ list = input.fieldList := by
  cases input with
  | linkTranscript | confirmationProof | safetyCode =>
    exact ⟨trivial, (Except.ok.inj h).symm⟩
  | encryptionKey | eventContent | sessionContent | replyContent | interruptContent
  | commandReceiptContent | notificationPreview | wrap | encryptedCommand | commandReceipt =>
    exact guard_eq_ok h

/-- The bytes of an accepted input. -/
theorem build_eq_ok {input : BindingInput} {bytes : List UInt8} (h : input.build = .ok bytes) :
    input.Accepted ∧ bytes = bindingBytes input.fieldList := by
  obtain ⟨list, hfields, hbytes⟩ := bind_eq_ok_iff.mp h
  obtain ⟨haccepted, rfl⟩ := fields_eq_ok hfields
  exact ⟨haccepted, (Except.ok.inj hbytes).symm⟩

/-! ### The domain names the builder -/

/-- The domain is the first field. -/
theorem head_fieldList (input : BindingInput) :
    (input.fieldList.map BindingField.wireText).head? = some input.domain := by
  cases input <;> rfl

/-- The number of a builder. -/
def kind : BindingInput → Nat
  | encryptionKey _ => 0
  | linkTranscript _ => 1
  | confirmationProof .. => 2
  | safetyCode .. => 3
  | eventContent _ => 4
  | sessionContent _ => 5
  | replyContent _ => 6
  | interruptContent _ => 7
  | commandReceiptContent _ => 8
  | notificationPreview _ => 9
  | wrap _ => 10
  | encryptedCommand _ => 11
  | commandReceipt _ => 12

/-- The builder that uses a domain. -/
def kindOfDomain (text : String) : Nat :=
  ["ariava-e2e-binding-v1", "ariava-e2e-link-transcript-v1", "ariava-e2e-confirmation-proof-v1",
    "ariava-e2e-safety-code-v1", "ariava-event-content-aad-v3", "ariava-session-content-aad-v3",
    "ariava-content-aad-v1", "ariava-interrupt-content-aad-v1",
    "ariava-command-receipt-content-aad-v1", "ariava-notification-preview-aad-v2",
    "ariava-wrap-aad-v1", "ariava-encrypted-command-binding-v1",
    "ariava-command-receipt-binding-v1"].idxOf
      (if text = "ariava-wrap-aad-v2" then "ariava-wrap-aad-v1" else text)

theorem kindOfDomain_domain (input : BindingInput) : kindOfDomain input.domain = input.kind := by
  cases input with
  | wrap input =>
    rw [domain, kind]
    cases input.payloadKind <;> decide +kernel
  | encryptionKey | linkTranscript | confirmationProof | safetyCode | eventContent
  | sessionContent | replyContent | interruptContent | commandReceiptContent
  | notificationPreview | encryptedCommand | commandReceipt =>
    rw [domain, kind]
    decide +kernel

end BindingInput

/-! ### Texts of enumerations and of optional fields -/

theorem payloadKind_text_injective : Function.Injective ProtectedPayloadKind.text := by
  intro a b h
  cases a <;> cases b <;> first | rfl | exact absurd h (by decide)

theorem commandType_text_injective : Function.Injective CommandType.text := by
  intro a b h
  cases a <;> cases b <;> first | rfl | exact absurd h (by decide)

theorem direction_text_injective : Function.Injective E2EDirection.text := by
  intro a b h
  cases a <;> cases b <;> first | rfl | exact absurd h (by decide)

theorem sessionStatus_text_injective : Function.Injective SessionStatus.text := by
  intro a b h
  cases a <;> cases b <;> first | rfl | exact absurd h (by decide)

theorem eventType_text_injective : Function.Injective Protocol.EventType.text := by
  intro a b h
  cases a <;> cases b <;> first | rfl | exact absurd h (by decide)

theorem entityType_text_injective : Function.Injective EntityType.text := by
  intro a b h
  cases a <;> cases b <;> first | rfl | exact absurd h (by decide)

theorem proofRole_text_injective : Function.Injective ProofRole.text := by
  intro a b h
  cases a <;> cases b <;> first | rfl | exact absurd h (by decide)

/-- An optional text that is never empty is determined by its value or the empty text. -/
theorem optionalText_inj {a b : Option String} (ha : ∀ s ∈ a, s ≠ "") (hb : ∀ s ∈ b, s ≠ "")
    (h : a.getD "" = b.getD "") : a = b := by
  cases a with
  | none =>
    cases b with
    | none => rfl
    | some s => exact absurd h.symm (hb s rfl)
  | some s =>
    cases b with
    | none => exact absurd h (ha s rfl)
    | some s' => exact congrArg some h

theorem isoText_ne_empty (t : CanonicalTimestamp) : t.isoText ≠ "" := by
  intro h
  have hlist := congrArg String.toList h
  rw [CanonicalTimestamp.isoText, String.toList_ofList] at hlist
  simp [isoChars] at hlist

theorem ne_empty_of_isIdentifier {s : String} (h : isIdentifier s = true) : s ≠ "" :=
  isNonEmptyString_iff.mp (isIdentifier_nonEmpty h)

/-! ### One builder at a time -/

theorem encryptionKey_inj {a b : EncryptionKeyBindingV1}
    (h : (encryptionBindingFields a).map BindingField.wireText
      = (encryptionBindingFields b).map BindingField.wireText) :
    unsignedBinding a = unsignedBinding b := by
  simp only [encryptionBindingFields, List.map_cons, List.map_nil, List.cons.injEq, and_true,
    true_and, wireText_text_inj, wireText_number_inj, wireText_instant_inj,
    wireText_bytes_inj] at h
  obtain ⟨htype, hid, hidentity, hkey, hsequence, hcreated, hpublic⟩ := h
  simp only [unsignedBinding, EncryptionKeyBindingV1.mk.injEq, and_true]
  exact ⟨entityType_text_injective htype, hid, hidentity, hkey, hpublic, hsequence, hcreated⟩

theorem linkTranscript_inj {a b : LinkTranscriptInput}
    (h : (buildLinkTranscriptFields a).map BindingField.wireText
      = (buildLinkTranscriptFields b).map BindingField.wireText) :
    ({ a with suite := some (a.suite.getD .v1) } : LinkTranscriptInput)
      = { b with suite := some (b.suite.getD .v1) } := by
  simp only [buildLinkTranscriptFields, List.map_cons, List.map_nil, List.cons.injEq, and_true,
    true_and, wireText_text_inj, wireText_number_inj] at h
  obtain ⟨hlink, hhost, hwatch, hgeneration, hepoch, hostDigest, watchDigest⟩ := h
  simp only [LinkTranscriptInput.mk.injEq, and_true]
  exact ⟨hlink, hhost, hwatch, hgeneration, hepoch, hostDigest, watchDigest⟩

theorem eventContent_inj {a b : EventContentAADInput}
    (h : (eventContentAADFields a).map BindingField.wireText
      = (eventContentAADFields b).map BindingField.wireText) : a = b := by
  simp only [eventContentAADFields, List.map_cons, List.map_nil, List.cons.injEq, and_true,
    true_and, wireText_text_inj, wireText_instant_inj] at h
  obtain ⟨hhost, hsession, hprovider, hevent, htype, hstatus, hcreated, hcontent⟩ := h
  cases a
  cases b
  rw [EventContentAADInput.mk.injEq]
  exact ⟨hhost, hsession, hprovider, hevent, eventType_text_injective htype,
    sessionStatus_text_injective hstatus, hcreated, hcontent⟩

theorem sessionContent_inj {a b : SessionContentAADInput}
    (ha : isSessionContentAADInput a = true) (hb : isSessionContentAADInput b = true)
    (h : (sessionContentAADFields a).map BindingField.wireText
      = (sessionContentAADFields b).map BindingField.wireText) : a = b := by
  have hlast : ∀ input : SessionContentAADInput, isSessionContentAADInput input = true →
      ∀ eventId ∈ input.lastEventId, eventId ≠ "" := by
    intro input hinput eventId hmem
    simp only [isSessionContentAADInput, isCanonicalOptionalAADString, Bool.and_eq_true] at hinput
    have hall := hinput.1.2
    rw [Option.mem_def.mp hmem] at hall
    exact ne_empty_of_isIdentifier hall
  have hsnooze : ∀ input : SessionContentAADInput,
      ∀ text ∈ input.snoozedUntil.map CanonicalTimestamp.isoText, text ≠ "" := by
    intro input text hmem
    obtain ⟨t, -, rfl⟩ := Option.map_eq_some_iff.mp hmem
    exact isoText_ne_empty t
  simp only [sessionContentAADFields, List.map_cons, List.map_nil, List.cons.injEq, and_true,
    true_and, wireText_text_inj, wireText_instant_inj, wireText_number_inj] at h
  obtain ⟨hhost, hsession, hprovider, hstatus, hupdated, hevent, hsnoozed, hrevision, hcontent⟩ := h
  have hevent' := optionalText_inj (hlast a ha) (hlast b hb) hevent
  have hsnoozed' : a.snoozedUntil = b.snoozedUntil :=
    Option.map_injective isoText_injective (optionalText_inj (hsnooze a) (hsnooze b) hsnoozed)
  cases a
  cases b
  rw [SessionContentAADInput.mk.injEq]
  exact ⟨hhost, hsession, hprovider, sessionStatus_text_injective hstatus, hupdated, hevent',
    hsnoozed', hrevision, hcontent⟩

theorem replyContent_inj {a b : ReplyContentAADInput}
    (h : (replyContentAADFields a).map BindingField.wireText
      = (replyContentAADFields b).map BindingField.wireText) : a = b := by
  simp only [replyContentAADFields, List.map_cons, List.map_nil, List.cons.injEq, and_true,
    true_and, wireText_text_inj] at h
  obtain ⟨hhost, hwatch, hsession, hcommand, htarget, hissued, hexpires, hnonce, hcontent⟩ := h
  cases a
  cases b
  rw [ReplyContentAADInput.mk.injEq]
  exact ⟨hhost, hwatch, hsession, hcommand, htarget, hissued, hexpires, hnonce, hcontent⟩

theorem interruptContent_inj {a b : InterruptContentAADInput}
    (h : (interruptContentAADFields a).map BindingField.wireText
      = (interruptContentAADFields b).map BindingField.wireText) : a = b := by
  simp only [interruptContentAADFields, List.map_cons, List.map_nil, List.cons.injEq, and_true,
    true_and, wireText_text_inj, wireText_instant_inj] at h
  obtain ⟨hhost, hwatch, hsession, hcommand, hissued, hexpires, hnonce, hcontent⟩ := h
  cases a
  cases b
  rw [InterruptContentAADInput.mk.injEq]
  exact ⟨hhost, hwatch, hsession, hcommand, hissued, hexpires, hnonce, hcontent⟩

theorem commandReceiptContent_inj {a b : CommandReceiptContentAADInput}
    (h : (commandReceiptContentAADFields a).map BindingField.wireText
      = (commandReceiptContentAADFields b).map BindingField.wireText) : a = b := by
  simp only [commandReceiptContentAADFields, List.map_cons, List.map_nil, List.cons.injEq,
    and_true, true_and, wireText_text_inj, wireText_instant_inj] at h
  obtain ⟨hhost, hwatch, hsession, hcommand, htype, hdigest, hcompleted, hcontent⟩ := h
  cases a
  cases b
  rw [CommandReceiptContentAADInput.mk.injEq]
  exact ⟨hhost, hwatch, hsession, hcommand, commandType_text_injective htype, hdigest,
    hcompleted, hcontent⟩

theorem notificationPreview_inj {a b : NotificationPreviewAADInput}
    (h : (notificationPreviewAADFields a).map BindingField.wireText
      = (notificationPreviewAADFields b).map BindingField.wireText) : a = b := by
  simp only [notificationPreviewAADFields, List.map_cons, List.map_nil, List.cons.injEq,
    and_true, true_and, wireText_text_inj, wireText_number_inj] at h
  obtain ⟨hhost, hwatch, hevent, hsession, htype, hlink, hgeneration, hepoch, hsender,
    hrecipient, hcontent, hkind⟩ := h
  cases a
  cases b
  rw [NotificationPreviewAADInput.mk.injEq]
  exact ⟨hhost, hwatch, hevent, hsession, eventType_text_injective htype, hlink, hgeneration,
    hepoch, hsender, hrecipient, hcontent, payloadKind_text_injective hkind⟩

theorem wrap_inj {a b : WrapAADInput}
    (h : (wrapAADFields a).map BindingField.wireText
      = (wrapAADFields b).map BindingField.wireText) : a = b := by
  simp only [wrapAADFields, List.map_cons, List.map_nil, List.cons.injEq, and_true,
    wireText_text_inj, wireText_number_inj] at h
  obtain ⟨-, hdirection, hlink, hgeneration, hepoch, hhost, hwatch, hsender, hrecipient,
    hcontent, hkind⟩ := h
  cases a
  cases b
  rw [WrapAADInput.mk.injEq]
  exact ⟨direction_text_injective hdirection, hlink, hgeneration, hepoch, hhost, hwatch, hsender,
    hrecipient, hcontent, payloadKind_text_injective hkind⟩

/-- The bound fields of a content and a wrap determine both. -/
theorem payload_inj {a b : EncryptedContentV1} {v w : RecipientKeyWrapV1}
    (h : (contentBindingFields a ++ wrapBindingFields v).map BindingField.wireText
      = (contentBindingFields b ++ wrapBindingFields w).map BindingField.wireText) :
    a = b ∧ v = w := by
  simp only [contentBindingFields, wrapBindingFields, List.cons_append, List.nil_append,
    List.map_cons, List.map_nil, List.cons.injEq, and_true, true_and, wireText_text_inj,
    wireText_number_inj, wireText_bytes_inj] at h
  obtain ⟨hcontent, hkind, hnonce, hcipher, hwrap, hlink, hgeneration, hepoch, hsender,
    hrecipient, hwrapNonce, hwrapped⟩ := h
  cases a
  cases b
  cases v
  cases w
  rw [EncryptedContentV1.mk.injEq, RecipientKeyWrapV1.mk.injEq]
  exact ⟨⟨hcontent, payloadKind_text_injective hkind, hnonce, hcipher⟩, hwrap, hlink,
    hgeneration, hepoch, hsender, hrecipient, hwrapNonce, hwrapped⟩

/-- The target of a valid command is an identifier or absent, as its type says. -/
theorem target_ne_empty {command : EncryptedCommandEnvelopeV1}
    (h : validateEncryptedCommandEnvelopeV1 command = true) :
    ∀ eventId ∈ command.targetAlertEventId, eventId ≠ "" := by
  intro eventId hmem
  rw [validateEncryptedCommandEnvelopeV1, Bool.and_eq_true] at h
  have htarget := h.2
  rw [Option.mem_def.mp hmem] at htarget
  cases htype : command.type with
  | reply =>
    rw [htype] at htarget
    exact ne_empty_of_isIdentifier htarget
  | interrupt =>
    rw [htype] at htarget
    simp [validateTargetAlertEventId] at htarget

theorem encryptedCommand_inj {a b : EncryptedCommandEnvelopeV1}
    (ha : validateEncryptedCommandEnvelopeV1 a = true)
    (hb : validateEncryptedCommandEnvelopeV1 b = true)
    (h : (encryptedCommandBindingFields a).map BindingField.wireText
      = (encryptedCommandBindingFields b).map BindingField.wireText) : a = b := by
  simp only [encryptedCommandBindingFields, List.cons_append,
    List.nil_append, List.map_cons, List.cons.injEq, true_and, wireText_text_inj,
    wireText_instant_inj, wireText_number_inj] at h
  obtain ⟨hhost, hwatch, hsession, hcommand, htype, htarget, hissued, hexpires, hnonce, hlink,
    hgeneration, hepoch, hpayload⟩ := h
  obtain ⟨hcontent, hwrap⟩ := payload_inj hpayload
  have htarget' := optionalText_inj (target_ne_empty ha) (target_ne_empty hb) htarget
  cases a with | mk _ _ _ _ payload
  cases b with | mk _ _ _ _ payload'
  cases payload
  cases payload'
  rw [EncryptedCommandEnvelopeV1.mk.injEq, EncryptedPayloadForRecipientV1.mk.injEq]
  exact ⟨commandType_text_injective htype, hcommand, hhost, hsession, ⟨hcontent, hwrap⟩, htarget',
    hissued, hexpires, hnonce, hwatch, hlink, hgeneration, hepoch⟩

theorem commandReceipt_inj {a b : CommandReceiptEnvelopeV1}
    (h : (commandReceiptBindingFields a).map BindingField.wireText
      = (commandReceiptBindingFields b).map BindingField.wireText) : a = b := by
  simp only [commandReceiptBindingFields, List.cons_append,
    List.nil_append, List.map_cons, List.cons.injEq, true_and, wireText_text_inj,
    wireText_instant_inj, wireText_number_inj] at h
  obtain ⟨hhost, hwatch, hsession, hcommand, htype, hdigest, hcompleted, hlink, hgeneration,
    hepoch, hpayload⟩ := h
  obtain ⟨hcontent, hwrap⟩ := payload_inj hpayload
  cases a
  cases b
  rw [CommandReceiptEnvelopeV1.mk.injEq]
  exact ⟨hhost, hwatch, hsession, hcommand, commandType_text_injective htype, hdigest,
    hcompleted, hlink, hgeneration, hepoch, hcontent, hwrap⟩

/-! ### All builders -/

namespace BindingInput

/-- Accepted inputs of one builder with the same texts have the same encoded fields. -/
theorem encoded_eq_of_kind_eq {a b : BindingInput} (hkind : a.kind = b.kind)
    (ha : a.Accepted) (hb : b.Accepted)
    (h : a.fieldList.map BindingField.wireText = b.fieldList.map BindingField.wireText) :
    a.encoded = b.encoded := by
  cases a <;> cases b <;> simp only [kind, Nat.reduceEqDiff] at hkind
  case encryptionKey.encryptionKey => exact congrArg encryptionKey (encryptionKey_inj h)
  case linkTranscript.linkTranscript => exact congrArg linkTranscript (linkTranscript_inj h)
  case confirmationProof.confirmationProof =>
    simp only [fieldList, buildConfirmationProofFields, List.map_cons, List.map_nil,
      List.cons.injEq, and_true, true_and, wireText_text_inj] at h
    rw [proofRole_text_injective h.1, h.2]
  case safetyCode.safetyCode =>
    simp only [fieldList, buildSafetyCodeFields, List.map_cons, List.map_nil, List.cons.injEq,
      and_true, true_and, wireText_text_inj, wireText_number_inj] at h
    rw [h.1, h.2.1, h.2.2]
  case eventContent.eventContent => exact congrArg eventContent (eventContent_inj h)
  case sessionContent.sessionContent =>
    exact congrArg sessionContent (sessionContent_inj ha hb h)
  case replyContent.replyContent => exact congrArg replyContent (replyContent_inj h)
  case interruptContent.interruptContent =>
    exact congrArg interruptContent (interruptContent_inj h)
  case commandReceiptContent.commandReceiptContent =>
    exact congrArg commandReceiptContent (commandReceiptContent_inj h)
  case notificationPreview.notificationPreview =>
    exact congrArg notificationPreview (notificationPreview_inj h)
  case wrap.wrap => exact congrArg wrap (wrap_inj h)
  case encryptedCommand.encryptedCommand =>
    exact congrArg encryptedCommand (encryptedCommand_inj ha hb h)
  case commandReceipt.commandReceipt => exact congrArg commandReceipt (commandReceipt_inj h)

/-- Two inputs that build the same bytes have the same domain and the same encoded fields. -/
theorem build_injective {a b : BindingInput} {bytes : List UInt8} (ha : a.build = .ok bytes)
    (hb : b.build = .ok bytes) : a.domain = b.domain ∧ a.encoded = b.encoded := by
  obtain ⟨haccepted, hbytes⟩ := build_eq_ok ha
  obtain ⟨hbccepted, hbytes'⟩ := build_eq_ok hb
  have htexts : a.fieldList.map BindingField.wireText = b.fieldList.map BindingField.wireText :=
    bindingBytes_inj (hbytes.symm.trans hbytes')
  have hdomain : a.domain = b.domain := by
    have hhead := head_fieldList a
    rw [htexts, head_fieldList b] at hhead
    exact (Option.some.inj hhead).symm
  have hkind : a.kind = b.kind := by
    rw [← kindOfDomain_domain, ← kindOfDomain_domain, hdomain]
  exact ⟨hdomain, encoded_eq_of_kind_eq hkind haccepted hbccepted htexts⟩

/-- A transcript, with its suite given or left out. -/
def sampleTranscript (suite : Option E2ESuite) : BindingInput :=
  linkTranscript ⟨"link", "host", "watch", 1, 1, "hostDigest", "watchDigest", suite⟩

/-- A transcript with the suite left out builds the bytes of the same transcript with it. -/
theorem build_injective_sampleTranscript :
    (sampleTranscript none).domain = (sampleTranscript (some .v1)).domain ∧
      (sampleTranscript none).encoded = (sampleTranscript (some .v1)).encoded :=
  @build_injective (sampleTranscript none) (sampleTranscript (some .v1)) _ rfl rfl

end BindingInput

end Ariava.Proofs.DomainSeparation
