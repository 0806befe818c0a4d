import Mathlib.Data.List.Nodup
import Ariava.AgentAdapter.FingerprintBytes
import Ariava.Proofs.StateMigration
import Ariava.Protocol.JsonRoundTrip

/-!
# `Ariava.Proofs.ProducerFingerprint`: what the fingerprint of a producer event says

The bytes that `producerEventFingerprint` hashes are those of the producer content, which is read
off the event by its keys (`producerContent?`): the identifiers, type, status and time of the
event, its texts, and the context of a `need_human` event. `fingerprintBytes_iff` says that the
bytes are equal exactly when the contents are.

* Both JSON texts determine their values (`stringify_inj`), and the values determine the content,
  property by property (`get?_objectLiteral_cons`). The frames of the length-prefixed fields do the
  rest.
* The event is looked up by key only, so neither the order of its properties nor those that the
  Bridge assigns change anything, an error included.
-/

set_option autoImplicit false

namespace Ariava.Proofs.ProducerFingerprint

open Ariava.AgentAdapter.FingerprintBytes
open Ariava.Protocol
open Ariava.Protocol.CommandValues
open Ariava.Proofs.StateMigration (get?_objectLiteral_cons get?_objectLiteral_nil)
open Ariava.StateStore.RawState (objectLiteral)

/-! ### The content of an event -/

/-- `NeedHumanError`. -/
structure NeedHumanErrorContent where
  kind : JsString
  message : JsString
  providerCode : Option JsString

/-- `NeedHumanContext`: a reason alone, or the reason `error` with the error. -/
inductive NeedHumanContent
  | reason (reason : JsString)
  | error (error : NeedHumanErrorContent)

/-- `AgentAdapterEventInput`: the semantic fields of a producer event. -/
structure ProducerContent where
  sessionId : JsString
  provider : JsString
  type : JsString
  status : JsString
  createdAt : JsString
  agentText : JsString
  humanText : Option JsString
  projectName : Option JsString
  workingDirectory : Option JsString
  harnessProvider : Option JsString
  needHuman : Option NeedHumanContent

/-- A property of the type `string | undefined`. -/
def optionalString? : Option JsonValue → Option (Option JsString)
  | none => some none
  | some (.string value) => some (some value)
  | some _ => none

/-- A `NeedHumanError`, off its record. -/
def needHumanErrorContent? : Option JsonValue → Option NeedHumanErrorContent
  | some (.object error) => do
      let kind ← string? (JsonObject.get? error "kind")
      let message ← string? (JsonObject.get? error "message")
      let providerCode ← optionalString? (JsonObject.get? error "providerCode")
      match JsonObject.get? error "retryExhausted" with
      | some (.bool true) => some ⟨kind, message, providerCode⟩
      | _ => none
  | _ => none

/-- A `NeedHumanContext`, off its record. -/
def needHumanContent? : JsonValue → Option NeedHumanContent
  | .object context => do
      let reason ← string? (JsonObject.get? context "reason")
      if reason = jsString "error" then
        (needHumanErrorContent? (JsonObject.get? context "error")).map .error
      else some (.reason reason)
  | _ => none

/-- A property of the type `NeedHumanContext | undefined`. -/
def optionalNeedHuman? : Option JsonValue → Option (Option NeedHumanContent)
  | none => some none
  | some value => (needHumanContent? value).map some

/-- The content of an event whose properties have their types. -/
def producerContent? (event : JsonObject) : Option ProducerContent := do
  let sessionId ← string? (event.get? "sessionId")
  let provider ← string? (event.get? "provider")
  let type ← string? (event.get? "type")
  let status ← string? (event.get? "status")
  let createdAt ← string? (event.get? "createdAt")
  let agentText ← string? (event.get? "agentText")
  let humanText ← optionalString? (event.get? "humanText")
  let projectName ← optionalString? (event.get? "projectName")
  let workingDirectory ← optionalString? (event.get? "workingDirectory")
  let harnessProvider ← optionalString? (event.get? "harnessProvider")
  let needHuman ← optionalNeedHuman? (event.get? "needHuman")
  return ⟨sessionId, provider, type, status, createdAt, agentText, humanText, projectName,
    workingDirectory, harnessProvider, needHuman⟩

/-! ### The canonical values -/

/-- The canonical record of an error. -/
def NeedHumanErrorContent.value (error : NeedHumanErrorContent) : JsonValue :=
  .object (objectLiteral [("kind", some (.string error.kind)),
    ("message", some (.string error.message)),
    ("providerCode", error.providerCode.map .string), ("retryExhausted", some (.bool true))])

/-- The canonical record of a context. -/
def NeedHumanContent.value : NeedHumanContent → JsonValue
  | .reason text => .object (objectLiteral [("reason", some (.string text))])
  | .error content => .object (objectLiteral [("reason", some (textValue "error")),
      ("error", some content.value)])

/-- The public metadata of a content. -/
def ProducerContent.metadata (content : ProducerContent) : JsonValue :=
  .object (objectLiteral [("sessionId", some (.string content.sessionId)),
    ("provider", some (.string content.provider)), ("type", some (.string content.type)),
    ("status", some (.string content.status)), ("createdAt", some (.string content.createdAt))])

/-- The protected part of a content. -/
def ProducerContent.protectedValue (content : ProducerContent) : JsonValue :=
  .object (objectLiteral [("version", some (numberValue 3)),
    ("agentText", some (.string content.agentText)),
    ("humanText", content.humanText.map .string),
    ("projectName", content.projectName.map .string),
    ("workingDirectory", content.workingDirectory.map .string),
    ("harnessProvider", content.harnessProvider.map .string),
    ("needHuman", content.needHuman.map NeedHumanContent.value)])

/-- The bytes that stand for a content. -/
def ProducerContent.canonicalBytes (content : ProducerContent) : List UInt8 :=
  AgentAdapter.FingerprintBytes.encodeLengthPrefixedFields [jsString "ariava-producer-event-fingerprint-v1",
    stringify content.metadata,
    Base64Url.base64UrlEncode (encodeUtf8 (stringify content.protectedValue))]

/-! ### Lookups -/

theorem get?_of_perm {left right : JsonObject} (hnodup : (left.map Prod.fst).Nodup)
    (h : left.Perm right) (key : String) : left.get? key = right.get? key := by
  have hsome : ∀ {obj : JsonObject}, (obj.map Prod.fst).Nodup → ∀ value,
      obj.get? key = some value ↔ (jsString key, value) ∈ obj := by
    intro obj hobj value
    rw [JsonObject.get?, Option.map_eq_some_iff]
    constructor
    · rintro ⟨property, hfind, rfl⟩
      have hkey := List.find?_some hfind
      rw [decide_eq_true_eq] at hkey
      rw [← hkey]
      exact List.mem_of_find?_eq_some hfind
    · intro hmem
      refine ⟨(jsString key, value), ?_, rfl⟩
      -- Another property with the key would be the same one.
      cases hfind : obj.find? fun property => decide (property.1 = jsString key) with
      | none => simpa using List.find?_eq_none.mp hfind _ hmem
      | some property =>
        have hkey := List.find?_some hfind
        rw [decide_eq_true_eq] at hkey
        have hfound := List.mem_of_find?_eq_some hfind
        exact congrArg some (List.inj_on_of_nodup_map hobj hfound hmem hkey)
  have hright : (right.map Prod.fst).Nodup := (h.map Prod.fst).nodup_iff.mp hnodup
  ext value
  rw [hsome hnodup value, hsome hright value, h.mem_iff]

/-! ### The content and the values -/

/-- A record of defined members comes back from its text. -/
theorem isReadable_objectLiteral {members : List (String × Option JsonValue)}
    (hnodup : (members.map Prod.fst).Nodup)
    (hindex : ∀ member ∈ members, arrayIndex? (jsString member.1) = none)
    (hvalues : ∀ member ∈ members, ∀ value ∈ member.2, IsReadable value) :
    IsReadable (.object (objectLiteral members)) := by
  constructor
  · have hkeys : (objectLiteral members).map Prod.fst
        = (members.filter fun member => member.2.isSome).map fun member => jsString member.1 := by
      clear hnodup hindex hvalues
      induction members with
      | nil => rfl
      | cons member rest ih =>
        obtain ⟨name, value⟩ := member
        cases value with
        | none => simpa [objectLiteral] using ih
        | some value => simpa [objectLiteral] using ih
    rw [hkeys]
    have hsub : ((members.filter fun member => member.2.isSome).map Prod.fst).Nodup :=
      hnodup.sublist (List.filter_sublist.map _)
    have hmap := (List.nodup_map_iff jsString_injective).mpr hsub
    rwa [List.map_map] at hmap
  · rw [readableProperties_iff]
    intro property hmem
    obtain ⟨member, hmember, hproperty⟩ := List.mem_filterMap.mp hmem
    obtain ⟨value, hvalue, rfl⟩ := Option.map_eq_some_iff.mp hproperty
    exact ⟨hindex member hmember, hvalues member hmember value hvalue⟩

theorem isReadable_metadata (content : ProducerContent) : IsReadable content.metadata := by
  have hindex : ∀ name ∈ ["sessionId", "provider", "type", "status", "createdAt"],
      arrayIndex? (jsString name) = none := by decide
  apply isReadable_objectLiteral
  · simp
  · simpa using hindex
  · simp [IsReadable]

theorem isReadable_error (error : NeedHumanErrorContent) : IsReadable error.value := by
  have hindex : ∀ name ∈ ["kind", "message", "providerCode", "retryExhausted"],
      arrayIndex? (jsString name) = none := by decide
  apply isReadable_objectLiteral
  · simp
  · simpa using hindex
  · simp [IsReadable]

theorem isReadable_context (context : NeedHumanContent) : IsReadable context.value := by
  have hindex : ∀ name ∈ ["reason", "error"], arrayIndex? (jsString name) = none := by decide
  cases context with
  | reason text =>
    apply isReadable_objectLiteral
    · simp
    · simpa using hindex "reason" (by simp)
    · simp [IsReadable]
  | error content =>
    apply isReadable_objectLiteral
    · simp
    · simpa using hindex
    · simp [IsReadable, textValue, isReadable_error]

theorem isReadable_protectedValue (content : ProducerContent) :
    IsReadable content.protectedValue := by
  have hindex : ∀ name ∈ ["version", "agentText", "humanText", "projectName", "workingDirectory",
      "harnessProvider", "needHuman"], arrayIndex? (jsString name) = none := by decide
  have hversion : IsReadable (numberValue 3) := ⟨3, by decide, rfl⟩
  apply isReadable_objectLiteral
  · simp
  · simpa using hindex
  · simp [IsReadable, hversion, isReadable_context]

theorem string?_eq_some {value : Option JsonValue} {text : JsString} :
    string? value = some text ↔ value = some (.string text) := by
  rcases value with _ | value
  · simp [string?]
  · cases value <;> simp [string?]

theorem optionalString?_eq_some {value : Option JsonValue} {text : Option JsString} :
    optionalString? value = some text ↔ value = text.map .string := by
  rcases value with _ | value
  · cases text <;> simp [optionalString?]
  · cases value <;> cases text <;> simp [optionalString?]

/-- The canonical record of an error says what is read off it. -/
theorem canonicalNeedHumanError_eq {value : Option JsonValue} {error : NeedHumanErrorContent}
    (h : needHumanErrorContent? value = some error) :
    canonicalNeedHumanError value = some error.value := by
  unfold needHumanErrorContent? at h
  split at h
  · rename_i record
    simp only [Option.bind_eq_bind, Option.bind_eq_some_iff, string?_eq_some,
      optionalString?_eq_some] at h
    obtain ⟨kind, hkind, message, hmessage, providerCode, hprovider, h⟩ := h
    split at h
    · rename_i hexhausted
      cases h
      simp only [canonicalNeedHumanError, hkind, hmessage, hprovider, hexhausted,
        NeedHumanErrorContent.value]
    · cases h
  · cases h

/-- The canonical record of a context says what is read off it. -/
theorem canonicalNeedHumanContext_eq {value : JsonValue} {context : NeedHumanContent}
    (h : needHumanContent? value = some context) :
    canonicalNeedHumanContext value = context.value := by
  unfold needHumanContent? at h
  split at h
  · rename_i record
    simp only [Option.bind_eq_bind, Option.bind_eq_some_iff, string?_eq_some] at h
    obtain ⟨reason, hreason, h⟩ := h
    split at h
    · rename_i herror
      obtain ⟨error, hcontent, rfl⟩ := Option.map_eq_some_iff.mp h
      rw [canonicalNeedHumanContext, hreason, if_pos (by simp [isText, herror]),
        canonicalNeedHumanError_eq hcontent]
      rfl
    · rename_i herror
      cases h
      rw [canonicalNeedHumanContext, hreason, if_neg (by simpa [isText] using herror)]
      rfl
  · cases h

theorem optionalNeedHuman?_eq {value : Option JsonValue} {context : Option NeedHumanContent}
    (h : optionalNeedHuman? value = some context) :
    value.map canonicalNeedHumanContext = context.map NeedHumanContent.value := by
  cases value with
  | none =>
    cases h
    rfl
  | some value =>
    obtain ⟨context, hcontext, rfl⟩ := Option.map_eq_some_iff.mp h
    rw [Option.map_some, Option.map_some, canonicalNeedHumanContext_eq hcontext]

/-- The two records that are written for an event are those of its content. -/
theorem written_eq {event : JsonObject} {content : ProducerContent}
    (h : producerContent? event = some content) :
    publicMetadata event = content.metadata ∧
      canonicalEventContent (protectedContent event) = content.protectedValue := by
  simp only [producerContent?, Option.bind_eq_bind, Option.bind_eq_some_iff, string?_eq_some,
    optionalString?_eq_some] at h
  obtain ⟨sessionId, hsessionId, provider, hprovider, type, htype, status, hstatus, createdAt,
    hcreatedAt, agentText, hagentText, humanText, hhumanText, projectName, hprojectName,
    workingDirectory, hworkingDirectory, harnessProvider, hharnessProvider, needHuman, hneedHuman,
    h⟩ := h
  cases h
  have hcontext := optionalNeedHuman?_eq hneedHuman
  constructor
  · simp only [publicMetadata, ProducerContent.metadata, hsessionId, hprovider, htype, hstatus,
      hcreatedAt]
  · rw [canonicalEventContent, ProducerContent.protectedValue, ← hcontext]
    simp [protectedContent, get?_objectLiteral_cons, hagentText, hhumanText, hprojectName,
      hworkingDirectory, hharnessProvider]

/-! ### The values determine the content -/

/-- Two records of the same members are equal when each member is. -/
theorem objectLiteral_inj {fields others : List (String × Option JsonValue)}
    (hnames : fields.map Prod.fst = others.map Prod.fst) (hnodup : (fields.map Prod.fst).Nodup)
    (h : objectLiteral fields = objectLiteral others) : fields = others := by
  -- A key of a record is the name of one of its members.
  have hkey : ∀ {fields : List (String × Option JsonValue)} {name value},
      (jsString name, value) ∈ objectLiteral fields → name ∈ fields.map Prod.fst := by
    intro fields name value hmem
    obtain ⟨field, hfield, hproperty⟩ := List.mem_filterMap.mp hmem
    obtain ⟨found, -, heq⟩ := Option.map_eq_some_iff.mp hproperty
    rw [Prod.mk.injEq] at heq
    rw [← jsString_injective heq.1]
    exact List.mem_map_of_mem hfield
  induction fields generalizing others with
  | nil => exact (List.map_eq_nil_iff.mp hnames.symm).symm
  | cons field rest ih =>
    obtain ⟨name, value⟩ := field
    cases others with
    | nil => cases hnames
    | cons other rest' =>
      obtain ⟨name', value'⟩ := other
      rw [List.map_cons, List.map_cons, List.cons.injEq] at hnames
      obtain ⟨rfl, hrest⟩ := hnames
      rw [List.map_cons, List.nodup_cons] at hnodup
      have hrecord : ∀ value (fields : List (String × Option JsonValue)),
          objectLiteral ((name, value) :: fields)
            = (value.map fun found => (jsString name, found)).toList ++ objectLiteral fields := by
        intro value fields
        cases value <;> simp [objectLiteral]
      rw [hrecord, hrecord] at h
      cases value with
      | none =>
        cases value' with
        | none => rw [ih hrest hnodup.2 h]
        | some found' =>
          have hmem : (jsString name, found') ∈ objectLiteral rest := by
            simp only [Option.map_none, Option.toList_none, List.nil_append] at h
            rw [h]
            exact List.mem_cons_self
          exact absurd (hkey hmem) hnodup.1
      | some found =>
        cases value' with
        | none =>
          have hmem : (jsString name, found) ∈ objectLiteral rest' := by
            simp only [Option.map_none, Option.toList_none, List.nil_append] at h
            rw [← h]
            exact List.mem_cons_self
          rw [hrest] at hnodup
          exact absurd (hkey hmem) hnodup.1
        | some found' =>
          simp only [Option.map_some, Option.toList_some, List.singleton_append, List.cons.injEq,
            Prod.mk.injEq, true_and] at h
          rw [h.1, ih hrest hnodup.2 h.2]

theorem map_string_inj {text other : Option JsString} :
    text.map JsonValue.string = other.map .string ↔ text = other := by
  constructor
  · intro h
    cases text <;> cases other <;> simp_all
  · rintro rfl
    rfl

theorem NeedHumanErrorContent.value_inj {error other : NeedHumanErrorContent}
    (h : error.value = other.value) : error = other := by
  have hfields := objectLiteral_inj (by simp) (by simp) (JsonValue.object.inj h)
  simp only [List.cons.injEq, Prod.mk.injEq, Option.some.injEq, JsonValue.string.injEq,
    map_string_inj, true_and, and_true] at hfields
  cases error
  cases other
  simp_all

theorem NeedHumanContent.value_inj {context other : NeedHumanContent}
    (h : context.value = other.value) : context = other := by
  -- A reason alone is a record without an error.
  have hreason : ∀ text, (NeedHumanContent.reason text).value
      = .object (objectLiteral [("reason", some (.string text)), ("error", none)]) := fun _ => rfl
  cases context with
  | reason text =>
    cases other with
    | reason text' =>
      rw [hreason, hreason] at h
      have hfields := objectLiteral_inj (by simp) (by simp) (JsonValue.object.inj h)
      simp_all
    | error content =>
      rw [hreason] at h
      have hfields := objectLiteral_inj (by simp) (by simp) (JsonValue.object.inj h)
      simp at hfields
  | error content =>
    cases other with
    | reason text =>
      rw [hreason] at h
      have hfields := objectLiteral_inj (by simp) (by simp) (JsonValue.object.inj h)
      simp at hfields
    | error content' =>
      have hfields := objectLiteral_inj (by simp) (by simp) (JsonValue.object.inj h)
      simp only [List.cons.injEq, Prod.mk.injEq, Option.some.injEq, true_and, and_true] at hfields
      rw [NeedHumanErrorContent.value_inj hfields]

theorem map_context_inj {context other : Option NeedHumanContent}
    (h : context.map NeedHumanContent.value = other.map NeedHumanContent.value) :
    context = other := by
  cases context with
  | none => cases other <;> simp_all
  | some context =>
    cases other with
    | none => simp at h
    | some other =>
      simp only [Option.map_some, Option.some.injEq] at h
      rw [NeedHumanContent.value_inj h]

/-- The two records of a content determine it. -/
theorem ProducerContent.eq_of_values {content other : ProducerContent}
    (hmetadata : content.metadata = other.metadata)
    (hprotected : content.protectedValue = other.protectedValue) : content = other := by
  have hpublic := objectLiteral_inj (by simp) (by simp) (JsonValue.object.inj hmetadata)
  have hfields := objectLiteral_inj (by simp) (by simp) (JsonValue.object.inj hprotected)
  simp only [List.cons.injEq, Prod.mk.injEq, Option.some.injEq, JsonValue.string.injEq,
    map_string_inj, true_and, and_true] at hpublic hfields
  have hneed := map_context_inj hfields.2.2.2.2.2
  cases content
  cases other
  simp_all

/-- A well-formed string is determined by its text. -/
theorem displayText_inj {s t : JsString} (hs : isWellFormedUnicode s = true)
    (ht : isWellFormedUnicode t = true) (h : displayText s = displayText t) : s = t := by
  rw [← toWellFormed_eq_self hs, ← toWellFormed_eq_self ht, ← jsString_displayText,
    ← jsString_displayText, h]

theorem isWellFormedUnicode_base64UrlEncode (bytes : List UInt8) :
    isWellFormedUnicode (Base64Url.base64UrlEncode bytes) = true := by
  rw [Base64Url.base64UrlEncode_eq_wireText]
  exact isWellFormedUnicode_jsString _

/-- Different contents have different bytes. -/
theorem ProducerContent.canonicalBytes_injective :
    Function.Injective ProducerContent.canonicalBytes := by
  intro content other h
  have hfields := encodeLengthPrefixedFields_injective h
  simp only [List.map_cons, List.map_nil, List.cons.injEq, and_true, true_and] at hfields
  have hmetadata := displayText_inj (isWellFormedUnicode_stringify _)
    (isWellFormedUnicode_stringify _) hfields.1
  have hprotected := Base64Url.base64UrlEncode_injective (displayText_inj
    (isWellFormedUnicode_base64UrlEncode _) (isWellFormedUnicode_base64UrlEncode _) hfields.2)
  exact ProducerContent.eq_of_values
    (stringify_inj (isReadable_metadata content) (isReadable_metadata other) hmetadata)
    (encodeUtf8_stringify_inj (isReadable_protectedValue content)
      (isReadable_protectedValue other) hprotected)

/-- The bytes of an event are those of its content. -/
theorem producerEventFingerprintBytes_eq {checks : NeedHumanChecks} {event : JsonObject}
    {content : ProducerContent} {bytes : List UInt8} (h : producerContent? event = some content)
    (hbytes : producerEventFingerprintBytes checks event = .ok bytes) :
    bytes = content.canonicalBytes := by
  obtain ⟨hmetadata, hprotected⟩ := written_eq h
  obtain ⟨protectedBytes, hbuild, hbytes⟩ := bind_eq_ok_iff.mp hbytes
  rw [buildProtectedEventContentBytes, check_bind_eq_ok, check_bind_eq_ok] at hbuild
  cases hbuild.2.2
  cases hbytes
  rw [hmetadata, hprotected]
  rfl

/-- The fingerprint looks an event up at these keys only. -/
theorem producerEventFingerprintBytes_congr (checks : NeedHumanChecks) {event other : JsonObject}
    (h : ∀ key ∈ ["sessionId", "provider", "type", "status", "createdAt", "agentText", "humanText",
      "projectName", "workingDirectory", "harnessProvider", "needHuman"],
      event.get? key = other.get? key) :
    producerEventFingerprintBytes checks event = producerEventFingerprintBytes checks other := by
  have hmetadata : publicMetadata event = publicMetadata other := by
    simp [publicMetadata, h]
  have hprotected : protectedContent event = protectedContent other := by
    simp [protectedContent, h]
  rw [producerEventFingerprintBytes, producerEventFingerprintBytes, hmetadata, hprotected]

/-- The keys that the Bridge assigns. -/
def bridgeKeys : List JsString := [jsString "eventId", jsString "hostId"]

/-- An event without the properties that the Bridge assigns. -/
def producerPart (event : JsonObject) : JsonObject :=
  event.filter fun property => decide (property.1 ∉ bridgeKeys)

theorem get?_producerPart {key : String} (h : jsString key ∉ bridgeKeys) (event : JsonObject) :
    (producerPart event).get? key = event.get? key := by
  rw [producerPart, JsonObject.get?, JsonObject.get?, List.find?_filter]
  congr 2
  funext property
  by_cases hkey : property.1 = jsString key
  · simp [hkey, h]
  · simp [hkey]

/-- The bytes that are hashed for two producer events are equal exactly when their contents are,
in any order of the properties, and whatever the Bridge assigned to them. -/
theorem fingerprintBytes_iff (checks : NeedHumanChecks) :
    (∀ (event other : JsonObject) (content content' : ProducerContent) (bytes bytes' : List UInt8),
      producerContent? event = some content → producerContent? other = some content' →
      producerEventFingerprintBytes checks event = .ok bytes →
      producerEventFingerprintBytes checks other = .ok bytes' →
        (bytes = bytes' ↔ content = content')) ∧
    (∀ event other : JsonObject, (event.map Prod.fst).Nodup → event.Perm other →
      producerEventFingerprintBytes checks event = producerEventFingerprintBytes checks other) ∧
    ∀ event other : JsonObject, producerPart event = producerPart other →
      producerEventFingerprintBytes checks event
        = producerEventFingerprintBytes checks other := by
  refine ⟨?_, ?_, ?_⟩
  · intro event other content content' bytes bytes' hevent hother hbytes hbytes'
    rw [producerEventFingerprintBytes_eq hevent hbytes,
      producerEventFingerprintBytes_eq hother hbytes']
    exact ProducerContent.canonicalBytes_injective.eq_iff
  · intro event other hnodup hperm
    apply producerEventFingerprintBytes_congr
    intro key _
    exact get?_of_perm hnodup hperm key
  · intro event other hpart
    have hkeys : ∀ key ∈ ["sessionId", "provider", "type", "status", "createdAt", "agentText",
        "humanText", "projectName", "workingDirectory", "harnessProvider", "needHuman"],
        jsString key ∉ bridgeKeys := by decide
    apply producerEventFingerprintBytes_congr
    intro key hkey
    rw [← get?_producerPart (hkeys key hkey), hpart, get?_producerPart (hkeys key hkey)]

/-- A `done` event with this text. -/
def sampleEvent (agentText : String) : JsonObject :=
  [(jsString "sessionId", textValue "session"), (jsString "provider", textValue "pi"),
    (jsString "type", textValue "done"), (jsString "status", textValue "idle"),
    (jsString "createdAt", textValue "2026-01-01T00:00:00.000Z"),
    (jsString "agentText", textValue agentText)]

/-- The content of the `done` event. -/
def sampleContent (agentText : String) : ProducerContent where
  sessionId := jsString "session"
  provider := jsString "pi"
  type := jsString "done"
  status := jsString "idle"
  createdAt := jsString "2026-01-01T00:00:00.000Z"
  agentText := jsString agentText
  humanText := none
  projectName := none
  workingDirectory := none
  harnessProvider := none
  needHuman := none

/-- Two events that differ in their text are hashed from different bytes. -/
theorem fingerprintBytes_iff_sample : ∃ bytes bytes',
    producerEventFingerprintBytes ⟨fun _ => true, fun _ => true⟩ (sampleEvent "yes") = .ok bytes ∧
      producerEventFingerprintBytes ⟨fun _ => true, fun _ => true⟩ (sampleEvent "no") = .ok bytes' ∧
      bytes ≠ bytes' := by
  have hcontent : ∀ text, producerContent? (sampleEvent text) = some (sampleContent text) := by
    intro text
    simp [producerContent?, sampleEvent, sampleContent, JsonObject.get?, jsString_inj, textValue,
      string?, optionalString?, optionalNeedHuman?]
  have hok : ∀ text ∈ ["yes", "no"], (producerEventFingerprintBytes ⟨fun _ => true, fun _ => true⟩
      (sampleEvent text)).toBool = true := by decide +kernel
  have hbytes : ∀ text ∈ ["yes", "no"], ∃ bytes, producerEventFingerprintBytes
      ⟨fun _ => true, fun _ => true⟩ (sampleEvent text) = .ok bytes := by
    intro text htext
    cases hresult : producerEventFingerprintBytes ⟨fun _ => true, fun _ => true⟩
        (sampleEvent text) with
    | ok bytes => exact ⟨bytes, rfl⟩
    | error thrown =>
      have hfalse := hok text htext
      rw [hresult] at hfalse
      cases hfalse
  obtain ⟨bytes, hyes⟩ := hbytes "yes" (by simp)
  obtain ⟨bytes', hno⟩ := hbytes "no" (by simp)
  refine ⟨bytes, bytes', hyes, hno, ?_⟩
  rw [ne_eq, (fingerprintBytes_iff _).1 _ _ _ _ _ _ (hcontent "yes") (hcontent "no") hyes hno]
  simp [sampleContent, jsString_inj]

end Ariava.Proofs.ProducerFingerprint
