import Ariava.AgentAdapter.ServerInput
import Ariava.Protocol.JsonText

/-!
# `Ariava.Daemon.RelayClient`: a handle request to the Relay

`RelayClient.handleSession` of `relay-client.ts`, up to the call of `fetch`: the check of the
session id, the JSON body, and the checks on what is signed. An error here is local, for the Relay
has not seen the request.

- `handleSession_ok_iff`: a request is made when the session id is a word of the path alphabet
  with at most 255 characters, and the body has at most 1 MiB;
- `handleBody_fits`: the body is that short when the event id is bounded and the timestamps came
  in a request to the adapter server.
-/

set_option autoImplicit false

namespace Ariava.Daemon

open Ariava.Protocol
open Ariava.AgentAdapter (HandleSessionRequest SessionHandleAction)

/-! ### The body of a request -/

/-- One member of an object whose value is a string. -/
def jsonMember (member : String × JsString) : JsString :=
  quoteJson (jsString member.1) ++ ascii ':' :: quoteJson member.2

/-- `JSON.stringify` of an object whose values are strings. -/
def stringifyMembers (members : List (String × JsString)) : JsString :=
  ascii '{' :: List.intercalate [ascii ','] (members.map jsonMember) ++ [ascii '}']

/-- The text of an action. -/
def handleActionText : SessionHandleAction → JsString
  | .piInput => jsString "pi_input"
  | .bridgeRecovery => jsString "bridge_recovery"

/-- The members of a handle request that are not `undefined`. -/
def handleMembers (request : HandleSessionRequest) : List (String × JsString) :=
  ("handledThroughEventId", request.handledThroughEventId)
    :: (request.handledThroughEventCreatedAt.map fun createdAt =>
        ("handledThroughEventCreatedAt", createdAt)).toList
    ++ (request.handledAt.map fun handledAt => ("handledAt", handledAt)).toList
    ++ (request.action.map fun action => ("action", handleActionText action)).toList

/-- The body of a handle request. -/
def handleBody (request : HandleSessionRequest) : JsString :=
  stringifyMembers (handleMembers request)

/-! ### Requests -/

/-- What a request takes from the client: the identity of its signer, the digest of a body, the
time and the nonce. -/
structure RelaySigner where
  entityId : JsString
  keyId : JsString
  digest : JsString → JsString
  timestamp : JsString
  nonce : JsString

/-- A request as it goes to `fetch`. The signature is over the text of `signed`. -/
structure RelayRequest where
  method : JsString
  target : JsString
  body : JsString
  signed : CanonicalRequest
deriving DecidableEq

/-- `signRequest`, up to the signature. -/
def signRequest (signer : RelaySigner) (input : CanonicalRequestInput) :
    Except Thrown CanonicalRequest := do
  throwIf (decide (input.entityType ≠ jsString "host") || decide (input.entityId ≠ signer.entityId)
      || decide (input.keyId ≠ signer.keyId))
    (.typeError "Signer identity does not match canonical request identity")
  buildCanonicalRequest input

/-- `requestBytes`, up to `fetch`. -/
def requestBytes (signer : RelaySigner) (method path body : JsString) (query : List QueryPair)
    (querySchema : QuerySchema) : Except Thrown RelayRequest := do
  let target ← buildRequestTarget path query querySchema
  let parts := target.splitOn (ascii '?')
  let hash ← contentSha256 signer.digest body
  let signed ← signRequest signer {
    entityType := jsString "host"
    entityId := signer.entityId
    keyId := signer.keyId
    method := method
    path := parts.headD []
    query := .text (parts.tail.headD [])
    querySchema := querySchema
    contentSha256 := hash
    timestamp := signer.timestamp
    nonce := signer.nonce }
  return ⟨method, target, body, signed⟩

/-- The path of a handle request. -/
def handlePath (sessionId : JsString) : JsString :=
  jsString "/v2/bridge/sessions/" ++ sessionId ++ jsString "/handle"

/-- `handleSession`, up to `fetch`: the default query has no pair, and the default schema
supports none. -/
def handleSession (signer : RelaySigner) (sessionId : JsString) (request : HandleSessionRequest) :
    Except Thrown RelayRequest := do
  assertRestrictedDynamicValue sessionId "session ID"
  requestBytes signer (jsString "POST") (handlePath sessionId) (handleBody request) []
    fun _ => none

/-! ### When a request is made -/

section
variable {signer : RelaySigner} {sessionId : JsString} {request : HandleSessionRequest}

theorem handlePath_eq (sessionId : JsString) : handlePath sessionId = pathOf
    [jsString "v2", jsString "bridge", jsString "sessions", sessionId, jsString "handle"] := by
  have hstart : jsString "/v2/bridge/sessions/" = ascii '/' :: jsString "v2" ++ ascii '/'
      :: jsString "bridge" ++ ascii '/' :: jsString "sessions" ++ [ascii '/'] := by decide
  have hend : jsString "/handle" = ascii '/' :: jsString "handle" := by decide
  simp [handlePath, pathOf, hstart, hend, List.intercalate_cons_cons]

theorem length_handlePath (sessionId : JsString) :
    (handlePath sessionId).length = 27 + sessionId.length := by
  have hstart : (jsString "/v2/bridge/sessions/").length = 20 := by decide
  have hend : (jsString "/handle").length = 7 := by decide
  rw [handlePath, List.length_append, List.length_append, hstart, hend]
  omega

theorem handlePath_segments (h : isRestrictedDynamicValue sessionId = true) :
    ∀ segment ∈ [jsString "v2", jsString "bridge", jsString "sessions", sessionId,
      jsString "handle"], isDynamicValue segment = true := by
  simp only [List.forall_mem_cons, List.not_mem_nil, false_imp_iff, implies_true, and_true]
  exact ⟨by decide, by decide, by decide, isRestrictedDynamicValue_iff.mp h, by decide⟩

/-- The path passes when the session id is short enough for a segment. -/
theorem canonicalizePath_handlePath (h : isRestrictedDynamicValue sessionId = true)
    {path : JsString} :
    canonicalizePath (handlePath sessionId) = .ok path ↔
      path = handlePath sessionId ∧ sessionId.length ≤ pathSegmentCharacters := by
  have hshort : (∀ segment ∈ [jsString "v2", jsString "bridge", jsString "sessions", sessionId,
      jsString "handle"], segment.length ≤ pathSegmentCharacters)
      ↔ sessionId.length ≤ pathSegmentCharacters := by
    simp only [List.forall_mem_cons, List.not_mem_nil, false_imp_iff, implies_true, and_true]
    exact ⟨fun hall => hall.2.2.2.1, fun hid => ⟨by decide, by decide, by decide, hid, by decide⟩⟩
  rw [handlePath_eq, canonicalizePath_segments (handlePath_segments h) (by simp), hshort,
    ← handlePath_eq, length_handlePath]
  constructor
  · exact fun hpath => ⟨hpath.1, hpath.2.2⟩
  · intro hpath
    refine ⟨hpath.1, ?_, hpath.2⟩
    have hid := hpath.2
    unfold pathSegmentCharacters at hid
    unfold canonicalPathCharacters
    omega

theorem canonicalizeQueryPairs_nil (schema : QuerySchema) :
    canonicalizeQueryPairs [] schema = .ok [] := by
  simp [canonicalizeQueryPairs, checkQueryPairs, throwIf, bind, Except.bind, pure, Except.pure]

theorem canonicalizeQuery_nil (schema : QuerySchema) :
    canonicalizeQuery (.text []) schema = .ok [] := by
  have hparse : parseQuery [] = .ok [] := by
    simp [parseQuery, assertAscii, throwIf, bind, Except.bind, pure, Except.pure]
  rw [canonicalizeQuery, RequestQuery.toPairs, hparse]
  exact canonicalizeQueryPairs_nil schema

theorem buildRequestTarget_handlePath (h : isRestrictedDynamicValue sessionId = true)
    (schema : QuerySchema) {target : JsString} :
    buildRequestTarget (handlePath sessionId) [] schema = .ok target ↔
      target = handlePath sessionId ∧ sessionId.length ≤ pathSegmentCharacters := by
  rw [buildRequestTarget, bind_eq_ok_iff]
  constructor
  · rintro ⟨path, hpath, htarget⟩
    obtain ⟨rfl, hid⟩ := (canonicalizePath_handlePath h).mp hpath
    rw [canonicalizeQueryPairs_nil] at htarget
    obtain ⟨-, heq⟩ := check_bind_eq_ok.mp htarget
    cases heq
    exact ⟨rfl, hid⟩
  · rintro ⟨rfl, hid⟩
    have hlength : (handlePath sessionId).length ≤ targetCharacters := by
      rw [length_handlePath]
      unfold pathSegmentCharacters at hid
      unfold targetCharacters
      omega
    refine ⟨_, (canonicalizePath_handlePath h).mpr ⟨rfl, hid⟩, ?_⟩
    rw [canonicalizeQueryPairs_nil]
    refine check_bind_eq_ok.mpr ⟨?_, rfl⟩
    simpa using hlength

/-- There is no question mark in the path, so the target splits into the path alone. -/
theorem splitOn_handlePath (h : isRestrictedDynamicValue sessionId = true) :
    (handlePath sessionId).splitOn (ascii '?') = [handlePath sessionId] := by
  refine List.splitOn_eq_singleton ?_
  rw [handlePath_eq]
  exact not_mem_pathOf (handlePath_segments h) (ascii '?') (by decide) (by decide)

/-- What the signer checks of a handle request holds of a path that passed before. -/
theorem signRequest_handlePath (signer : RelaySigner) (h : isRestrictedDynamicValue sessionId = true)
    (hid : sessionId.length ≤ pathSegmentCharacters) (hash : JsString) :
    ∃ signed, signRequest signer {
      entityType := jsString "host"
      entityId := signer.entityId
      keyId := signer.keyId
      method := jsString "POST"
      path := handlePath sessionId
      query := .text []
      querySchema := fun _ => none
      contentSha256 := hash
      timestamp := signer.timestamp
      nonce := signer.nonce } = .ok signed := by
  have hmethod : isMethod (jsString "POST") = true := by decide
  have hcharacters : (jsString "POST").length ≤ methodCharacters := by decide
  have hpath := (canonicalizePath_handlePath h).mpr ⟨rfl, hid⟩
  simp [signRequest, buildCanonicalRequest, throwIf, hmethod, Nat.not_lt.mpr hcharacters, hpath,
    canonicalizeQuery_nil, bind, Except.bind, pure, Except.pure]

/-- A handle request is made when the session id is a word of the path alphabet that fits a
segment, and the body has at most 1 MiB. -/
theorem handleSession_ok_iff : (∃ sent, handleSession signer sessionId request = .ok sent) ↔
    isRestrictedDynamicValue sessionId = true ∧ sessionId.length ≤ pathSegmentCharacters ∧
      utf8ByteLength (handleBody request) ≤ bodyBytes := by
  constructor
  · rintro ⟨sent, hsent⟩
    obtain ⟨hassert, hrequest⟩ := check_bind_eq_ok.mp hsent
    have h : isRestrictedDynamicValue sessionId = true := by
      rwa [assertRestrictedDynamicValue, throwIf_eq_ok, Bool.not_eq_false'] at hassert
    obtain ⟨target, htarget, hrest⟩ := bind_eq_ok_iff.mp hrequest
    obtain ⟨hash, hhash, -⟩ := bind_eq_ok_iff.mp hrest
    exact ⟨h, ((buildRequestTarget_handlePath h _).mp htarget).2,
      (contentSha256_ok_iff.mp hhash).2⟩
  · rintro ⟨h, hid, hbody⟩
    obtain ⟨signed, hsigned⟩ :=
      signRequest_handlePath signer h hid (signer.digest (handleBody request))
    refine ⟨⟨jsString "POST", handlePath sessionId, handleBody request, signed⟩, ?_⟩
    rw [handleSession, check_bind_eq_ok]
    refine ⟨?_, ?_⟩
    · rw [assertRestrictedDynamicValue, throwIf_eq_ok, h]
      rfl
    · refine bind_eq_ok_iff.mpr ⟨_, (buildRequestTarget_handlePath h _).mpr ⟨rfl, hid⟩, ?_⟩
      refine bind_eq_ok_iff.mpr ⟨_, contentSha256_ok_iff.mpr ⟨rfl, hbody⟩, ?_⟩
      simp only [splitOn_handlePath h, List.headD_cons, List.tail_cons, List.headD_nil]
      exact bind_eq_ok_iff.mpr ⟨_, hsigned, rfl⟩

end

/-! ### The size of a body -/

/-- `AGENT_ADAPTER_LIMITS.requestBodyBytes`. -/
def requestBodyBytes : Nat := 262144

/-- The JSON text of a string fits in a request to the adapter server. -/
def FitsRequest (text : JsString) : Prop := utf8ByteLength (quoteJson text) ≤ requestBodyBytes

instance (text : JsString) : Decidable (FitsRequest text) := Nat.decLe _ _

section
variable {pairOpen : Bool} {s : JsString}

/-- A code unit has at most three bytes. -/
theorem utf8ByteLengthFrom_le (pairOpen : Bool) (s : JsString) :
    utf8ByteLengthFrom pairOpen s ≤ 3 * s.length := by
  induction s generalizing pairOpen with
  | nil => simp [utf8ByteLengthFrom]
  | cons unit rest ih =>
    have hclosed := ih false
    have hopen := ih (isHighSurrogate unit)
    rw [utf8ByteLengthFrom, List.length_cons]
    split
    · omega
    · split
      · omega
      · split <;> omega

/-- A code unit has at least one byte. -/
theorem length_le_utf8ByteLengthFrom (pairOpen : Bool) (s : JsString) :
    s.length ≤ utf8ByteLengthFrom pairOpen s := by
  induction s generalizing pairOpen with
  | nil => simp
  | cons unit rest ih =>
    have hclosed := ih false
    have hopen := ih (isHighSurrogate unit)
    rw [utf8ByteLengthFrom, List.length_cons]
    split
    · omega
    · split
      · omega
      · split <;> omega

/-- A high surrogate in front only makes a low one shorter. -/
theorem utf8ByteLengthFrom_le_utf8ByteLength (pairOpen : Bool) (s : JsString) :
    utf8ByteLengthFrom pairOpen s ≤ utf8ByteLength s := by
  cases s with
  | nil => rfl
  | cons unit rest =>
    unfold utf8ByteLength
    rw [utf8ByteLengthFrom, utf8ByteLengthFrom]
    by_cases hlow : (isLowSurrogate unit && pairOpen) = true
    · -- Alone, the low surrogate counts as three bytes.
      have hunit : isLowSurrogate unit = true := by
        rw [Bool.and_eq_true] at hlow
        exact hlow.1
      have hhigh : isHighSurrogate unit = false := by
        simp only [isLowSurrogate, isHighSurrogate, Bool.and_eq_true, decide_eq_true_eq,
          Bool.and_eq_false_iff, decide_eq_false_iff_not, UInt16.le_iff_toNat_le] at hunit ⊢
        simp only [UInt16.reduceToNat] at hunit ⊢
        omega
      rw [if_pos hlow, hhigh]
      simp only [Bool.and_false, Bool.false_eq_true, if_false]
      split
      · omega
      · split <;> omega
    · rw [if_neg hlow]
      simp

theorem utf8ByteLengthFrom_append_le (pairOpen : Bool) (s t : JsString) :
    utf8ByteLengthFrom pairOpen (s ++ t) ≤ utf8ByteLengthFrom pairOpen s + utf8ByteLength t := by
  induction s generalizing pairOpen with
  | nil =>
    rw [List.nil_append, utf8ByteLengthFrom, Nat.zero_add]
    exact utf8ByteLengthFrom_le_utf8ByteLength pairOpen t
  | cons unit rest ih =>
    have hclosed := ih false
    have hopen := ih (isHighSurrogate unit)
    rw [List.cons_append, utf8ByteLengthFrom, utf8ByteLengthFrom]
    split <;> omega

theorem utf8ByteLength_append_le (s t : JsString) :
    utf8ByteLength (s ++ t) ≤ utf8ByteLength s + utf8ByteLength t :=
  utf8ByteLengthFrom_append_le false s t

theorem utf8ByteLength_cons_ascii (unit : UInt16) (hunit : unit < 0x80) (s : JsString) :
    utf8ByteLength (unit :: s) ≤ 1 + utf8ByteLength s := by
  have happend := utf8ByteLength_append_le [unit] s
  have hone : utf8ByteLength [unit] ≤ 1 := by
    simp [utf8ByteLength, utf8ByteLengthFrom, hunit]
  rw [List.singleton_append] at happend
  omega

theorem utf8ByteLength_intercalate_le (separator : JsString) (parts : List JsString) :
    utf8ByteLength (List.intercalate separator parts)
      ≤ (parts.map fun part => utf8ByteLength part + utf8ByteLength separator).sum := by
  induction parts with
  | nil => exact Nat.zero_le _
  | cons part rest ih =>
    cases rest with
    | nil => simp
    | cons next rest =>
      have hpart := utf8ByteLength_append_le (part ++ separator)
        (List.intercalate separator (next :: rest))
      have hseparator := utf8ByteLength_append_le part separator
      rw [List.intercalate_cons_cons, List.map_cons, List.sum_cons]
      omega

theorem length_escapeUnit_le (unit : UInt16) : (escapeUnit unit).length ≤ 6 := by
  unfold escapeUnit unicodeEscape
  split
  · simp
  · repeat (split; · simp)
    simp

/-- An escape has six characters, also for the surrogate before. -/
theorem length_escapeUnits_le (pending : Option UInt16) (s : JsString) :
    (escapeUnits pending s).length ≤ 6 * (s.length + pending.toList.length) := by
  induction s generalizing pending with
  | nil =>
    cases pending with
    | none => simp [escapeUnits]
    | some high => simp [escapeUnits, unicodeEscape]
  | cons unit rest ih =>
    have hnone := ih none
    have hsome := ih (some unit)
    have hunit := length_escapeUnit_le unit
    simp only [Option.toList_none, Option.toList_some, List.length_nil, List.length_singleton]
      at hnone hsome
    cases pending with
    | none =>
      simp only [escapeUnits, Option.toList_none, List.length_nil, List.length_cons]
      split
      · omega
      · split
        · simp [unicodeEscape]
          omega
        · simp only [List.length_append]
          omega
    | some high =>
      simp only [escapeUnits, Option.toList_some, List.length_cons]
      split
      · simp only [List.length_cons]
        omega
      · split
        · simp [unicodeEscape]
          omega
        · simp [unicodeEscape]
          omega

/-- The JSON text of a string of `n` code units has no more than `18 * n + 6` bytes. -/
theorem utf8ByteLength_quoteJson_le (s : JsString) :
    utf8ByteLength (quoteJson s) ≤ 18 * s.length + 6 := by
  have hescape := length_escapeUnits_le none s
  have hbytes := utf8ByteLengthFrom_le false (quoteJson s)
  simp only [Option.toList_none, List.length_nil] at hescape
  simp only [quoteJson, List.length_append, List.length_cons, List.length_nil] at hbytes
  unfold utf8ByteLength
  rw [quoteJson]
  omega

theorem utf8ByteLength_jsonMember_le (member : String × JsString) :
    utf8ByteLength (jsonMember member)
      ≤ 18 * (jsString member.1).length + 7 + utf8ByteLength (quoteJson member.2) := by
  have happend := utf8ByteLength_append_le (quoteJson (jsString member.1))
    (ascii ':' :: quoteJson member.2)
  have hname := utf8ByteLength_quoteJson_le (jsString member.1)
  have hcolon := utf8ByteLength_cons_ascii (ascii ':') (by decide) (quoteJson member.2)
  rw [jsonMember]
  omega

end

/-- A member of a handle request that may be absent. -/
theorem sum_toList_le (value : Option JsString) (name : String) {bound : Nat}
    (hname : (jsString name).length ≤ 28)
    (hvalue : ∀ text ∈ value, utf8ByteLength (quoteJson text) ≤ bound) :
    (((value.map fun text => (name, text)).toList.map jsonMember).map fun part =>
      utf8ByteLength part + utf8ByteLength [ascii ',']).sum ≤ bound + 512 := by
  have hcomma : utf8ByteLength [ascii ','] = 1 := by decide
  cases value with
  | none => simp
  | some text =>
    have hmember := utf8ByteLength_jsonMember_le (name, text)
    have htext := hvalue text rfl
    simp only [Option.map_some, Option.toList_some, List.map_cons, List.map_nil, List.sum_cons,
      List.sum_nil, hcomma]
    dsimp only at hmember
    omega

/-- The body of a handle request fits when its event id is bounded and its times came in a request
to the adapter server. -/
theorem handleBody_fits {request : HandleSessionRequest}
    (hevent : Ariava.AgentAdapter.isBoundedAgentAdapterIdentifier request.handledThroughEventId
      = true)
    (hcreatedAt : ∀ text ∈ request.handledThroughEventCreatedAt, FitsRequest text)
    (hhandledAt : ∀ text ∈ request.handledAt, FitsRequest text) :
    utf8ByteLength (handleBody request) ≤ bodyBytes := by
  -- The event id has at most 256 code units, and each of them at most 18 bytes in the text.
  have hid : utf8ByteLength (quoteJson request.handledThroughEventId) ≤ 4614 := by
    have hquote := utf8ByteLength_quoteJson_le request.handledThroughEventId
    have hlength := length_le_utf8ByteLengthFrom false request.handledThroughEventId
    rw [AgentAdapter.isBoundedAgentAdapterIdentifier, Bool.and_eq_true, decide_eq_true_eq] at hevent
    have hbytes := hevent.2
    unfold utf8ByteLength identifierBytes at hbytes
    omega
  have haction : ∀ text ∈ request.action.map handleActionText,
      utf8ByteLength (quoteJson text) ≤ 276 := by
    intro text htext
    obtain ⟨action, -, rfl⟩ := Option.map_eq_some_iff.mp htext
    cases action
    · decide
    · decide
  have hidMember := sum_toList_le (some request.handledThroughEventId) "handledThroughEventId"
    (by decide) (by simpa using hid)
  have hcreatedMember := sum_toList_le _ "handledThroughEventCreatedAt" (by decide) hcreatedAt
  have hhandledMember := sum_toList_le _ "handledAt" (by decide) hhandledAt
  have hactionMember := sum_toList_le _ "action" (by decide) haction
  have hsum : (((handleMembers request).map jsonMember).map fun part =>
      utf8ByteLength part + utf8ByteLength [ascii ',']).sum ≤ 531226 := by
    simp only [handleMembers, List.map_append, List.sum_append, List.map_cons, List.sum_cons,
      Option.map_some, Option.toList_some, List.map_nil, List.sum_nil, Option.map_map,
      Function.comp_def] at hidMember hactionMember ⊢
    unfold requestBodyBytes at hcreatedMember hhandledMember
    omega
  have hmembers := utf8ByteLength_intercalate_le [ascii ',']
    ((handleMembers request).map jsonMember)
  have hclose := utf8ByteLength_append_le
    (ascii '{' :: List.intercalate [ascii ','] ((handleMembers request).map jsonMember))
    [ascii '}']
  have hopen := utf8ByteLength_cons_ascii (ascii '{') (by decide)
    (List.intercalate [ascii ','] ((handleMembers request).map jsonMember))
  have hbrace : utf8ByteLength [ascii '}'] = 1 := by decide
  rw [handleBody, stringifyMembers]
  unfold bodyBytes
  omega

end Ariava.Daemon
