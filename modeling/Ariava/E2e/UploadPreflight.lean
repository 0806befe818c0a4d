import Ariava.Protocol.ProtectedContent
import Ariava.Protocol.Uploads

/-!
# `Ariava.E2e.UploadPreflight`: can a Session or an event be encrypted?

`upload-inputs.ts` and `upload-preflight.ts`. The encryption inputs are modelled with their
protected contents; the public metadata beside them is read by the encryption alone.

`preflightSessionSource` and `preflightEventSource` answer `ready` with a digest of the source,
or say why the source cannot be published. Only the two error classes that are about the source
become an answer, and every other error is thrown on.

- `preflightSessionSource_ready_iff`, `preflightEventSource_ready_iff`: when the answer is
  `ready`.
-/

set_option autoImplicit false

namespace Ariava.E2e

open Ariava.Protocol

/-! ### The encryption inputs -/

/-- `new PendingUploadBindingError(message)`. -/
def pendingUploadBindingError (message : String) : Thrown := ⟨.pendingUploadBinding, message⟩

/-- `assertNeedHumanHasLastEventId`. -/
def assertNeedHumanHasLastEventId (session : CanonicalSessionState) : Except Thrown Unit :=
  throwIf (decide (session.status = .needHuman) && decide (session.lastEventId.getD "" = ""))
    (pendingUploadBindingError "need_human Session requires lastEventId")

/-- The `protectedSession` of `sessionEncryptionInput`. -/
def protectedSessionContent (session : CanonicalSessionState) : ProtectedSessionContentV3 where
  projectName := session.projectName
  nameText := session.nameText
  openingText := session.openingText
  latestActivityText := session.latestActivityText
  workingDirectory := session.workingDirectory
  harnessProvider := session.harnessProvider

/-- `sessionEncryptionInput`. -/
def sessionEncryptionInput (session : CanonicalSessionState) :
    Except Thrown ProtectedSessionContentV3 := do
  assertNeedHumanHasLastEventId session
  return protectedSessionContent session

/-- `assertEventSessionBinding` of `upload-inputs.ts`. -/
def assertEventSessionBinding (event : CanonicalEvent) (session : CanonicalSessionState) :
    Except Thrown Unit :=
  throwIf (decide (event.hostId ≠ session.hostId) || decide (event.sessionId ≠ session.sessionId)
      || decide (event.provider ≠ session.provider) || decide (event.status ≠ session.status)
      || decide (session.lastEventId ≠ some event.eventId))
    (pendingUploadBindingError
      "Event upload requires its corresponding terminal Session snapshot")

/-- The `needHuman` of a `need_human` event. -/
def needHumanOf : EventKind → Option NeedHumanContext
  | .done => none
  | .needHuman context => some context

/-- The `protectedEvent` of `eventEncryptionInput`. -/
def protectedEventContent (event : CanonicalEvent) : ProtectedEventContentV3 where
  agentText := event.agentText
  humanText := event.humanText
  projectName := event.projectName
  workingDirectory := event.workingDirectory
  harnessProvider := event.harnessProvider
  needHuman := needHumanOf event.kind

/-- `eventEncryptionInput`. -/
def eventEncryptionInput (event : CanonicalEvent) (session : CanonicalSessionState) :
    Except Thrown (ProtectedEventContentV3 × ProtectedSessionContentV3) := do
  assertEventSessionBinding event session
  let protectedSession ← sessionEncryptionInput session
  return (protectedEventContent event, protectedSession)

/-! ### The source digests -/

/-- The wire text of a Session status. -/
def sessionStatusText : SessionStatus → String
  | .idle => "idle"
  | .working => "working"
  | .needHuman => "need_human"

/-- The wire text of an event type. -/
def eventTypeText : EventType → String
  | .done => "done"
  | .needHuman => "need_human"

section
variable (text : ProtocolText)

/-- `sessionSourceDigest`. The namespace line goes before the length-prefixed fields. -/
def sessionSourceDigest (session : CanonicalSessionState) : Except Thrown String := do
  let protectedSession ← sessionEncryptionInput session
  let content ← buildProtectedSessionContent protectedSession
  return text.hash.digest [.text "ariava:session-upload-source:v1\n", .text session.hostId,
    .text session.sessionId, .text session.provider, .text (sessionStatusText session.status),
    .text session.updatedAt, .text (session.lastEventId.getD ""),
    .text (session.snoozedUntil.getD ""), .bytes content.toUTF8.toList]

/-- `eventSourceDigest`. -/
def eventSourceDigest (event : CanonicalEvent) (session : CanonicalSessionState) :
    Except Thrown String := do
  let (protectedEvent, protectedSession) ← eventEncryptionInput event session
  let eventContent ← buildProtectedEventContent text protectedEvent
  let sessionContent ← buildProtectedSessionContent protectedSession
  return text.hash.digest [.text "ariava:event-upload-source:v1\n", .text event.eventId,
    .text event.hostId, .text event.sessionId, .text event.provider,
    .text (eventTypeText event.kind.type), .text (sessionStatusText event.status),
    .text event.createdAt, .text session.updatedAt, .text (session.snoozedUntil.getD ""),
    .bytes eventContent.toUTF8.toList, .bytes sessionContent.toUTF8.toList]

/-- `digestsEqual`. -/
def digestsEqual (left right : String) : Bool :=
  isVerifier left && isVerifier right && decide (left = right)

/-! ### The preflights -/

/-- The `code` of a content that is not valid. -/
inductive ProtectedContentErrorCode
  | protectedSessionInvalid
  | protectedEventInvalid
deriving DecidableEq

/-- `LocalUploadPreflight`. -/
inductive LocalUploadPreflight
  | ready (sourceDigest : String)
  | invalidContent (code : ProtectedContentErrorCode)
  | invalidSourceBinding
deriving DecidableEq

/-- The `catch` of the preflights. The code is that of the content under way. -/
def preflightFailure (code : ProtectedContentErrorCode) (thrown : Thrown) :
    Except Thrown LocalUploadPreflight :=
  match thrown.errorClass with
  | .protectedContentValidation => .ok (.invalidContent code)
  | .pendingUploadBinding => .ok .invalidSourceBinding
  | _ => .error thrown

/-- `preflightSessionSource`. -/
def preflightSessionSource (session : CanonicalSessionState) :
    Except Thrown LocalUploadPreflight :=
  match sessionEncryptionInput session >>= buildProtectedSessionContent with
  | .error thrown => preflightFailure .protectedSessionInvalid thrown
  | .ok _ => do return .ready (← sessionSourceDigest text session)

/-- `preflightEventSource`. -/
def preflightEventSource (event : CanonicalEvent) (session : CanonicalSessionState) :
    Except Thrown LocalUploadPreflight :=
  match eventEncryptionInput event session with
  | .error thrown => preflightFailure .protectedEventInvalid thrown
  | .ok (protectedEvent, protectedSession) =>
      match buildProtectedEventContent text protectedEvent with
      | .error thrown => preflightFailure .protectedEventInvalid thrown
      | .ok _ =>
          match buildProtectedSessionContent protectedSession with
          | .error thrown => preflightFailure .protectedSessionInvalid thrown
          | .ok _ => do return .ready (← eventSourceDigest text event session)

/-! ### When a source is ready -/

/-- The preflight is `ready`. -/
def IsReady (preflight : Except Thrown LocalUploadPreflight) : Prop :=
  ∃ sourceDigest, preflight = .ok (.ready sourceDigest)

end

theorem not_isReady_preflightFailure (code : ProtectedContentErrorCode) (thrown : Thrown) :
    ¬IsReady (preflightFailure code thrown) := by
  rintro ⟨sourceDigest, h⟩
  unfold preflightFailure at h
  split at h <;> cases h

section
variable {text : ProtocolText} {event : CanonicalEvent} {session : CanonicalSessionState}

/-- A Session is ready when a waiting Session has its event, and its content is within the
limit. -/
theorem preflightSessionSource_ready_iff :
    IsReady (preflightSessionSource text session) ↔
      assertNeedHumanHasLastEventId session = .ok () ∧
        ∃ content, buildProtectedSessionContent (protectedSessionContent session)
          = .ok content := by
  unfold preflightSessionSource sessionSourceDigest
  rcases hwaiting : assertNeedHumanHasLastEventId session with thrown | _
  · have hinput : sessionEncryptionInput session = .error thrown := by
      rw [sessionEncryptionInput, hwaiting]
      rfl
    rw [hinput]
    refine iff_of_false (not_isReady_preflightFailure _ _) ?_
    rintro ⟨h, -⟩
    cases h
  · have hinput : sessionEncryptionInput session = .ok (protectedSessionContent session) := by
      rw [sessionEncryptionInput, hwaiting]
      rfl
    simp only [hinput, bind, Except.bind]
    rcases buildProtectedSessionContent (protectedSessionContent session) with
      thrown | content
    · refine iff_of_false (not_isReady_preflightFailure _ _) ?_
      rintro ⟨-, _, h⟩
      cases h
    · exact iff_of_true ⟨_, rfl⟩ ⟨trivial, content, rfl⟩

/-- An event is ready when it is bound to its Session, the Session is ready, and the content
of the event is within its limit. -/
theorem preflightEventSource_ready_iff :
    IsReady (preflightEventSource text event session) ↔
      assertEventSessionBinding event session = .ok () ∧
        (∃ content, buildProtectedEventContent text (protectedEventContent event) = .ok content) ∧
          IsReady (preflightSessionSource text session) := by
  rw [preflightSessionSource_ready_iff]
  unfold preflightEventSource eventSourceDigest
  rcases hbinding : assertEventSessionBinding event session with thrown | _
  · have hinput : eventEncryptionInput event session = .error thrown := by
      rw [eventEncryptionInput, hbinding]
      rfl
    rw [hinput]
    refine iff_of_false (not_isReady_preflightFailure _ _) ?_
    rintro ⟨h, -⟩
    cases h
  rcases hwaiting : assertNeedHumanHasLastEventId session with thrown | _
  · have hinput : eventEncryptionInput event session = .error thrown := by
      rw [eventEncryptionInput, hbinding, sessionEncryptionInput, hwaiting]
      rfl
    rw [hinput]
    refine iff_of_false (not_isReady_preflightFailure _ _) ?_
    rintro ⟨-, -, h, -⟩
    cases h
  have hinput : eventEncryptionInput event session
      = .ok (protectedEventContent event, protectedSessionContent session) := by
    rw [eventEncryptionInput, hbinding, sessionEncryptionInput, hwaiting]
    rfl
  simp only [hinput, bind, Except.bind]
  rcases buildProtectedEventContent text (protectedEventContent event) with thrown | content
  · refine iff_of_false (not_isReady_preflightFailure _ _) ?_
    rintro ⟨-, ⟨_, h⟩, -⟩
    cases h
  rcases buildProtectedSessionContent (protectedSessionContent session) with
    thrown | sessionContent
  · refine iff_of_false (not_isReady_preflightFailure _ _) ?_
    rintro ⟨-, -, -, _, h⟩
    cases h
  · exact iff_of_true ⟨_, rfl⟩ ⟨trivial, ⟨content, rfl⟩, trivial, sessionContent, rfl⟩

end

end Ariava.E2e
