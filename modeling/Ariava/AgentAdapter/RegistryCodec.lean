import Ariava.AgentAdapter.RegistryTypes

/-!
# `Ariava.AgentAdapter.RegistryCodec`: producer events and the fingerprints

`registry-codec.ts`. A producer context, a semantic content and an owner are compared as
the JSON texts of their fields in the source. Those texts are equal exactly when the fields
are, so the fields themselves are compared here.
-/

set_option autoImplicit false

namespace Ariava.AgentAdapter

open Ariava.Lib
open Ariava.Protocol
open Ariava.StateStore

/-- `toCanonicalSessionState`. -/
def toCanonicalSessionState (session : AdapterSession) : CanonicalSessionState where
  sessionId := session.sessionId
  hostId := session.hostId
  provider := session.provider
  projectName := session.projectName
  nameText := session.nameText
  openingText := session.openingText
  latestActivityText := session.latestActivityText
  workingDirectory := some session.cwd
  harnessProvider := session.harnessProvider
  status := session.status
  updatedAt := session.semanticUpdatedAt
  lastEventId := session.lastEventId
  snoozedUntil := none

/-- What `producerContextFingerprint` encodes. -/
structure ProducerContext where
  projectName : String
  workingDirectory : String
  harnessProvider : String
deriving DecidableEq

/-- `producerContextFingerprint` of a registered Session. -/
def producerContextFingerprint (session : AdapterSession) : ProducerContext :=
  ⟨session.projectName, session.cwd, session.harnessProvider.getD session.provider⟩

/-- `producerContextFingerprint` of a register input. -/
def registerContextFingerprint (input : RegisterSessionInput) : ProducerContext :=
  ⟨input.projectName, input.cwd, input.harnessProvider.getD input.provider⟩

/-- `canonicalProducerContextFingerprint`. -/
def canonicalProducerContextFingerprint (session : CanonicalSessionState) : ProducerContext :=
  ⟨session.projectName, session.workingDirectory.getD "",
    session.harnessProvider.getD session.provider⟩

/-- `producerContextFingerprint` of a recent event, as the restore of a registration builds
it. -/
def eventContextFingerprint (event : CanonicalEvent) : ProducerContext :=
  ⟨event.projectName.getD "", event.workingDirectory.getD "",
    event.harnessProvider.getD event.provider⟩

/-- `normalizedOwner`. -/
def normalizedOwner (provider : String) (harnessProvider : Option String) : String × String :=
  (provider, harnessProvider.getD provider)

/-- What `semanticFingerprint` encodes. -/
structure SemanticContent where
  sessionId : String
  provider : String
  projectName : String
  cwd : String
  nameText : String
  openingText : Option String
  latestActivityText : Option String
  harnessProvider : Option String
  pid : Option Int
  hostId : String
  status : SessionStatus
  lastEventId : Option String
deriving DecidableEq

/-- `semanticFingerprint`. -/
def semanticFingerprint (session : AdapterSession) : SemanticContent where
  sessionId := session.sessionId
  provider := session.provider
  projectName := session.projectName
  cwd := session.cwd
  nameText := session.nameText
  openingText := session.openingText
  latestActivityText := session.latestActivityText
  harnessProvider := session.harnessProvider
  pid := session.pid
  hostId := session.hostId
  status := session.status
  lastEventId := session.lastEventId

/-- `assertCanonicalSessionWithinLimit`. -/
def assertCanonicalSessionWithinLimit (session : CanonicalSessionState) : Except Thrown Unit := do
  let _ ← buildProtectedSessionContent {
    projectName := session.projectName
    nameText := session.nameText
    openingText := session.openingText
    latestActivityText := session.latestActivityText
    workingDirectory := session.workingDirectory
    harnessProvider := session.harnessProvider }

/-- `assertNeedHumanHasLastEventId`. An empty id counts as absent. -/
def assertNeedHumanHasLastEventId (session : AdapterSession) : Except Thrown Unit :=
  throwIf (decide (session.status = .needHuman) && decide (session.lastEventId.getD "" = ""))
    (requestValidationError "need_human Session requires lastEventId")

/-- The limits that a register or a heartbeat mapping must keep. -/
def assertRegistrable (session : AdapterSession) : Except Thrown Unit :=
  match assertCanonicalSessionWithinLimit (toCanonicalSessionState session) with
  | .error thrown => .error (asRequestValidation thrown)
  | .ok () => assertNeedHumanHasLastEventId session

/-- The `needHuman` context of an event, absent for a `done` event. -/
def EventKind.needHuman? : EventKind → Option NeedHumanContext
  | .done => none
  | .needHuman context => some context

/-- The wire text of the type of an event. -/
def EventKind.typeText : EventKind → String
  | .done => "done"
  | .needHuman _ => "need_human"

/-- The wire text of the status of an event. -/
def EventKind.statusText : EventKind → String
  | .done => "idle"
  | .needHuman _ => "need_human"

/-- The protected content of a producer event. -/
def protectedContentOf (input : AgentAdapterEventInput) : ProtectedEventContentV3 where
  agentText := input.agentText
  humanText := input.humanText
  projectName := input.projectName
  workingDirectory := input.workingDirectory
  harnessProvider := input.harnessProvider
  needHuman := EventKind.needHuman? input.kind

/-- The producer part of an event: all but its id and Host. -/
def producerPart (event : CanonicalEvent) : AgentAdapterEventInput where
  sessionId := event.sessionId
  provider := event.provider
  agentText := event.agentText
  humanText := event.humanText
  projectName := event.projectName
  workingDirectory := event.workingDirectory
  harnessProvider := event.harnessProvider
  createdAt := event.createdAt
  kind := event.kind

/-- `producerEventFingerprint`. -/
def producerEventFingerprint (text : ProtocolText) (input : AgentAdapterEventInput) :
    Except Thrown String := do
  let content ← buildProtectedEventContent text (protectedContentOf input)
  let publicMetadata := jsonObject [("sessionId", some (jsonText input.sessionId)),
    ("provider", some (jsonText input.provider)),
    ("type", some (jsonText (EventKind.typeText input.kind))),
    ("status", some (jsonText (EventKind.statusText input.kind))),
    ("createdAt", some (jsonText input.createdAt))]
  return text.hash.digest [.text "ariava-producer-event-fingerprint-v1", .text publicMetadata,
    .bytes content.toUTF8.toList]

/-- `parseCanonicalProducerEvent`, after the exact-record and type checks that the input
type makes. -/
def parseCanonicalProducerEvent (text : ProtocolText) (input : AgentAdapterEventInput) :
    Except Thrown AgentAdapterEventInput := do
  throwIf (!isIdentifier input.sessionId)
    (.typeError "canonical Event.sessionId is invalid")
  throwIf (!isIdentifier input.provider) (.typeError "canonical Event.provider is invalid")
  throwIf (!(isIdentifier (input.harnessProvider.getD "")))
    (.typeError "canonical Event.harnessProvider is invalid")
  throwIf input.projectName.isNone (.typeError "canonical Event.projectName is required")
  throwIf input.workingDirectory.isNone
    (.typeError "canonical Event.workingDirectory is required")
  throwIf (!isCanonicalTimestampText input.createdAt)
    (.typeError "canonical Event createdAt is invalid")
  throwIf (!((EventKind.needHuman? input.kind).all (isNeedHumanContext text)))
    (.typeError "canonical Event invariant is invalid")
  let _ ← buildProtectedEventContent text (protectedContentOf input)
  return input

/-- `assertProducerContextMatchesSession`. -/
def assertProducerContextMatchesSession (input : AgentAdapterEventInput)
    (session : AdapterSession) : Except Thrown Unit := do
  throwIf (decide (input.projectName ≠ some session.projectName))
    (.typeError "canonical Event projectName does not match the registered Session")
  throwIf (decide (input.workingDirectory ≠ some session.cwd))
    (.typeError "canonical Event workingDirectory does not match the registered Session")
  throwIf (decide (input.harnessProvider ≠ some (session.harnessProvider.getD session.provider)))
    (.typeError "canonical Event harnessProvider does not match the registered Session")

/-- The checks of an event against the request path and the registered Session, with the
rethrow that `pushEvent` and `pushEventSource` share. -/
def acceptProducerEventInput (text : ProtocolText) (sessionId : String)
    (session : RegisteredSession) (value : AgentAdapterEventInput) :
    Except Thrown AgentAdapterEventInput :=
  let checked : Except Thrown AgentAdapterEventInput := do
    let input ← parseCanonicalProducerEvent text value
    throwIf (decide (input.sessionId ≠ sessionId))
      (.typeError "canonical Event sessionId does not match the request path")
    throwIf (decide (input.provider ≠ session.provider))
      (.typeError "canonical Event provider does not match the registered Session")
    assertProducerContextMatchesSession input session.toAdapterSession
    return input
  match checked with
  | .ok input => .ok input
  | .error thrown => .error (asEventRequestValidation thrown)

end Ariava.AgentAdapter
