import Ariava.AgentAdapter.RegistryCodec

/-!
# `Ariava.AgentAdapter.SessionTransitions`: registration and heartbeat

The pure transitions of `session-transitions.ts`. A registration is decided from the live
Session, the persisted Session and a persisted terminal cancellation.
-/

set_option autoImplicit false

namespace Ariava.AgentAdapter

open Ariava.Protocol
open Ariava.StateStore

/-- `RegistrationEvidence`. -/
structure RegistrationEvidence where
  previousLive : Option RegisteredSession
  persistedSession : Option CanonicalSessionState
  terminalCancellation : Option PersistedTerminalCancellation

/-- `authorizeRegistration`: the live owner and the persisted owner are the requested
one. -/
def authorizeRegistration (previousLive : Option RegisteredSession)
    (persistedSession : Option CanonicalSessionState) (input : RegisterSessionInput) : Bool :=
  let requestedOwner := normalizedOwner input.provider input.harnessProvider
  previousLive.all (fun live =>
      decide (normalizedOwner live.provider live.harnessProvider = requestedOwner))
    && persistedSession.all fun persisted =>
      decide (normalizedOwner persisted.provider persisted.harnessProvider = requestedOwner)

/-- `RegistrationPersistence`. -/
inductive RegistrationPersistence
  | durableCancelTerminal (nextDriverName : String)
      (persistedCancellation : PersistedTerminalCancellation)
  | durableSetSessionDriver
deriving DecidableEq

/-- `RegistrationTransition`. -/
structure RegistrationTransition where
  nextSession : AdapterSession
  semanticChanged : Bool
  persistence : RegistrationPersistence
deriving DecidableEq

/-- The event id that a registration inherits. -/
def inheritedLastEventId (evidence : RegistrationEvidence) (input : RegisterSessionInput) :
    Option String :=
  let requestedStatus := input.status.getD .idle
  let requestedContext := registerContextFingerprint input
  match evidence.previousLive, evidence.persistedSession with
  | some previous, _ =>
      if producerContextFingerprint previous.toAdapterSession = requestedContext
          ∧ previous.status = requestedStatus then previous.lastEventId else none
  | none, some persisted =>
      if canonicalProducerContextFingerprint persisted = requestedContext
          ∧ persisted.status = requestedStatus then persisted.lastEventId else none
  | none, none => none

/-- The context of a registration differs from that of the live Session, or from that of
the persisted Session when none is live. -/
def registrationContextChanged (evidence : RegistrationEvidence) (input : RegisterSessionInput) :
    Bool :=
  let requestedContext := registerContextFingerprint input
  match evidence.previousLive, evidence.persistedSession with
  | some previous, _ =>
      decide (producerContextFingerprint previous.toAdapterSession ≠ requestedContext)
  | none, some persisted =>
      decide (canonicalProducerContextFingerprint persisted ≠ requestedContext)
  | none, none => false

/-- `reduceRegistration`. -/
def reduceRegistration (evidence : RegistrationEvidence) (input : RegisterSessionInput)
    (hostId now : String) : RegistrationTransition :=
  let drafted : AdapterSession := {
    sessionId := input.sessionId
    provider := input.provider
    projectName := input.projectName
    cwd := input.cwd
    nameText := input.nameText
    openingText := input.openingText
    latestActivityText := input.latestActivityText
    harnessProvider := input.harnessProvider
    pid := input.pid
    hostId := hostId
    registeredAt := (evidence.previousLive.map (·.registeredAt)).getD now
    lastHeartbeatAt := now
    status := input.status.getD .idle
    semanticUpdatedAt := (evidence.previousLive.map (·.semanticUpdatedAt)).getD now
    lastEventId := inheritedLastEventId evidence input }
  let semanticChanged := evidence.previousLive.all fun previous =>
    decide (semanticFingerprint previous.toAdapterSession ≠ semanticFingerprint drafted)
  { nextSession :=
      if semanticChanged && evidence.previousLive.isSome then
        { drafted with semanticUpdatedAt := now }
      else drafted
    semanticChanged := semanticChanged
    persistence :=
      match registrationContextChanged evidence input, evidence.terminalCancellation with
      | true, some cancellation => .durableCancelTerminal input.provider cancellation
      | _, _ => .durableSetSessionDriver }

/-- A registration is for the Session that it names. -/
theorem reduceRegistration_sessionId (evidence : RegistrationEvidence)
    (input : RegisterSessionInput) (hostId now : String) :
    (reduceRegistration evidence input hostId now).nextSession.sessionId = input.sessionId := by
  unfold reduceRegistration
  dsimp only
  split <;> rfl

/-- A value of a heartbeat field that may be absent, null or a text. -/
inductive Patch
  | keep
  | clear
  | write (text : String)
deriving DecidableEq

/-- A field after its patch. -/
def Patch.apply (patch : Patch) (current : Option String) : Option String :=
  match patch with
  | keep => current
  | clear => none
  | write text => some text

/-- `HeartbeatInput`. -/
structure HeartbeatInput where
  status : SessionStatus
  latestActivityText : Patch
  openingText : Patch
  projectName : Option String
  nameText : Option String
deriving DecidableEq

/-- `HeartbeatTransition`. -/
structure HeartbeatTransition where
  nextSession : RegisteredSession
  semanticChanged : Bool
  contextChanged : Bool

/-- `reduceHeartbeat`. -/
def reduceHeartbeat (session : RegisteredSession) (input : HeartbeatInput) (now : String) :
    HeartbeatTransition :=
  let drafted : RegisteredSession := { session with
    lastHeartbeatAt := now
    status := input.status
    latestActivityText := input.latestActivityText.apply session.latestActivityText
    openingText := input.openingText.apply session.openingText
    projectName := input.projectName.getD session.projectName
    nameText := input.nameText.getD session.nameText }
  let semanticChanged := decide (semanticFingerprint drafted.toAdapterSession
    ≠ semanticFingerprint session.toAdapterSession)
  { nextSession := if semanticChanged then { drafted with semanticUpdatedAt := now } else drafted
    semanticChanged := semanticChanged
    contextChanged := decide (producerContextFingerprint drafted.toAdapterSession
      ≠ producerContextFingerprint session.toAdapterSession) }

/-- A heartbeat keeps the Session id and the owner. -/
theorem reduceHeartbeat_owner (session : RegisteredSession) (input : HeartbeatInput)
    (now : String) :
    (reduceHeartbeat session input now).nextSession.sessionId = session.sessionId ∧
      (reduceHeartbeat session input now).nextSession.driverInstanceId = session.driverInstanceId ∧
      (reduceHeartbeat session input now).nextSession.ownerLease = session.ownerLease := by
  unfold reduceHeartbeat
  dsimp only
  split <;> exact ⟨rfl, rfl, rfl⟩

end Ariava.AgentAdapter
