import Ariava.Protocol.Commands
import Ariava.Protocol.Thrown

/-!
# `Ariava.Protocol.Sessions`: sessions, events and the Host projection

The plaintext records of `sessions.ts`, `events.ts` and `hosts.ts`. An event is either
`done` or `need_human`, and its status follows from that; the type of `CanonicalEvent.kind`
holds the pairing, so `validateEventTypeStatusPair` cannot fail. Instants of sessions and
events are plain texts: the state codec checks only that they are not empty.

`localeCompare` is a parameter of the model. It is the comparison of the JavaScript host's
collation, and no code of the repository defines it.
-/

set_option autoImplicit false

namespace Ariava.Protocol

/-- `String.prototype.localeCompare`, a parameter. -/
abbrev LocaleCompare : Type := String → String → Ordering

/-- `SessionStatus`. -/
inductive SessionStatus
  | idle
  | working
  | needHuman
deriving DecidableEq

/-- `NeedHumanErrorKind`. -/
inductive NeedHumanErrorKind
  | contextOverflow
  | providerFailure
  | responseLength
  | incompleteToolUse
  | unknown
deriving DecidableEq

/-- `NeedHumanError`. Its `retryExhausted` is always true. -/
structure NeedHumanError where
  kind : NeedHumanErrorKind
  message : String
  providerCode : Option String
deriving DecidableEq

/-- `NeedHumanContext`. -/
inductive NeedHumanContext
  | question
  | blocked
  | error (error : NeedHumanError)
deriving DecidableEq

/-- The type of an event, with the context that only a `need_human` event has. -/
inductive EventKind
  | done
  | needHuman (context : NeedHumanContext)
deriving DecidableEq

/-- `CanonicalSessionState`. -/
structure CanonicalSessionState where
  sessionId : String
  hostId : String
  provider : String
  projectName : String
  nameText : String
  openingText : Option String
  latestActivityText : Option String
  workingDirectory : Option String
  harnessProvider : Option String
  status : SessionStatus
  updatedAt : String
  lastEventId : Option String
  snoozedUntil : Option String
deriving DecidableEq

/-- `CanonicalEvent`. -/
structure CanonicalEvent where
  eventId : String
  hostId : String
  sessionId : String
  provider : String
  agentText : String
  humanText : Option String
  projectName : Option String
  workingDirectory : Option String
  harnessProvider : Option String
  createdAt : String
  kind : EventKind
deriving DecidableEq

/-- The status that goes with the type of an event. -/
def CanonicalEvent.status (event : CanonicalEvent) : SessionStatus :=
  match event.kind with
  | .done => .idle
  | .needHuman _ => .needHuman

/-- `HostPlatform`. -/
inductive HostPlatform
  | macos
  | linux
deriving DecidableEq

/-- `BridgeStatus`. -/
inductive BridgeStatus
  | online
  | offline
  | degraded
deriving DecidableEq

/-- The `status` of a Host projection. -/
inductive HostIdentityStatus
  | active
  | revoked
deriving DecidableEq

/-- `HostProjection`. -/
structure HostProjection where
  hostId : String
  hostName : String
  platform : HostPlatform
  bridgeVersion : String
  registeredAt : String
  lastSeenAt : String
  bridgeStatus : BridgeStatus
  status : Option HostIdentityStatus
deriving DecidableEq

/-- `E2ECurrentSessionReferenceV1`. -/
structure E2ECurrentSessionReferenceV1 where
  sessionId : String
  sessionRevision : Nat
deriving DecidableEq

/-- `ReplaceE2ECurrentSessionsRequestV1`. -/
structure ReplaceE2ECurrentSessionsRequestV1 where
  hostId : String
  revision : Nat
  observedAt : String
  recipientSetVersion : Nat
  sessions : List E2ECurrentSessionReferenceV1
deriving DecidableEq

end Ariava.Protocol
