import Ariava.Operations.HostDomainResetJournal
import Ariava.Protocol.Thrown

/-!
# `Ariava.Operations.HostDomainResetPolicy`: the transitions of a reset journal, and what is next

`host-domain-reset-journal-policy.ts` and `host-domain-reset-machine.ts`. A transition is applied
without a check. The policy then looks at both journals: the table of edges says which phases
follow each other, which fields may change on the way, and which of these only from `null`.

`nextHostResetAction` reads the phase and the revoke of a journal, and throws where they do not
belong together.
-/

set_option autoImplicit false

namespace Ariava.Operations

open Ariava.Protocol
open Ariava.StateStore.RawState (JsValue isNull isOneOf isText textOf)

/-! ### Transitions -/

/-- The outcome of a revoke that was concluded. -/
inductive ConcludedRevoke
  | revoked
  | identityAlreadyRevoked
deriving DecidableEq

/-- The text of an outcome. -/
def ConcludedRevoke.text : ConcludedRevoke → String
  | revoked => "revoked"
  | identityAlreadyRevoked => "identity-already-revoked"

/-- `HostDomainResetTransition`. The revoke that `prepared` brings, and its signing cleanup, are
checked only afterwards. -/
inductive HostDomainResetTransition
  | quarantined
  | prepared (oldHostId oldKeyId oldEncryptionKeyId : Option JsString)
      (signingCleanup revoke : JsonValue)
  | revokePending
  | oldIdentityRevoked (outcome : ConcludedRevoke)
  | signingReplacementPending (signingReplacementAttemptedAt : JsString)
  | signingIdentityReplaced (newHostId newKeyId : JsString)
  | encryptionIdentityReplaced (encryptionIdentityReplacedAt : JsString)
  | runtimeArtifactsCleared (runtimeArtifactsClearedAt : JsString)
  | configSaved (configSavedAt : JsString)
  | enrolled (enrolledAt : JsString)
  | serviceMetadataSynchronized (serviceMetadataSynchronizedAt : JsString)
  | serviceRestorePending

/-- A text, or `null`. -/
def nullable (text : Option JsString) : JsonValue := (text.map .string).getD .null

/-- The value of a revoke. -/
def revokeValue (state : String) (outcome : JsonValue) : JsonValue :=
  .object [(jsString "state", .string (jsString state)), (jsString "outcome", outcome)]

namespace HostDomainResetTransition

/-- `transition.phase`. -/
def phase : HostDomainResetTransition → HostDomainResetPhase
  | quarantined => .quarantined
  | prepared .. => .prepared
  | revokePending => .revokePending
  | oldIdentityRevoked .. => .oldIdentityRevoked
  | signingReplacementPending .. => .signingReplacementPending
  | signingIdentityReplaced .. => .signingIdentityReplaced
  | encryptionIdentityReplaced .. => .encryptionIdentityReplaced
  | runtimeArtifactsCleared .. => .runtimeArtifactsCleared
  | configSaved .. => .configSaved
  | enrolled .. => .enrolled
  | serviceMetadataSynchronized .. => .serviceMetadataSynchronized
  | serviceRestorePending => .serviceRestorePending

/-- The fields that a transition sets besides the phase and `updatedAt`. -/
def fields : HostDomainResetTransition → List (JournalField × JsonValue)
  | quarantined => []
  | prepared oldHostId oldKeyId oldEncryptionKeyId signingCleanup revoke =>
      [(.oldHostId, nullable oldHostId), (.oldKeyId, nullable oldKeyId),
        (.oldEncryptionKeyId, nullable oldEncryptionKeyId), (.signingCleanup, signingCleanup),
        (.revoke, revoke)]
  | revokePending => [(.revoke, revokeValue "pending" .null)]
  | oldIdentityRevoked outcome =>
      [(.revoke, revokeValue "complete" (.string (jsString outcome.text)))]
  | signingReplacementPending date => [(.signingReplacementAttemptedAt, .string date)]
  | signingIdentityReplaced newHostId newKeyId =>
      [(.newHostId, .string newHostId), (.newKeyId, .string newKeyId)]
  | encryptionIdentityReplaced date => [(.encryptionIdentityReplacedAt, .string date)]
  | runtimeArtifactsCleared date => [(.runtimeArtifactsClearedAt, .string date)]
  | configSaved date => [(.configSavedAt, .string date)]
  | enrolled date => [(.enrolledAt, .string date)]
  | serviceMetadataSynchronized date => [(.serviceMetadataSynchronizedAt, .string date)]
  | serviceRestorePending => []

end HostDomainResetTransition

/-- `{ ...current, ...fields }`. -/
def spreadFields (current : HostDomainResetJournalV1) (fields : List (JournalField × JsonValue)) :
    HostDomainResetJournalV1 :=
  fields.foldl (fun journal field => setProperty journal (jsString field.1.key) field.2) current

/-- `applyHostDomainResetTransition`. -/
def applyHostDomainResetTransition (current : HostDomainResetJournalV1)
    (transition : HostDomainResetTransition) (updatedAt : JsString) : HostDomainResetJournalV1 :=
  spreadFields current ((.phase, .string (jsString transition.phase.text))
    :: (transition.fields ++ [(.updatedAt, .string updatedAt)]))

/-! ### The policy -/

/-- `TRANSITION_FIELDS`. -/
def transitionFields : List JournalField :=
  [.service, .revoke, .oldHostId, .oldKeyId, .newHostId, .newKeyId, .oldEncryptionKeyId,
    .signingCleanup, .signingReplacementAttemptedAt, .encryptionIdentityReplacedAt,
    .runtimeArtifactsClearedAt, .configSavedAt, .enrolledAt, .serviceMetadataSynchronizedAt]

/-- `IMMUTABLE_FIELDS`. -/
def immutableFields : List JournalField :=
  [.version, .operationId, .profile, .resourceDigest, .createdAt, .service]

/-- `HostResetJournalViolation`. -/
inductive HostResetJournalViolation
  | samePhaseModification (field : JournalField)
  | phaseRollback (source target : HostDomainResetPhase)
  | nonAdjacentTransition (source target : HostDomainResetPhase)
  | unreadableSkipWithoutEvidence (source target : HostDomainResetPhase)
  | revokePreconditionMismatch (source target : HostDomainResetPhase)
  | immutableFieldChanged (field : JournalField)
  | fieldChangeNotAllowed (field : JournalField) (source target : HostDomainResetPhase)
  | oneWayFillViolation (field : JournalField)
  | timestampRollback
deriving DecidableEq

/-- What an edge asks of the revoke of the current journal. -/
inductive EdgeRequirement
  | nothing
  | notAttempted
  | skipped
  | pending
deriving DecidableEq

/-- `edge.require`. -/
def EdgeRequirement.holds (current : HostDomainResetJournalV1) : EdgeRequirement → Bool
  | nothing => true
  | notAttempted =>
      isText "not-attempted" (current.readRevoke "state") && isNull (current.readRevoke "outcome")
  | skipped => current.isRevokeSkipped
  | pending => isText "pending" (current.readRevoke "state")

/-- `TransitionEdge`. -/
structure TransitionEdge where
  source : HostDomainResetPhase
  target : HostDomainResetPhase
  writable : List JournalField
  fillOnly : List JournalField
  require : EdgeRequirement

/-- `edge.requireViolation`. -/
def TransitionEdge.requireViolation (edge : TransitionEdge) : HostResetJournalViolation :=
  match edge.require with
  | .nothing => .nonAdjacentTransition edge.source edge.target
  | .skipped => .unreadableSkipWithoutEvidence edge.source edge.target
  | .notAttempted | .pending => .revokePreconditionMismatch edge.source edge.target

/-- An edge whose fields are filled once. -/
def fillEdge (source target : HostDomainResetPhase) (fields : List JournalField)
    (require : EdgeRequirement) : TransitionEdge :=
  ⟨source, target, fields, fields, require⟩

/-- `TRANSITION_EDGES`. -/
def transitionEdges : List TransitionEdge :=
  [fillEdge .quarantinePending .quarantined [] .nothing,
    { source := .quarantined
      target := .prepared
      writable := [.oldHostId, .oldKeyId, .oldEncryptionKeyId, .signingCleanup, .revoke]
      fillOnly := [.oldHostId, .oldKeyId, .oldEncryptionKeyId, .signingCleanup]
      require := .nothing },
    ⟨.prepared, .revokePending, [.revoke], [], .notAttempted⟩,
    fillEdge .prepared .signingReplacementPending [.signingReplacementAttemptedAt] .skipped,
    ⟨.revokePending, .oldIdentityRevoked, [.revoke], [], .pending⟩,
    fillEdge .oldIdentityRevoked .signingReplacementPending [.signingReplacementAttemptedAt]
      .nothing,
    fillEdge .signingReplacementPending .signingIdentityReplaced [.newHostId, .newKeyId] .nothing,
    fillEdge .signingIdentityReplaced .encryptionIdentityReplaced [.encryptionIdentityReplacedAt]
      .nothing,
    fillEdge .encryptionIdentityReplaced .runtimeArtifactsCleared [.runtimeArtifactsClearedAt]
      .nothing,
    fillEdge .runtimeArtifactsCleared .configSaved [.configSavedAt] .nothing,
    fillEdge .configSaved .enrolled [.enrolledAt] .nothing,
    fillEdge .enrolled .serviceMetadataSynchronized [.serviceMetadataSynchronizedAt] .nothing,
    fillEdge .serviceMetadataSynchronized .serviceRestorePending [] .nothing]

/-- `sameValue`. -/
def sameValue (left right : JsValue) : Bool := decide (left.map stringify = right.map stringify)

/-- `findEdge`. -/
def findEdge (source target : HostDomainResetPhase) : Option TransitionEdge :=
  transitionEdges.find? fun edge => decide (edge.source = source ∧ edge.target = target)

/-- The field changed. -/
def isChanged (current candidate : HostDomainResetJournalV1) (field : JournalField) : Bool :=
  !sameValue (current.read field) (candidate.read field)

/-- The loop over the fields that an edge may change. -/
def checkTransitionFields (edge : TransitionEdge) (current candidate : HostDomainResetJournalV1) :
    List JournalField → Except HostResetJournalViolation Unit
  | [] => .ok ()
  | field :: rest =>
      if field ∉ immutableFields ∧ isChanged current candidate field = true then
        if field ∉ edge.writable then
          .error (.fieldChangeNotAllowed field edge.source edge.target)
        else if field ∈ edge.fillOnly ∧ isNull (current.read field) = false then
          .error (.oneWayFillViolation field)
        else checkTransitionFields edge current candidate rest
      else checkTransitionFields edge current candidate rest

/-- `Date.parse(candidate.updatedAt) < Date.parse(current.updatedAt)`. -/
def isTimestampRollback (current candidate : HostDomainResetJournalV1) : Bool :=
  match dateOf (candidate.read .updatedAt), dateOf (current.read .updatedAt) with
  | some candidateDate, some currentDate => decide (candidateDate < currentDate)
  | _, _ => false

/-- `validateHostDomainResetTransition`, for journals of these phases. -/
def validateTransition (current candidate : HostDomainResetJournalV1)
    (source target : HostDomainResetPhase) : Except HostResetJournalViolation Unit :=
  if target = source then
    if sameValue (some (.object current)) (some (.object candidate)) then .ok ()
    else .error (.samePhaseModification
      ((transitionFields.find? (isChanged current candidate)).getD .updatedAt))
  else if target.index < source.index then .error (.phaseRollback source target)
  else match findEdge source target with
    | none => .error (.nonAdjacentTransition source target)
    | some edge =>
        if edge.require.holds current = false then .error edge.requireViolation
        else if isTimestampRollback current candidate then .error .timestampRollback
        else match immutableFields.find? (isChanged current candidate) with
          | some field => .error (.immutableFieldChanged field)
          | none => checkTransitionFields edge current candidate transitionFields

/-- `validateHostDomainResetTransition`. Without a phase that is known there is nothing, where it
throws a `TypeError`. -/
def validateHostDomainResetTransition (current candidate : HostDomainResetJournalV1) :
    Option (Except HostResetJournalViolation HostDomainResetJournalV1) :=
  current.phase?.bind fun source => candidate.phase?.map fun target =>
    (validateTransition current candidate source target).map fun _ => candidate

section Journals

variable (sha256 : List UInt8 → JsString) (resources : HostDomainResetResourceSet)

/-- A transition at a time, when the schema and the policy accept what it gives: the steps of
`advanceHostDomainResetJournal` between reading the journal and writing it. -/
def advance? (current : HostDomainResetJournalV1) (transition : HostDomainResetTransition)
    (updatedAt : JsString) : Option HostDomainResetJournalV1 :=
  (parseHostDomainResetJournal sha256 resources
      (.object (applyHostDomainResetTransition current transition updatedAt))).bind fun candidate =>
    (validateHostDomainResetTransition current candidate).bind fun result => result.toOption

/-- The journals that are kept, from a first one on. -/
def keptJournals : HostDomainResetJournalV1 → List (HostDomainResetTransition × JsString) →
    List HostDomainResetJournalV1
  | journal, [] => [journal]
  | journal, (transition, updatedAt) :: rest =>
      (advance? sha256 resources journal transition updatedAt).elim (keptJournals journal rest)
        fun next => journal :: keptJournals next rest

end Journals

/-! ### The machine -/

/-- `HostResetAction`. -/
inductive HostResetAction
  | stopQuarantineAndAcquireRuntime
  | inspectAndBindOldDomain
  | persistRevokeIntent
  | revokeOldIdentity
  | persistSigningReplacementIntent
  | replaceSigningIdentity
  | finalizeSigningAndReplaceEncryptionIdentity
  | finalizeEncryptionAndClearRuntimeArtifacts
  | persistConfig
  | enrollNewIdentity
  | syncServiceMetadata
  | persistServiceRestoreIntent
  | restoreServiceAndRemoveJournal
deriving DecidableEq

/-- `isLegalRevokeCombination`. -/
def isLegalRevokeCombination (state outcome : JsValue) : Bool :=
  isOneOf ["not-attempted", "pending", "complete", "skipped"] state
    && (isNull outcome || isOneOf ["revoked", "identity-already-revoked",
      "old-identity-unreadable"] outcome)
    && if isOneOf ["not-attempted", "pending"] state then isNull outcome
      else if isText "complete" state then isOneOf ["revoked", "identity-already-revoked"] outcome
      else isText "skipped" state && isText "old-identity-unreadable" outcome

/-- The checks of `assertLegalJournal` for the revoke in a phase. -/
def isRevokeOfPhase (state outcome : JsValue) : HostDomainResetPhase → Bool
  | .quarantinePending | .quarantined => isText "not-attempted" state && isNull outcome
  | .revokePending => isText "pending" state && isNull outcome
  | .oldIdentityRevoked =>
      isText "complete" state && isOneOf ["revoked", "identity-already-revoked"] outcome
  | .prepared => isOneOf ["not-attempted", "skipped"] state
  | _ => isOneOf ["complete", "skipped"] state

/-- `assertLegalJournal`: the phase, when it does not throw. -/
def assertLegalJournal (journal : HostDomainResetJournalV1) : Option HostDomainResetPhase :=
  let state := journal.readRevoke "state"
  let outcome := journal.readRevoke "outcome"
  journal.phase?.filter fun phase =>
    isLegalRevokeCombination state outcome && isRevokeOfPhase state outcome phase

/-- The action in the phase `prepared`. -/
def preparedAction (state outcome : JsValue) : Option HostResetAction :=
  if isText "skipped" state then
    if isText "old-identity-unreadable" outcome then some .persistSigningReplacementIntent else none
  else if isText "not-attempted" state && isNull outcome then some .persistRevokeIntent
  else none

/-- The `switch` of `nextHostResetAction`. -/
def actionInPhase (state outcome : JsValue) : HostDomainResetPhase → Option HostResetAction
  | .quarantinePending => some .stopQuarantineAndAcquireRuntime
  | .quarantined => some .inspectAndBindOldDomain
  | .prepared => preparedAction state outcome
  | .revokePending => some .revokeOldIdentity
  | .oldIdentityRevoked => some .persistSigningReplacementIntent
  | .signingReplacementPending => some .replaceSigningIdentity
  | .signingIdentityReplaced => some .finalizeSigningAndReplaceEncryptionIdentity
  | .encryptionIdentityReplaced => some .finalizeEncryptionAndClearRuntimeArtifacts
  | .runtimeArtifactsCleared => some .persistConfig
  | .configSaved => some .enrollNewIdentity
  | .enrolled => some .syncServiceMetadata
  | .serviceMetadataSynchronized => some .persistServiceRestoreIntent
  | .serviceRestorePending => some .restoreServiceAndRemoveJournal

/-- `nextHostResetAction`. Where it throws a `TypeError` there is nothing. -/
def nextHostResetAction (journal : HostDomainResetJournalV1) : Option HostResetAction :=
  (assertLegalJournal journal).bind
    (actionInPhase (journal.readRevoke "state") (journal.readRevoke "outcome"))

end Ariava.Operations
