import Ariava.E2e.KeyringUpdates
import Ariava.E2e.UploadDecisions
import Ariava.E2e.UploadPreflight
import Ariava.Lib.Restart
import Ariava.StateStore.SessionInflights

/-!
# `Ariava.E2e.UploadActions`: the publication loops for Session snapshots

`publishAuthoritativeSnapshots`, `reconcileSessionInflights` and `publishRecipientChangeSnapshots`
of `upload-actions.ts`. Each of the first and the last has a loop that starts again after a conflict
about the recipients: the first over the whole set of Sessions, the last for one Session.

The actions run on a `PublicationRun`: the store, the calls of the Relay with their answers, and the
loops with their restarts. The number of calls is the clock. `UploadPorts` has what the actions
meet: the answers at each time, the outcomes of the keyring and of the encryption, and what other
tasks do to the store while an answer is awaited.

A loop is given fuel, and `none` is the end of the fuel. The failure hook is left out.
-/

set_option autoImplicit false

namespace Ariava.E2e

open Ariava.Lib
open Ariava.Protocol
open Ariava.StateStore

/-! ### The run of a publication -/

/-- A call of the Relay with its answer. The answer of a refresh is the version of the recipients
that the keyring took, if it took them. -/
inductive RelayCall
  | publication (upload : EncryptedSessionSnapshotUploadV3) (answer : Except RelayFailure Unit)
  | reconciliation (upload : EncryptedSessionSnapshotUploadV3) (answer : Except RelayFailure Bool)
  | refresh (version : Option Nat)

/-- A loop is entered, or it starts again: the attempted upload was encrypted for the recipients of
one version, and the next one is encrypted for those of the other. -/
inductive LoopEvent
  | entered
  | restarted (attempted refreshed : Nat)
deriving DecidableEq

/-- The store, and the calls and the loop events so far, latest first. -/
structure PublicationRun where
  store : BridgeStore
  calls : List RelayCall
  loops : List LoopEvent

namespace PublicationRun

/-- The run before the first call. -/
def start (store : BridgeStore) : PublicationRun := ⟨store, [], []⟩

/-- The number of calls so far. -/
def clock (run : PublicationRun) : Nat := run.calls.length

end PublicationRun

/-- The input of `encryptSessionSnapshot`. -/
structure SessionEncryption (Material : Type) where
  session : CanonicalSessionState
  revision : Nat
  recipientSetVersion : Nat
  recipients : List Material

/-- What the actions meet, by the time of the call. -/
structure UploadPorts (Material : Type) where
  publishEncryptedSession : Nat → Except RelayFailure Unit
  reconcileEncryptedSession : Nat → Except RelayFailure Bool
  recipientSnapshot : Nat → Except RelayFailure E2ERecipientSnapshotV1
  /-- `keyring.reconcileRecipients`. -/
  reconcileRecipients : Nat → E2ERecipientSnapshotV1 → Except Thrown (List Material)
  /-- `crypto.encryptSessionSnapshot`. -/
  encryptSessionSnapshot : Nat → SessionEncryption Material →
    Except Thrown EncryptedSessionSnapshotUploadV3
  /-- `new Date().toISOString()`. -/
  now : Nat → String
  /-- What other tasks do to the store while the call is awaited. -/
  others : Nat → BridgeStore → BridgeStore

/-- A program of a publication. -/
abbrev PublicationEffect (α : Type) : Type := Effect Thrown PublicationRun α

/-- A program of the store in a publication. -/
def inStore {α : Type} (p : StoreEffect α) : PublicationEffect α :=
  Effect.zoom PublicationRun.store (fun store run => { run with store := store }) p

/-- A loop event. -/
def note (event : LoopEvent) : PublicationEffect Unit :=
  modify fun run => { run with loops := event :: run.loops }

/-- `SessionPublicationBlockReason`. -/
inductive SessionPublicationBlockReason
  | protectedContentInvalid
  | sessionSourceInvalid
deriving DecidableEq

/-- The `reason` of a deferred publication. -/
inductive DeferralReason
  | network
  | recipientSet
deriving DecidableEq

/-- `AuthoritativeSnapshotOutcome`. The revisions are in the order in which they were accepted. -/
inductive AuthoritativeSnapshotOutcome
  | published (recipientSetVersion : Nat) (revisions : List (String × Nat))
  | locallyBlocked (reason : SessionPublicationBlockReason)
  | deferred (reason : DeferralReason)
  | failClosed
deriving DecidableEq

/-- `publicationBlockReason`. -/
def publicationBlockReason : LocalUploadPreflight → SessionPublicationBlockReason
  | .invalidSourceBinding => .sessionSourceInvalid
  | _ => .protectedContentInvalid

section
variable {Material : Type} (ports : UploadPorts Material) (text : ProtocolText)

/-! ### Calls -/

/-- A call is awaited. -/
def awaiting (call : RelayCall) : PublicationEffect Unit :=
  modify fun run =>
    { run with store := ports.others run.clock run.store, calls := call :: run.calls }

/-- `relayClient.publishEncryptedSession`. -/
def publishEncryptedSession (upload : EncryptedSessionSnapshotUploadV3) :
    PublicationEffect (Except RelayFailure Unit) := do
  let run ← get
  awaiting ports (.publication upload (ports.publishEncryptedSession run.clock))
  return ports.publishEncryptedSession run.clock

/-- `relayClient.reconcileEncryptedSession`. -/
def reconcileEncryptedSession (upload : EncryptedSessionSnapshotUploadV3) :
    PublicationEffect (Except RelayFailure Bool) := do
  let run ← get
  awaiting ports (.reconciliation upload (ports.reconcileEncryptedSession run.clock))
  return ports.reconcileEncryptedSession run.clock

/-- The recipients that a refresh at a time gives, if nothing fails. -/
def refreshed (time : Nat) : Option (E2ERecipientSnapshotV1 × List Material) :=
  match ports.recipientSnapshot time with
  | .error _ => none
  | .ok snapshot => (ports.reconcileRecipients time snapshot).toOption.map fun recipients =>
      (snapshot, recipients)

/-- `relayClient.recipientSnapshot` and `keyring.reconcileRecipients`, inside their `try`. -/
def refreshRecipients : PublicationEffect (Option (E2ERecipientSnapshotV1 × List Material)) := do
  let run ← get
  let current := refreshed ports run.clock
  awaiting ports (.refresh (current.map fun current => current.1.recipientSetVersion))
  return current

/-- `crypto.encryptSessionSnapshot`. -/
def encryptSession (input : SessionEncryption Material) :
    PublicationEffect EncryptedSessionSnapshotUploadV3 := do
  let run ← get
  Effect.ofExcept (ports.encryptSessionSnapshot run.clock input)

/-- `persistInflightSessionUpload` with a digest. -/
def persistUpload (sessionId : String) (upload : EncryptedSessionSnapshotUploadV3)
    (sourceDigest : String) : PublicationEffect Unit := do
  let run ← get
  inStore (persistInflightSessionUpload sessionId upload sourceDigest (ports.now run.clock))

/-- `replaceInflightSessionUpload` with a digest. -/
def replaceUpload (sessionId : String) (upload : EncryptedSessionSnapshotUploadV3)
    (sourceDigest : String) : PublicationEffect Unit := do
  let run ← get
  inStore (replaceInflightSessionUpload sessionId upload sourceDigest (ports.now run.clock))

/-- An upload that replaces an inflight, or is the first one. -/
def writeUpload (replaces : Bool) (sessionId : String) (upload : EncryptedSessionSnapshotUploadV3)
    (sourceDigest : String) : PublicationEffect Unit :=
  if replaces then replaceUpload ports sessionId upload sourceDigest
  else persistUpload ports sessionId upload sourceDigest

/-- `commitSessionRevision` and `removeInflightSessionUpload`. -/
def completeSession (sessionId : String) (revision : Nat) : PublicationEffect Unit := do
  inStore (commitSessionRevision sessionId revision)
  inStore (removeInflightSessionUpload sessionId)

/-- `getInflightSessionUpload`. -/
def readInflight (sessionId : String) :
    PublicationEffect (Option EncryptedSessionSnapshotUploadV3) := do
  let run ← get
  Effect.ofExcept (getInflightSessionUpload run.store.items sessionId)

/-! ### The authoritative set -/

/-- The loop of `preflightAuthoritativeSessionSet`. -/
def preflightSessions : Nat × SessionPublicationBlockReason → List CanonicalSessionState →
    Except Thrown (Nat × SessionPublicationBlockReason)
  | result, [] => .ok result
  | (blockedSessionCount, reason), session :: rest => do
      match ← preflightSessionSource text session with
      | .ready _ => preflightSessions (blockedSessionCount, reason) rest
      | .invalidSourceBinding =>
          preflightSessions (blockedSessionCount + 1, .sessionSourceInvalid) rest
      | .invalidContent _ => preflightSessions (blockedSessionCount + 1, reason) rest

/-- `preflightAuthoritativeSessionSet`. -/
def preflightAuthoritativeSessionSet (sessions : List CanonicalSessionState) :
    Except Thrown (Nat × SessionPublicationBlockReason) :=
  preflightSessions text (0, .protectedContentInvalid) sessions

/-- The preflight before an encryption: the reason why the Session cannot be published. -/
def blockReason (session : CanonicalSessionState) :
    PublicationEffect (Option SessionPublicationBlockReason) := do
  match ← Effect.ofExcept (preflightSessionSource text session) with
  | .ready _ => return none
  | preflight => return some (publicationBlockReason preflight)

/-- The variables of `publishAuthoritativeSnapshots` that a pass starts with. -/
structure PassState (Material : Type) where
  snapshot : E2ERecipientSnapshotV1
  recipients : List Material
  sameVersionCommitRetryExhausted : Bool

/-- The `passVersion`. -/
def PassState.passVersion (state : PassState Material) : Nat := state.snapshot.recipientSetVersion

/-- How a Session ends. -/
inductive SessionEnd (Material : Type)
  | committed (revision : Nat)
  | restart (next : PassState Material)
  | stop (outcome : AuthoritativeSnapshotOutcome)

section
variable (state : PassState Material) (session : CanonicalSessionState)

/-- The inflight of an earlier publication is encrypted anew, with its revision. -/
def rebuildInflight (upload : EncryptedSessionSnapshotUploadV3) (sourceDigest : String) :
    PublicationEffect
      (Except AuthoritativeSnapshotOutcome (Option EncryptedSessionSnapshotUploadV3)) := do
  match ← blockReason text session with
  | some reason => return .error (.locallyBlocked reason)
  | none => do
      let replacement ← encryptSession ports
        ⟨session, upload.revision, state.passVersion, state.recipients⟩
      replaceUpload ports session.sessionId replacement sourceDigest
      return .ok (some replacement)

/-- The inflight is the one of the current source and recipients. -/
def isCurrentInflight (items : List SpoolItem) (upload : EncryptedSessionSnapshotUploadV3)
    (sourceDigest : String) : Bool :=
  ((sessionInflightDigest items session.sessionId).any fun digest =>
      decide (sourceDigest ≠ "") && digestsEqual digest sourceDigest)
    && decide (upload.recipientSetVersion = state.passVersion)

/-- The inflight of an earlier publication is reconciled before it is used or encrypted anew. -/
def reconcileInflight (upload : EncryptedSessionSnapshotUploadV3) :
    PublicationEffect
      (Except AuthoritativeSnapshotOutcome (Option EncryptedSessionSnapshotUploadV3)) := do
  match ← reconcileEncryptedSession ports upload with
  | .error _ => return .error (.deferred .network)
  | .ok true => do
      completeSession session.sessionId upload.revision
      return .ok none
  | .ok false => do
      let sourceDigest := (sessionSourceDigest text session).toOption.getD ""
      let run ← get
      if isCurrentInflight state session run.store.items upload sourceDigest then
        return .ok (some upload)
      else rebuildInflight ports text state session upload sourceDigest

/-- A Session without an upload for the recipients of this pass gets one. -/
def encryptForPass (upload : Option EncryptedSessionSnapshotUploadV3) :
    PublicationEffect
      (Except AuthoritativeSnapshotOutcome EncryptedSessionSnapshotUploadV3) := do
  match upload.filter fun upload => decide (upload.recipientSetVersion = state.passVersion) with
  | some upload => return .ok upload
  | none => do
      match ← blockReason text session with
      | some reason => return .error (.locallyBlocked reason)
      | none => do
          let run ← get
          let revision := (upload.map EncryptedSessionSnapshotUploadV3.revision).getD
            (readNextSessionRevision run.store.state session.sessionId)
          let next ← encryptSession ports
            ⟨session, revision, state.passVersion, state.recipients⟩
          let sourceDigest ← Effect.ofExcept (sessionSourceDigest text session)
          writeUpload ports upload.isSome session.sessionId next sourceDigest
          return .ok next

/-- The upload that the pass publishes for a Session. -/
def prepareUpload : PublicationEffect
    (Except AuthoritativeSnapshotOutcome EncryptedSessionSnapshotUploadV3) := do
  match ← readInflight session.sessionId with
  | none => encryptForPass ports text state session none
  | some upload => do
      match ← reconcileInflight ports text state session upload with
      | .error outcome => return .error outcome
      | .ok kept => encryptForPass ports text state session kept

/-- The `switch` over the decision, with the recipients that it goes on with. -/
def carryOut (upload : EncryptedSessionSnapshotUploadV3)
    (current : E2ERecipientSnapshotV1 × List Material) :
    SessionUploadDecision → PublicationEffect (SessionEnd Material)
  | .commit acceptedRevision => do
      completeSession session.sessionId acceptedRevision
      return .committed acceptedRevision
  | .defer reason =>
      return .stop (.deferred (if reason = .recipientSet then .recipientSet else .network))
  | .failClosed => return .stop .failClosed
  | .reconcile => return .stop (.deferred .network)
  | .refreshReencrypt revision => do
      match ← blockReason text session with
      | some reason => return .stop (.locallyBlocked reason)
      | none => do
          let replacement ← encryptSession ports
            ⟨session, revision, current.1.recipientSetVersion, current.2⟩
          let sourceDigest ← Effect.ofExcept (sessionSourceDigest text session)
          replaceUpload ports session.sessionId replacement sourceDigest
          return .restart ⟨current.1, current.2, state.sameVersionCommitRetryExhausted⟩
  | .retryNextRevision _ => do
      completeSession session.sessionId upload.revision
      return .restart ⟨current.1, current.2,
        decide (current.1.recipientSetVersion = state.passVersion)⟩

/-- The decision after a conflict that was reconciled. -/
def conflictDecision (upload : EncryptedSessionSnapshotUploadV3) (failure : RelayFailure)
    (committed : Bool) (attempted : Nat) (refreshed : Option Nat) (exhausted : Bool) :
    SessionUploadDecision :=
  decideSessionUpload {
    publishSucceeded := false
    conflictReason := failure.reason
    reconcileCommitted := some committed
    attemptedRecipientVersion := attempted
    refreshedRecipientVersion := refreshed
    currentRevision := upload.revision
    sameVersionCommitRetryExhausted := exhausted
    failureCategory := relayFailureCategory failure }

/-- A conflict was reconciled, and the recipients were refreshed if it was about them. -/
def settleConflict (upload : EncryptedSessionSnapshotUploadV3) (failure : RelayFailure)
    (committed : Bool) (current : Option (E2ERecipientSnapshotV1 × List Material)) :
    PublicationEffect (SessionEnd Material) :=
  carryOut ports text state session upload (current.getD (state.snapshot, state.recipients))
    (conflictDecision upload failure committed state.passVersion
      (current.map fun current => current.1.recipientSetVersion)
      state.sameVersionCommitRetryExhausted)

/-- The publication of an upload, and what comes of a conflict. -/
def attemptUpload (upload : EncryptedSessionSnapshotUploadV3) :
    PublicationEffect (SessionEnd Material) := do
  match ← publishEncryptedSession ports upload with
  | .ok () => do
      completeSession session.sessionId upload.revision
      return .committed upload.revision
  | .error failure =>
      if isRelayConflict failure then do
        match ← reconcileEncryptedSession ports upload with
        | .error _ => return .stop (.deferred .network)
        | .ok committed =>
            if failure.reason = some recipientSetChangedReason then do
              match ← refreshRecipients ports with
              | none => return .stop (.deferred .recipientSet)
              | some current =>
                  settleConflict ports text state session upload failure committed (some current)
            else settleConflict ports text state session upload failure committed none
      else return .stop (.deferred .network)

/-- The body of the loop over the Sessions. -/
def publishSession : PublicationEffect (SessionEnd Material) := do
  match ← prepareUpload ports text state session with
  | .error outcome => return .stop outcome
  | .ok upload => attemptUpload ports text state session upload

end

/-- How a pass over the Sessions ends. -/
inductive PassEnd (Material : Type)
  | published (revisions : Dict String Nat)
  | restart (next : PassState Material)
  | stop (outcome : AuthoritativeSnapshotOutcome)

/-- The loop over the Sessions. -/
def publishSessions (state : PassState Material) : Dict String Nat → List CanonicalSessionState →
    PublicationEffect (PassEnd Material)
  | revisions, [] => return .published revisions
  | revisions, session :: rest => do
      match ← publishSession ports text state session with
      | .committed revision =>
          publishSessions state (revisions.set session.sessionId revision) rest
      | .restart next => return .restart next
      | .stop outcome => return .stop outcome

/-- One pass of the loop of `publishAuthoritativeSnapshots`. -/
def publishPass (sessions : List CanonicalSessionState) (state : PassState Material) :
    PublicationEffect (AuthoritativeSnapshotOutcome ⊕ PassState Material) := do
  match ← publishSessions ports text state ∅ sessions with
  | .published revisions => do
      inStore (setRecipientSetVersion state.passVersion)
      return .inl (.published state.passVersion revisions.entries)
  | .restart next => do
      note (.restarted state.passVersion next.passVersion)
      return .inr next
  | .stop outcome => return .inl outcome

/-- `publishAuthoritativeSnapshots`. -/
def publishAuthoritativeSnapshots (fuel : Nat) (snapshot : E2ERecipientSnapshotV1)
    (recipients : List Material) (sessions : List CanonicalSessionState) :
    PublicationEffect (Option AuthoritativeSnapshotOutcome) := do
  let blocked ← Effect.ofExcept (preflightAuthoritativeSessionSet text sessions)
  if 0 < blocked.1 then return some (.locallyBlocked blocked.2)
  else do
    note .entered
    Effect.restarting (publishPass ports text sessions) fuel ⟨snapshot, recipients, false⟩

/-! ### The inflight records alone -/

/-- The record of a Session is reconciled: the answer says whether it defers. -/
def settleInflight (activeSessionIds : List String) (sessionId : String)
    (upload : EncryptedSessionSnapshotUploadV3) : PublicationEffect Bool := do
  match ← reconcileEncryptedSession ports upload with
  | .error _ => return true
  | .ok true => do
      completeSession sessionId upload.revision
      return false
  | .ok false => return decide (sessionId ∉ activeSessionIds)

/-- The body of the loop of `reconcileSessionInflights`. -/
def reconcileSessionInflight (activeSessionIds : List String) (sessionId : String) :
    PublicationEffect Bool := do
  let run ← get
  match getSessionInflightLookup run.store.items sessionId with
  | .missing => return false
  | .malformed => return true
  | .crossBound _ => return true
  | .v2 upload => settleInflight ports activeSessionIds sessionId upload
  | .legacy upload => settleInflight ports activeSessionIds sessionId upload

/-- The loop of `reconcileSessionInflights`. -/
def reconcileInflights (activeSessionIds : List String) : List String → PublicationEffect Bool
  | [] => return false
  | sessionId :: rest => do
      let deferred ← reconcileSessionInflight ports activeSessionIds sessionId
      let othersDeferred ← reconcileInflights activeSessionIds rest
      return deferred || othersDeferred

/-- `reconcileSessionInflights`: the answer is `deferred`. -/
def reconcileSessionInflights (sessions : List CanonicalSessionState) :
    PublicationEffect Bool := do
  let run ← get
  reconcileInflights ports (sessions.map CanonicalSessionState.sessionId)
    (listInflightSessionIds run.store.items)

/-! ### A recipient change -/

/-- `Set.add`. -/
def addId (ids : List String) (id : String) : List String :=
  if id ∈ ids then ids else ids ++ [id]

/-- The loop over the stored Sessions: those without an inflight get one. `none` is the return of
`false`. -/
def encryptMissing (snapshot : E2ERecipientSnapshotV1) (recipients : List Material) :
    List String → List CanonicalSessionState → PublicationEffect (Option (List String))
  | pendingIds, [] => return some pendingIds
  | pendingIds, session :: rest => do
      match ← readInflight session.sessionId with
      | some _ => encryptMissing snapshot recipients pendingIds rest
      | none => do
          match ← blockReason text session with
          | some _ => return none
          | none => do
              let run ← get
              let upload ← encryptSession ports
                ⟨session, readNextSessionRevision run.store.state session.sessionId,
                  snapshot.recipientSetVersion, recipients⟩
              let sourceDigest ← Effect.ofExcept (sessionSourceDigest text session)
              persistUpload ports session.sessionId upload sourceDigest
              encryptMissing snapshot recipients (addId pendingIds session.sessionId) rest

/-- The variables of `publishRecipientChangeSnapshots` that a pass of the inner loop starts with. -/
structure PendingState (Material : Type) where
  snapshot : E2ERecipientSnapshotV1
  recipients : List Material
  upload : EncryptedSessionSnapshotUploadV3
  sameVersionCommitRetryExhausted : Bool

/-- How the inner loop ends: the upload is committed, with the recipients at that time, or `false`
is returned. -/
inductive PendingEnd (Material : Type)
  | committed (snapshot : E2ERecipientSnapshotV1) (recipients : List Material)
  | gaveUp

/-- The Session and the recipients that a refresh gave. -/
abbrev Refresh (Material : Type) : Type :=
  CanonicalSessionState × E2ERecipientSnapshotV1 × List Material

section
variable (sessionId : String) (state : PendingState Material)

/-- The upload is encrypted anew with its revision. -/
def reencryptPending (revision : Nat) : Option (Refresh Material) →
    PublicationEffect (PendingEnd Material ⊕ PendingState Material)
  | none => return .inl .gaveUp
  | some (session, snapshot, recipients) => do
      match ← blockReason text session with
      | some _ => return .inl .gaveUp
      | none => do
          let replacement ← encryptSession ports
            ⟨session, revision, snapshot.recipientSetVersion, recipients⟩
          let sourceDigest ← Effect.ofExcept (sessionSourceDigest text session)
          replaceUpload ports sessionId replacement sourceDigest
          return .inr ⟨snapshot, recipients, replacement, state.sameVersionCommitRetryExhausted⟩

/-- The upload was committed, and the Session is published again with its next revision. -/
def retryPending (revision : Nat) : Option (Refresh Material) →
    PublicationEffect (PendingEnd Material ⊕ PendingState Material)
  | none => return .inl .gaveUp
  | some (session, snapshot, recipients) => do
      match ← blockReason text session with
      | some _ => return .inl .gaveUp
      | none => do
          completeSession sessionId state.upload.revision
          let next ← encryptSession ports
            ⟨session, revision, snapshot.recipientSetVersion, recipients⟩
          let sourceDigest ← Effect.ofExcept (sessionSourceDigest text session)
          persistUpload ports sessionId next sourceDigest
          return .inr ⟨snapshot, recipients, next,
            decide (snapshot.recipientSetVersion = state.upload.recipientSetVersion)⟩

/-- The `switch` over the decision. -/
def carryOutPending (refresh : Option (Refresh Material)) : SessionUploadDecision →
    PublicationEffect (PendingEnd Material ⊕ PendingState Material)
  | .commit acceptedRevision => do
      completeSession sessionId acceptedRevision
      return .inl (.committed state.snapshot state.recipients)
  | .defer _ => return .inl .gaveUp
  | .reconcile => return .inl .gaveUp
  | .failClosed => return .inl .gaveUp
  | .refreshReencrypt revision => reencryptPending ports text sessionId state revision refresh
  | .retryNextRevision revision => retryPending ports text sessionId state revision refresh

/-- A conflict was reconciled, and the recipients were refreshed if it was about them. -/
def settlePending (failure : RelayFailure) (committed : Bool)
    (refresh : Option (Refresh Material)) :
    PublicationEffect (PendingEnd Material ⊕ PendingState Material) :=
  carryOutPending ports text sessionId state refresh
    (conflictDecision state.upload failure committed state.upload.recipientSetVersion
      (refresh.map fun refresh => refresh.2.1.recipientSetVersion)
      state.sameVersionCommitRetryExhausted)

/-- The decision after an attempt without a conflict. -/
def plainDecision (publishSucceeded : Bool) (failureCategory : UploadFailureCategory) :
    SessionUploadDecision :=
  decideSessionUpload {
    publishSucceeded := publishSucceeded
    conflictReason := none
    reconcileCommitted := none
    attemptedRecipientVersion := state.upload.recipientSetVersion
    refreshedRecipientVersion := none
    currentRevision := state.upload.revision
    sameVersionCommitRetryExhausted := false
    failureCategory := failureCategory }

/-- One pass of the inner loop, without its loop event. -/
def attemptPending : PublicationEffect (PendingEnd Material ⊕ PendingState Material) := do
  match ← publishEncryptedSession ports state.upload with
  | .ok () => carryOutPending ports text sessionId state none (plainDecision state true .http)
  | .error failure =>
      if isRelayConflict failure then do
        match ← reconcileEncryptedSession ports state.upload with
        | .error _ => return .inl .gaveUp
        | .ok committed =>
            if failure.reason = some recipientSetChangedReason then do
              let run ← get
              match run.store.state.sessions.get? sessionId with
              | none => return .inl .gaveUp
              | some session => do
                  match ← refreshRecipients ports with
                  | none => return .inl .gaveUp
                  | some current => do
                      let state := { state with snapshot := current.1, recipients := current.2 }
                      settlePending ports text sessionId state failure committed
                        (some (session, current))
            else settlePending ports text sessionId state failure committed none
      else
        carryOutPending ports text sessionId state none
          (plainDecision state false (relayFailureCategory failure))

/-- One pass of the inner loop. -/
def pendingPass : PublicationEffect (PendingEnd Material ⊕ PendingState Material) := do
  match ← attemptPending ports text sessionId state with
  | .inl pendingEnd => return .inl pendingEnd
  | .inr next => do
      note (.restarted state.upload.recipientSetVersion next.snapshot.recipientSetVersion)
      return .inr next

end

/-- The loop over the pending Sessions. The inner answer is `none` at the end of the fuel, and
otherwise the version to set, or `none` for `false`. -/
def publishPending (fuel : Nat) (snapshot : E2ERecipientSnapshotV1) (recipients : List Material) :
    List String → PublicationEffect (Option (Option Nat))
  | [] => return some (some snapshot.recipientSetVersion)
  | sessionId :: rest => do
      match ← readInflight sessionId with
      | none => return some none
      | some upload => do
          note .entered
          match ← Effect.restarting (pendingPass ports text sessionId) fuel
              ⟨snapshot, recipients, upload, false⟩ with
          | none => return none
          | some .gaveUp => return some none
          | some (.committed snapshot recipients) =>
              publishPending fuel snapshot recipients rest

/-- `listSessions`. -/
def listSessions (state : PersistedBridgeState) : List CanonicalSessionState :=
  state.sessions.values.mergeSort fun a b =>
    decide (text.localeCompare b.updatedAt a.updatedAt ≠ .gt)

/-- `publishRecipientChangeSnapshots`. -/
def publishRecipientChangeSnapshots (fuel : Nat) (snapshot : E2ERecipientSnapshotV1)
    (recipients : List Material) : PublicationEffect (Option Bool) := do
  let run ← get
  let inflightIds := (listInflightSessionIds run.store.items).foldl addId []
  match ← encryptMissing ports text snapshot recipients inflightIds
      (listSessions text run.store.state) with
  | none => return some false
  | some pendingIds => do
      match ← publishPending ports text fuel snapshot recipients pendingIds with
      | none => return none
      | some none => return some false
      | some (some version) => do
          inStore (setRecipientSetVersion version)
          return some true

end

end Ariava.E2e
