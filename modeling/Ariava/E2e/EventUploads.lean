import Ariava.E2e.KeyringUpdates
import Ariava.E2e.UploadDecisions
import Ariava.E2e.UploadPreflight
import Ariava.StateStore.PendingUploads

/-!
# `Ariava.E2e.EventUploads`: the upload of a pending event

`processPendingEventDescriptor` and `publishEventUpload` of `upload-actions.ts`, with the functions
that they share. An event goes through the steps below, and each of them may end its turn.

- A completion journal is resumed before anything else.
- The inflight and the source are loaded. A source that cannot be published becomes a dead letter,
  with its inflight once the Relay answered that this is not committed.
- An inflight for other recipients, or of another source, is reconciled before it is replaced.
- The upload is published. A conflict is reconciled, and then it is complete, quarantined,
  encrypted anew for other recipients (once), or deferred.

A run has the store, the recipients of the flush, and a history: the calls with their answers and
the pairs of files that the writes left, latest first. The Relay, the sealing of the contents and
the clock are parameters, by the number of the calls so far. The hooks only report, and are left
out.
-/

set_option autoImplicit false

namespace Ariava.E2e

open Ariava.Lib
open Ariava.Protocol
open Ariava.StateStore

/-! ### Runs -/

/-- A call of the Relay client and its answer. The answer of a refresh is the version of the
recipients, if it gave any. -/
inductive EventCall
  | publication (upload : E2EEventAndSessionUploadV3) (answer : Except RelayFailure Unit)
  | reconciliation (upload : E2EEventAndSessionUploadV3) (answer : Except RelayFailure Bool)
  | refresh (version : Option Nat)

/-- A step that can be seen from outside: a call, or a write with the files that it left. -/
inductive EventStep
  | called (call : EventCall)
  | wrote (files : RuntimeFiles)

/-- The call of a step. -/
def EventStep.call? : EventStep → Option EventCall
  | called call => some call
  | wrote _ => none

/-- The files that a step left. -/
def EventStep.files? : EventStep → Option RuntimeFiles
  | called _ => none
  | wrote files => some files

/-- `EventFlushContext`. -/
structure EventFlushContext (Material : Type) where
  snapshot : E2ERecipientSnapshotV1
  recipients : List Material

/-- The store, the context of the flush and the history, latest step first. -/
structure EventRun (Material : Type) where
  store : BridgeStore
  ctx : EventFlushContext Material
  history : List EventStep

namespace EventRun

variable {Material : Type}

/-- The run before the first step. -/
def start (store : BridgeStore) (ctx : EventFlushContext Material) : EventRun Material :=
  ⟨store, ctx, []⟩

/-- The calls so far. -/
def calls (run : EventRun Material) : List EventCall := run.history.filterMap EventStep.call?

/-- The number of calls so far. -/
def clock (run : EventRun Material) : Nat := run.calls.length

end EventRun

/-- The input of `encryptEventUpload`. -/
structure EventEncryption (Material : Type) where
  event : CanonicalEvent
  session : CanonicalSessionState
  revision : Nat
  recipientSetVersion : Nat
  recipients : List Material

/-- A sealed content and its wraps for the recipients. -/
structure SealedContent where
  content : EncryptedContentV1
  keyWraps : List RecipientKeyWrapV1

/-- What the upload of an event meets, by the time of the call. -/
structure EventPorts (Material : Type) where
  publishEncryptedEvent : Nat → Except RelayFailure Unit
  reconcileEncryptedEvent : Nat → Except RelayFailure Bool
  recipientSnapshot : Nat → Except RelayFailure E2ERecipientSnapshotV1
  /-- `keyring.reconcileRecipients`. -/
  reconcileRecipients : Nat → E2ERecipientSnapshotV1 → Except Thrown (List Material)
  /-- `sealContent` and `wrapDekForRecipients`, for the event and for its Session. -/
  sealContents : Nat → EventEncryption Material → Except Thrown (SealedContent × SealedContent)
  /-- `new Date().toISOString()`. -/
  now : Nat → String

/-- `PendingEventDescriptorOutcome`. -/
inductive PendingEventDescriptorOutcome
  | completed
  | flushed
  | quarantined
  | deferred
  | recoveryRequired
deriving DecidableEq

section
variable {Material : Type}

/-- A program of an event upload. -/
abbrev EventEffect (Material α : Type) : Type := Effect Thrown (EventRun Material) α

/-- A program of the store. Its writes go into the history. -/
def inEventStore {α : Type} (p : StoreEffect α) : EventEffect Material α := fun run =>
  let ended := p.run { run.store with images := [] }
  (ended.1, { run with
    store := ended.2
    history := ended.2.images.map EventStep.wrote ++ run.history })

/-- A call is answered. -/
def answered (call : EventCall) : EventEffect Material Unit :=
  modify fun run => { run with history := .called call :: run.history }

variable (ports : EventPorts Material)

/-- `relayClient.publishEncryptedEvent`. -/
def publishEncryptedEvent (upload : E2EEventAndSessionUploadV3) :
    EventEffect Material (Except RelayFailure Unit) := do
  let run ← get
  let answer := ports.publishEncryptedEvent run.clock
  answered (.publication upload answer)
  return answer

/-- `relayClient.reconcileEncryptedEvent`. -/
def reconcileEncryptedEvent (upload : E2EEventAndSessionUploadV3) :
    EventEffect Material (Except RelayFailure Bool) := do
  let run ← get
  let answer := ports.reconcileEncryptedEvent run.clock
  answered (.reconciliation upload answer)
  return answer

/-- The refresh of the context: the snapshot is taken over before its recipients are reconciled.
The answer is whether both went through. -/
def refreshContext : EventEffect Material Bool := do
  let run ← get
  match ports.recipientSnapshot run.clock with
  | .error _ => do
      answered (.refresh none)
      return false
  | .ok snapshot => do
      modify fun run => { run with ctx := { run.ctx with snapshot := snapshot } }
      match ports.reconcileRecipients run.clock snapshot with
      | .error _ => do
          answered (.refresh none)
          return false
      | .ok recipients => do
          modify fun run => { run with ctx := { run.ctx with recipients := recipients } }
          answered (.refresh (some snapshot.recipientSetVersion))
          return true

/-- `encryptEventUpload` of the crypto port. The notification previews that it attaches are read by
the Relay alone. -/
def encryptEventUpload (time : Nat) (input : EventEncryption Material) :
    Except Thrown E2EEventAndSessionUploadV3 := do
  let _ ← eventEncryptionInput input.event input.session
  let (eventContent, sessionContent) ← ports.sealContents time input
  return {
    event := {
      eventId := input.event.eventId
      hostId := input.event.hostId
      sessionId := input.event.sessionId
      provider := input.event.provider
      type := input.event.kind.type
      createdAt := input.event.createdAt
      recipientSetVersion := input.recipientSetVersion
      content := eventContent.content
      keyWraps := eventContent.keyWraps }
    session := {
      hostId := input.session.hostId
      sessionId := input.session.sessionId
      provider := input.session.provider
      status := input.session.status
      updatedAt := input.session.updatedAt
      lastEventId := input.session.lastEventId.filter (· ≠ "")
      snoozedUntil := input.session.snoozedUntil.filter (· ≠ "")
      revision := input.revision
      recipientSetVersion := input.recipientSetVersion
      content := sessionContent.content
      keyWraps := sessionContent.keyWraps } }

/-- An upload has the ids of what was encrypted. -/
theorem encryptEventUpload_ok {time : Nat} {input : EventEncryption Material}
    {upload : E2EEventAndSessionUploadV3} (h : encryptEventUpload ports time input = .ok upload) :
    upload.event.eventId = input.event.eventId ∧
      upload.session.sessionId = input.session.sessionId := by
  unfold encryptEventUpload at h
  cases hinput : eventEncryptionInput input.event input.session with
  | error thrown =>
    rw [hinput] at h
    cases h
  | ok contents =>
    rw [hinput] at h
    cases hsealed : ports.sealContents time input with
    | error thrown =>
      rw [hsealed] at h
      cases h
    | ok sealed =>
      rw [hsealed] at h
      cases h
      exact ⟨rfl, rfl⟩

/-- `encryptEvent`. -/
def encryptEvent (event : CanonicalEvent) (session : CanonicalSessionState) (revision : Nat) :
    EventEffect Material E2EEventAndSessionUploadV3 := do
  let run ← get
  Effect.ofExcept (encryptEventUpload ports run.clock
    ⟨event, session, revision, run.ctx.snapshot.recipientSetVersion, run.ctx.recipients⟩)

/-! ### Ends of a turn -/

section
variable (descriptor : PendingEventDescriptor)

/-- `completeFromInflight`. -/
def completeFromInflight (upload : E2EEventAndSessionUploadV3) : EventEffect Material Unit := do
  let run ← get
  inEventStore (beginEventUploadCompletion {
    eventId := descriptor.eventId
    sessionId := descriptor.sessionId
    revision := upload.session.revision
    eventContentId := upload.event.content.contentId
    sessionContentId := upload.session.content.contentId
    committedAt := ports.now run.clock
    revisionCommitted := false
    inflightRemoved := false
    sourceRemoved := false })
  inEventStore (completeEventUpload descriptor.eventId)

/-- `quarantineEvent`. A write that fails leaves the records for the next turn. -/
def quarantineEvent (reasonCode : EventDeadLetterReasonCode)
    (provenUncommittedInflight : Option SpoolPlaintext) :
    EventEffect Material PendingEventDescriptorOutcome := do
  let run ← get
  let quarantined ← tryCatch (inEventStore (quarantinePendingEventRaw descriptor reasonCode
    provenUncommittedInflight (ports.now run.clock))) fun _ => return false
  return if quarantined then .quarantined else .deferred

/-- `quarantinePermanentlyConflictingEvent`. -/
def quarantinePermanentlyConflictingEvent (event : CanonicalEvent) :
    EventEffect Material Bool := do
  let run ← get
  tryCatch (inEventStore (quarantinePendingEventRaw ⟨event.eventId, event.sessionId⟩
    .relayPermanentConflict (openInflightEventRaw run.store.items event.eventId)
    (ports.now run.clock))) fun _ => return false

/-- `reconcileInflightBeforeOverwrite`. `none` is the explicit answer that it is not committed. -/
def reconcileInflightBeforeOverwrite (inflight : LoadedEventInflight) :
    EventEffect Material (Option PendingEventDescriptorOutcome) := do
  match ← reconcileEncryptedEvent ports inflight.upload with
  | .error _ => return some .deferred
  | .ok true => do
      completeFromInflight ports descriptor inflight.upload
      return some .completed
  | .ok false => return none

/-! ### The publication -/

/-- A conflict is reconciled with the upload as it was sent. `none` is a reconciliation that
failed. -/
def reconcileConflict (upload : E2EEventAndSessionUploadV3) (failure : RelayFailure)
    (recipientRefreshExhausted : Bool) : EventEffect Material (Option EventUploadDecision) := do
  match ← reconcileEncryptedEvent ports upload with
  | .error _ => return none
  | .ok committed => return some (decideEventUpload {
      publishSucceeded := false
      conflictReason := failure.reason
      reconcileCommitted := some committed
      permanentEventConflict := isPermanentEventConflict failure
      recipientRefreshExhausted := recipientRefreshExhausted
      failureCategory := relayFailureCategory failure })

/-- The first publication of `publishEventUpload`. `none` is the return of `deferred`. -/
def publishFirst (upload : E2EEventAndSessionUploadV3) :
    EventEffect Material (Option EventUploadDecision) := do
  match ← publishEncryptedEvent ports upload with
  | .ok () => return some .complete
  | .error failure =>
      if isRelayConflict failure then reconcileConflict ports upload failure false
      else return none

/-- The publication after a refresh. A failure that is no conflict goes into the decision. -/
def publishRefreshed (upload : E2EEventAndSessionUploadV3) :
    EventEffect Material (Option EventUploadDecision) := do
  match ← publishEncryptedEvent ports upload with
  | .ok () => return some .complete
  | .error failure =>
      if isRelayConflict failure then reconcileConflict ports upload failure true
      else return some (decideEventUpload {
        publishSucceeded := false
        conflictReason := none
        reconcileCommitted := none
        permanentEventConflict := isPermanentEventConflict failure
        recipientRefreshExhausted := true
        failureCategory := relayFailureCategory failure })

/-- The end of `publishEventUpload`, after the last decision. -/
def carryOutDecision (event : CanonicalEvent) (upload : E2EEventAndSessionUploadV3) :
    EventUploadDecision → EventEffect Material PendingEventDescriptorOutcome
  | .complete => do
      completeFromInflight ports descriptor upload
      return .flushed
  | .quarantine _ => do
      let quarantined ← quarantinePermanentlyConflictingEvent ports event
      return if quarantined then .quarantined else .deferred
  | _ => return .deferred

variable (text : ProtocolText)

/-- The branch of `publishEventUpload` for other recipients: the upload is encrypted anew with its
revision, and published once more. -/
def refreshAndPublish (source : PendingEventSource) (upload : E2EEventAndSessionUploadV3) :
    EventEffect Material PendingEventDescriptorOutcome := do
  if ← refreshContext ports then do
    let replacement ← encryptEvent ports source.event source.session upload.session.revision
    let sourceDigest ← Effect.ofExcept (eventSourceDigest text source.event source.session)
    let run ← get
    inEventStore (replaceInflightEventUpload descriptor.eventId descriptor.sessionId replacement
      sourceDigest (ports.now run.clock))
    match ← publishRefreshed ports replacement with
    | none => return .deferred
    | some decision => carryOutDecision ports descriptor source.event replacement decision
  else return .deferred

/-- `publishEventUpload`. -/
def publishEventUpload (source : PendingEventSource) (upload : E2EEventAndSessionUploadV3) :
    EventEffect Material PendingEventDescriptorOutcome := do
  match ← publishFirst ports upload with
  | none => return .deferred
  | some .refreshSessionAndReencrypt => refreshAndPublish ports descriptor text source upload
  | some decision => carryOutDecision ports descriptor source.event upload decision

/-! ### A pending event -/

/-- `sourceDeadLetterReason`. -/
def sourceDeadLetterReason : PendingSourceFailure → Option EventDeadLetterReasonCode
  | .utf8Invalid => some .sourceUtf8Invalid
  | .jsonInvalid => some .sourceJsonInvalid
  | .shapeInvalid => some .sourceJsonInvalid
  | .bindingInvalid => some .eventSessionBindingInvalid
  | .missing => none

/-- The digest of an inflight says that it is of another source. -/
def isDigestMismatch (inflight : LoadedEventInflight) (sourceDigest : String) : Bool :=
  inflight.sourceDigest.any fun digest => !digestsEqual digest sourceDigest

/-- The inflight is for other recipients than those of the flush. -/
def isRecipientMismatch (inflight : LoadedEventInflight) (recipientSetVersion : Nat) : Bool :=
  decide (inflight.upload.event.recipientSetVersion ≠ recipientSetVersion)
    || decide (inflight.upload.session.recipientSetVersion ≠ recipientSetVersion)

/-- A source that cannot be published becomes a dead letter, after its inflight was reconciled. An
inflight that is of another source by its digest is kept for a recovery. -/
def quarantineReconciled (reasonCode : EventDeadLetterReasonCode) (currentDigest : Option String) :
    Option LoadedEventInflight → EventEffect Material PendingEventDescriptorOutcome
  | none => quarantineEvent ports descriptor reasonCode none
  | some inflight => do
      match ← reconcileInflightBeforeOverwrite ports descriptor inflight with
      | some outcome => return outcome
      | none =>
          if currentDigest.any (isDigestMismatch inflight) then return .recoveryRequired
          else quarantineEvent ports descriptor reasonCode (some inflight.raw)

/-- The upload that is published: the inflight, or a fresh encryption that takes its place. -/
def prepareEventUpload (source : PendingEventSource) (sourceDigest : String)
    (inflight : Option LoadedEventInflight) :
    EventEffect Material E2EEventAndSessionUploadV3 := do
  let run ← get
  match inflight with
  | none => do
      let upload ← encryptEvent ports source.event source.session
        (readNextSessionRevision run.store.state source.event.sessionId)
      inEventStore (persistInflightEventUpload descriptor.eventId descriptor.sessionId upload
        sourceDigest (ports.now run.clock))
      return upload
  | some inflight =>
      if isRecipientMismatch inflight run.ctx.snapshot.recipientSetVersion then do
        let upload ← encryptEvent ports source.event source.session
          inflight.upload.session.revision
        inEventStore (replaceInflightEventUpload descriptor.eventId descriptor.sessionId upload
          sourceDigest (ports.now run.clock))
        return upload
      else return inflight.upload

/-- An inflight of another source or for other recipients is reconciled before it is overwritten.
`none` is to go on. -/
def reconcileMismatch (sourceDigest : String) (recipientSetVersion : Nat) :
    Option LoadedEventInflight → EventEffect Material (Option PendingEventDescriptorOutcome)
  | none => return none
  | some inflight => do
      if isDigestMismatch inflight sourceDigest
          || isRecipientMismatch inflight recipientSetVersion then do
        match ← reconcileInflightBeforeOverwrite ports descriptor inflight with
        | some outcome => return some outcome
        | none =>
            return if isDigestMismatch inflight sourceDigest then some .recoveryRequired else none
      else return none

/-- The steps for a source that is ready. -/
def processReadySource (source : PendingEventSource) (sourceDigest : String)
    (inflight : Option LoadedEventInflight) :
    EventEffect Material PendingEventDescriptorOutcome := do
  let run ← get
  match ← reconcileMismatch ports descriptor sourceDigest run.ctx.snapshot.recipientSetVersion
      inflight with
  | some outcome => return outcome
  | none => do
      let upload ← prepareEventUpload ports descriptor source sourceDigest inflight
      publishEventUpload ports descriptor text source upload

/-- The steps for a source that loads. -/
def processSource (source : PendingEventSource) (inflight : Option LoadedEventInflight) :
    EventEffect Material PendingEventDescriptorOutcome := do
  match ← Effect.ofExcept (preflightEventSource text source.event source.session) with
  | .ready sourceDigest =>
      processReadySource ports descriptor text source sourceDigest inflight
  | .invalidContent _ =>
      quarantineReconciled ports descriptor .protectedContentInvalid
        (eventSourceDigest text source.event source.session).toOption inflight
  | .invalidSourceBinding =>
      quarantineReconciled ports descriptor .eventSessionBindingInvalid
        (eventSourceDigest text source.event source.session).toOption inflight

/-- `processPendingEventDescriptor`. -/
def processPendingEventDescriptor : EventEffect Material PendingEventDescriptorOutcome := do
  let run ← get
  if run.store.state.eventUploadCompletions.contains descriptor.eventId then do
    inEventStore (completeEventUpload descriptor.eventId)
    return .completed
  else
    match loadPendingEventParts text run.store.items descriptor with
    | .error _ => return .recoveryRequired
    | .ok ⟨.ok source, inflight⟩ => processSource ports descriptor text source inflight
    | .ok ⟨.error failure, inflight⟩ =>
        match sourceDeadLetterReason failure with
        | none => return .recoveryRequired
        | some reasonCode => quarantineReconciled ports descriptor reasonCode none inflight

end

end

end Ariava.E2e
