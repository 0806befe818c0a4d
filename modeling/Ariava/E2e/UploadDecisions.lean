import Mathlib.Logic.Basic

/-!
# `Ariava.E2e.UploadDecisions`: what to do after an upload attempt

`upload-failures.ts` and `upload-decisions.ts`. A failure of the Relay is what the code reads
of the error: its status and its reason. A conflict is a status 409. The decisions are pure:
they see the outcome of the publication, of its reconciliation and of a refresh of the
recipients, and nothing else.

- `decideEventUpload_complete_iff`, `decideEventUpload_quarantine`, `decideEventUpload_refresh`:
  what an event upload must have been told before it is completed, quarantined or encrypted
  anew.
- `decideSessionUpload_commit`, `decideSessionUpload_refresh`, `decideSessionUpload_retry`: what a
  Session upload must have been told before its revision is committed, or before it is published
  again.
-/

set_option autoImplicit false

namespace Ariava.E2e

/-! ### Failures -/

/-- `UploadFailureCategory`. -/
inductive UploadFailureCategory
  | network
  | http
  | recipientSet
  | sessionRevision
  | eventContent
  | localValidation
  | localSpoolRecord
deriving DecidableEq

/-- An error of a Relay call. `isClientError` says that it is a `RelayClientError`. -/
structure RelayFailure where
  isClientError : Bool
  status : Option Nat
  reason : Option String
deriving DecidableEq

/-- `RECIPIENT_SET_CHANGED_REASON`. -/
def recipientSetChangedReason : String := "e2e_recipient_set_changed"

/-- `PERMANENT_EVENT_CONFLICT_CATEGORIES`. -/
def permanentEventConflictCategory : String → Option UploadFailureCategory
  | "session_revision_stale" => some .sessionRevision
  | "session_revision_gap" => some .sessionRevision
  | "session revision conflict" => some .sessionRevision
  | "encrypted event conflict" => some .eventContent
  | "encrypted upload conflict" => some .eventContent
  | _ => none

/-- `isRelayConflict`. -/
def isRelayConflict (failure : RelayFailure) : Bool :=
  decide (failure.status = some 409) && (failure.isClientError || failure.reason.isSome)

/-- `isPermanentEventConflict`. -/
def isPermanentEventConflict (failure : RelayFailure) : Bool :=
  isRelayConflict failure
    && (permanentEventConflictCategory (failure.reason.getD "")).isSome

/-- `relayFailureCategory`. -/
def relayFailureCategory (failure : RelayFailure) : UploadFailureCategory :=
  if failure.reason = some recipientSetChangedReason then .recipientSet
  else match permanentEventConflictCategory (failure.reason.getD "") with
    | some category => category
    | none => if failure.status.isNone then .network else .http

/-! ### Session uploads -/

/-- `SessionUploadDecision`. The error of `failClosed` is not read. -/
inductive SessionUploadDecision
  | commit (acceptedRevision : Nat)
  | reconcile
  | refreshReencrypt (revision : Nat)
  | retryNextRevision (revision : Nat)
  | defer (reason : UploadFailureCategory)
  | failClosed
deriving DecidableEq

/-- `SessionUploadDecisionInput`. -/
structure SessionUploadDecisionInput where
  publishSucceeded : Bool
  conflictReason : Option String
  reconcileCommitted : Option Bool
  attemptedRecipientVersion : Nat
  refreshedRecipientVersion : Option Nat
  currentRevision : Nat
  sameVersionCommitRetryExhausted : Bool
  failureCategory : UploadFailureCategory

/-- The recipient-set part of `decideSessionUpload`. -/
def decideRecipientChange (input : SessionUploadDecisionInput) (committed : Bool) :
    SessionUploadDecision :=
  match input.refreshedRecipientVersion with
  | none => .defer .recipientSet
  | some refreshed =>
      if refreshed = input.attemptedRecipientVersion
          ∧ (committed = false ∨ input.sameVersionCommitRetryExhausted = true) then .failClosed
      else if committed then .retryNextRevision (input.currentRevision + 1)
      else .refreshReencrypt input.currentRevision

/-- `decideSessionUpload`. -/
def decideSessionUpload (input : SessionUploadDecisionInput) : SessionUploadDecision :=
  if input.publishSucceeded then .commit input.currentRevision
  else match input.conflictReason with
    | none => .defer input.failureCategory
    | some reason =>
        match input.reconcileCommitted with
        | none => .reconcile
        | some committed =>
            if reason = recipientSetChangedReason then decideRecipientChange input committed
            else if committed then .commit input.currentRevision
            else .defer input.failureCategory

/-! ### Event uploads -/

/-- `EventUploadDecision`. -/
inductive EventUploadDecision
  | complete
  | reconcile
  | refreshSessionAndReencrypt
  | quarantine (category : UploadFailureCategory)
  | defer (category : UploadFailureCategory)
deriving DecidableEq

/-- `EventUploadDecisionInput`. -/
structure EventUploadDecisionInput where
  publishSucceeded : Bool
  conflictReason : Option String
  reconcileCommitted : Option Bool
  permanentEventConflict : Bool
  recipientRefreshExhausted : Bool
  failureCategory : UploadFailureCategory

/-- `decideEventUpload`. -/
def decideEventUpload (input : EventUploadDecisionInput) : EventUploadDecision :=
  if input.publishSucceeded then .complete
  else match input.conflictReason with
    | none => .defer input.failureCategory
    | some reason =>
        match input.reconcileCommitted with
        | none => .reconcile
        | some true => .complete
        | some false =>
            if reason = recipientSetChangedReason then
              if input.recipientRefreshExhausted then .defer input.failureCategory
              else .refreshSessionAndReencrypt
            else if input.permanentEventConflict then .quarantine input.failureCategory
            else .defer input.failureCategory

/-! ### What a decision says of the verdict -/

section
variable {input : EventUploadDecisionInput}

/-- An event upload is complete when it was published, or when a conflict was reconciled as
committed. -/
theorem decideEventUpload_complete_iff :
    decideEventUpload input = .complete ↔
      input.publishSucceeded = true ∨
        (input.conflictReason.isSome = true ∧ input.reconcileCommitted = some true) := by
  unfold decideEventUpload
  grind

/-- An event is quarantined only after the reconciliation answered that it is not committed. -/
theorem decideEventUpload_quarantine {category : UploadFailureCategory}
    (h : decideEventUpload input = .quarantine category) :
    input.reconcileCommitted = some false ∧ input.permanentEventConflict = true := by
  unfold decideEventUpload at h
  grind

/-- An event is encrypted anew only after the reconciliation answered that it is not
committed. -/
theorem decideEventUpload_refresh
    (h : decideEventUpload input = .refreshSessionAndReencrypt) :
    input.reconcileCommitted = some false ∧ input.recipientRefreshExhausted = false := by
  unfold decideEventUpload at h
  grind

end

/-- A Session revision is committed when the upload was published, or when a conflict that is
not about the recipients was reconciled as committed. -/
theorem decideSessionUpload_commit {input : SessionUploadDecisionInput} {revision : Nat}
    (h : decideSessionUpload input = .commit revision) :
    revision = input.currentRevision ∧
      (input.publishSucceeded = true ∨ input.reconcileCommitted = some true) := by
  unfold decideSessionUpload decideRecipientChange at h
  grind

/-- A Session is encrypted anew for other recipients than those of the attempt, and only after the
reconciliation answered that it is not committed. -/
theorem decideSessionUpload_refresh {input : SessionUploadDecisionInput} {revision : Nat}
    (h : decideSessionUpload input = .refreshReencrypt revision) :
    revision = input.currentRevision ∧ input.reconcileCommitted = some false ∧
      ∃ refreshed, input.refreshedRecipientVersion = some refreshed ∧
        refreshed ≠ input.attemptedRecipientVersion := by
  unfold decideSessionUpload decideRecipientChange at h
  grind

/-- A committed Session is published again for the same recipients only once. -/
theorem decideSessionUpload_retry {input : SessionUploadDecisionInput} {revision : Nat}
    (h : decideSessionUpload input = .retryNextRevision revision) :
    revision = input.currentRevision + 1 ∧ input.reconcileCommitted = some true ∧
      ∃ refreshed, input.refreshedRecipientVersion = some refreshed ∧
        (refreshed = input.attemptedRecipientVersion →
          input.sameVersionCommitRetryExhausted = false) := by
  unfold decideSessionUpload decideRecipientChange at h
  grind

end Ariava.E2e
