import Ariava.E2e.UploadActions

/-!
# `Ariava.Proofs.PublicationLoops`: the publication loops end

The two loops of `UploadActions` start again after a conflict about the recipients. A restart at
another version spends a change of the recipient set, and a restart at the same version spends the
flag, which only a change gives back. So with finitely many changes the loops end, whatever the
Relay answers.

- *Frames.* No step but a restart adds a loop event, and calls are only added (`Grows`).
- *Restarts.* `publishPass_restart` and `pendingPass_restart` say what a restart goes on with:
  recipients from a refresh in between, at another version or with the flag spent (`GoesOn`).
- *The end.* From there `passesLeft` goes down at every restart once the Relay has settled:
  `publishAuthoritativeSnapshots_ends`, `publishRecipientChangeSnapshots_ends`.
- *The order of the restarts.* Two restarts in a row do not both stay at the version
  (`follow_authoritative`, `follow_recipientChange`).
-/

set_option autoImplicit false

namespace Ariava.Proofs.PublicationLoops

open Ariava.Lib
open Ariava.Protocol
open Ariava.StateStore
open Ariava.E2e

/-! ### Frames -/

/-- Calls are added, and no loop starts again. -/
def Grows (s t : PublicationRun) : Prop := s.calls <:+ t.calls ∧ t.loops = s.loops

theorem Grows.refl (s : PublicationRun) : Grows s s := ⟨List.suffix_rfl, rfl⟩

theorem Grows.trans (s t u : PublicationRun) (h : Grows s t) (h' : Grows t u) : Grows s u :=
  ⟨h.1.trans h'.1, h'.2.trans h.2⟩

/-- The clock goes forward, and no loop starts again. -/
def Forward (s t : PublicationRun) : Prop := s.clock ≤ t.clock ∧ t.loops = s.loops

section
variable {Material : Type} {ports : UploadPorts Material} {text : ProtocolText} {α β : Type}

theorem Grows.of_run {p : PublicationEffect α} {s t : PublicationRun} {r : Except Thrown α}
    (hp : Effect.Leaves Grows p) (h : p.run s = (r, t)) : Grows s t := by
  have hgrows := hp s
  rwa [h] at hgrows

theorem Forward.of_run {p : PublicationEffect α} {s t : PublicationRun} {r : Except Thrown α}
    (hp : Effect.Leaves Grows p) (h : p.run s = (r, t)) : Forward s t := by
  obtain ⟨hcalls, hloops⟩ := Grows.of_run hp h
  exact ⟨hcalls.length_le, hloops⟩

theorem grows_bind {p : PublicationEffect α} {f : α → PublicationEffect β}
    (hp : Effect.Leaves Grows p) (hf : ∀ a, Effect.Leaves Grows (f a)) :
    Effect.Leaves Grows (p >>= f) := Effect.Leaves.bind Grows.trans hp hf

theorem grows_pure (a : α) : Effect.Leaves Grows (pure a : PublicationEffect α) :=
  Effect.Leaves.pure Grows.refl a

theorem grows_get : Effect.Leaves Grows (get : PublicationEffect PublicationRun) :=
  Effect.Leaves.get Grows.refl

theorem grows_ofExcept (r : Except Thrown α) :
    Effect.Leaves Grows (Effect.ofExcept r : PublicationEffect α) :=
  Effect.Leaves.ofExcept Grows.refl r

theorem grows_inStore (p : StoreEffect α) : Effect.Leaves Grows (inStore p) :=
  fun s => Grows.refl s

theorem grows_awaiting (call : RelayCall) : Effect.Leaves Grows (awaiting ports call) :=
  fun s => ⟨List.suffix_cons _ s.calls, rfl⟩

theorem grows_publish (upload : EncryptedSessionSnapshotUploadV3) :
    Effect.Leaves Grows (publishEncryptedSession ports upload) :=
  grows_bind grows_get fun _ => grows_bind (grows_awaiting _) fun _ => grows_pure _

theorem grows_reconcile (upload : EncryptedSessionSnapshotUploadV3) :
    Effect.Leaves Grows (reconcileEncryptedSession ports upload) :=
  grows_bind grows_get fun _ => grows_bind (grows_awaiting _) fun _ => grows_pure _

theorem grows_refresh : Effect.Leaves Grows (refreshRecipients ports) :=
  grows_bind grows_get fun _ => grows_bind (grows_awaiting _) fun _ => grows_pure _

theorem grows_encrypt (input : SessionEncryption Material) :
    Effect.Leaves Grows (encryptSession ports input) :=
  grows_bind grows_get fun _ => grows_ofExcept _

theorem grows_persist (sessionId : String) (upload : EncryptedSessionSnapshotUploadV3)
    (sourceDigest : String) :
    Effect.Leaves Grows (persistUpload ports sessionId upload sourceDigest) :=
  grows_bind grows_get fun _ => grows_inStore _

theorem grows_replace (sessionId : String) (upload : EncryptedSessionSnapshotUploadV3)
    (sourceDigest : String) :
    Effect.Leaves Grows (replaceUpload ports sessionId upload sourceDigest) :=
  grows_bind grows_get fun _ => grows_inStore _

theorem grows_write (replaces : Bool) (sessionId : String)
    (upload : EncryptedSessionSnapshotUploadV3) (sourceDigest : String) :
    Effect.Leaves Grows (writeUpload ports replaces sessionId upload sourceDigest) :=
  Effect.Leaves.ite (fun _ => grows_replace _ _ _) fun _ => grows_persist _ _ _

theorem grows_complete (sessionId : String) (revision : Nat) :
    Effect.Leaves Grows (completeSession sessionId revision) :=
  grows_bind (grows_inStore _) fun _ => grows_inStore _

theorem grows_read (sessionId : String) : Effect.Leaves Grows (readInflight sessionId) :=
  grows_bind grows_get fun _ => grows_ofExcept _

theorem grows_block (session : CanonicalSessionState) :
    Effect.Leaves Grows (blockReason text session) := by
  refine grows_bind (grows_ofExcept _) fun preflight => ?_
  cases preflight <;> exact grows_pure _

end

section
variable {Material : Type} {ports : UploadPorts Material} {text : ProtocolText}
  {state : PassState Material} {session : CanonicalSessionState}
  {upload : EncryptedSessionSnapshotUploadV3}

theorem grows_rebuild (sourceDigest : String) :
    Effect.Leaves Grows (rebuildInflight ports text state session upload sourceDigest) := by
  refine grows_bind (grows_block session) fun blocked => ?_
  cases blocked with
  | some reason => exact grows_pure _
  | none =>
    refine grows_bind (grows_encrypt _) fun replacement => ?_
    exact grows_bind (grows_replace _ _ _) fun _ => grows_pure _

theorem grows_reconcileInflight :
    Effect.Leaves Grows (reconcileInflight ports text state session upload) := by
  refine grows_bind (grows_reconcile upload) fun answer => ?_
  rcases answer with _ | (_ | _)
  · exact grows_pure _
  · refine grows_bind grows_get fun run => ?_
    exact Effect.Leaves.ite (fun _ => grows_pure _) fun _ => grows_rebuild _
  · exact grows_bind (grows_complete _ _) fun _ => grows_pure _

theorem grows_encryptForPass (found : Option EncryptedSessionSnapshotUploadV3) :
    Effect.Leaves Grows (encryptForPass ports text state session found) := by
  unfold encryptForPass
  split
  · exact grows_pure _
  · refine grows_bind (grows_block session) fun blocked => ?_
    cases blocked with
    | some reason => exact grows_pure _
    | none =>
      refine grows_bind grows_get fun run => ?_
      refine grows_bind (grows_encrypt _) fun next => ?_
      refine grows_bind (grows_ofExcept _) fun sourceDigest => ?_
      exact grows_bind (grows_write _ _ _ _) fun _ => grows_pure _

theorem grows_prepare : Effect.Leaves Grows (prepareUpload ports text state session) := by
  refine grows_bind (grows_read _) fun found => ?_
  cases found with
  | none => exact grows_encryptForPass none
  | some upload =>
    refine grows_bind grows_reconcileInflight fun kept => ?_
    cases kept with
    | error outcome => exact grows_pure _
    | ok kept => exact grows_encryptForPass kept

theorem grows_carryOut (current : E2ERecipientSnapshotV1 × List Material)
    (decision : SessionUploadDecision) :
    Effect.Leaves Grows (carryOut ports text state session upload current decision) := by
  cases decision with
  | commit revision => exact grows_bind (grows_complete _ _) fun _ => grows_pure _
  | reconcile => exact grows_pure _
  | refreshReencrypt revision =>
    refine grows_bind (grows_block session) fun blocked => ?_
    cases blocked with
    | some reason => exact grows_pure _
    | none =>
      refine grows_bind (grows_encrypt _) fun replacement => ?_
      refine grows_bind (grows_ofExcept _) fun sourceDigest => ?_
      exact grows_bind (grows_replace _ _ _) fun _ => grows_pure _
  | retryNextRevision revision =>
    exact grows_bind (grows_complete _ _) fun _ => grows_pure _
  | defer reason => exact grows_pure _
  | failClosed => exact grows_pure _

theorem grows_settle {failure : RelayFailure} {committed : Bool}
    (current : Option (E2ERecipientSnapshotV1 × List Material)) :
    Effect.Leaves Grows
      (settleConflict ports text state session upload failure committed current) :=
  grows_carryOut _ _

theorem grows_attempt :
    Effect.Leaves Grows (attemptUpload ports text state session upload) := by
  refine grows_bind (grows_publish upload) fun answer => ?_
  cases answer with
  | ok _ => exact grows_bind (grows_complete _ _) fun _ => grows_pure _
  | error failure =>
    refine Effect.Leaves.ite (fun _ => ?_) fun _ => grows_pure _
    refine grows_bind (grows_reconcile upload) fun verdict => ?_
    cases verdict with
    | error _ => exact grows_pure _
    | ok committed =>
      refine Effect.Leaves.ite (fun _ => ?_) fun _ => grows_carryOut _ _
      refine grows_bind grows_refresh fun current => ?_
      cases current with
      | none => exact grows_pure _
      | some current => exact grows_carryOut _ _

theorem grows_publishSession :
    Effect.Leaves Grows (publishSession ports text state session) := by
  refine grows_bind grows_prepare fun prepared => ?_
  cases prepared with
  | error outcome => exact grows_pure _
  | ok upload => exact grows_attempt

theorem grows_publishSessions (sessions : List CanonicalSessionState)
    (revisions : Dict String Nat) :
    Effect.Leaves Grows (publishSessions ports text state revisions sessions) := by
  induction sessions generalizing revisions with
  | nil => exact grows_pure _
  | cons session rest ih =>
    refine grows_bind grows_publishSession fun ended => ?_
    cases ended with
    | committed revision => exact ih _
    | restart next => exact grows_pure _
    | stop outcome => exact grows_pure _

end

section
variable {Material : Type} {ports : UploadPorts Material} {text : ProtocolText}
  {sessionId : String} {state : PendingState Material}

theorem grows_encryptMissing (snapshot : E2ERecipientSnapshotV1) (recipients : List Material)
    (sessions : List CanonicalSessionState) (pendingIds : List String) :
    Effect.Leaves Grows (encryptMissing ports text snapshot recipients pendingIds sessions) := by
  induction sessions generalizing pendingIds with
  | nil => exact grows_pure _
  | cons session rest ih =>
    refine grows_bind (grows_read _) fun found => ?_
    cases found with
    | some _ => exact ih _
    | none =>
      refine grows_bind (grows_block session) fun blocked => ?_
      cases blocked with
      | some _ => exact grows_pure _
      | none =>
        refine grows_bind grows_get fun run => ?_
        refine grows_bind (grows_encrypt _) fun upload => ?_
        refine grows_bind (grows_ofExcept _) fun sourceDigest => ?_
        exact grows_bind (grows_persist _ _ _) fun _ => ih _

theorem grows_carryOutPending (refresh : Option (Refresh Material))
    (decision : SessionUploadDecision) :
    Effect.Leaves Grows (carryOutPending ports text sessionId state refresh decision) := by
  cases decision with
  | commit revision => exact grows_bind (grows_complete _ _) fun _ => grows_pure _
  | reconcile => exact grows_pure _
  | refreshReencrypt revision =>
    cases refresh with
    | none => exact grows_pure _
    | some refresh =>
      refine grows_bind (grows_block refresh.1) fun blocked => ?_
      cases blocked with
      | some _ => exact grows_pure _
      | none =>
        refine grows_bind (grows_encrypt _) fun replacement => ?_
        refine grows_bind (grows_ofExcept _) fun sourceDigest => ?_
        exact grows_bind (grows_replace _ _ _) fun _ => grows_pure _
  | retryNextRevision revision =>
    cases refresh with
    | none => exact grows_pure _
    | some refresh =>
      refine grows_bind (grows_block refresh.1) fun blocked => ?_
      cases blocked with
      | some _ => exact grows_pure _
      | none =>
        refine grows_bind (grows_complete _ _) fun _ => ?_
        refine grows_bind (grows_encrypt _) fun next => ?_
        refine grows_bind (grows_ofExcept _) fun sourceDigest => ?_
        exact grows_bind (grows_persist _ _ _) fun _ => grows_pure _
  | defer reason => exact grows_pure _
  | failClosed => exact grows_pure _

theorem grows_attemptPending :
    Effect.Leaves Grows (attemptPending ports text sessionId state) := by
  refine grows_bind (grows_publish _) fun answer => ?_
  cases answer with
  | ok _ => exact grows_carryOutPending _ _
  | error failure =>
    refine Effect.Leaves.ite (fun _ => ?_) fun _ => grows_carryOutPending _ _
    refine grows_bind (grows_reconcile _) fun verdict => ?_
    cases verdict with
    | error _ => exact grows_pure _
    | ok committed =>
      refine Effect.Leaves.ite (fun _ => ?_) fun _ => grows_carryOutPending _ _
      refine grows_bind grows_get fun run => ?_
      cases run.store.state.sessions.get? sessionId with
      | none => exact grows_pure _
      | some session =>
        refine grows_bind grows_refresh fun current => ?_
        cases current with
        | none => exact grows_pure _
        | some current => exact grows_carryOutPending _ _

end

/-! ### Restarts -/

/-- A loop goes on at another version of the recipients, or it spends its flag. -/
def GoesOn (attempted : Nat) (exhausted : Bool) (next : Nat) (nextExhausted : Bool) : Prop :=
  next ≠ attempted ∨ (next = attempted ∧ exhausted = false ∧ nextExhausted = true)

section
variable {Material : Type} {ports : UploadPorts Material} {text : ProtocolText}
  {s t : PublicationRun}

/-- A program that only reads leaves the run as it was. -/
theorem run_get_bind {α : Type} {f : PublicationRun → PublicationEffect α}
    {r : Except Thrown α × PublicationRun} (h : (get >>= f).run s = r) : (f s).run s = r := h

theorem run_ofExcept_eq_ok {α : Type} {value : Except Thrown α} {a : α}
    (h : (Effect.ofExcept value : PublicationEffect α).run s = (.ok a, t)) :
    value = .ok a ∧ t = s := by
  rw [Effect.run_ofExcept, Prod.mk.injEq] at h
  exact ⟨h.1, h.2.symm⟩

theorem blockReason_ok {session : CanonicalSessionState}
    {reason : Option SessionPublicationBlockReason}
    (h : (blockReason text session).run s = (.ok reason, t)) : t = s := by
  obtain ⟨preflight, u, hpreflight, hrest⟩ := Effect.run_bind_eq_ok.mp h
  obtain ⟨-, rfl⟩ := run_ofExcept_eq_ok hpreflight
  cases preflight <;> (cases hrest; rfl)

theorem encryptSession_ok {input : SessionEncryption Material}
    {upload : EncryptedSessionSnapshotUploadV3}
    (h : (encryptSession ports input).run s = (.ok upload, t)) :
    ports.encryptSessionSnapshot s.clock input = .ok upload ∧ t = s :=
  run_ofExcept_eq_ok (run_get_bind h)

theorem readInflight_ok {sessionId : String} {found : Option EncryptedSessionSnapshotUploadV3}
    (h : (readInflight sessionId).run s = (.ok found, t)) :
    usableUpload s.store.items sessionId = found ∧ t = s := by
  obtain ⟨hfound, rfl⟩ := run_ofExcept_eq_ok (run_get_bind h)
  exact ⟨getInflightSessionUpload_ok hfound, rfl⟩

/-- The run after an awaited call. -/
def awaited (ports : UploadPorts Material) (run : PublicationRun) (call : RelayCall) :
    PublicationRun :=
  { run with store := ports.others run.clock run.store, calls := call :: run.calls }

@[simp] theorem clock_awaited (call : RelayCall) :
    (awaited ports s call).clock = s.clock + 1 := rfl

theorem publishEncryptedSession_ok {upload : EncryptedSessionSnapshotUploadV3}
    {answer : Except RelayFailure Unit}
    (h : (publishEncryptedSession ports upload).run s = (.ok answer, t)) :
    t = awaited ports s (.publication upload answer) := by
  obtain ⟨hanswer, rfl⟩ := Prod.mk.inj h
  cases hanswer
  rfl

theorem reconcileEncryptedSession_ok {upload : EncryptedSessionSnapshotUploadV3}
    {answer : Except RelayFailure Bool}
    (h : (reconcileEncryptedSession ports upload).run s = (.ok answer, t)) :
    t = awaited ports s (.reconciliation upload answer) := by
  obtain ⟨hanswer, rfl⟩ := Prod.mk.inj h
  cases hanswer
  rfl

theorem refreshRecipients_ok {current : Option (E2ERecipientSnapshotV1 × List Material)}
    (h : (refreshRecipients ports).run s = (.ok current, t)) :
    refreshed ports s.clock = current ∧ t = awaited ports s
      (.refresh (current.map fun current => current.1.recipientSetVersion)) := by
  obtain ⟨hcurrent, rfl⟩ := Prod.mk.inj h
  cases hcurrent
  exact ⟨rfl, rfl⟩

/-- The snapshot of a refresh is what the Relay answered. -/
theorem recipientSnapshot_of_refreshed {time : Nat}
    {current : E2ERecipientSnapshotV1 × List Material} (h : refreshed ports time = some current) :
    ports.recipientSnapshot time = .ok current.1 := by
  unfold refreshed at h
  split at h
  · cases h
  · next snapshot hsnapshot =>
    obtain ⟨recipients, -, rfl⟩ := Option.map_eq_some_iff.mp h
    exact hsnapshot

/-- The snapshot came in a refresh between two times. -/
def RefreshedBetween (ports : UploadPorts Material) (s t : PublicationRun)
    (snapshot : E2ERecipientSnapshotV1) : Prop :=
  ∃ time, s.clock ≤ time ∧ time < t.clock ∧ ports.recipientSnapshot time = .ok snapshot

theorem RefreshedBetween.mono {s' t' : PublicationRun} {snapshot : E2ERecipientSnapshotV1}
    (h : RefreshedBetween ports s t snapshot) (hs : s'.clock ≤ s.clock) (ht : t.clock ≤ t'.clock) :
    RefreshedBetween ports s' t' snapshot := by
  obtain ⟨time, hfrom, hto, hsnapshot⟩ := h
  exact ⟨time, Nat.le_trans hs hfrom, Nat.lt_of_lt_of_le hto ht, hsnapshot⟩

end

section
variable {Material : Type} {ports : UploadPorts Material} {text : ProtocolText}
  {s t : PublicationRun} {state next : PassState Material} {session : CanonicalSessionState}
  {upload : EncryptedSessionSnapshotUploadV3}

/-- The recipients of a restart, and the decision that makes it. -/
theorem carryOut_restart {current : E2ERecipientSnapshotV1 × List Material}
    {decision : SessionUploadDecision}
    (h : (carryOut ports text state session upload current decision).run s
      = (.ok (.restart next), t)) :
    next.snapshot = current.1 ∧
      ((∃ revision, decision = .refreshReencrypt revision) ∨
        (∃ revision, decision = .retryNextRevision revision) ∧
          next.sameVersionCommitRetryExhausted
            = decide (current.1.recipientSetVersion = state.passVersion)) := by
  cases decision with
  | commit revision =>
    obtain ⟨_, _, -, hrest⟩ := Effect.run_bind_eq_ok.mp h
    cases hrest
  | reconcile => cases h
  | refreshReencrypt revision =>
    obtain ⟨blocked, _, -, hrest⟩ := Effect.run_bind_eq_ok.mp h
    cases blocked with
    | some reason => cases hrest
    | none =>
      obtain ⟨_, _, -, hrest⟩ := Effect.run_bind_eq_ok.mp hrest
      obtain ⟨_, _, -, hrest⟩ := Effect.run_bind_eq_ok.mp hrest
      obtain ⟨_, _, -, hrest⟩ := Effect.run_bind_eq_ok.mp hrest
      cases hrest
      exact ⟨rfl, .inl ⟨revision, rfl⟩⟩
  | retryNextRevision revision =>
    obtain ⟨_, _, -, hrest⟩ := Effect.run_bind_eq_ok.mp h
    cases hrest
    exact ⟨rfl, .inr ⟨⟨revision, rfl⟩, rfl⟩⟩
  | defer reason => cases h
  | failClosed => cases h

section
variable {failure : RelayFailure} {committed exhausted : Bool} {attempted revision : Nat}
  {version : Option Nat}

/-- What the decision to encrypt anew was told. -/
theorem conflictDecision_refresh
    (h : conflictDecision upload failure committed attempted version exhausted
      = .refreshReencrypt revision) :
    revision = upload.revision ∧ committed = false ∧
      ∃ next, version = some next ∧ next ≠ attempted := by
  obtain ⟨hrevision, hcommitted, hversion⟩ := decideSessionUpload_refresh h
  exact ⟨hrevision, Option.some.inj hcommitted, hversion⟩

/-- What the decision to publish the next revision was told. -/
theorem conflictDecision_retry
    (h : conflictDecision upload failure committed attempted version exhausted
      = .retryNextRevision revision) :
    revision = upload.revision + 1 ∧ committed = true ∧
      ∃ next, version = some next ∧ (next = attempted → exhausted = false) := by
  obtain ⟨hrevision, hcommitted, hversion⟩ := decideSessionUpload_retry h
  exact ⟨hrevision, Option.some.inj hcommitted, hversion⟩

end

/-- A restart after a refresh is at another version, or it spends the flag. -/
theorem settleConflict_restart {failure : RelayFailure} {committed : Bool}
    {current : Option (E2ERecipientSnapshotV1 × List Material)}
    (h : (settleConflict ports text state session upload failure committed current).run s
      = (.ok (.restart next), t)) :
    (∃ recipients, current = some (next.snapshot, recipients)) ∧
      GoesOn state.passVersion state.sameVersionCommitRetryExhausted next.passVersion
        next.sameVersionCommitRetryExhausted := by
  obtain ⟨hsnapshot, hdecision⟩ := carryOut_restart h
  rcases hdecision with ⟨revision, hdecision⟩ | ⟨⟨revision, hdecision⟩, hexhausted⟩
  · obtain ⟨-, -, version, hversion, hchanged⟩ := conflictDecision_refresh hdecision
    obtain ⟨refresh, rfl, rfl⟩ := Option.map_eq_some_iff.mp hversion
    have hsnapshot : next.snapshot = refresh.1 := hsnapshot
    have hnext : next.passVersion = refresh.1.recipientSetVersion := by
      rw [PassState.passVersion, hsnapshot]
    rw [hnext]
    exact ⟨⟨refresh.2, by rw [hsnapshot]⟩, .inl hchanged⟩
  · obtain ⟨-, -, version, hversion, honce⟩ := conflictDecision_retry hdecision
    obtain ⟨refresh, rfl, rfl⟩ := Option.map_eq_some_iff.mp hversion
    have hsnapshot : next.snapshot = refresh.1 := hsnapshot
    have hnext : next.passVersion = refresh.1.recipientSetVersion := by
      rw [PassState.passVersion, hsnapshot]
    refine ⟨⟨refresh.2, by rw [hsnapshot]⟩, ?_⟩
    rw [hnext, hexhausted, Option.getD_some]
    by_cases hsame : refresh.1.recipientSetVersion = state.passVersion
    · exact .inr ⟨hsame, honce hsame, decide_eq_true hsame⟩
    · exact .inl hsame

/-- A restart of the loop over the authoritative set goes on with refreshed recipients. -/
theorem attemptUpload_restart
    (h : (attemptUpload ports text state session upload).run s = (.ok (.restart next), t)) :
    RefreshedBetween ports s t next.snapshot ∧
      GoesOn state.passVersion state.sameVersionCommitRetryExhausted next.passVersion
        next.sameVersionCommitRetryExhausted := by
  obtain ⟨answer, u, hpublish, hrest⟩ := Effect.run_bind_eq_ok.mp h
  obtain rfl := publishEncryptedSession_ok hpublish
  cases answer with
  | ok _ =>
    obtain ⟨_, _, -, hrest⟩ := Effect.run_bind_eq_ok.mp hrest
    cases hrest
  | error failure =>
    dsimp only at hrest
    split at hrest
    · obtain ⟨verdict, v, hreconcile, hrest⟩ := Effect.run_bind_eq_ok.mp hrest
      obtain rfl := reconcileEncryptedSession_ok hreconcile
      cases verdict with
      | error _ => cases hrest
      | ok committed =>
        dsimp only at hrest
        split at hrest
        · obtain ⟨current, w, hrefresh, hrest⟩ := Effect.run_bind_eq_ok.mp hrest
          obtain ⟨hcurrent, rfl⟩ := refreshRecipients_ok hrefresh
          cases current with
          | none => cases hrest
          | some current =>
            dsimp only at hrest
            obtain ⟨hclock, -⟩ := Forward.of_run (grows_settle _) hrest
            obtain ⟨⟨recipients, hsnapshot⟩, hgoes⟩ := settleConflict_restart hrest
            cases hsnapshot
            refine ⟨⟨_, ?_, ?_, recipientSnapshot_of_refreshed hcurrent⟩, hgoes⟩
            · simp only [clock_awaited]
              omega
            · simp only [clock_awaited] at hclock ⊢
              omega
        · obtain ⟨⟨recipients, hnone⟩, -⟩ := settleConflict_restart hrest
          cases hnone
    · cases hrest

/-- The restart of a Session in the loop over the Sessions. -/
theorem publishSession_restart
    (h : (publishSession ports text state session).run s = (.ok (.restart next), t)) :
    RefreshedBetween ports s t next.snapshot ∧
      GoesOn state.passVersion state.sameVersionCommitRetryExhausted next.passVersion
        next.sameVersionCommitRetryExhausted := by
  obtain ⟨prepared, u, hprepare, hrest⟩ := Effect.run_bind_eq_ok.mp h
  obtain ⟨hclock, -⟩ := Forward.of_run grows_prepare hprepare
  cases prepared with
  | error outcome => cases hrest
  | ok upload =>
    obtain ⟨hrefreshed, hgoes⟩ := attemptUpload_restart hrest
    exact ⟨hrefreshed.mono hclock (Nat.le_refl _), hgoes⟩

/-- The restart of a pass. -/
theorem publishSessions_restart {sessions : List CanonicalSessionState}
    {revisions : Dict String Nat}
    (h : (publishSessions ports text state revisions sessions).run s = (.ok (.restart next), t)) :
    RefreshedBetween ports s t next.snapshot ∧
      GoesOn state.passVersion state.sameVersionCommitRetryExhausted next.passVersion
        next.sameVersionCommitRetryExhausted := by
  induction sessions generalizing revisions s with
  | nil => cases h
  | cons session rest ih =>
    obtain ⟨ended, u, hsession, hrest⟩ := Effect.run_bind_eq_ok.mp h
    obtain ⟨hclock, -⟩ := Forward.of_run grows_publishSession hsession
    cases ended with
    | committed revision =>
      obtain ⟨hrefreshed, hgoes⟩ := ih hrest
      exact ⟨hrefreshed.mono hclock (Nat.le_refl _), hgoes⟩
    | restart _ =>
      cases hrest
      exact publishSession_restart hsession
    | stop outcome => cases hrest

/-- The restart of the loop over the authoritative set, with its loop event. -/
theorem publishPass_restart {sessions : List CanonicalSessionState}
    (h : (publishPass ports text sessions state).run s = (.ok (.inr next), t)) :
    RefreshedBetween ports s t next.snapshot ∧
      GoesOn state.passVersion state.sameVersionCommitRetryExhausted next.passVersion
        next.sameVersionCommitRetryExhausted ∧
      t.loops = .restarted state.passVersion next.passVersion :: s.loops := by
  obtain ⟨ended, u, hsessions, hrest⟩ := Effect.run_bind_eq_ok.mp h
  obtain ⟨-, hloops⟩ := Forward.of_run (grows_publishSessions _ _) hsessions
  cases ended with
  | published revisions =>
    obtain ⟨_, _, -, hrest⟩ := Effect.run_bind_eq_ok.mp hrest
    cases hrest
  | restart _ =>
    obtain ⟨_, v, hnote, hrest⟩ := Effect.run_bind_eq_ok.mp hrest
    cases hnote
    cases hrest
    obtain ⟨hrefreshed, hgoes⟩ := publishSessions_restart hsessions
    exact ⟨hrefreshed, hgoes, congrArg _ hloops⟩
  | stop outcome => cases hrest

end

section
variable {Material : Type} {ports : UploadPorts Material} {text : ProtocolText}
  {s t : PublicationRun} {sessionId : String} {state next : PendingState Material}

/-- An encryption carries the revision and the version that it was asked for. -/
def CarriesInput (ports : UploadPorts Material) : Prop :=
  ∀ time input upload, ports.encryptSessionSnapshot time input = .ok upload →
    upload.sessionId = input.session.sessionId ∧ upload.revision = input.revision ∧
      upload.recipientSetVersion = input.recipientSetVersion

/-- The recipients of a restart, and the decision that makes it. -/
theorem carryOutPending_restart (hcarries : CarriesInput ports)
    {refresh : Option (Refresh Material)} {decision : SessionUploadDecision}
    (h : (carryOutPending ports text sessionId state refresh decision).run s
      = (.ok (.inr next), t)) :
    ∃ session recipients, refresh = some (session, next.snapshot, recipients) ∧
      next.upload.recipientSetVersion = next.snapshot.recipientSetVersion ∧
      ((∃ revision, decision = .refreshReencrypt revision) ∨
        (∃ revision, decision = .retryNextRevision revision) ∧
          next.sameVersionCommitRetryExhausted = decide
            (next.snapshot.recipientSetVersion = state.upload.recipientSetVersion)) := by
  cases decision with
  | commit revision =>
    obtain ⟨_, _, -, hrest⟩ := Effect.run_bind_eq_ok.mp h
    cases hrest
  | reconcile => cases h
  | refreshReencrypt revision =>
    cases refresh with
    | none => cases h
    | some refresh =>
      obtain ⟨blocked, _, -, hrest⟩ := Effect.run_bind_eq_ok.mp h
      cases blocked with
      | some reason => cases hrest
      | none =>
        obtain ⟨replacement, _, hencrypt, hrest⟩ := Effect.run_bind_eq_ok.mp hrest
        obtain ⟨_, _, -, hrest⟩ := Effect.run_bind_eq_ok.mp hrest
        obtain ⟨_, _, -, hrest⟩ := Effect.run_bind_eq_ok.mp hrest
        cases hrest
        have hcarried := hcarries _ _ _ (encryptSession_ok hencrypt).1
        exact ⟨refresh.1, refresh.2.2, rfl, hcarried.2.2, .inl ⟨revision, rfl⟩⟩
  | retryNextRevision revision =>
    cases refresh with
    | none => cases h
    | some refresh =>
      obtain ⟨blocked, _, -, hrest⟩ := Effect.run_bind_eq_ok.mp h
      cases blocked with
      | some reason => cases hrest
      | none =>
        obtain ⟨_, _, -, hrest⟩ := Effect.run_bind_eq_ok.mp hrest
        obtain ⟨encrypted, _, hencrypt, hrest⟩ := Effect.run_bind_eq_ok.mp hrest
        obtain ⟨_, _, -, hrest⟩ := Effect.run_bind_eq_ok.mp hrest
        obtain ⟨_, _, -, hrest⟩ := Effect.run_bind_eq_ok.mp hrest
        cases hrest
        have hcarried := hcarries _ _ _ (encryptSession_ok hencrypt).1
        exact ⟨refresh.1, refresh.2.2, rfl, hcarried.2.2, .inr ⟨⟨revision, rfl⟩, rfl⟩⟩
  | defer reason => cases h
  | failClosed => cases h

/-- A restart after a refresh is at another version, or it spends the flag. -/
theorem settlePending_restart (hcarries : CarriesInput ports) {failure : RelayFailure}
    {committed : Bool} {refresh : Option (Refresh Material)}
    (h : (settlePending ports text sessionId state failure committed refresh).run s
      = (.ok (.inr next), t)) :
    (∃ session recipients, refresh = some (session, next.snapshot, recipients)) ∧
      next.upload.recipientSetVersion = next.snapshot.recipientSetVersion ∧
      GoesOn state.upload.recipientSetVersion state.sameVersionCommitRetryExhausted
        next.snapshot.recipientSetVersion next.sameVersionCommitRetryExhausted := by
  obtain ⟨session, recipients, rfl, hcarried, hdecision⟩ := carryOutPending_restart hcarries h
  refine ⟨⟨session, recipients, rfl⟩, hcarried, ?_⟩
  rcases hdecision with ⟨revision, hdecision⟩ | ⟨⟨revision, hdecision⟩, hexhausted⟩
  · obtain ⟨-, -, version, hversion, hchanged⟩ := conflictDecision_refresh hdecision
    cases hversion
    exact .inl hchanged
  · obtain ⟨-, -, version, hversion, honce⟩ := conflictDecision_retry hdecision
    cases hversion
    rw [hexhausted]
    by_cases hsame : next.snapshot.recipientSetVersion = state.upload.recipientSetVersion
    · exact .inr ⟨hsame, honce hsame, decide_eq_true hsame⟩
    · exact .inl hsame

/-- Without a conflict there is no restart. -/
theorem plainDecision_carried {publishSucceeded : Bool} {category : UploadFailureCategory}
    (hcarries : CarriesInput ports)
    (h : (carryOutPending ports text sessionId state none
      (plainDecision state publishSucceeded category)).run s = (.ok (.inr next), t)) : False := by
  obtain ⟨session, recipients, hnone, -⟩ := carryOutPending_restart hcarries h
  cases hnone

/-- A restart of the inner loop goes on with refreshed recipients. -/
theorem attemptPending_restart (hcarries : CarriesInput ports)
    (h : (attemptPending ports text sessionId state).run s = (.ok (.inr next), t)) :
    RefreshedBetween ports s t next.snapshot ∧
      next.upload.recipientSetVersion = next.snapshot.recipientSetVersion ∧
      GoesOn state.upload.recipientSetVersion state.sameVersionCommitRetryExhausted
        next.snapshot.recipientSetVersion next.sameVersionCommitRetryExhausted := by
  obtain ⟨answer, u, hpublish, hrest⟩ := Effect.run_bind_eq_ok.mp h
  obtain rfl := publishEncryptedSession_ok hpublish
  cases answer with
  | ok _ => exact (plainDecision_carried hcarries hrest).elim
  | error failure =>
    dsimp only at hrest
    split at hrest
    · obtain ⟨verdict, v, hreconcile, hrest⟩ := Effect.run_bind_eq_ok.mp hrest
      obtain rfl := reconcileEncryptedSession_ok hreconcile
      cases verdict with
      | error _ => cases hrest
      | ok committed =>
        dsimp only at hrest
        split at hrest
        · have hrest := run_get_bind hrest
          split at hrest
          · cases hrest
          · next session _ =>
            obtain ⟨current, w, hrefresh, hrest⟩ := Effect.run_bind_eq_ok.mp hrest
            obtain ⟨hcurrent, rfl⟩ := refreshRecipients_ok hrefresh
            cases current with
            | none => cases hrest
            | some current =>
              dsimp only at hrest
              obtain ⟨hclock, -⟩ := Forward.of_run (grows_carryOutPending _ _) hrest
              obtain ⟨⟨_, recipients, hsnapshot⟩, hgoes⟩ := settlePending_restart hcarries hrest
              cases hsnapshot
              refine ⟨⟨_, ?_, ?_, recipientSnapshot_of_refreshed hcurrent⟩, hgoes⟩
              · simp only [clock_awaited]
                omega
              · simp only [clock_awaited] at hclock ⊢
                omega
        · obtain ⟨⟨_, recipients, hnone⟩, -⟩ := settlePending_restart hcarries hrest
          cases hnone
    · exact (plainDecision_carried hcarries hrest).elim

/-- The restart of the inner loop, with its loop event. -/
theorem pendingPass_restart (hcarries : CarriesInput ports)
    (h : (pendingPass ports text sessionId state).run s = (.ok (.inr next), t)) :
    RefreshedBetween ports s t next.snapshot ∧
      next.upload.recipientSetVersion = next.snapshot.recipientSetVersion ∧
      GoesOn state.upload.recipientSetVersion state.sameVersionCommitRetryExhausted
        next.snapshot.recipientSetVersion next.sameVersionCommitRetryExhausted ∧
      t.loops = .restarted state.upload.recipientSetVersion next.snapshot.recipientSetVersion
        :: s.loops := by
  obtain ⟨ended, u, hattempt, hrest⟩ := Effect.run_bind_eq_ok.mp h
  obtain ⟨-, hloops⟩ := Forward.of_run grows_attemptPending hattempt
  cases ended with
  | inl pendingEnd => cases hrest
  | inr _ =>
    obtain ⟨_, v, hnote, hrest⟩ := Effect.run_bind_eq_ok.mp hrest
    cases hnote
    cases hrest
    obtain ⟨hrefreshed, hcarried, hgoes⟩ := attemptPending_restart hcarries hattempt
    exact ⟨hrefreshed, hcarried, hgoes, congrArg _ hloops⟩

end

/-! ### The end of the loops -/

/-- From some time on every snapshot of the Relay has one version: the version changes only finitely
often. -/
def Settles {Material : Type} (ports : UploadPorts Material) : Prop :=
  ∃ time version, ∀ later, time ≤ later → ∀ snapshot,
    ports.recipientSnapshot later = .ok snapshot → snapshot.recipientSetVersion = version

/-- A bound of the passes that are left to a loop when the version is settled from a time on. Before
that time every pass costs a call, and after it there is at most one restart to the settled version
and one at it. -/
def passesLeft (time version current : Nat) (exhausted : Bool) (clock : Nat) : Nat :=
  if clock < time then time - clock + 2
  else if current ≠ version then 2 else if exhausted then 0 else 1

theorem passesLeft_lt {time version current next clock clock' refreshTime : Nat}
    {exhausted nextExhausted : Bool} (hgoes : GoesOn current exhausted next nextExhausted)
    (hfrom : clock ≤ refreshTime) (hto : refreshTime < clock')
    (hsettled : time ≤ refreshTime → next = version) :
    passesLeft time version next nextExhausted clock'
      < passesLeft time version current exhausted clock := by
  have htwo : ∀ left : Nat, left = (if next ≠ version then 2 else if nextExhausted then 0 else 1) →
      left ≤ 2 := by
    intro left hleft
    subst hleft
    split
    · exact Nat.le_refl _
    · split <;> omega
  have hbound := htwo _ rfl
  unfold passesLeft
  by_cases hearly : clock < time
  · rw [if_pos hearly]
    by_cases hearly' : clock' < time
    · rw [if_pos hearly']
      omega
    · rw [if_neg hearly']
      omega
  · -- the refresh came after the version had settled
    have hlate : ¬clock' < time := by omega
    have hnext := hsettled (by omega)
    rw [if_neg hearly, if_neg hlate, if_neg (not_not.mpr hnext)]
    rcases hgoes with hchanged | ⟨hsame, hunspent, hspent⟩
    · have hcurrent : current ≠ version := fun heq => hchanged (hnext.trans heq.symm)
      rw [if_pos hcurrent]
      split <;> omega
    · have hcurrent : ¬current ≠ version := not_not.mpr (hsame.symm.trans hnext)
      rw [if_neg hcurrent, hunspent, hspent]
      decide

theorem passesLeft_le (time version current : Nat) (exhausted : Bool) (clock : Nat) :
    passesLeft time version current exhausted clock < time + 3 := by
  unfold passesLeft
  split
  · omega
  · split
    · omega
    · split <;> omega

section
variable {Material : Type} {ports : UploadPorts Material} {text : ProtocolText}
  {time version fuel : Nat}

/-- The fuel that the loops need when the version is settled from a time on. -/
theorem publishAuthoritativeSnapshots_ends
    (hsettles : ∀ later, time ≤ later → ∀ snapshot, ports.recipientSnapshot later = .ok snapshot →
      snapshot.recipientSetVersion = version) (hfuel : time + 3 ≤ fuel)
    (snapshot : E2ERecipientSnapshotV1) (recipients : List Material)
    (sessions : List CanonicalSessionState) (s : PublicationRun) :
    ((publishAuthoritativeSnapshots ports text fuel snapshot recipients sessions).run s).1
      ≠ .ok none := by
  unfold publishAuthoritativeSnapshots
  rw [Effect.run_bind, Effect.run_ofExcept]
  cases preflightAuthoritativeSessionSet text sessions with
  | error thrown => exact fun hnone => nomatch hnone
  | ok blocked =>
    rw [Effect.next_ok]
    split
    · exact fun hnone => nomatch hnone
    · refine Effect.restarting_ends (fun state run => passesLeft time version
        state.passVersion state.sameVersionCommitRetryExhausted run.clock) ?_ ?_
      · intro state s next t hpass
        obtain ⟨⟨refreshTime, hfrom, hto, hsnapshot⟩, hgoes, -⟩ := publishPass_restart hpass
        exact passesLeft_lt hgoes hfrom hto fun hlate => hsettles _ hlate _ hsnapshot
      · exact Nat.lt_of_lt_of_le (passesLeft_le ..) hfuel

theorem publishPending_ends (hcarries : CarriesInput ports)
    (hsettles : ∀ later, time ≤ later → ∀ snapshot, ports.recipientSnapshot later = .ok snapshot →
      snapshot.recipientSetVersion = version) (hfuel : time + 3 ≤ fuel)
    (snapshot : E2ERecipientSnapshotV1) (recipients : List Material) (pendingIds : List String)
    (s : PublicationRun) :
    ((publishPending ports text fuel snapshot recipients pendingIds).run s).1 ≠ .ok none := by
  induction pendingIds generalizing snapshot recipients s with
  | nil => exact fun hnone => nomatch hnone
  | cons sessionId rest ih =>
    intro hnone
    obtain ⟨found, u, hread, hrest⟩ := Effect.run_bind_eq_ok.mp (Prod.ext hnone rfl)
    cases found with
    | none => cases hrest
    | some upload =>
      obtain ⟨_, v, -, hrest⟩ := Effect.run_bind_eq_ok.mp hrest
      obtain ⟨ended, w, hloop, hrest⟩ := Effect.run_bind_eq_ok.mp hrest
      cases ended with
      | none =>
        refine Effect.restarting_ends (fun state run => passesLeft time version
          state.upload.recipientSetVersion state.sameVersionCommitRetryExhausted run.clock) ?_ ?_
          (congrArg Prod.fst hloop)
        · intro state s next t hpass
          obtain ⟨⟨refreshTime, hfrom, hto, hsnapshot⟩, hcarried, hgoes, -⟩ :=
            pendingPass_restart hcarries hpass
          rw [hcarried]
          exact passesLeft_lt hgoes hfrom hto fun hlate => hsettles _ hlate _ hsnapshot
        · exact Nat.lt_of_lt_of_le (passesLeft_le ..) hfuel
      | some pendingEnd =>
        cases pendingEnd with
        | gaveUp => cases hrest
        | committed snapshot recipients =>
          exact ih snapshot recipients w (congrArg Prod.fst hrest)

theorem publishRecipientChangeSnapshots_ends (hcarries : CarriesInput ports)
    (hsettles : ∀ later, time ≤ later → ∀ snapshot, ports.recipientSnapshot later = .ok snapshot →
      snapshot.recipientSetVersion = version) (hfuel : time + 3 ≤ fuel)
    (snapshot : E2ERecipientSnapshotV1) (recipients : List Material) (s : PublicationRun) :
    ((publishRecipientChangeSnapshots ports text fuel snapshot recipients).run s).1 ≠ .ok none := by
  intro hnone
  have hwhole : (publishRecipientChangeSnapshots ports text fuel snapshot recipients).run s
      = (.ok none, _) := Prod.ext hnone rfl
  have hrun := run_get_bind hwhole
  obtain ⟨missing, u, -, hrest⟩ := Effect.run_bind_eq_ok.mp hrun
  cases missing with
  | none => cases hrest
  | some pendingIds =>
    obtain ⟨ended, v, hpending, hrest⟩ := Effect.run_bind_eq_ok.mp hrest
    cases ended with
    | none =>
      exact publishPending_ends hcarries hsettles hfuel snapshot recipients pendingIds u
        (congrArg Prod.fst hpending)
    | some answer =>
      cases answer with
      | none => cases hrest
      | some version =>
        obtain ⟨_, _, -, hrest⟩ := Effect.run_bind_eq_ok.mp hrest
        cases hrest

end

/-! ### The restarts of a loop -/

/-- A restart attempts the version that the one before it refreshed to. When it stays at this
version, the one before it did not. -/
def Follows : LoopEvent → LoopEvent → Prop
  | .restarted attempted refreshed, .restarted attempted' refreshed' =>
      attempted = refreshed' ∧ (refreshed = attempted → refreshed' ≠ attempted')
  | _, _ => True

/-- Within a loop every restart but the first one follows another one. -/
def RestartsFollow (run : PublicationRun) : Prop := run.loops.IsChain Follows

/-- The loop is at a version, and after a restart at the same version the flag is spent. -/
def AtVersion (version : Nat) (exhausted : Bool) : List LoopEvent → Prop
  | .restarted attempted refreshed :: _ =>
      refreshed = version ∧ (refreshed = attempted → exhausted = true)
  | _ => True

theorem follows_restart {loops : List LoopEvent} {current next : Nat}
    {exhausted nextExhausted : Bool} (hloops : loops.IsChain Follows)
    (hat : AtVersion current exhausted loops)
    (hgoes : GoesOn current exhausted next nextExhausted) :
    List.IsChain Follows (.restarted current next :: loops) ∧
      AtVersion next nextExhausted (.restarted current next :: loops) := by
  constructor
  · cases loops with
    | nil => exact .singleton _
    | cons event rest =>
      refine .cons_cons ?_ hloops
      cases event with
      | entered => exact trivial
      | restarted attempted refreshed =>
        obtain ⟨rfl, hspent⟩ := hat
        refine ⟨rfl, fun hsame hstayed => ?_⟩
        -- both stay at the version, but the second one needs the flag that the first one spent
        rcases hgoes with hchanged | ⟨-, hunspent, -⟩
        · exact hchanged hsame
        · rw [hspent hstayed] at hunspent
          cases hunspent
  · refine ⟨rfl, fun hsame => ?_⟩
    rcases hgoes with hchanged | ⟨-, -, hspent⟩
    · exact absurd hsame hchanged
    · exact hspent

theorem follows_entered {loops : List LoopEvent} (hloops : loops.IsChain Follows) :
    List.IsChain Follows (.entered :: loops) := by
  cases loops with
  | nil => exact .singleton _
  | cons event rest => exact .cons_cons trivial hloops

/-- A program keeps the order of the restarts. -/
def KeepsFollow (s t : PublicationRun) : Prop := RestartsFollow s → RestartsFollow t

theorem Grows.keepsFollow (s t : PublicationRun) (h : Grows s t) : KeepsFollow s t := by
  intro hs
  unfold RestartsFollow
  rw [h.2]
  exact hs

section
variable {Material : Type} {ports : UploadPorts Material} {text : ProtocolText} {fuel : Nat}
  {s t : PublicationRun}

/-- Only a restart of a pass adds a loop event. -/
theorem publishPass_loops {sessions : List CanonicalSessionState} {state : PassState Material}
    {r : Except Thrown (AuthoritativeSnapshotOutcome ⊕ PassState Material)}
    (h : (publishPass ports text sessions state).run s = (r, t)) :
    Grows s t ∨ ∃ next, r = .ok (.inr next) := by
  rw [publishPass, Effect.run_bind] at h
  rcases hsessions : (publishSessions ports text state ∅ sessions).run s with ⟨_ | ended, u⟩
  · rw [hsessions] at h
    cases h
    exact .inl (Grows.of_run (grows_publishSessions _ _) hsessions)
  · have hgrows := Grows.of_run (grows_publishSessions _ _) hsessions
    rw [hsessions, Effect.next_ok] at h
    cases ended with
    | published revisions =>
      have hset := Grows.of_run (grows_bind (grows_inStore _) fun _ => grows_pure _) h
      exact .inl (Grows.trans _ _ _ hgrows hset)
    | restart next =>
      cases h
      exact .inr ⟨next, rfl⟩
    | stop outcome =>
      cases h
      exact .inl hgrows

/-- Only a restart of the inner loop adds a loop event. -/
theorem pendingPass_loops {sessionId : String} {state : PendingState Material}
    {r : Except Thrown (PendingEnd Material ⊕ PendingState Material)}
    (h : (pendingPass ports text sessionId state).run s = (r, t)) :
    Grows s t ∨ ∃ next, r = .ok (.inr next) := by
  rw [pendingPass, Effect.run_bind] at h
  rcases hattempt : (attemptPending ports text sessionId state).run s with ⟨_ | _ | next, u⟩
  · rw [hattempt] at h
    cases h
    exact .inl (Grows.of_run grows_attemptPending hattempt)
  · rw [hattempt] at h
    cases h
    exact .inl (Grows.of_run grows_attemptPending hattempt)
  · rw [hattempt] at h
    cases h
    exact .inr ⟨next, rfl⟩

theorem follow_bind {α β : Type} {p : PublicationEffect α} {f : α → PublicationEffect β}
    (hp : Effect.Leaves KeepsFollow p) (hf : ∀ a, Effect.Leaves KeepsFollow (f a)) :
    Effect.Leaves KeepsFollow (p >>= f) :=
  Effect.Leaves.bind (fun _ _ _ h h' hs => h' (h hs)) hp hf

theorem follow_of_grows {α : Type} {p : PublicationEffect α} (h : Effect.Leaves Grows p) :
    Effect.Leaves KeepsFollow p := h.mono Grows.keepsFollow

/-- The loop over the authoritative set, from its entry. -/
theorem follow_authoritativeLoop (sessions : List CanonicalSessionState)
    (snapshot : E2ERecipientSnapshotV1) (recipients : List Material) :
    Effect.Leaves KeepsFollow (note .entered >>= fun _ =>
      Effect.restarting (publishPass ports text sessions) fuel ⟨snapshot, recipients, false⟩) := by
  intro s hs
  refine Effect.restarting_rule (Q := fun _ run => RestartsFollow run)
    (I := fun state run => RestartsFollow run ∧ AtVersion state.passVersion
      state.sameVersionCommitRetryExhausted run.loops) ?_ ?_ ?_ ?_ ?_
  · rintro state s next t ⟨hfollow, hat⟩ hpass
    obtain ⟨-, hgoes, hloops⟩ := publishPass_restart hpass
    unfold RestartsFollow
    rw [hloops]
    exact follows_restart hfollow hat hgoes
  · rintro state s outcome t ⟨hfollow, -⟩ hpass
    rcases publishPass_loops hpass with hgrows | ⟨next, hnext⟩
    · exact hgrows.keepsFollow _ _ hfollow
    · cases hnext
  · rintro state s thrown t ⟨hfollow, -⟩ hpass
    rcases publishPass_loops hpass with hgrows | ⟨next, hnext⟩
    · exact hgrows.keepsFollow _ _ hfollow
    · cases hnext
  · exact fun state s hstate => hstate.1
  · exact ⟨follows_entered hs, trivial⟩

/-- The loop for one Session, from its entry. -/
theorem follow_pendingLoop (hcarries : CarriesInput ports) (sessionId : String)
    (snapshot : E2ERecipientSnapshotV1) (recipients : List Material)
    (upload : EncryptedSessionSnapshotUploadV3) :
    Effect.Leaves KeepsFollow (note .entered >>= fun _ =>
      Effect.restarting (pendingPass ports text sessionId) fuel
        ⟨snapshot, recipients, upload, false⟩) := by
  intro s hs
  refine Effect.restarting_rule (Q := fun _ run => RestartsFollow run)
    (I := fun state run => RestartsFollow run ∧ AtVersion state.upload.recipientSetVersion
      state.sameVersionCommitRetryExhausted run.loops) ?_ ?_ ?_ ?_ ?_
  · rintro state s next t ⟨hfollow, hat⟩ hpass
    obtain ⟨-, hcarried, hgoes, hloops⟩ := pendingPass_restart hcarries hpass
    unfold RestartsFollow
    rw [hloops, hcarried]
    exact follows_restart hfollow hat hgoes
  · rintro state s ended t ⟨hfollow, -⟩ hpass
    rcases pendingPass_loops hpass with hgrows | ⟨next, hnext⟩
    · exact hgrows.keepsFollow _ _ hfollow
    · cases hnext
  · rintro state s thrown t ⟨hfollow, -⟩ hpass
    rcases pendingPass_loops hpass with hgrows | ⟨next, hnext⟩
    · exact hgrows.keepsFollow _ _ hfollow
    · cases hnext
  · exact fun state s hstate => hstate.1
  · exact ⟨follows_entered hs, trivial⟩

theorem follow_authoritative (snapshot : E2ERecipientSnapshotV1) (recipients : List Material)
    (sessions : List CanonicalSessionState) :
    Effect.Leaves KeepsFollow
      (publishAuthoritativeSnapshots ports text fuel snapshot recipients sessions) := by
  refine follow_bind (follow_of_grows (grows_ofExcept _)) fun blocked => ?_
  exact Effect.Leaves.ite (fun _ => follow_of_grows (grows_pure _)) fun _ =>
    follow_authoritativeLoop sessions snapshot recipients

theorem follow_pending (hcarries : CarriesInput ports) (snapshot : E2ERecipientSnapshotV1)
    (recipients : List Material) (pendingIds : List String) :
    Effect.Leaves KeepsFollow (publishPending ports text fuel snapshot recipients pendingIds) := by
  induction pendingIds generalizing snapshot recipients with
  | nil => exact follow_of_grows (grows_pure _)
  | cons sessionId rest ih =>
    refine follow_bind (follow_of_grows (grows_read _)) fun found => ?_
    cases found with
    | none => exact follow_of_grows (grows_pure _)
    | some upload =>
      dsimp only
      rw [← Effect.bind_bind]
      refine follow_bind (follow_pendingLoop hcarries sessionId snapshot recipients upload)
        fun ended => ?_
      rcases ended with _ | (_ | _)
      · exact follow_of_grows (grows_pure _)
      · exact ih _ _
      · exact follow_of_grows (grows_pure _)

theorem follow_recipientChange (hcarries : CarriesInput ports) (snapshot : E2ERecipientSnapshotV1)
    (recipients : List Material) :
    Effect.Leaves KeepsFollow
      (publishRecipientChangeSnapshots ports text fuel snapshot recipients) := by
  refine follow_bind (follow_of_grows grows_get) fun run => ?_
  refine follow_bind (follow_of_grows (grows_encryptMissing _ _ _ _)) fun missing => ?_
  cases missing with
  | none => exact follow_of_grows (grows_pure _)
  | some pendingIds =>
    refine follow_bind (follow_pending hcarries snapshot recipients pendingIds) fun answer => ?_
    rcases answer with _ | (_ | version)
    · exact follow_of_grows (grows_pure _)
    · exact follow_of_grows (grows_pure _)
    · exact follow_of_grows (grows_bind (grows_inStore _) fun _ => grows_pure _)

end

end Ariava.Proofs.PublicationLoops
