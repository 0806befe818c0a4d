import Ariava.Proofs.PublicationRecords

/-!
# `Ariava.Proofs.RecipientCoverage`: the recipients of a published set

A publication ends by storing a version of the recipients as accepted. `Covered` says that each
Session of the published set then has a committed revision for the recipients of this version.

- *The authoritative set.* Every upload of a pass is for the version that the pass stores, so the
  set is covered whatever the Relay answers (`publishAuthoritativeSnapshots_covered`).
- *A recipient change.* The Sessions that were committed before a refresh are not published again.
  The set is covered when no refresh brings another version and the records that the call finds are
  for its own version (`publishRecipientChangeSnapshots_covered`). With a change between two Sessions
  the first one is left behind (`not_recipientCoverage`).
-/

set_option autoImplicit false

namespace Ariava.Proofs.RecipientCoverage

open Ariava.Lib
open Ariava.Protocol
open Ariava.StateStore
open Ariava.E2e
open Ariava.Proofs.JournalReconciliation (ordinalText)
open Ariava.Proofs.PublicationLoops
open Ariava.Proofs.PublicationRecords
open Ariava.Proofs.UploadCompletion (endedSession)

/-! ### Proven uploads -/

/-- An upload of the Session for the recipients of a version was proven. -/
def ProvenFor (version : Nat) (run : PublicationRun) (sessionId : String) : Prop :=
  ∃ upload, Proven run upload ∧ upload.sessionId = sessionId ∧ upload.recipientSetVersion = version

/-- The set of Sessions is covered by the version that is stored. -/
structure Covered (run : PublicationRun) (sessionIds : Set String) (version : Nat) : Prop where
  stored : run.store.state.recipientSetVersion = some version
  committed : ∀ sessionId ∈ sessionIds, ∃ upload, Proven run upload ∧
    upload.sessionId = sessionId ∧ upload.recipientSetVersion = version ∧
      upload.revision ≤ readCurrentSessionRevision run.store.state sessionId

section
variable {Material : Type} {ports : UploadPorts Material} {text : ProtocolText}
  {s t : PublicationRun} {upload : EncryptedSessionSnapshotUploadV3} {version : Nat}
  {sessionId : String}

theorem proven_mono (hcalls : s.calls <:+ t.calls) (h : Proven s upload) : Proven t upload := by
  rcases h with hpublished | hreconciled
  · exact .inl (hcalls.mem hpublished)
  · exact .inr (hcalls.mem hreconciled)

theorem ProvenFor.mono (hcalls : s.calls <:+ t.calls) (h : ProvenFor version s sessionId) :
    ProvenFor version t sessionId := by
  obtain ⟨found, hproven, hrest⟩ := h
  exact ⟨found, proven_mono hcalls hproven, hrest⟩

/-- What was proven is behind the revision of its Session, so it was committed. -/
theorem Covered.of_proven {sessionIds : Set String} (haccounted : Accounted none t)
    (hstored : t.store.state.recipientSetVersion = some version)
    (h : ∀ sessionId ∈ sessionIds, ProvenFor version t sessionId) :
    Covered t sessionIds version where
  stored := hstored
  committed id hid := by
    obtain ⟨found, hproven, rfl, hversion⟩ := h id hid
    rcases haccounted.revisions found hproven with hexempt | hbehind
    · cases hexempt
    · exact ⟨found, hproven, rfl, hversion, hbehind⟩

theorem setRecipientSetVersion_stored
    (h : (inStore (setRecipientSetVersion version)).run s = (.ok (), t)) :
    t.store.state.recipientSetVersion = some version ∧ t.calls = s.calls := by
  obtain ⟨hset, hcalls⟩ := inStore_ok h
  obtain ⟨result, htransition, -, hstate⟩ := applyTransition_ok hset
  obtain ⟨_, -, hreturn⟩ := bind_eq_ok_iff.mp htransition
  cases hreturn
  rw [hstate]
  exact ⟨rfl, hcalls⟩

/-- A conflict ends in a commit only after a reconciliation that proved the upload. -/
theorem committed_of_conflictDecision {failure : RelayFailure} {committed exhausted : Bool}
    {attempted revision : Nat} {refreshed : Option Nat}
    (h : conflictDecision upload failure committed attempted refreshed exhausted
      = .commit revision) : committed = true := by
  rcases (decideSessionUpload_commit h).2 with hpublished | hreconciled
  · cases hpublished
  · exact Option.some.inj hreconciled

end

/-! ### The authoritative set -/

section
variable {Material : Type} {ports : UploadPorts Material} {text : ProtocolText}
  {s t : PublicationRun} {state : PassState Material} {session : CanonicalSessionState}
  {upload : EncryptedSessionSnapshotUploadV3}

/-- The upload of a pass is for the recipients of the pass. -/
theorem encryptForPass_version (hcarries : CarriesInput ports)
    {found : Option EncryptedSessionSnapshotUploadV3}
    (h : (encryptForPass ports text state session found).run s = (.ok (.ok upload), t)) :
    upload.recipientSetVersion = state.passVersion := by
  unfold encryptForPass at h
  split at h
  · next kept hkept =>
    cases h
    exact of_decide_eq_true (Option.filter_eq_some_iff.mp hkept).2
  · obtain ⟨blocked, u, -, hrest⟩ := Effect.run_bind_eq_ok.mp h
    cases blocked with
    | some reason => cases hrest
    | none =>
      have hrun := run_get_bind hrest
      obtain ⟨next, v, hencrypt, hdigest⟩ := Effect.run_bind_eq_ok.mp hrun
      obtain ⟨sourceDigest, w, -, hwrite⟩ := Effect.run_bind_eq_ok.mp hdigest
      obtain ⟨_, x, -, hreturn⟩ := Effect.run_bind_eq_ok.mp hwrite
      obtain ⟨hencrypted, -⟩ := encryptSession_ok hencrypt
      cases hreturn
      exact (hcarries _ _ _ hencrypted).2.2

theorem prepareUpload_version (hcarries : CarriesInput ports)
    (h : (prepareUpload ports text state session).run s = (.ok (.ok upload), t)) :
    upload.recipientSetVersion = state.passVersion := by
  obtain ⟨found, u, -, hrest⟩ := Effect.run_bind_eq_ok.mp h
  cases found with
  | none => exact encryptForPass_version hcarries hrest
  | some found =>
    obtain ⟨kept, v, -, hrest⟩ := Effect.run_bind_eq_ok.mp hrest
    cases kept with
    | error outcome => cases hrest
    | ok kept => exact encryptForPass_version hcarries hrest

/-- An outcome of a publication that stops. -/
def IsStop : AuthoritativeSnapshotOutcome → Prop
  | .published .. => False
  | _ => True

theorem rebuildInflight_stop {sourceDigest : String} {outcome : AuthoritativeSnapshotOutcome}
    (h : (rebuildInflight ports text state session upload sourceDigest).run s
      = (.ok (.error outcome), t)) : IsStop outcome := by
  obtain ⟨blocked, u, -, hrest⟩ := Effect.run_bind_eq_ok.mp h
  cases blocked with
  | some reason =>
    cases hrest
    trivial
  | none =>
    obtain ⟨replacement, v, -, hwrite⟩ := Effect.run_bind_eq_ok.mp hrest
    obtain ⟨_, w, -, hreturn⟩ := Effect.run_bind_eq_ok.mp hwrite
    cases hreturn

theorem reconcileInflight_stop {outcome : AuthoritativeSnapshotOutcome}
    (h : (reconcileInflight ports text state session upload).run s = (.ok (.error outcome), t)) :
    IsStop outcome := by
  obtain ⟨verdict, u, -, hrest⟩ := Effect.run_bind_eq_ok.mp h
  cases verdict with
  | error _ =>
    cases hrest
    trivial
  | ok committed =>
    cases committed with
    | true =>
      obtain ⟨_, v, -, hreturn⟩ := Effect.run_bind_eq_ok.mp hrest
      cases hreturn
    | false =>
      have hrest := run_get_bind hrest
      split at hrest
      · cases hrest
      · exact rebuildInflight_stop hrest

theorem encryptForPass_stop {found : Option EncryptedSessionSnapshotUploadV3}
    {outcome : AuthoritativeSnapshotOutcome}
    (h : (encryptForPass ports text state session found).run s = (.ok (.error outcome), t)) :
    IsStop outcome := by
  unfold encryptForPass at h
  split at h
  · cases h
  · obtain ⟨blocked, u, -, hrest⟩ := Effect.run_bind_eq_ok.mp h
    cases blocked with
    | some reason =>
      cases hrest
      trivial
    | none =>
      have hrun := run_get_bind hrest
      obtain ⟨next, v, -, hdigest⟩ := Effect.run_bind_eq_ok.mp hrun
      obtain ⟨sourceDigest, w, -, hwrite⟩ := Effect.run_bind_eq_ok.mp hdigest
      obtain ⟨_, x, -, hreturn⟩ := Effect.run_bind_eq_ok.mp hwrite
      cases hreturn

theorem prepareUpload_stop {outcome : AuthoritativeSnapshotOutcome}
    (h : (prepareUpload ports text state session).run s = (.ok (.error outcome), t)) :
    IsStop outcome := by
  obtain ⟨found, u, -, hrest⟩ := Effect.run_bind_eq_ok.mp h
  cases found with
  | none => exact encryptForPass_stop hrest
  | some found =>
    obtain ⟨kept, v, hreconcile, hrest⟩ := Effect.run_bind_eq_ok.mp hrest
    cases kept with
    | error stopped =>
      cases hrest
      exact reconcileInflight_stop hreconcile
    | ok kept => exact encryptForPass_stop hrest

theorem carryOut_stop {current : E2ERecipientSnapshotV1 × List Material}
    {decision : SessionUploadDecision} {outcome : AuthoritativeSnapshotOutcome}
    (h : (carryOut ports text state session upload current decision).run s
      = (.ok (.stop outcome), t)) : IsStop outcome := by
  cases decision with
  | commit accepted =>
    obtain ⟨_, u, -, hrest⟩ := Effect.run_bind_eq_ok.mp h
    cases hrest
  | refreshReencrypt accepted =>
    obtain ⟨blocked, u, -, hrest⟩ := Effect.run_bind_eq_ok.mp h
    cases blocked with
    | some reason =>
      cases hrest
      trivial
    | none =>
      obtain ⟨replacement, v, -, hdigest⟩ := Effect.run_bind_eq_ok.mp hrest
      obtain ⟨sourceDigest, w, -, hwrite⟩ := Effect.run_bind_eq_ok.mp hdigest
      obtain ⟨_, x, -, hreturn⟩ := Effect.run_bind_eq_ok.mp hwrite
      cases hreturn
  | retryNextRevision accepted =>
    obtain ⟨_, u, -, hrest⟩ := Effect.run_bind_eq_ok.mp h
    cases hrest
  | reconcile | defer reason | failClosed =>
    cases h
    trivial

theorem attemptUpload_stop {outcome : AuthoritativeSnapshotOutcome}
    (h : (attemptUpload ports text state session upload).run s = (.ok (.stop outcome), t)) :
    IsStop outcome := by
  obtain ⟨answer, u, -, hrest⟩ := Effect.run_bind_eq_ok.mp h
  cases answer with
  | ok _ =>
    obtain ⟨_, v, -, hreturn⟩ := Effect.run_bind_eq_ok.mp hrest
    cases hreturn
  | error failure =>
    dsimp only at hrest
    split at hrest
    · obtain ⟨verdict, v, -, hrest⟩ := Effect.run_bind_eq_ok.mp hrest
      cases verdict with
      | error _ =>
        cases hrest
        trivial
      | ok committed =>
        dsimp only at hrest
        split at hrest
        · obtain ⟨current, w, -, hrest⟩ := Effect.run_bind_eq_ok.mp hrest
          cases current with
          | none =>
            cases hrest
            trivial
          | some current => exact carryOut_stop hrest
        · exact carryOut_stop hrest
    · cases hrest
      trivial

theorem publishSessions_stop {sessions : List CanonicalSessionState}
    {revisions : Dict String Nat} {outcome : AuthoritativeSnapshotOutcome}
    (h : (publishSessions ports text state revisions sessions).run s = (.ok (.stop outcome), t)) :
    IsStop outcome := by
  induction sessions generalizing revisions s with
  | nil => cases h
  | cons session rest ih =>
    obtain ⟨ended, u, hsession, hrest⟩ := Effect.run_bind_eq_ok.mp h
    cases ended with
    | committed revision => exact ih hrest
    | restart next => cases hrest
    | stop stopped =>
      cases hrest
      obtain ⟨prepared, v, hprepare, hattempt⟩ := Effect.run_bind_eq_ok.mp hsession
      cases prepared with
      | error refused =>
        cases hattempt
        exact prepareUpload_stop hprepare
      | ok upload => exact attemptUpload_stop hattempt

/-- A Session ends as committed only by the decision to commit it. -/
theorem carryOut_committed {current : E2ERecipientSnapshotV1 × List Material}
    {decision : SessionUploadDecision} {revision : Nat}
    (h : (carryOut ports text state session upload current decision).run s
      = (.ok (.committed revision), t)) : decision = .commit revision := by
  cases decision with
  | commit accepted =>
    obtain ⟨_, u, -, hrest⟩ := Effect.run_bind_eq_ok.mp h
    cases hrest
    rfl
  | reconcile => cases h
  | refreshReencrypt accepted =>
    obtain ⟨blocked, u, -, hrest⟩ := Effect.run_bind_eq_ok.mp h
    cases blocked with
    | some reason => cases hrest
    | none =>
      obtain ⟨replacement, v, -, hdigest⟩ := Effect.run_bind_eq_ok.mp hrest
      obtain ⟨sourceDigest, w, -, hwrite⟩ := Effect.run_bind_eq_ok.mp hdigest
      obtain ⟨_, x, -, hreturn⟩ := Effect.run_bind_eq_ok.mp hwrite
      cases hreturn
  | retryNextRevision accepted =>
    obtain ⟨_, u, -, hrest⟩ := Effect.run_bind_eq_ok.mp h
    cases hrest
  | defer reason => cases h
  | failClosed => cases h

/-- The upload of a Session that ends as committed was proven. -/
theorem attemptUpload_proven {revision : Nat}
    (h : (attemptUpload ports text state session upload).run s
      = (.ok (.committed revision), t)) : Proven t upload := by
  obtain ⟨answer, u, hpublish, hrest⟩ := Effect.run_bind_eq_ok.mp h
  obtain rfl := publishEncryptedSession_ok hpublish
  cases answer with
  | ok _ =>
    have hproven : Proven (awaited ports s (.publication upload (.ok ()))) upload :=
      .inl List.mem_cons_self
    have hgrows := Grows.of_run (grows_bind (grows_complete _ _) fun _ => grows_pure _) hrest
    exact proven_mono hgrows.1 hproven
  | error failure =>
    dsimp only at hrest
    split at hrest
    · obtain ⟨verdict, v, hreconcile, hrest⟩ := Effect.run_bind_eq_ok.mp hrest
      obtain rfl := reconcileEncryptedSession_ok hreconcile
      cases verdict with
      | error _ => cases hrest
      | ok committed =>
        -- the verdict is among the calls from here on, with or without a refresh behind it
        have hverdict : ∀ {u : PublicationRun} {current refreshed attempted exhausted},
            .reconciliation upload (.ok committed) ∈ u.calls →
            (carryOut ports text state session upload current (conflictDecision upload failure
              committed attempted refreshed exhausted)).run u = (.ok (.committed revision), t) →
            Proven t upload := by
          intro u current refreshed attempted exhausted hmem hcarry
          have hcommitted := committed_of_conflictDecision (carryOut_committed hcarry)
          subst hcommitted
          have hproven : Proven u upload := .inr hmem
          exact proven_mono (Grows.of_run (grows_carryOut _ _) hcarry).1 hproven
        dsimp only at hrest
        split at hrest
        · obtain ⟨current, w, hrefresh, hrest⟩ := Effect.run_bind_eq_ok.mp hrest
          obtain ⟨-, rfl⟩ := refreshRecipients_ok hrefresh
          cases current with
          | none => cases hrest
          | some current =>
            exact hverdict (List.mem_cons_of_mem _ List.mem_cons_self) hrest
        · exact hverdict List.mem_cons_self hrest
    · cases hrest

theorem publishSession_provenFor (hlawful : Lawful ports) {revision : Nat}
    (haccounted : Accounted none s)
    (h : (publishSession ports text state session).run s = (.ok (.committed revision), t)) :
    ProvenFor state.passVersion t session.sessionId := by
  obtain ⟨prepared, u, hprepare, hrest⟩ := Effect.run_bind_eq_ok.mp h
  have hprepared := prepareUpload_ends hlawful haccounted hprepare
  cases prepared with
  | error outcome => cases hrest
  | ok upload =>
    exact ⟨upload, attemptUpload_proven hrest, hprepared.bound,
      prepareUpload_version hlawful.carries hprepare⟩

/-- After the loop over the Sessions each of them has a proven upload of this pass. -/
theorem publishSessions_provenFor (hlawful : Lawful ports)
    {sessions : List CanonicalSessionState} {revisions published : Dict String Nat}
    (haccounted : Accounted none s)
    (h : (publishSessions ports text state revisions sessions).run s
      = (.ok (.published published), t)) :
    ∀ session ∈ sessions, ProvenFor state.passVersion t session.sessionId := by
  induction sessions generalizing revisions s with
  | nil =>
    intro session hsession
    cases hsession
  | cons first rest ih =>
    obtain ⟨ended, u, hfirst, hrest⟩ := Effect.run_bind_eq_ok.mp h
    cases ended with
    | committed revision =>
      have hends := publishSession_ends hlawful haccounted hfirst
      intro session hsession
      rcases List.mem_cons.mp hsession with rfl | hmem
      · have hfor := publishSession_provenFor hlawful haccounted hfirst
        exact hfor.mono (Grows.of_run (grows_publishSessions _ _) hrest).1
      · exact ih hends hrest session hmem
    | restart next => cases hrest
    | stop outcome => cases hrest

theorem publishPass_covered (hlawful : Lawful ports) {sessions : List CanonicalSessionState}
    {version : Nat} {revisions : List (String × Nat)} (haccounted : Accounted none s)
    (h : (publishPass ports text sessions state).run s
      = (.ok (.inl (.published version revisions)), t)) :
    Covered t {id | ∃ session ∈ sessions, session.sessionId = id} version := by
  obtain ⟨ended, u, hsessions, hrest⟩ := Effect.run_bind_eq_ok.mp h
  have hends := publishSessions_ends hlawful haccounted hsessions
  cases ended with
  | published published =>
    obtain ⟨_, v, hset, hreturn⟩ := Effect.run_bind_eq_ok.mp hrest
    obtain ⟨hstored, hcalls⟩ := setRecipientSetVersion_stored hset
    have haccounted := setRecipientSetVersion_accounted hends hset
    cases hreturn
    refine .of_proven haccounted hstored ?_
    rintro _ ⟨session, hmem, rfl⟩
    have hfor := publishSessions_provenFor hlawful ‹Accounted none s› hsessions session hmem
    exact hfor.mono (hcalls ▸ List.suffix_rfl)
  | restart next =>
    obtain ⟨_, v, -, hreturn⟩ := Effect.run_bind_eq_ok.mp hrest
    cases hreturn
  | stop outcome =>
    cases hrest
    exact (publishSessions_stop hsessions).elim

/-- A published set is covered, whatever the Relay answers. -/
theorem publishAuthoritativeSnapshots_covered (hlawful : Lawful ports) {fuel : Nat}
    {snapshot : E2ERecipientSnapshotV1} {recipients : List Material}
    {sessions : List CanonicalSessionState} {version : Nat} {revisions : List (String × Nat)}
    (haccounted : Accounted none s)
    (h : (publishAuthoritativeSnapshots ports text fuel snapshot recipients sessions).run s
      = (.ok (some (.published version revisions)), t)) :
    Covered t {id | ∃ session ∈ sessions, session.sessionId = id} version := by
  obtain ⟨blocked, u, hpreflight, hrest⟩ := Effect.run_bind_eq_ok.mp h
  obtain ⟨-, rfl⟩ := run_ofExcept_eq_ok hpreflight
  split at hrest
  · cases hrest
  · obtain ⟨_, v, hnote, hloop⟩ := Effect.run_bind_eq_ok.mp hrest
    cases hnote
    have hpublished := Effect.restarting_ok (I := fun _ run => Accounted none run)
      (Q := fun outcome run => ∀ version revisions, outcome = .published version revisions →
        Covered run {id | ∃ session ∈ sessions, session.sessionId = id} version)
      (fun _ _ _ _ hrun hpass => publishPass_ends hlawful hrun hpass) ?_ (haccounted.noted _) hloop
    · exact hpublished version revisions rfl
    · intro state run outcome next hrun hpass version revisions houtcome
      subst houtcome
      exact publishPass_covered hlawful hrun hpass

end

/-! ### A recipient change -/

/-- The records of Sessions are for the recipients of a version. -/
def RecordsAt (version : Nat) (run : PublicationRun) : Prop :=
  ∀ sessionId kept, usableUpload run.store.items sessionId = some kept →
    kept.recipientSetVersion = version

/-- No refresh of the run brought the recipients of another version. -/
def SettledAt (version : Nat) (run : PublicationRun) : Prop :=
  ∀ answered, .refresh (some answered) ∈ run.calls → answered = version

section
variable {Material : Type} {ports : UploadPorts Material} {text : ProtocolText}
  {s t : PublicationRun} {sessionId : String} {version : Nat}
  {upload : EncryptedSessionSnapshotUploadV3}

theorem SettledAt.of_suffix (h : SettledAt version t) (hcalls : s.calls <:+ t.calls) :
    SettledAt version s := fun answered hmem => h answered (hcalls.mem hmem)

theorem RecordsAt.written (h : RecordsAt version s)
    (hwritten : Written sessionId upload s.store t.store)
    (hversion : upload.recipientSetVersion = version) : RecordsAt version t := by
  intro other kept hkept
  rcases hwritten.records other kept hkept with ⟨-, rfl⟩ | hold
  · exact hversion
  · exact h other kept hold

theorem RecordsAt.awaited (hothers : OthersKeep ports) (h : RecordsAt version s)
    (call : RelayCall) : RecordsAt version (awaited ports s call) := by
  intro other kept hkept
  apply h other kept
  rw [← hothers.records s.clock]
  exact hkept

/-- A completion takes one record away. -/
theorem RecordsAt.completed {revision : Nat} (h : RecordsAt version s)
    (hrun : (completeSession sessionId revision).run s = (.ok (), t)) : RecordsAt version t := by
  obtain ⟨_, u, hcommit, hremove⟩ := Effect.run_bind_eq_ok.mp hrun
  obtain ⟨hitems, -⟩ := commitSessionRevision_ok (inStore_ok hcommit).1
  obtain ⟨-, hrecords⟩ := removeInflightSessionUpload_ok (inStore_ok hremove).1
  intro other kept hkept
  obtain ⟨-, hold⟩ := hrecords other kept hkept
  rw [hitems] at hold
  exact h other kept hold

/-- An encryption is for the recipients that it was asked for. -/
theorem encrypted_version (hcarries : CarriesInput ports) {input : SessionEncryption Material}
    (h : (encryptSession ports input).run s = (.ok upload, t)) :
    upload.recipientSetVersion = input.recipientSetVersion ∧ t = s := by
  obtain ⟨hencrypted, rfl⟩ := encryptSession_ok h
  exact ⟨(hcarries _ _ _ hencrypted).2.2, rfl⟩

/-- The loop over the stored Sessions: the records stay at the version, and the Sessions that had
none are among the pending ones afterwards. -/
structure EncryptedMissing (version : Nat) (pendingIds ids : List String)
    (sessions : List CanonicalSessionState) (s t : PublicationRun) : Prop where
  records : RecordsAt version t
  calls : t.calls = s.calls
  pending : pendingIds ⊆ ids
  missing : ∀ session ∈ sessions, usableUpload s.store.items session.sessionId = none →
    session.sessionId ∈ ids

theorem mem_addId (ids : List String) (id : String) : id ∈ addId ids id := by
  unfold addId
  split
  · next hmem => exact hmem
  · exact List.mem_append_right _ (List.mem_singleton_self _)

theorem subset_addId (ids : List String) (id : String) : ids ⊆ addId ids id := by
  unfold addId
  split
  · exact List.Subset.refl _
  · exact List.subset_append_left _ _

theorem encryptMissing_covers (hcarries : CarriesInput ports)
    {snapshot : E2ERecipientSnapshotV1} {recipients : List Material} {pendingIds ids : List String}
    {sessions : List CanonicalSessionState} (hat : RecordsAt snapshot.recipientSetVersion s)
    (h : (encryptMissing ports text snapshot recipients pendingIds sessions).run s
      = (.ok (some ids), t)) :
    EncryptedMissing snapshot.recipientSetVersion pendingIds ids sessions s t := by
  induction sessions generalizing pendingIds s with
  | nil =>
    cases h
    exact ⟨hat, rfl, List.Subset.refl _, fun _ hmem => absurd hmem List.not_mem_nil⟩
  | cons session rest ih =>
    obtain ⟨found, u, hread, hrest⟩ := Effect.run_bind_eq_ok.mp h
    obtain ⟨hfound, rfl⟩ := readInflight_ok hread
    cases found with
    | some upload =>
      obtain ⟨hrecords, hcalls, hpending, hmissing⟩ := ih hat hrest
      refine ⟨hrecords, hcalls, hpending, ?_⟩
      intro other hother hnone
      rcases List.mem_cons.mp hother with rfl | hmem
      · rw [hfound] at hnone
        cases hnone
      · exact hmissing other hmem hnone
    | none =>
      obtain ⟨blocked, v, hblock, hrest⟩ := Effect.run_bind_eq_ok.mp hrest
      obtain rfl := blockReason_ok hblock
      cases blocked with
      | some reason => cases hrest
      | none =>
        have hrun := run_get_bind hrest
        obtain ⟨upload, w, hencrypt, hdigest⟩ := Effect.run_bind_eq_ok.mp hrun
        obtain ⟨sourceDigest, x, hdigest, hwrite⟩ := Effect.run_bind_eq_ok.mp hdigest
        obtain ⟨_, y, hpersist, hloop⟩ := Effect.run_bind_eq_ok.mp hwrite
        obtain ⟨hversion, rfl⟩ := encrypted_version hcarries hencrypt
        obtain ⟨-, rfl⟩ := run_ofExcept_eq_ok hdigest
        obtain ⟨hwritten, hkept⟩ := persistUpload_ok hpersist
        obtain ⟨hrecords, hcalls, hpending, hmissing⟩ := ih (hat.written hwritten hversion) hloop
        refine ⟨hrecords, hcalls.trans hkept, List.Subset.trans (subset_addId _ _) hpending, ?_⟩
        intro other hother hnone
        rcases List.mem_cons.mp hother with rfl | hmem
        · exact hpending (mem_addId _ _)
        · -- the new record may be of the same Session
          cases hnow : usableUpload y.store.items other.sessionId with
          | none => exact hmissing other hmem hnow
          | some kept =>
            rcases hwritten.records _ _ hnow with ⟨hsame, -⟩ | hold
            · rw [hsame]
              exact hpending (mem_addId _ _)
            · rw [hnone] at hold
              cases hold

variable {state : PendingState Material} {ended : PendingEnd Material ⊕ PendingState Material}

/-- A pass of the inner loop starts with an upload of the Session and recipients of the version. -/
structure StateAt (version : Nat) (sessionId : String) (state : PendingState Material)
    (run : PublicationRun) : Prop where
  records : RecordsAt version run
  snapshot : state.snapshot.recipientSetVersion = version
  upload : state.upload.recipientSetVersion = version
  bound : state.upload.sessionId = sessionId

/-- What a pass of the inner loop ends with. -/
def PendingAt (version : Nat) (sessionId : String) :
    PendingEnd Material ⊕ PendingState Material → PublicationRun → Prop
  | .inl (.committed snapshot _), run => RecordsAt version run ∧
      snapshot.recipientSetVersion = version ∧ ProvenFor version run sessionId
  | .inl .gaveUp, _ => True
  | .inr next, run => StateAt version sessionId next run

theorem reencryptPending_at (hcarries : CarriesInput ports) {refresh : Option (Refresh Material)}
    {revision : Nat} (hat : RecordsAt version s)
    (hrefresh : ∀ found, refresh = some found → found.2.1.recipientSetVersion = version)
    (h : (reencryptPending ports text sessionId state revision refresh).run s = (.ok ended, t)) :
    PendingAt version sessionId ended t := by
  cases refresh with
  | none =>
    cases h
    trivial
  | some refresh =>
    obtain ⟨blocked, u, hblock, hrest⟩ := Effect.run_bind_eq_ok.mp h
    obtain rfl := blockReason_ok hblock
    cases blocked with
    | some reason =>
      cases hrest
      trivial
    | none =>
      obtain ⟨replacement, v, hencrypt, hdigest⟩ := Effect.run_bind_eq_ok.mp hrest
      obtain ⟨sourceDigest, w, hdigest, hwrite⟩ := Effect.run_bind_eq_ok.mp hdigest
      obtain ⟨_, x, hreplace, hreturn⟩ := Effect.run_bind_eq_ok.mp hwrite
      obtain ⟨hversion, rfl⟩ := encrypted_version hcarries hencrypt
      obtain ⟨-, rfl⟩ := run_ofExcept_eq_ok hdigest
      obtain ⟨hwritten, -⟩ := replaceUpload_ok hreplace
      have hversion := hversion.trans (hrefresh _ rfl)
      cases hreturn
      exact ⟨hat.written hwritten hversion, hrefresh _ rfl, hversion, hwritten.bound⟩

theorem retryPending_at (hcarries : CarriesInput ports) {refresh : Option (Refresh Material)}
    {revision : Nat} (hat : RecordsAt version s)
    (hrefresh : ∀ found, refresh = some found → found.2.1.recipientSetVersion = version)
    (h : (retryPending ports text sessionId state revision refresh).run s = (.ok ended, t)) :
    PendingAt version sessionId ended t := by
  cases refresh with
  | none =>
    cases h
    trivial
  | some refresh =>
    obtain ⟨blocked, u, hblock, hrest⟩ := Effect.run_bind_eq_ok.mp h
    obtain rfl := blockReason_ok hblock
    cases blocked with
    | some reason =>
      cases hrest
      trivial
    | none =>
      obtain ⟨_, v, hcomplete, hencrypt⟩ := Effect.run_bind_eq_ok.mp hrest
      obtain ⟨next, w, hencrypt, hdigest⟩ := Effect.run_bind_eq_ok.mp hencrypt
      obtain ⟨sourceDigest, x, hdigest, hwrite⟩ := Effect.run_bind_eq_ok.mp hdigest
      obtain ⟨_, y, hpersist, hreturn⟩ := Effect.run_bind_eq_ok.mp hwrite
      obtain ⟨hversion, rfl⟩ := encrypted_version hcarries hencrypt
      obtain ⟨-, rfl⟩ := run_ofExcept_eq_ok hdigest
      obtain ⟨hwritten, -⟩ := persistUpload_ok hpersist
      have hversion := hversion.trans (hrefresh _ rfl)
      cases hreturn
      exact ⟨(hat.completed hcomplete).written hwritten hversion, hrefresh _ rfl, hversion,
        hwritten.bound⟩

/-- The upload of a commit has to be proven by then. -/
theorem carryOutPending_at (hcarries : CarriesInput ports) {refresh : Option (Refresh Material)}
    {decision : SessionUploadDecision} (hstate : StateAt version sessionId state s)
    (hrefresh : ∀ found, refresh = some found → found.2.1.recipientSetVersion = version)
    (hproven : ∀ revision, decision = .commit revision → Proven s state.upload)
    (h : (carryOutPending ports text sessionId state refresh decision).run s = (.ok ended, t)) :
    PendingAt version sessionId ended t := by
  cases decision with
  | commit revision =>
    obtain ⟨_, u, hcomplete, hrest⟩ := Effect.run_bind_eq_ok.mp h
    have hgrows := Grows.of_run (grows_complete _ _) hcomplete
    cases hrest
    refine ⟨hstate.records.completed hcomplete, hstate.snapshot, state.upload, ?_, hstate.bound,
      hstate.upload⟩
    exact proven_mono hgrows.1 (hproven revision rfl)
  | refreshReencrypt revision => exact reencryptPending_at hcarries hstate.records hrefresh h
  | retryNextRevision revision => exact retryPending_at hcarries hstate.records hrefresh h
  | reconcile | defer reason | failClosed =>
    cases h
    trivial

/-- One pass of the inner loop, when no refresh brought another version. -/
theorem attemptPending_at (hlawful : Lawful ports) (hsettled : SettledAt version t)
    (hstate : StateAt version sessionId state s)
    (h : (attemptPending ports text sessionId state).run s = (.ok ended, t)) :
    PendingAt version sessionId ended t := by
  have hawaited : ∀ {run} (call : RelayCall), StateAt version sessionId state run →
      StateAt version sessionId state (awaited ports run call) := fun call hrun =>
    ⟨hrun.records.awaited hlawful.others call, hrun.snapshot, hrun.upload, hrun.bound⟩
  have hnoRefresh : ∀ found : Refresh Material, none = some found →
      found.2.1.recipientSetVersion = version := fun _ hnone => by cases hnone
  obtain ⟨answer, u, hpublish, hrest⟩ := Effect.run_bind_eq_ok.mp h
  obtain rfl := publishEncryptedSession_ok hpublish
  cases answer with
  | ok _ =>
    refine carryOutPending_at hlawful.carries (hawaited _ hstate) hnoRefresh ?_ hrest
    exact fun _ _ => .inl List.mem_cons_self
  | error failure =>
    dsimp only at hrest
    split at hrest
    · obtain ⟨verdict, v, hreconcile, hrest⟩ := Effect.run_bind_eq_ok.mp hrest
      obtain rfl := reconcileEncryptedSession_ok hreconcile
      cases verdict with
      | error _ =>
        cases hrest
        trivial
      | ok committed =>
        dsimp only at hrest
        split at hrest
        · have hrest := run_get_bind hrest
          split at hrest
          · cases hrest
            trivial
          · obtain ⟨current, w, hrefresh, hrest⟩ := Effect.run_bind_eq_ok.mp hrest
            obtain ⟨-, rfl⟩ := refreshRecipients_ok hrefresh
            cases current with
            | none =>
              cases hrest
              trivial
            | some current =>
              have hversion : current.1.recipientSetVersion = version :=
                hsettled _ ((Grows.of_run (grows_carryOutPending _ _) hrest).1.mem
                  List.mem_cons_self)
              have hat := hawaited (.refresh (some current.1.recipientSetVersion))
                (hawaited (.reconciliation state.upload (.ok committed))
                  (hawaited (.publication state.upload (.error failure)) hstate))
              have hnext : StateAt version sessionId
                  { state with snapshot := current.1, recipients := current.2 }
                  (awaited ports _ (.refresh (some current.1.recipientSetVersion))) :=
                ⟨hat.records, hversion, hat.upload, hat.bound⟩
              refine carryOutPending_at hlawful.carries hnext ?_ ?_ hrest
              · rintro _ ⟨⟩
                exact hversion
              · intro revision hcommit
                obtain rfl := committed_of_conflictDecision hcommit
                exact .inr (List.mem_cons_of_mem _ List.mem_cons_self)
        · refine carryOutPending_at hlawful.carries (hawaited _ (hawaited _ hstate)) hnoRefresh ?_
            hrest
          intro revision hcommit
          obtain rfl := committed_of_conflictDecision hcommit
          exact .inr List.mem_cons_self
    · refine carryOutPending_at hlawful.carries (hawaited _ hstate) hnoRefresh ?_ hrest
      intro revision hcommit
      rcases (decideSessionUpload_commit hcommit).2 with hpublished | hreconciled
      · cases hpublished
      · cases hreconciled

theorem pendingPass_at (hlawful : Lawful ports) (hsettled : SettledAt version t)
    (hstate : StateAt version sessionId state s)
    (h : (pendingPass ports text sessionId state).run s = (.ok ended, t)) :
    PendingAt version sessionId ended t := by
  obtain ⟨attempted, u, hattempt, hrest⟩ := Effect.run_bind_eq_ok.mp h
  cases attempted with
  | inl pendingEnd =>
    cases hrest
    exact attemptPending_at hlawful hsettled hstate hattempt
  | inr next =>
    obtain ⟨_, v, hnote, hreturn⟩ := Effect.run_bind_eq_ok.mp hrest
    cases hnote
    cases hreturn
    have hsettled : SettledAt version u := hsettled
    have hends := attemptPending_at hlawful hsettled hstate hattempt
    exact ⟨hends.records, hends.snapshot, hends.upload, hends.bound⟩

theorem pendingPass_calls (h : (pendingPass ports text sessionId state).run s = (.ok ended, t)) :
    s.calls <:+ t.calls := by
  obtain ⟨attempted, u, hattempt, hrest⟩ := Effect.run_bind_eq_ok.mp h
  have hgrows := Grows.of_run grows_attemptPending hattempt
  cases attempted with
  | inl pendingEnd =>
    cases hrest
    exact hgrows.1
  | inr next =>
    obtain ⟨_, v, hnote, hreturn⟩ := Effect.run_bind_eq_ok.mp hrest
    cases hnote
    cases hreturn
    exact hgrows.1

variable {fuel : Nat} {snapshot : E2ERecipientSnapshotV1} {recipients : List Material}
  {pendingEnd : PendingEnd Material} {ids : List String}

theorem pendingLoop_calls
    (h : (Effect.restarting (pendingPass ports text sessionId) fuel state).run s
      = (.ok (some pendingEnd), t)) : s.calls <:+ t.calls :=
  Effect.restarting_ok (I := fun _ run => s.calls <:+ run.calls)
    (Q := fun _ run => s.calls <:+ run.calls)
    (fun _ _ _ _ hcalls hpass => hcalls.trans (pendingPass_calls hpass))
    (fun _ _ _ _ hcalls hpass => hcalls.trans (pendingPass_calls hpass)) List.suffix_rfl h

/-- The inner loop. What a refresh later in the run brings is not known at a restart, so the
invariant is under the condition on the calls up to there. -/
theorem pendingLoop_at (hlawful : Lawful ports) (hsettled : SettledAt version t)
    (hstate : StateAt version sessionId state s)
    (h : (Effect.restarting (pendingPass ports text sessionId) fuel state).run s
      = (.ok (some pendingEnd), t)) : PendingAt version sessionId (.inl pendingEnd) t := by
  refine Effect.restarting_ok
    (I := fun state run => SettledAt version run → StateAt version sessionId state run)
    (Q := fun pendingEnd run => SettledAt version run →
      PendingAt version sessionId (.inl pendingEnd) run) ?_ ?_ (fun _ => hstate) h hsettled
  · intro state run next after hinv hpass hsettled
    exact pendingPass_at hlawful hsettled
      (hinv (hsettled.of_suffix (pendingPass_calls hpass))) hpass
  · intro state run pendingEnd after hinv hpass hsettled
    exact pendingPass_at hlawful hsettled
      (hinv (hsettled.of_suffix (pendingPass_calls hpass))) hpass

/-- The inner loop of a Session starts with the record of the Session. -/
theorem StateAt.of_usable (hat : RecordsAt version s)
    (hsnapshot : snapshot.recipientSetVersion = version)
    (hfound : usableUpload s.store.items sessionId = some upload) (loops : List LoopEvent) :
    StateAt version sessionId ⟨snapshot, recipients, upload, false⟩
      { s with loops := loops } :=
  ⟨hat, hsnapshot, hat _ _ hfound, (usableUpload_eq_some hfound).1⟩

theorem publishPending_calls {stored : Option Nat}
    (h : (publishPending ports text fuel snapshot recipients ids).run s
      = (.ok (some stored), t)) : s.calls <:+ t.calls := by
  induction ids generalizing snapshot recipients s with
  | nil =>
    cases h
    exact List.suffix_rfl
  | cons sessionId rest ih =>
    obtain ⟨found, u, hread, hrest⟩ := Effect.run_bind_eq_ok.mp h
    obtain ⟨-, rfl⟩ := readInflight_ok hread
    cases found with
    | none =>
      cases hrest
      exact List.suffix_rfl
    | some upload =>
      obtain ⟨_, v, hnote, hrest⟩ := Effect.run_bind_eq_ok.mp hrest
      cases hnote
      obtain ⟨ended, w, hloop, hrest⟩ := Effect.run_bind_eq_ok.mp hrest
      cases ended with
      | none => cases hrest
      | some pendingEnd =>
        have hcalls := pendingLoop_calls hloop
        cases pendingEnd with
        | gaveUp =>
          cases hrest
          exact hcalls
        | committed snapshot recipients => exact hcalls.trans (ih hrest)

/-- After the loop over the pending Sessions each of them has a proven upload for the version that
is stored. -/
theorem publishPending_provenFor (hlawful : Lawful ports) {stored : Nat}
    (hat : RecordsAt version s) (hsnapshot : snapshot.recipientSetVersion = version)
    (hsettled : SettledAt version t)
    (h : (publishPending ports text fuel snapshot recipients ids).run s
      = (.ok (some (some stored)), t)) :
    stored = version ∧ ∀ id ∈ ids, ProvenFor version t id := by
  induction ids generalizing snapshot recipients s with
  | nil =>
    cases h
    exact ⟨hsnapshot, fun _ hid => absurd hid List.not_mem_nil⟩
  | cons sessionId rest ih =>
    obtain ⟨found, u, hread, hrest⟩ := Effect.run_bind_eq_ok.mp h
    obtain ⟨hfound, rfl⟩ := readInflight_ok hread
    cases found with
    | none => cases hrest
    | some upload =>
      obtain ⟨_, v, hnote, hrest⟩ := Effect.run_bind_eq_ok.mp hrest
      cases hnote
      obtain ⟨ended, w, hloop, hrest⟩ := Effect.run_bind_eq_ok.mp hrest
      cases ended with
      | none => cases hrest
      | some pendingEnd =>
        cases pendingEnd with
        | gaveUp => cases hrest
        | committed snapshot recipients =>
          have hcalls := publishPending_calls hrest
          obtain ⟨hrecords, hversion, hproven⟩ :=
            pendingLoop_at hlawful (hsettled.of_suffix hcalls)
              (StateAt.of_usable hat hsnapshot hfound _) hloop
          obtain ⟨hstored, hothers⟩ := ih hrecords hversion hrest
          refine ⟨hstored, fun id hid => ?_⟩
          rcases List.mem_cons.mp hid with rfl | hmem
          · exact hproven.mono hcalls
          · exact hothers id hmem

/-- The Sessions that a recipient change publishes: those of the inflights, and the stored ones
without one. -/
def publishedIds (store : BridgeStore) : Set String :=
  {id | id ∈ listInflightSessionIds store.items ∨
    ∃ session ∈ store.state.sessions.values, session.sessionId = id ∧
      usableUpload store.items id = none}

theorem mem_foldl_addId {id : String} {more : List String} (h : id ∈ ids ∨ id ∈ more) :
    id ∈ more.foldl addId ids := by
  induction more generalizing ids with
  | nil => exact h.resolve_right List.not_mem_nil
  | cons first rest ih =>
    apply ih
    rcases h with hids | hmore
    · exact .inl (subset_addId _ _ hids)
    · rcases List.mem_cons.mp hmore with rfl | hrest
      · exact .inl (mem_addId _ _)
      · exact .inr hrest

/-- The published set of a recipient change is covered when no refresh brought another version and
the records that it found are for its own. -/
theorem publishRecipientChangeSnapshots_covered (hlawful : Lawful ports)
    (haccounted : Accounted none s) (hat : RecordsAt snapshot.recipientSetVersion s)
    (hsettled : SettledAt snapshot.recipientSetVersion t)
    (h : (publishRecipientChangeSnapshots ports text fuel snapshot recipients).run s
      = (.ok (some true), t)) :
    Covered t (publishedIds s.store) snapshot.recipientSetVersion := by
  have hrun := run_get_bind h
  obtain ⟨missing, u, hmissing, hrest⟩ := Effect.run_bind_eq_ok.mp hrun
  cases missing with
  | none => cases hrest
  | some pendingIds =>
    have hencrypted := encryptMissing_covers hlawful.carries hat hmissing
    have haccounted := encryptMissing_accounted hlawful haccounted hmissing
    obtain ⟨answer, v, hpending, hrest⟩ := Effect.run_bind_eq_ok.mp hrest
    cases answer with
    | none => cases hrest
    | some stored =>
      cases stored with
      | none => cases hrest
      | some stored =>
        obtain ⟨_, w, hset, hreturn⟩ := Effect.run_bind_eq_ok.mp hrest
        obtain ⟨hstored, hcalls⟩ := setRecipientSetVersion_stored hset
        cases hreturn
        have hsuffix : v.calls <:+ t.calls := hcalls ▸ List.suffix_rfl
        obtain ⟨rfl, hproven⟩ := publishPending_provenFor hlawful hencrypted.records rfl
          (hsettled.of_suffix hsuffix) hpending
        have hleaves := publishPending_leaves hlawful haccounted hpending
        refine .of_proven (setRecipientSetVersion_accounted (hleaves.2 rfl) hset) hstored ?_
        rintro id (hinflight | ⟨session, hsession, rfl, hnone⟩)
        · have hmem := hencrypted.pending (mem_foldl_addId (.inr hinflight))
          exact (hproven id hmem).mono hsuffix
        · have hlisted : session ∈ listSessions text s.store.state :=
            List.mem_mergeSort.mpr hsession
          exact (hproven _ (hencrypted.missing session hlisted hnone)).mono hsuffix

end

/-! ### The published sets -/

/-- The set of each publication is covered by a version that is stored: of each one of the given
Sessions, and of each recipient change among the runs in question. -/
structure PublishedSetsCovered {Material : Type} (ports : UploadPorts Material) (text : ProtocolText)
    (mayRun : E2ERecipientSnapshotV1 → BridgeStore → PublicationRun → Prop) : Prop where
  authoritative : ∀ fuel snapshot recipients sessions store version revisions run,
    (publishAuthoritativeSnapshots ports text fuel snapshot recipients sessions).run (.start store)
      = (.ok (some (.published version revisions)), run) →
    Covered run {id | ∃ session ∈ sessions, session.sessionId = id} version
  recipientChange : ∀ fuel snapshot recipients store run,
    (publishRecipientChangeSnapshots ports text fuel snapshot recipients).run (.start store)
      = (.ok (some true), run) →
    mayRun snapshot store run → ∃ version, Covered run (publishedIds store) version

/-- The recipients stay at the given version, from the records of Sessions to the last refresh. -/
def StaysAt (snapshot : E2ERecipientSnapshotV1) (store : BridgeStore) (run : PublicationRun) :
    Prop :=
  RecordsAt snapshot.recipientSetVersion (.start store) ∧
    SettledAt snapshot.recipientSetVersion run

/-- An authoritative publication covers its Sessions in every run. A recipient change covers its
Sessions in the runs in which the recipients stay. -/
theorem recipientCoverage {Material : Type} {ports : UploadPorts Material} {text : ProtocolText}
    (hlawful : Lawful ports) : PublishedSetsCovered ports text StaysAt where
  authoritative _ _ _ _ store _ _ _ hrun :=
    publishAuthoritativeSnapshots_covered hlawful (accounted_start store) hrun
  recipientChange _ snapshot _ store _ hrun hstays :=
    ⟨snapshot.recipientSetVersion,
      publishRecipientChangeSnapshots_covered hlawful (accounted_start store) hstays.1 hstays.2
        hrun⟩

/-- A Relay that accepts the uploads, but for one that it may refuse because of the recipients. -/
def changingPorts (refused : Option Nat) : UploadPorts Unit where
  publishEncryptedSession time :=
    if refused = some time then .error ⟨true, some 409, some recipientSetChangedReason⟩ else .ok ()
  reconcileEncryptedSession _ := .ok false
  recipientSnapshot _ := .ok ⟨"host", 2, []⟩
  reconcileRecipients _ _ := .ok []
  encryptSessionSnapshot _ input :=
    .ok (sampleUpload input.session.sessionId input.revision input.recipientSetVersion)
  now _ := "2026-01-01T00:00:00.000Z"
  others _ store := store

theorem changingPorts_lawful (refused : Option Nat) : Lawful (changingPorts refused) where
  carries time input upload hencrypt := by
    cases hencrypt
    exact ⟨rfl, rfl, rfl⟩
  others := ⟨fun _ _ _ => rfl, fun _ _ _ => Nat.le_refl _⟩
  reasoned time failure hanswer _ := by
    have hanswer : (if refused = some time then _ else _) = Except.error failure := hanswer
    split at hanswer
    · cases hanswer
      rfl
    · cases hanswer

/-- The second Session of the sample. -/
def otherSession : CanonicalSessionState := { endedSession with sessionId := "other" }

/-- A store with two Sessions. -/
def twoSessions : BridgeStore :=
  .opened ⟨{ emptyState "epoch" with
    sessions := Dict.set (Dict.set ∅ "session" endedSession) "other" otherSession }, []⟩ true []

/-- The publication of the two Sessions to the first recipients. -/
def publishTwo (refused : Option Nat) : Except Thrown (Option Bool) × PublicationRun :=
  (publishRecipientChangeSnapshots (changingPorts refused) ordinalText 2 ⟨"host", 1, []⟩ []).run
    (.start twoSessions)

/-- The version that a refresh brought. -/
def refreshedTo : RelayCall → Option Nat
  | .refresh version => version
  | _ => none

/-- What is seen of a publication: its answer, the stored version, the Sessions and the versions of
the uploads that were proven, and the versions that the refreshes brought. -/
def observed (ended : Except Thrown (Option Bool) × PublicationRun) :
    Except Thrown (Option Bool) × Option Nat × List (String × Nat) × List Nat :=
  (ended.1, ended.2.store.state.recipientSetVersion,
    (ended.2.calls.filterMap provenBy).map fun upload =>
      (upload.sessionId, upload.recipientSetVersion),
    ended.2.calls.filterMap refreshedTo)

theorem listSessions_twoSessions :
    listSessions ordinalText twoSessions.state = [endedSession, otherSession] :=
  List.mergeSort_of_pairwise (List.pairwise_pair.mpr (by decide +kernel))

set_option maxRecDepth 20000 in
theorem observed_accepted : observed (publishTwo none)
    = (.ok (some true), some 1, [("other", 1), ("session", 1)], []) := by
  unfold publishTwo publishRecipientChangeSnapshots
  rw [Effect.run_bind, Effect.run_get]
  dsimp only [Effect.next, PublicationRun.start]
  rw [listSessions_twoSessions]
  decide +kernel

set_option maxRecDepth 20000 in
theorem observed_refused : observed (publishTwo (some 1))
    = (.ok (some true), some 2, [("other", 2), ("session", 1)], [2]) := by
  unfold publishTwo publishRecipientChangeSnapshots
  rw [Effect.run_bind, Effect.run_get]
  dsimp only [Effect.next, PublicationRun.start]
  rw [listSessions_twoSessions]
  decide +kernel

theorem recipientCoverage_accepted :
    ∃ version, Covered (publishTwo none).2 (publishedIds twoSessions) version := by
  obtain ⟨hanswer, -, -, hrefreshed⟩ := by simpa [observed] using observed_accepted
  refine (recipientCoverage (changingPorts_lawful none)).recipientChange 2 ⟨"host", 1, []⟩ []
    twoSessions _ (Prod.ext hanswer rfl) ⟨?_, ?_⟩
  · intro sessionId kept hkept
    cases hkept
  · intro answered hmem
    cases hrefreshed _ hmem

/-- The recipients change between two Sessions: the first one is not published to the new ones. -/
theorem not_recipientCoverage :
    ¬ PublishedSetsCovered (changingPorts (some 1)) ordinalText (fun _ _ _ => True) := by
  intro h
  obtain ⟨hanswer, hstored, hproven, -⟩ := by simpa [observed] using observed_refused
  have hcovered : ∃ version, Covered (publishTwo (some 1)).2 (publishedIds twoSessions) version :=
    h.recipientChange 2 ⟨"host", 1, []⟩ [] twoSessions _ (Prod.ext hanswer rfl) trivial
  obtain ⟨version, hstoredAt, hcommitted⟩ := hcovered
  obtain rfl : 2 = version := Option.some.inj (hstored.symm.trans hstoredAt)
  obtain ⟨upload, hupload, hid, hversion, -⟩ := hcommitted "session"
    (.inr ⟨endedSession, by decide +kernel, rfl, rfl⟩)
  have hmem : (upload.sessionId, upload.recipientSetVersion) ∈ [("other", 2), ("session", 1)] := by
    rw [← hproven]
    refine List.mem_map.mpr ⟨upload, ?_, rfl⟩
    rcases hupload with hcall | hcall
    · exact List.mem_filterMap.mpr ⟨_, hcall, rfl⟩
    · exact List.mem_filterMap.mpr ⟨_, hcall, rfl⟩
  simp [hid, hversion] at hmem

end Ariava.Proofs.RecipientCoverage
