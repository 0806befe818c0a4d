import Ariava.Proofs.JournalReconciliation
import Ariava.Proofs.PublicationLoops

/-!
# `Ariava.Proofs.PublicationRecords`: what the publication loops leave

`Accounted` says that what was proven committed is behind the revision of its Session, and that
every inflight record is of a later revision. A step breaks this for the upload under way at most,
from its proof to its completion. With the end of the loops this gives `publicationLoops_end`.

A loop that gives up in between leaves this one record of a proven upload: it was refused because of
the recipients, and its reconciliation proved it (`not_publicationLoopsEndUnproven`).
-/

set_option autoImplicit false

namespace Ariava.Proofs.PublicationRecords

open Ariava.Lib
open Ariava.Protocol
open Ariava.StateStore
open Ariava.E2e
open Ariava.Proofs.PublicationLoops
open Ariava.Proofs.JournalReconciliation (ordinalText)
open Ariava.Proofs.UploadCompletion (endedSession)

/-! ### The records that are left -/

/-- A publication or a reconciliation proved the upload committed. -/
def Proven (run : PublicationRun) (upload : EncryptedSessionSnapshotUploadV3) : Prop :=
  .publication upload (.ok ()) ∈ run.calls ∨ .reconciliation upload (.ok true) ∈ run.calls

/-- The upload that the answer of a call proves. -/
def provenBy : RelayCall → Option EncryptedSessionSnapshotUploadV3
  | .publication upload (.ok ()) => some upload
  | .reconciliation upload (.ok true) => some upload
  | _ => none

/-- No upload of the Session that was proven has the revision or a later one. -/
def Fresh (run : PublicationRun) (sessionId : String) (revision : Nat) : Prop :=
  ∀ upload, Proven run upload → upload.sessionId = sessionId → upload.revision < revision

/-- What was proven is behind the revision of its Session and before its record. One upload may be
exempt. -/
structure Accounted (exempt : Option EncryptedSessionSnapshotUploadV3) (run : PublicationRun) :
    Prop where
  revisions : ∀ upload, Proven run upload → exempt = some upload ∨
    upload.revision ≤ readCurrentSessionRevision run.store.state upload.sessionId
  records : ∀ sessionId kept, usableUpload run.store.items sessionId = some kept →
    ∀ upload, Proven run upload → upload.sessionId = sessionId →
      exempt = some upload ∨ upload.revision < kept.revision

/-- The call is a publication. -/
def isPublication : RelayCall → Bool
  | .publication _ _ => true
  | _ => false

/-- The latest publication was the one of the upload, and it ended in a conflict about the
recipients. -/
def LastRefused (run : PublicationRun) (upload : EncryptedSessionSnapshotUploadV3) : Prop :=
  ∃ failure, failure.reason = some recipientSetChangedReason ∧
    run.calls.find? isPublication = some (.publication upload (.error failure))

/-- What a loop that gives up leaves. -/
def GivenUp (run : PublicationRun) : Prop :=
  Accounted none run ∨ ∃ upload, Accounted (some upload) run ∧ LastRefused run upload

/-- Other tasks leave the inflight records of Sessions alone, and no revision goes back. -/
structure OthersKeep {Material : Type} (ports : UploadPorts Material) : Prop where
  records : ∀ time store sessionId, usableUpload (ports.others time store).items sessionId
    = usableUpload store.items sessionId
  revisions : ∀ time store sessionId, readCurrentSessionRevision store.state sessionId
    ≤ readCurrentSessionRevision (ports.others time store).state sessionId

section
variable {Material : Type} {ports : UploadPorts Material} {text : ProtocolText}
  {s t : PublicationRun} {sessionId : String} {upload : EncryptedSessionSnapshotUploadV3}
  {exempt : Option EncryptedSessionSnapshotUploadV3}

theorem Accounted.exempting (h : Accounted none s) : Accounted (some upload) s := by
  constructor
  · exact fun other hother => .inr ((h.revisions other hother).resolve_left (nomatch ·))
  · exact fun id kept hkept other hother hid =>
      .inr ((h.records id kept hkept other hother hid).resolve_left (nomatch ·))

theorem Accounted.fresh (h : Accounted none s)
    (hkept : usableUpload s.store.items sessionId = some upload) :
    Fresh s sessionId upload.revision :=
  fun other hother hid =>
    (h.records sessionId upload hkept other hother hid).resolve_left (nomatch ·)

/-- The next revision of a Session is later than what was proven. -/
theorem Accounted.fresh_of_current (h : Accounted none s) {revision : Nat}
    (hcurrent : readCurrentSessionRevision s.store.state sessionId < revision) :
    Fresh s sessionId revision := by
  intro other hother hid
  have hbehind := (h.revisions other hother).resolve_left (nomatch ·)
  rw [hid] at hbehind
  exact Nat.lt_of_le_of_lt hbehind hcurrent

/-- A loop event leaves the store and the calls. -/
theorem Accounted.noted (h : Accounted exempt s) (loops : List LoopEvent) :
    Accounted exempt { s with loops := loops } := ⟨h.revisions, h.records⟩

/-! Calls -/

theorem Proven.of_awaited {call : RelayCall} (h : Proven (awaited ports s call) upload) :
    Proven s upload ∨ provenBy call = some upload := by
  rcases h with h | h
  · rcases List.mem_cons.mp h with rfl | hold
    · exact .inr rfl
    · exact .inl (.inl hold)
  · rcases List.mem_cons.mp h with rfl | hold
    · exact .inr rfl
    · exact .inl (.inr hold)

/-- A call proves nothing but an upload that is exempt from now on. -/
theorem Accounted.awaited (hothers : OthersKeep ports) {call : RelayCall}
    (hcall : provenBy call = none ∨ provenBy call = exempt)
    (h : Accounted none s ∨ Accounted exempt s) : Accounted exempt (awaited ports s call) := by
  have hbefore : Accounted exempt s := by
    rcases h with h | h
    · cases exempt with
      | none => exact h
      | some upload => exact h.exempting
    · exact h
  have hexempt : ∀ upload, provenBy call = some upload → exempt = some upload := by
    intro upload hnew
    rcases hcall with hnone | hcall
    · rw [hnone] at hnew
      cases hnew
    · rw [← hcall, hnew]
  constructor
  · intro upload hproven
    rcases hproven.of_awaited with hold | hnew
    · rcases hbefore.revisions upload hold with hexempt | hbehind
      · exact .inl hexempt
      · exact .inr (Nat.le_trans hbehind (hothers.revisions _ _ _))
    · exact .inl (hexempt upload hnew)
  · intro sessionId kept hkept upload hproven hid
    have hkept : usableUpload s.store.items sessionId = some kept := by
      rw [← hothers.records s.clock]
      exact hkept
    rcases hproven.of_awaited with hold | hnew
    · exact hbefore.records sessionId kept hkept upload hold hid
    · exact .inl (hexempt upload hnew)

theorem Fresh.awaited {revision : Nat} {call : RelayCall} (h : Fresh s sessionId revision)
    (hcall : provenBy call = none) : Fresh (awaited ports s call) sessionId revision := by
  intro upload hproven
  rcases hproven.of_awaited with hold | hnew
  · exact h upload hold
  · rw [hcall] at hnew
    cases hnew

theorem lastRefused_publication {failure : RelayFailure}
    (hreason : failure.reason = some recipientSetChangedReason) :
    LastRefused (awaited ports s (.publication upload (.error failure))) upload :=
  ⟨failure, hreason, rfl⟩

theorem LastRefused.awaited {call : RelayCall} (h : LastRefused s upload)
    (hcall : isPublication call = false) : LastRefused (awaited ports s call) upload := by
  obtain ⟨failure, hreason, hlast⟩ := h
  refine ⟨failure, hreason, ?_⟩
  show List.find? isPublication (call :: s.calls) = _
  rw [List.find?_cons, hcall]
  exact hlast

/-! Writes -/

theorem inStore_ok {α : Type} {p : StoreEffect α} {a : α}
    (h : (inStore p).run s = (.ok a, t)) :
    p.run s.store = (.ok a, t.store) ∧ t.calls = s.calls := by
  obtain ⟨houtcome, rfl⟩ := Prod.mk.inj h
  exact ⟨Prod.ext houtcome rfl, rfl⟩

theorem proven_congr (h : t.calls = s.calls) : Proven t upload ↔ Proven s upload := by
  unfold Proven
  rw [h]

/-- A fresh upload can be written. -/
theorem Accounted.written (h : Accounted none s) (hcalls : t.calls = s.calls)
    (hwritten : Written sessionId upload s.store t.store)
    (hfresh : Fresh s sessionId upload.revision) : Accounted none t := by
  constructor
  · intro other hproven
    rw [hwritten.state]
    exact h.revisions other ((proven_congr hcalls).mp hproven)
  · intro id kept hkept other hproven hid
    have hproven := (proven_congr hcalls).mp hproven
    rcases hwritten.records id kept hkept with ⟨rfl, rfl⟩ | hold
    · exact .inr (hfresh other hproven hid)
    · exact h.records id kept hold other hproven hid

theorem persistUpload_ok {sourceDigest : String}
    (h : (persistUpload ports sessionId upload sourceDigest).run s = (.ok (), t)) :
    Written sessionId upload s.store t.store ∧ t.calls = s.calls := by
  obtain ⟨hwrite, hcalls⟩ := inStore_ok (run_get_bind h)
  exact ⟨persistInflightSessionUpload_ok hwrite, hcalls⟩

theorem replaceUpload_ok {sourceDigest : String}
    (h : (replaceUpload ports sessionId upload sourceDigest).run s = (.ok (), t)) :
    Written sessionId upload s.store t.store ∧ t.calls = s.calls := by
  obtain ⟨hwrite, hcalls⟩ := inStore_ok (run_get_bind h)
  exact ⟨replaceInflightSessionUpload_ok hwrite, hcalls⟩

theorem writeUpload_ok {replaces : Bool} {sourceDigest : String}
    (h : (writeUpload ports replaces sessionId upload sourceDigest).run s = (.ok (), t)) :
    Written sessionId upload s.store t.store ∧ t.calls = s.calls := by
  cases replaces with
  | false => exact persistUpload_ok h
  | true => exact replaceUpload_ok h

/-- After its completion an upload is behind the revision of its Session and has no record. -/
theorem completeSession_ok (hexempt : exempt = none ∨ exempt = some upload)
    (hbound : upload.sessionId = sessionId) (haccounted : Accounted exempt s)
    (h : (completeSession sessionId upload.revision).run s = (.ok (), t)) :
    Accounted none t ∧
      readCurrentSessionRevision t.store.state sessionId = upload.revision := by
  obtain ⟨_, u, hcommit, hremove⟩ := Effect.run_bind_eq_ok.mp h
  obtain ⟨hcommit, hcalls⟩ := inStore_ok hcommit
  obtain ⟨hremove, hcalls'⟩ := inStore_ok hremove
  obtain ⟨hitems, hcurrent, hforward⟩ := commitSessionRevision_ok hcommit
  obtain ⟨hstate, hrecords⟩ := removeInflightSessionUpload_ok hremove
  have hsame : ∀ other, exempt = some other → other = upload := by
    intro other hother
    rcases hexempt with rfl | rfl
    · cases hother
    · exact (Option.some.inj hother).symm
  refine ⟨⟨fun other hproven => .inr ?_, fun id kept hkept other hproven hid => .inr ?_⟩, ?_⟩
  · have hproven := (proven_congr (hcalls'.trans hcalls)).mp hproven
    rw [hstate]
    rcases haccounted.revisions other hproven with hother | hbehind
    · rw [hsame other hother, hbound, hcurrent]
    · exact Nat.le_trans hbehind (hforward _)
  · have hproven := (proven_congr (hcalls'.trans hcalls)).mp hproven
    obtain ⟨hne, hkept⟩ := hrecords id kept hkept
    rw [hitems] at hkept
    rcases haccounted.records id kept hkept other hproven hid with hother | hbefore
    · rw [hsame other hother, hbound] at hid
      exact absurd hid.symm hne
    · exact hbefore
  · rw [hstate]
    exact hcurrent

/-- Nothing that was proven is left, but for the refused upload. -/
theorem GivenUp.left (h : GivenUp s) {kept : EncryptedSessionSnapshotUploadV3}
    (hkept : usableUpload s.store.items sessionId = some kept) (hproven : Proven s kept) :
    LastRefused s kept := by
  obtain ⟨hbound, -⟩ := usableUpload_eq_some hkept
  rcases h with h | ⟨upload, h, hrefused⟩
  · rcases h.records sessionId kept hkept kept hproven hbound with hnone | hbefore
    · cases hnone
    · omega
  · rcases h.records sessionId kept hkept kept hproven hbound with hexempt | hbefore
    · cases hexempt
      exact hrefused
    · omega

end

section
variable {failure : RelayFailure} {committed exhausted : Bool} {attempted revision : Nat}
  {version : Option Nat} {upload : EncryptedSessionSnapshotUploadV3}

theorem conflictDecision_commit
    (h : conflictDecision upload failure committed attempted version exhausted = .commit revision) :
    revision = upload.revision := (decideSessionUpload_commit h).1

/-- An upload that a conflict about something else proved is committed. -/
theorem conflictDecision_of_committed (hreason : failure.reason.isSome = true)
    (hother : failure.reason ≠ some recipientSetChangedReason) :
    conflictDecision upload failure true attempted version exhausted = .commit upload.revision := by
  obtain ⟨reason, hreason⟩ := Option.isSome_iff_exists.mp hreason
  rw [hreason] at hother
  have hne : reason ≠ recipientSetChangedReason := fun heq => hother (congrArg some heq)
  unfold conflictDecision decideSessionUpload
  simp [hreason, hne]

end

/-- What a verdict leaves of the upload under way. -/
structure Judged (run : PublicationRun) (sessionId : String)
    (upload : EncryptedSessionSnapshotUploadV3) (committed : Bool) : Prop where
  exempt : Accounted (some upload) run
  uncommitted : committed = false → Accounted none run ∧ Fresh run sessionId upload.revision

/-- What a decision needs to be carried out. -/
structure Carried (run : PublicationRun) (sessionId : String)
    (upload : EncryptedSessionSnapshotUploadV3) (decision : SessionUploadDecision) : Prop where
  exempt : Accounted (some upload) run
  commit : ∀ revision, decision = .commit revision → revision = upload.revision
  refresh : ∀ revision, decision = .refreshReencrypt revision → revision = upload.revision ∧
    Accounted none run ∧ Fresh run sessionId upload.revision
  retry : ∀ revision, decision = .retryNextRevision revision → revision = upload.revision + 1
  giveUp : (∀ revision, decision ≠ .commit revision) → GivenUp run

section
variable {Material : Type} {ports : UploadPorts Material} {text : ProtocolText}
  {s t : PublicationRun} {sessionId : String} {upload : EncryptedSessionSnapshotUploadV3}

/-- The decision after a conflict can be carried out: a proven upload is refused because of the
recipients, or it is committed. -/
theorem Judged.carried {failure : RelayFailure} {committed exhausted : Bool} {attempted : Nat}
    {version : Option Nat} (h : Judged s sessionId upload committed)
    (hreason : failure.reason.isSome = true)
    (hrefused : failure.reason = some recipientSetChangedReason → LastRefused s upload) :
    Carried s sessionId upload
      (conflictDecision upload failure committed attempted version exhausted) where
  exempt := h.exempt
  commit _ := conflictDecision_commit
  refresh revision hdecision := by
    obtain ⟨hrevision, hcommitted, -⟩ := conflictDecision_refresh hdecision
    exact ⟨hrevision, h.uncommitted hcommitted⟩
  retry revision hdecision := (conflictDecision_retry hdecision).1
  giveUp hnotCommit := by
    cases committed with
    | false => exact .inl (h.uncommitted rfl).1
    | true =>
      by_cases hchanged : failure.reason = some recipientSetChangedReason
      · exact .inr ⟨upload, h.exempt, hrefused hchanged⟩
      · exact absurd (conflictDecision_of_committed hreason hchanged) (hnotCommit _)

/-- A verdict, and then a refresh. -/
theorem Judged.awaited {committed : Bool} {call : RelayCall} (hothers : OthersKeep ports)
    (h : Judged s sessionId upload committed) (hcall : provenBy call = none) :
    Judged (awaited ports s call) sessionId upload committed where
  exempt := Accounted.awaited hothers (.inl hcall) (.inr h.exempt)
  uncommitted hcommitted := by
    obtain ⟨haccounted, hfresh⟩ := h.uncommitted hcommitted
    exact ⟨Accounted.awaited hothers (.inl hcall) (.inr haccounted), hfresh.awaited hcall⟩

end

/-! ### The loop over the authoritative set -/

/-- An upload that a loop can publish. -/
structure Ready (run : PublicationRun) (sessionId : String)
    (upload : EncryptedSessionSnapshotUploadV3) : Prop where
  accounted : Accounted none run
  bound : upload.sessionId = sessionId
  fresh : Fresh run sessionId upload.revision

section
variable {Material : Type} {ports : UploadPorts Material} {text : ProtocolText}
  {s t : PublicationRun} {sessionId : String} {upload : EncryptedSessionSnapshotUploadV3}

/-- A fresh upload that was written can be published. -/
theorem Accounted.ready (h : Accounted none s) (hcalls : t.calls = s.calls)
    (hwritten : Written sessionId upload s.store t.store)
    (hfresh : Fresh s sessionId upload.revision) : Ready t sessionId upload where
  accounted := h.written hcalls hwritten hfresh
  bound := hwritten.bound
  fresh other hproven := hfresh other ((proven_congr hcalls).mp hproven)

/-- The upload of a record can be published. -/
theorem Accounted.ready_of_usable (h : Accounted none s)
    (hkept : usableUpload s.store.items sessionId = some upload) : Ready s sessionId upload where
  accounted := h
  bound := (usableUpload_eq_some hkept).1
  fresh := h.fresh hkept

theorem Ready.noted (h : Ready s sessionId upload) (loops : List LoopEvent) :
    Ready { s with loops := loops } sessionId upload := ⟨h.accounted.noted loops, h.bound, h.fresh⟩

/-- A call that proves nothing. -/
theorem Ready.awaited {call : RelayCall} (hothers : OthersKeep ports)
    (h : Ready s sessionId upload) (hcall : provenBy call = none) :
    Ready (awaited ports s call) sessionId upload where
  accounted := Accounted.awaited hothers (.inl hcall) (.inr h.accounted)
  bound := h.bound
  fresh := h.fresh.awaited hcall

/-- An answer that proves the upload. -/
theorem Ready.exempt_awaited {call : RelayCall} (hothers : OthersKeep ports)
    (h : Ready s sessionId upload) (hcall : provenBy call = some upload) :
    Accounted (some upload) (PublicationLoops.awaited ports s call) :=
  Accounted.awaited hothers (.inr hcall) (.inl h.accounted)

/-- The verdict of a reconciliation. -/
theorem Ready.judged (hothers : OthersKeep ports) (h : Ready s sessionId upload)
    (committed : Bool) :
    Judged (PublicationLoops.awaited ports s (.reconciliation upload (.ok committed)))
      sessionId upload committed where
  exempt := by
    cases committed with
    | true => exact h.exempt_awaited hothers rfl
    | false => exact (h.awaited hothers rfl).accounted.exempting
  uncommitted hcommitted := by
    subst hcommitted
    have hready : Ready (PublicationLoops.awaited ports s (.reconciliation upload (.ok false)))
        sessionId upload := h.awaited hothers rfl
    exact ⟨hready.accounted, hready.fresh⟩

end

/-- What the records rely on. The error of the Relay client always has a reason. -/
structure Lawful {Material : Type} (ports : UploadPorts Material) : Prop where
  carries : CarriesInput ports
  others : OthersKeep ports
  reasoned : ∀ time failure, ports.publishEncryptedSession time = .error failure →
    failure.isClientError = true → failure.reason.isSome = true

/-- What the end of a Session leaves. -/
def EndsWell {Material : Type} : SessionEnd Material → PublicationRun → Prop
  | .committed _, run => Accounted none run
  | .restart _, run => Accounted none run
  | .stop _, run => GivenUp run

section
variable {Material : Type} {ports : UploadPorts Material} {text : ProtocolText}
  {s t : PublicationRun} {state : PassState Material} {session : CanonicalSessionState}
  {upload : EncryptedSessionSnapshotUploadV3} {ended : SessionEnd Material}

theorem publishEncryptedSession_answer {answer : Except RelayFailure Unit}
    (h : (publishEncryptedSession ports upload).run s = (.ok answer, t)) :
    ports.publishEncryptedSession s.clock = answer := Except.ok.inj (Prod.mk.inj h).1

/-- A conflict has a reason. -/
theorem Lawful.reason (hlawful : Lawful ports) {time : Nat} {failure : RelayFailure}
    (hanswer : ports.publishEncryptedSession time = .error failure)
    (hconflict : isRelayConflict failure = true) : failure.reason.isSome = true := by
  rw [isRelayConflict, Bool.and_eq_true, Bool.or_eq_true] at hconflict
  rcases hconflict.2 with hclient | hreason
  · exact hlawful.reasoned time failure hanswer hclient
  · exact hreason

/-- An encryption is as fresh as the revision that it was asked for. -/
theorem Fresh.encrypted (hcarries : CarriesInput ports) {input : SessionEncryption Material}
    {sessionId : String} (hencrypt : (encryptSession ports input).run s = (.ok upload, t))
    (h : Fresh s sessionId input.revision) : Fresh s sessionId upload.revision ∧ t = s := by
  obtain ⟨hencrypted, rfl⟩ := encryptSession_ok hencrypt
  obtain ⟨-, hrevision, -⟩ := hcarries _ _ _ hencrypted
  rw [hrevision]
  exact ⟨h, rfl⟩

theorem carryOut_ends (hcarries : CarriesInput ports)
    {current : E2ERecipientSnapshotV1 × List Material} {decision : SessionUploadDecision}
    (hbound : upload.sessionId = session.sessionId)
    (hcarried : Carried s session.sessionId upload decision)
    (h : (carryOut ports text state session upload current decision).run s = (.ok ended, t)) :
    EndsWell ended t := by
  cases decision with
  | commit revision =>
    obtain rfl := hcarried.commit revision rfl
    obtain ⟨_, u, hcomplete, hrest⟩ := Effect.run_bind_eq_ok.mp h
    cases hrest
    exact (completeSession_ok (.inr rfl) hbound hcarried.exempt hcomplete).1
  | reconcile =>
    cases h
    exact hcarried.giveUp (fun _ hcommit => nomatch hcommit)
  | refreshReencrypt revision =>
    obtain ⟨rfl, haccounted, hfresh⟩ := hcarried.refresh revision rfl
    obtain ⟨blocked, u, hblock, hrest⟩ := Effect.run_bind_eq_ok.mp h
    obtain rfl := blockReason_ok hblock
    cases blocked with
    | some reason =>
      cases hrest
      exact .inl haccounted
    | none =>
      obtain ⟨replacement, v, hencrypt, hdigest⟩ := Effect.run_bind_eq_ok.mp hrest
      obtain ⟨sourceDigest, w, hdigest, hwrite⟩ := Effect.run_bind_eq_ok.mp hdigest
      obtain ⟨_, x, hreplace, hreturn⟩ := Effect.run_bind_eq_ok.mp hwrite
      obtain ⟨hfresh, rfl⟩ := Fresh.encrypted hcarries hencrypt hfresh
      obtain ⟨-, rfl⟩ := run_ofExcept_eq_ok hdigest
      obtain ⟨hwritten, hcalls⟩ := replaceUpload_ok hreplace
      cases hreturn
      exact haccounted.written hcalls hwritten hfresh
  | retryNextRevision revision =>
    obtain ⟨_, u, hcomplete, hrest⟩ := Effect.run_bind_eq_ok.mp h
    cases hrest
    exact (completeSession_ok (.inr rfl) hbound hcarried.exempt hcomplete).1
  | defer reason =>
    cases h
    exact hcarried.giveUp (fun _ hcommit => nomatch hcommit)
  | failClosed =>
    cases h
    exact hcarried.giveUp (fun _ hcommit => nomatch hcommit)

/-- The publication of an upload that can be published. -/
theorem attemptUpload_ends (hlawful : Lawful ports) (hready : Ready s session.sessionId upload)
    (h : (attemptUpload ports text state session upload).run s = (.ok ended, t)) :
    EndsWell ended t := by
  obtain ⟨answer, u, hpublish, hrest⟩ := Effect.run_bind_eq_ok.mp h
  have hanswer := publishEncryptedSession_answer hpublish
  obtain rfl := publishEncryptedSession_ok hpublish
  cases answer with
  | ok _ =>
    have hexempt := hready.exempt_awaited hlawful.others
      (show provenBy (.publication upload (.ok ())) = some upload from rfl)
    obtain ⟨_, v, hcomplete, hrest⟩ := Effect.run_bind_eq_ok.mp hrest
    cases hrest
    exact (completeSession_ok (.inr rfl) hready.bound hexempt hcomplete).1
  | error failure =>
    have hrefused : Ready (awaited ports s (.publication upload (.error failure)))
      session.sessionId upload := hready.awaited hlawful.others rfl
    dsimp only at hrest
    split at hrest
    · next hconflict =>
      have hreason := hlawful.reason hanswer hconflict
      obtain ⟨verdict, v, hreconcile, hrest⟩ := Effect.run_bind_eq_ok.mp hrest
      obtain rfl := reconcileEncryptedSession_ok hreconcile
      cases verdict with
      | error _ =>
        cases hrest
        exact .inl (hrefused.awaited hlawful.others rfl).accounted
      | ok committed =>
        have hjudged := hrefused.judged hlawful.others committed
        dsimp only at hrest
        split at hrest
        · next hchanged =>
          -- the conflict is about the recipients: nothing is published between it and its end
          have hlast : LastRefused (awaited ports
              (awaited ports s (.publication upload (.error failure)))
              (.reconciliation upload (.ok committed))) upload :=
            (lastRefused_publication hchanged).awaited rfl
          obtain ⟨current, w, hrefresh, hrest⟩ := Effect.run_bind_eq_ok.mp hrest
          obtain ⟨-, rfl⟩ := refreshRecipients_ok hrefresh
          have hjudged := hjudged.awaited hlawful.others
            (show provenBy (.refresh (current.map fun current => current.1.recipientSetVersion))
              = none from rfl)
          cases current with
          | none =>
            cases hrest
            exact .inr ⟨upload, hjudged.exempt, hlast.awaited rfl⟩
          | some current =>
            exact carryOut_ends hlawful.carries hready.bound
              (hjudged.carried hreason fun _ => hlast.awaited rfl) hrest
        · next hother =>
          exact carryOut_ends hlawful.carries hready.bound
            (hjudged.carried hreason fun hchanged => absurd hchanged hother) hrest
    · cases hrest
      exact .inl hrefused.accounted

end

/-- What the preparation of an upload leaves. -/
def Prepared (sessionId : String) :
    Except AuthoritativeSnapshotOutcome (Option EncryptedSessionSnapshotUploadV3) →
    PublicationRun → Prop
  | .ok (some upload), run => Ready run sessionId upload
  | .ok none, run => Accounted none run
  | .error _, run => Accounted none run

section
variable {Material : Type} {ports : UploadPorts Material} {text : ProtocolText}
  {s t : PublicationRun} {state : PassState Material} {session : CanonicalSessionState}
  {upload : EncryptedSessionSnapshotUploadV3}

theorem rebuildInflight_ends (hcarries : CarriesInput ports) {sourceDigest : String}
    {prepared : Except AuthoritativeSnapshotOutcome (Option EncryptedSessionSnapshotUploadV3)}
    (hready : Ready s session.sessionId upload)
    (h : (rebuildInflight ports text state session upload sourceDigest).run s
      = (.ok prepared, t)) : Prepared session.sessionId prepared t := by
  obtain ⟨blocked, u, hblock, hrest⟩ := Effect.run_bind_eq_ok.mp h
  obtain rfl := blockReason_ok hblock
  cases blocked with
  | some reason =>
    cases hrest
    exact hready.accounted
  | none =>
    obtain ⟨replacement, v, hencrypt, hwrite⟩ := Effect.run_bind_eq_ok.mp hrest
    obtain ⟨_, w, hreplace, hreturn⟩ := Effect.run_bind_eq_ok.mp hwrite
    obtain ⟨hfresh, rfl⟩ := Fresh.encrypted hcarries hencrypt hready.fresh
    obtain ⟨hwritten, hcalls⟩ := replaceUpload_ok hreplace
    cases hreturn
    exact hready.accounted.ready hcalls hwritten hfresh

/-- An inflight that was committed is completed, and one that was not is kept or encrypted anew. -/
theorem reconcileInflight_ends (hlawful : Lawful ports)
    {prepared : Except AuthoritativeSnapshotOutcome (Option EncryptedSessionSnapshotUploadV3)}
    (hready : Ready s session.sessionId upload)
    (h : (reconcileInflight ports text state session upload).run s = (.ok prepared, t)) :
    Prepared session.sessionId prepared t := by
  obtain ⟨verdict, u, hreconcile, hrest⟩ := Effect.run_bind_eq_ok.mp h
  obtain rfl := reconcileEncryptedSession_ok hreconcile
  cases verdict with
  | error _ =>
    cases hrest
    exact (hready.awaited hlawful.others rfl).accounted
  | ok committed =>
    cases committed with
    | true =>
      have hexempt := (hready.judged hlawful.others true).exempt
      obtain ⟨_, v, hcomplete, hreturn⟩ := Effect.run_bind_eq_ok.mp hrest
      cases hreturn
      exact (completeSession_ok (.inr rfl) hready.bound hexempt hcomplete).1
    | false =>
      have hkept : Ready (awaited ports s (.reconciliation upload (.ok false)))
        session.sessionId upload := hready.awaited hlawful.others rfl
      have hrest := run_get_bind hrest
      split at hrest
      · cases hrest
        exact hkept
      · exact rebuildInflight_ends hlawful.carries hkept hrest

theorem encryptForPass_ends (hcarries : CarriesInput ports)
    {found : Option EncryptedSessionSnapshotUploadV3}
    {prepared : Except AuthoritativeSnapshotOutcome EncryptedSessionSnapshotUploadV3}
    (hfound : Prepared session.sessionId (.ok found) s)
    (h : (encryptForPass ports text state session found).run s = (.ok prepared, t)) :
    Prepared session.sessionId (prepared.map some) t := by
  have haccounted : Accounted none s := by
    cases found with
    | none => exact hfound
    | some upload => exact hfound.accounted
  unfold encryptForPass at h
  split at h
  · next upload hkept =>
    obtain ⟨rfl, -⟩ := Option.filter_eq_some_iff.mp hkept
    cases h
    exact hfound
  · obtain ⟨blocked, u, hblock, hrest⟩ := Effect.run_bind_eq_ok.mp h
    obtain rfl := blockReason_ok hblock
    cases blocked with
    | some reason =>
      cases hrest
      exact haccounted
    | none =>
      have hrun := run_get_bind hrest
      obtain ⟨next, v, hencrypt, hdigest⟩ := Effect.run_bind_eq_ok.mp hrun
      obtain ⟨sourceDigest, w, hdigest, hwrite⟩ := Effect.run_bind_eq_ok.mp hdigest
      obtain ⟨_, x, hwrite, hreturn⟩ := Effect.run_bind_eq_ok.mp hwrite
      -- the revision of an inflight is kept, and a first upload has the next one
      have hfresh : Fresh u session.sessionId
          ((found.map EncryptedSessionSnapshotUploadV3.revision).getD
            (readNextSessionRevision u.store.state session.sessionId)) := by
        cases found with
        | none => exact haccounted.fresh_of_current (Nat.lt_succ_self _)
        | some upload => exact hfound.fresh
      obtain ⟨hfresh, rfl⟩ := Fresh.encrypted hcarries hencrypt hfresh
      obtain ⟨-, rfl⟩ := run_ofExcept_eq_ok hdigest
      obtain ⟨hwritten, hcalls⟩ := writeUpload_ok hwrite
      cases hreturn
      exact haccounted.ready hcalls hwritten hfresh

theorem prepareUpload_ends (hlawful : Lawful ports)
    {prepared : Except AuthoritativeSnapshotOutcome EncryptedSessionSnapshotUploadV3}
    (haccounted : Accounted none s)
    (h : (prepareUpload ports text state session).run s = (.ok prepared, t)) :
    Prepared session.sessionId (prepared.map some) t := by
  obtain ⟨found, u, hread, hrest⟩ := Effect.run_bind_eq_ok.mp h
  obtain ⟨hfound, rfl⟩ := readInflight_ok hread
  cases found with
  | none =>
    have hnone : Prepared session.sessionId (.ok none) u := haccounted
    exact encryptForPass_ends hlawful.carries hnone hrest
  | some upload =>
    obtain ⟨kept, v, hreconcile, hrest⟩ := Effect.run_bind_eq_ok.mp hrest
    have hkept := reconcileInflight_ends hlawful (haccounted.ready_of_usable hfound) hreconcile
    cases kept with
    | error outcome =>
      cases hrest
      exact hkept
    | ok kept => exact encryptForPass_ends hlawful.carries hkept hrest

theorem publishSession_ends (hlawful : Lawful ports) {ended : SessionEnd Material}
    (haccounted : Accounted none s)
    (h : (publishSession ports text state session).run s = (.ok ended, t)) : EndsWell ended t := by
  obtain ⟨prepared, u, hprepare, hrest⟩ := Effect.run_bind_eq_ok.mp h
  have hprepared := prepareUpload_ends hlawful haccounted hprepare
  cases prepared with
  | error outcome =>
    cases hrest
    exact .inl hprepared
  | ok upload => exact attemptUpload_ends hlawful hprepared hrest

/-- What the end of a pass leaves. -/
def PassLeaves : PassEnd Material → PublicationRun → Prop
  | .published _, run => Accounted none run
  | .restart _, run => Accounted none run
  | .stop _, run => GivenUp run

theorem publishSessions_ends (hlawful : Lawful ports) {sessions : List CanonicalSessionState}
    {revisions : Dict String Nat} {ended : PassEnd Material} (haccounted : Accounted none s)
    (h : (publishSessions ports text state revisions sessions).run s = (.ok ended, t)) :
    PassLeaves ended t := by
  induction sessions generalizing revisions s with
  | nil =>
    cases h
    exact haccounted
  | cons session rest ih =>
    obtain ⟨sessionEnd, u, hsession, hrest⟩ := Effect.run_bind_eq_ok.mp h
    have hends := publishSession_ends hlawful haccounted hsession
    cases sessionEnd with
    | committed revision => exact ih hends hrest
    | restart next =>
      cases hrest
      exact hends
    | stop outcome =>
      cases hrest
      exact hends

/-- The version of the recipients has no part in the records. -/
theorem setRecipientSetVersion_accounted {version : Nat} (haccounted : Accounted none s)
    (h : (inStore (setRecipientSetVersion version)).run s = (.ok (), t)) : Accounted none t := by
  obtain ⟨hset, hcalls⟩ := inStore_ok h
  obtain ⟨result, htransition, hitems, hstate⟩ := applyTransition_ok hset
  obtain ⟨_, -, hreturn⟩ := bind_eq_ok_iff.mp htransition
  cases hreturn
  have hrevisions : ∀ sessionId, readCurrentSessionRevision t.store.state sessionId
      = readCurrentSessionRevision s.store.state sessionId := by
    intro sessionId
    rw [hstate]
    rfl
  constructor
  · intro upload hproven
    rw [hrevisions]
    exact haccounted.revisions upload ((proven_congr hcalls).mp hproven)
  · intro sessionId kept hkept upload hproven
    rw [hitems] at hkept
    exact haccounted.records sessionId kept hkept upload ((proven_congr hcalls).mp hproven)

theorem publishPass_ends (hlawful : Lawful ports) {sessions : List CanonicalSessionState}
    {passEnd : AuthoritativeSnapshotOutcome ⊕ PassState Material} (haccounted : Accounted none s)
    (h : (publishPass ports text sessions state).run s = (.ok passEnd, t)) :
    match passEnd with
      | .inl _ => GivenUp t
      | .inr _ => Accounted none t := by
  obtain ⟨ended, u, hsessions, hrest⟩ := Effect.run_bind_eq_ok.mp h
  have hends := publishSessions_ends hlawful haccounted hsessions
  cases ended with
  | published revisions =>
    obtain ⟨_, v, hset, hreturn⟩ := Effect.run_bind_eq_ok.mp hrest
    cases hreturn
    exact .inl (setRecipientSetVersion_accounted hends hset)
  | restart next =>
    obtain ⟨_, v, hnote, hreturn⟩ := Effect.run_bind_eq_ok.mp hrest
    cases hnote
    cases hreturn
    exact hends.noted _
  | stop outcome =>
    cases hrest
    exact hends

/-- What `publishAuthoritativeSnapshots` leaves when it returns. -/
theorem publishAuthoritativeSnapshots_leaves (hlawful : Lawful ports) {fuel : Nat}
    {snapshot : E2ERecipientSnapshotV1} {recipients : List Material}
    {sessions : List CanonicalSessionState} {outcome : AuthoritativeSnapshotOutcome}
    (haccounted : Accounted none s)
    (h : (publishAuthoritativeSnapshots ports text fuel snapshot recipients sessions).run s
      = (.ok (some outcome), t)) : GivenUp t := by
  obtain ⟨blocked, u, hpreflight, hrest⟩ := Effect.run_bind_eq_ok.mp h
  obtain ⟨-, rfl⟩ := run_ofExcept_eq_ok hpreflight
  split at hrest
  · cases hrest
    exact .inl haccounted
  · obtain ⟨_, v, hnote, hloop⟩ := Effect.run_bind_eq_ok.mp hrest
    cases hnote
    exact Effect.restarting_ok (I := fun _ run => Accounted none run) (Q := fun _ run => GivenUp run)
      (fun _ _ _ _ hrun hpass => publishPass_ends hlawful hrun hpass)
      (fun _ _ _ _ hrun hpass => publishPass_ends hlawful hrun hpass) (haccounted.noted _) hloop

end

/-! ### The loop for a recipient change -/

section
variable {Material : Type} {ports : UploadPorts Material} {text : ProtocolText}
  {s t : PublicationRun} {sessionId : String}

/-- What a pass of the inner loop leaves. -/
def PendingLeaves (sessionId : String) :
    PendingEnd Material ⊕ PendingState Material → PublicationRun → Prop
  | .inl (.committed _ _), run => Accounted none run
  | .inl .gaveUp, run => GivenUp run
  | .inr next, run => Ready run sessionId next.upload

/-- The Sessions without an inflight get a fresh one. -/
theorem encryptMissing_accounted (hlawful : Lawful ports) {snapshot : E2ERecipientSnapshotV1}
    {recipients : List Material} {pendingIds : List String}
    {sessions : List CanonicalSessionState} {missing : Option (List String)}
    (haccounted : Accounted none s)
    (h : (encryptMissing ports text snapshot recipients pendingIds sessions).run s
      = (.ok missing, t)) : Accounted none t := by
  induction sessions generalizing pendingIds s with
  | nil =>
    cases h
    exact haccounted
  | cons session rest ih =>
    obtain ⟨found, u, hread, hrest⟩ := Effect.run_bind_eq_ok.mp h
    obtain ⟨-, rfl⟩ := readInflight_ok hread
    cases found with
    | some upload => exact ih haccounted hrest
    | none =>
      obtain ⟨blocked, v, hblock, hrest⟩ := Effect.run_bind_eq_ok.mp hrest
      obtain rfl := blockReason_ok hblock
      cases blocked with
      | some reason =>
        cases hrest
        exact haccounted
      | none =>
        have hrun := run_get_bind hrest
        obtain ⟨upload, w, hencrypt, hdigest⟩ := Effect.run_bind_eq_ok.mp hrun
        obtain ⟨sourceDigest, x, hdigest, hwrite⟩ := Effect.run_bind_eq_ok.mp hdigest
        obtain ⟨_, y, hpersist, hloop⟩ := Effect.run_bind_eq_ok.mp hwrite
        have hfresh : Fresh v session.sessionId
            (readNextSessionRevision v.store.state session.sessionId) :=
          haccounted.fresh_of_current (Nat.lt_succ_self _)
        obtain ⟨hfresh, rfl⟩ := Fresh.encrypted hlawful.carries hencrypt hfresh
        obtain ⟨-, rfl⟩ := run_ofExcept_eq_ok hdigest
        obtain ⟨hwritten, hcalls⟩ := persistUpload_ok hpersist
        exact ih (haccounted.written hcalls hwritten hfresh) hloop

variable {state : PendingState Material}
  {ended : PendingEnd Material ⊕ PendingState Material}

theorem reencryptPending_ends (hcarries : CarriesInput ports) {refresh : Option (Refresh Material)}
    (hready : Ready s sessionId state.upload)
    (h : (reencryptPending ports text sessionId state state.upload.revision refresh).run s
      = (.ok ended, t)) : PendingLeaves sessionId ended t := by
  cases refresh with
  | none =>
    cases h
    exact .inl hready.accounted
  | some refresh =>
    obtain ⟨blocked, u, hblock, hrest⟩ := Effect.run_bind_eq_ok.mp h
    obtain rfl := blockReason_ok hblock
    cases blocked with
    | some reason =>
      cases hrest
      exact .inl hready.accounted
    | none =>
      obtain ⟨replacement, v, hencrypt, hdigest⟩ := Effect.run_bind_eq_ok.mp hrest
      obtain ⟨sourceDigest, w, hdigest, hwrite⟩ := Effect.run_bind_eq_ok.mp hdigest
      obtain ⟨_, x, hreplace, hreturn⟩ := Effect.run_bind_eq_ok.mp hwrite
      obtain ⟨hfresh, rfl⟩ := Fresh.encrypted hcarries hencrypt hready.fresh
      obtain ⟨-, rfl⟩ := run_ofExcept_eq_ok hdigest
      obtain ⟨hwritten, hcalls⟩ := replaceUpload_ok hreplace
      cases hreturn
      exact hready.accounted.ready hcalls hwritten hfresh

/-- The next revision after a completion is fresh. -/
theorem retryPending_ends (hcarries : CarriesInput ports) {refresh : Option (Refresh Material)}
    (hbound : state.upload.sessionId = sessionId) (hexempt : Accounted (some state.upload) s)
    (hgivenUp : GivenUp s)
    (h : (retryPending ports text sessionId state (state.upload.revision + 1) refresh).run s
      = (.ok ended, t)) : PendingLeaves sessionId ended t := by
  cases refresh with
  | none =>
    cases h
    exact hgivenUp
  | some refresh =>
    obtain ⟨blocked, u, hblock, hrest⟩ := Effect.run_bind_eq_ok.mp h
    obtain rfl := blockReason_ok hblock
    cases blocked with
    | some reason =>
      cases hrest
      exact hgivenUp
    | none =>
      obtain ⟨_, v, hcomplete, hencrypt⟩ := Effect.run_bind_eq_ok.mp hrest
      obtain ⟨next, w, hencrypt, hdigest⟩ := Effect.run_bind_eq_ok.mp hencrypt
      obtain ⟨sourceDigest, x, hdigest, hwrite⟩ := Effect.run_bind_eq_ok.mp hdigest
      obtain ⟨_, y, hpersist, hreturn⟩ := Effect.run_bind_eq_ok.mp hwrite
      obtain ⟨haccounted, hcurrent⟩ := completeSession_ok (.inr rfl) hbound hexempt hcomplete
      have hfresh : Fresh v sessionId (state.upload.revision + 1) :=
        haccounted.fresh_of_current (by omega)
      obtain ⟨hfresh, rfl⟩ := Fresh.encrypted hcarries hencrypt hfresh
      obtain ⟨-, rfl⟩ := run_ofExcept_eq_ok hdigest
      obtain ⟨hwritten, hcalls⟩ := persistUpload_ok hpersist
      cases hreturn
      exact haccounted.ready hcalls hwritten hfresh

theorem carryOutPending_ends (hcarries : CarriesInput ports)
    {refresh : Option (Refresh Material)} {decision : SessionUploadDecision}
    (hbound : state.upload.sessionId = sessionId)
    (hcarried : Carried s sessionId state.upload decision)
    (h : (carryOutPending ports text sessionId state refresh decision).run s = (.ok ended, t)) :
    PendingLeaves sessionId ended t := by
  cases decision with
  | commit revision =>
    obtain rfl := hcarried.commit revision rfl
    obtain ⟨_, u, hcomplete, hrest⟩ := Effect.run_bind_eq_ok.mp h
    cases hrest
    exact (completeSession_ok (.inr rfl) hbound hcarried.exempt hcomplete).1
  | reconcile =>
    cases h
    exact hcarried.giveUp (fun _ hcommit => nomatch hcommit)
  | refreshReencrypt revision =>
    obtain ⟨rfl, haccounted, hfresh⟩ := hcarried.refresh revision rfl
    exact reencryptPending_ends hcarries ⟨haccounted, hbound, hfresh⟩ h
  | retryNextRevision revision =>
    obtain rfl := hcarried.retry revision rfl
    have hgivenUp := hcarried.giveUp (fun _ hcommit => nomatch hcommit)
    exact retryPending_ends hcarries hbound hcarried.exempt hgivenUp h
  | defer reason =>
    cases h
    exact hcarried.giveUp (fun _ hcommit => nomatch hcommit)
  | failClosed =>
    cases h
    exact hcarried.giveUp (fun _ hcommit => nomatch hcommit)

/-- A publication that succeeded. -/
theorem Carried.of_published {upload : EncryptedSessionSnapshotUploadV3}
    (h : Accounted (some upload) s) : Carried s sessionId upload (.commit upload.revision) where
  exempt := h
  commit _ hcommit := (SessionUploadDecision.commit.inj hcommit).symm
  refresh _ hrefresh := nomatch hrefresh
  retry _ hretry := nomatch hretry
  giveUp hnotCommit := absurd rfl (hnotCommit _)

/-- A publication that failed without a conflict. -/
theorem Carried.of_failed {upload : EncryptedSessionSnapshotUploadV3}
    {category : UploadFailureCategory} (h : Accounted none s) :
    Carried s sessionId upload (.defer category) where
  exempt := h.exempting
  commit _ hcommit := nomatch hcommit
  refresh _ hrefresh := nomatch hrefresh
  retry _ hretry := nomatch hretry
  giveUp _ := .inl h

/-- One pass of the inner loop. -/
theorem attemptPending_ends (hlawful : Lawful ports) (hready : Ready s sessionId state.upload)
    (h : (attemptPending ports text sessionId state).run s = (.ok ended, t)) :
    PendingLeaves sessionId ended t := by
  obtain ⟨answer, u, hpublish, hrest⟩ := Effect.run_bind_eq_ok.mp h
  have hanswer := publishEncryptedSession_answer hpublish
  obtain rfl := publishEncryptedSession_ok hpublish
  cases answer with
  | ok _ =>
    have hexempt := hready.exempt_awaited hlawful.others
      (show provenBy (.publication state.upload (.ok ())) = some state.upload from rfl)
    exact carryOutPending_ends hlawful.carries hready.bound (.of_published hexempt) hrest
  | error failure =>
    have hrefused : Ready (awaited ports s (.publication state.upload (.error failure)))
      sessionId state.upload := hready.awaited hlawful.others rfl
    dsimp only at hrest
    split at hrest
    · next hconflict =>
      have hreason := hlawful.reason hanswer hconflict
      obtain ⟨verdict, v, hreconcile, hrest⟩ := Effect.run_bind_eq_ok.mp hrest
      obtain rfl := reconcileEncryptedSession_ok hreconcile
      cases verdict with
      | error _ =>
        cases hrest
        exact .inl (hrefused.awaited hlawful.others rfl).accounted
      | ok committed =>
        have hjudged := hrefused.judged hlawful.others committed
        dsimp only at hrest
        split at hrest
        · next hchanged =>
          have hlast : LastRefused (awaited ports
              (awaited ports s (.publication state.upload (.error failure)))
              (.reconciliation state.upload (.ok committed))) state.upload :=
            (lastRefused_publication hchanged).awaited rfl
          have hrest := run_get_bind hrest
          split at hrest
          · cases hrest
            exact .inr ⟨state.upload, hjudged.exempt, hlast⟩
          · obtain ⟨current, w, hrefresh, hrest⟩ := Effect.run_bind_eq_ok.mp hrest
            obtain ⟨-, rfl⟩ := refreshRecipients_ok hrefresh
            have hjudged := hjudged.awaited hlawful.others
              (show provenBy (.refresh (current.map fun current => current.1.recipientSetVersion))
                = none from rfl)
            cases current with
            | none =>
              cases hrest
              exact .inr ⟨state.upload, hjudged.exempt, hlast.awaited rfl⟩
            | some current =>
              have hbound : (PendingState.upload { state with
                snapshot := current.1, recipients := current.2 }).sessionId = sessionId :=
                hready.bound
              exact carryOutPending_ends hlawful.carries hbound
                (hjudged.carried hreason fun _ => hlast.awaited rfl) hrest
        · next hother =>
          exact carryOutPending_ends hlawful.carries hready.bound
            (hjudged.carried hreason fun hchanged => absurd hchanged hother) hrest
    · exact carryOutPending_ends hlawful.carries hready.bound (.of_failed hrefused.accounted) hrest

theorem pendingPass_ends (hlawful : Lawful ports) (hready : Ready s sessionId state.upload)
    (h : (pendingPass ports text sessionId state).run s = (.ok ended, t)) :
    PendingLeaves sessionId ended t := by
  obtain ⟨attempted, u, hattempt, hrest⟩ := Effect.run_bind_eq_ok.mp h
  have hends := attemptPending_ends hlawful hready hattempt
  cases attempted with
  | inl pendingEnd =>
    cases hrest
    exact hends
  | inr next =>
    obtain ⟨_, v, hnote, hreturn⟩ := Effect.run_bind_eq_ok.mp hrest
    cases hnote
    cases hreturn
    exact hends.noted _

/-- The loop over the pending Sessions. -/
theorem publishPending_leaves (hlawful : Lawful ports) {fuel : Nat}
    {snapshot : E2ERecipientSnapshotV1} {recipients : List Material} {pendingIds : List String}
    {version : Option Nat} (haccounted : Accounted none s)
    (h : (publishPending ports text fuel snapshot recipients pendingIds).run s
      = (.ok (some version), t)) :
    GivenUp t ∧ (version.isSome = true → Accounted none t) := by
  induction pendingIds generalizing snapshot recipients s with
  | nil =>
    cases h
    exact ⟨.inl haccounted, fun _ => haccounted⟩
  | cons sessionId rest ih =>
    obtain ⟨found, u, hread, hrest⟩ := Effect.run_bind_eq_ok.mp h
    obtain ⟨hfound, rfl⟩ := readInflight_ok hread
    cases found with
    | none =>
      cases hrest
      exact ⟨.inl haccounted, fun hnone => nomatch hnone⟩
    | some upload =>
      obtain ⟨_, v, hnote, hrest⟩ := Effect.run_bind_eq_ok.mp hrest
      cases hnote
      obtain ⟨ended, w, hloop, hrest⟩ := Effect.run_bind_eq_ok.mp hrest
      cases ended with
      | none => cases hrest
      | some pendingEnd =>
        have hleaves : PendingLeaves sessionId (.inl pendingEnd) w := Effect.restarting_ok
          (I := fun (state : PendingState Material) run => Ready run sessionId state.upload)
          (Q := fun pendingEnd run => PendingLeaves sessionId (.inl pendingEnd) run)
          (fun _ _ _ _ hready hpass => pendingPass_ends hlawful hready hpass)
          (fun _ _ _ _ hready hpass => pendingPass_ends hlawful hready hpass)
          ((haccounted.ready_of_usable hfound).noted _) hloop
        cases pendingEnd with
        | gaveUp =>
          cases hrest
          exact ⟨hleaves, fun hnone => nomatch hnone⟩
        | committed snapshot recipients => exact ih hleaves hrest

/-- What `publishRecipientChangeSnapshots` leaves when it returns. -/
theorem publishRecipientChangeSnapshots_leaves (hlawful : Lawful ports) {fuel : Nat}
    {snapshot : E2ERecipientSnapshotV1} {recipients : List Material} {published : Bool}
    (haccounted : Accounted none s)
    (h : (publishRecipientChangeSnapshots ports text fuel snapshot recipients).run s
      = (.ok (some published), t)) : GivenUp t := by
  have hrun := run_get_bind h
  obtain ⟨missing, u, hmissing, hrest⟩ := Effect.run_bind_eq_ok.mp hrun
  have haccounted := encryptMissing_accounted hlawful haccounted hmissing
  cases missing with
  | none =>
    cases hrest
    exact .inl haccounted
  | some pendingIds =>
    obtain ⟨answer, v, hpending, hrest⟩ := Effect.run_bind_eq_ok.mp hrest
    cases answer with
    | none => cases hrest
    | some version =>
      obtain ⟨hgivenUp, hpublished⟩ := publishPending_leaves hlawful haccounted hpending
      cases version with
      | none =>
        cases hrest
        exact hgivenUp
      | some version =>
        obtain ⟨_, w, hset, hreturn⟩ := Effect.run_bind_eq_ok.mp hrest
        cases hreturn
        exact .inl (setRecipientSetVersion_accounted (hpublished rfl) hset)

end

/-! ### The publication loops -/

/-- A loop from its start: its restarts follow each other, and of the uploads that were proven it
leaves the record of one that it may leave. -/
structure LoopKeeps {α : Type}
    (mayLeave : PublicationRun → EncryptedSessionSnapshotUploadV3 → Prop)
    (loop : PublicationEffect (Option α)) : Prop where
  restarts : ∀ store, RestartsFollow (loop.run (.start store)).2
  records : ∀ store outcome run, loop.run (.start store) = (.ok (some outcome), run) →
    ∀ sessionId kept, usableUpload run.store.items sessionId = some kept → Proven run kept →
      mayLeave run kept

/-- With enough fuel the loops end, and they restart and leave records as they should. -/
structure PublicationLoopsEnd {Material : Type} (ports : UploadPorts Material)
    (text : ProtocolText)
    (mayLeave : PublicationRun → EncryptedSessionSnapshotUploadV3 → Prop) : Prop where
  ends : ∃ bound, ∀ fuel, bound ≤ fuel → ∀ snapshot recipients store,
    (∀ sessions, ((publishAuthoritativeSnapshots ports text fuel snapshot recipients sessions).run
      (.start store)).1 ≠ .ok none) ∧
    ((publishRecipientChangeSnapshots ports text fuel snapshot recipients).run
      (.start store)).1 ≠ .ok none
  authoritative : ∀ fuel snapshot recipients sessions, LoopKeeps mayLeave
    (publishAuthoritativeSnapshots ports text fuel snapshot recipients sessions)
  recipientChange : ∀ fuel snapshot recipients, LoopKeeps mayLeave
    (publishRecipientChangeSnapshots ports text fuel snapshot recipients)

theorem accounted_start (store : BridgeStore) : Accounted none (.start store) where
  revisions _ hproven := by
    rcases hproven with hcall | hcall <;> cases hcall
  records _ _ _ _ hproven := by
    rcases hproven with hcall | hcall <;> cases hcall

/-- Whatever the Relay answers, the loops end when the version of the recipients settles. Of the
uploads that were proven they leave at most the record of the one that was refused last because of
the recipients. -/
theorem publicationLoops_end {Material : Type} {ports : UploadPorts Material}
    {text : ProtocolText} (hlawful : Lawful ports) (hsettles : Settles ports) :
    PublicationLoopsEnd ports text LastRefused where
  ends := by
    obtain ⟨time, version, hversion⟩ := hsettles
    refine ⟨time + 3, fun fuel hfuel snapshot recipients store => ⟨fun sessions => ?_, ?_⟩⟩
    · exact publishAuthoritativeSnapshots_ends hversion hfuel snapshot recipients sessions _
    · exact publishRecipientChangeSnapshots_ends hlawful.carries hversion hfuel snapshot
        recipients _
  authoritative fuel snapshot recipients sessions := by
    constructor
    · exact fun store => follow_authoritative snapshot recipients sessions (.start store) .nil
    · intro store outcome run hrun sessionId kept hkept hproven
      have hleaves := publishAuthoritativeSnapshots_leaves hlawful (accounted_start store) hrun
      exact hleaves.left hkept hproven
  recipientChange fuel snapshot recipients := by
    constructor
    · exact fun store =>
        follow_recipientChange hlawful.carries snapshot recipients (.start store) .nil
    · intro store outcome run hrun sessionId kept hkept hproven
      have hleaves := publishRecipientChangeSnapshots_leaves hlawful (accounted_start store) hrun
      exact hleaves.left hkept hproven

/-- An encryption of the sample. -/
def sampleUpload (sessionId : String) (revision version : Nat) :
    EncryptedSessionSnapshotUploadV3 :=
  ⟨"host", sessionId, "pi", .idle, "2026-01-01T00:00:00.000Z", none, none, revision, version,
    ⟨"content", .sessionContentV3, List.replicate 12 0, List.replicate 16 0⟩, []⟩

/-- A Relay that accepts the uploads and answers that the recipients have changed, but that has the
same recipients. -/
def refusingPorts : UploadPorts Unit where
  publishEncryptedSession _ := .error ⟨true, some 409, some recipientSetChangedReason⟩
  reconcileEncryptedSession _ := .ok true
  recipientSnapshot _ := .ok ⟨"host", 1, []⟩
  reconcileRecipients _ _ := .ok []
  encryptSessionSnapshot _ input :=
    .ok (sampleUpload input.session.sessionId input.revision input.recipientSetVersion)
  now _ := "2026-01-01T00:00:00.000Z"
  others _ store := store

theorem refusingPorts_lawful : Lawful refusingPorts where
  carries time input upload hencrypt := by
    cases hencrypt
    exact ⟨rfl, rfl, rfl⟩
  others := ⟨fun _ _ _ => rfl, fun _ _ _ => Nat.le_refl _⟩
  reasoned time failure hanswer _ := by
    cases hanswer
    rfl

theorem refusingPorts_settles : Settles refusingPorts :=
  ⟨0, 1, fun _ _ _ hsnapshot => by cases hsnapshot; rfl⟩

theorem publicationLoops_end_refusing :
    PublicationLoopsEnd refusingPorts ordinalText LastRefused :=
  publicationLoops_end refusingPorts_lawful refusingPorts_settles

/-- A store with a Session. -/
def sessionStore : BridgeStore :=
  .opened ⟨{ emptyState "epoch" with sessions := Dict.set ∅ "session" endedSession }, []⟩ true []

set_option maxRecDepth 20000 in
/-- A loop that gives up between the proof of an upload and its completion leaves the record. -/
theorem not_publicationLoopsEndUnproven :
    ¬ PublicationLoopsEnd refusingPorts ordinalText (fun _ _ => False) := by
  intro h
  have hrun : (publishAuthoritativeSnapshots refusingPorts ordinalText 2 ⟨"host", 1, []⟩ []
      [endedSession]).run (.start sessionStore) = (.ok (some .failClosed), _) :=
    Prod.ext (by decide +kernel) rfl
  refine (h.authoritative 2 ⟨"host", 1, []⟩ [] [endedSession]).records sessionStore .failClosed _
    hrun "session" (sampleUpload "session" 2 1) (by decide +kernel) (.inr ?_)
  exact List.mem_cons_of_mem _ List.mem_cons_self

end Ariava.Proofs.PublicationRecords
