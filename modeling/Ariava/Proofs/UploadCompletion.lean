import Ariava.Lib.Run
import Ariava.StateStore.CompletionRecovery

/-!
# `Ariava.Proofs.UploadCompletion`: unfinished completions and later revisions

The runs of the calls that begin, complete and resume the completions of published events, and
that commit the revisions of Session snapshots, over stops at every write and failed writes.

- `recoverable_step`: the store stays recoverable in every step in which no Session goes on to
  a later revision before its completion is finished.
- `completions_resumed`: so whatever such a run leaves behind, a restart accepts it and
  finishes every completion in it.

The restart compares the revision of an unfinished completion with that of its Session. A
snapshot, or the next event of the Session, may commit a later revision while a completion is
unfinished after a failed write, and then the restart refuses the files: `ResumableCompletion`
does not hold.
-/

set_option autoImplicit false

namespace Ariava.Proofs.UploadCompletion

open Ariava.Lib
open Ariava.Protocol
open Ariava.StateStore

/-! ### The runs -/

/-- A call that begins, completes or resumes a completion, or that commits a revision for a
snapshot of a Session. -/
inductive CompletionCall
  | begin (completion : EventUploadCompletionV1)
  | complete (eventId : String)
  | resume
  | commit (sessionId : String) (revision : Nat)

/-- The method of the store behind a call. -/
def CompletionCall.program : CompletionCall → StoreEffect Unit
  | begin completion => beginEventUploadCompletion completion
  | complete eventId => completeEventUpload eventId
  | resume => resumeEventUploadCompletions
  | commit sessionId revision => commitSessionRevision sessionId revision

/-- The event of a completion that has not begun was published: what its two ids name in the
spool is its upload and its source, as far as they are there. -/
structure Published (s : BridgeStore) (completion : EventUploadCompletionV1) : Prop where
  ofSession : ∀ event, recentEvent s.state completion.eventId = some event →
    event.sessionId = completion.sessionId
  inflight : ∀ items, items = s.items ∨ items = s.files.items → ∀ item,
    spoolGet items (inflightEventItemId completion.eventId) = some item →
      item.payloadKind = .eventUploadV3 ∧ item.sessionId = completion.sessionId
  source : ∀ items, items = s.items ∨ items = s.files.items → ∀ item,
    spoolGet items completion.eventId = some item →
      item.payloadKind = .eventSourceV3 ∧ item.sessionId = completion.sessionId
  revisionCommitted : completion.revisionCommitted = false
  inflightRemoved : completion.inflightRemoved = false
  sourceRemoved : completion.sourceRemoved = false

/-- A property of the journal and of the revisions alone. -/
def OfJournal (P : PersistedBridgeState → Prop) : Prop :=
  ∀ state state' : PersistedBridgeState,
    state'.eventUploadCompletions = state.eventUploadCompletions →
    state'.sessionRevisions = state.sessionRevisions → P state → P state'

/-- A change of the store by the rest of the daemon. It has nothing to do with the journal and
the revisions, and what it leaves is accepted. -/
structure OtherChange (hash : ContentHash) (hostId : String) (s s' : BridgeStore) : Prop where
  keeps : ∀ P, OfJournal P → Stays P s s'
  pairs : ∀ state items, state = s'.state ∨ state = s'.files.state →
    items = s'.items ∨ items = s'.files.items →
      assertCurrentRuntimeRelationships hash state items hostId = .ok ()
  images : ∀ image ∈ s'.images, image ∈ s.images ∨
    assertCurrentRuntimeRelationships hash image.state image.items hostId = .ok ()

/-- What a restart finds. -/
structure Reopening where
  commandExecutionPinsReady : Bool
  writes : List WriteOutcome

/-- The store that a restart opens. -/
def Reopening.store (restart : Reopening) (files : RuntimeFiles) : BridgeStore :=
  .opened files restart.commandExecutionPinsReady restart.writes

/-- The label of a step. -/
inductive CompletionAction
  | call (c : CompletionCall)
  | other
  | stop (restart : Reopening)
  | stopDuring (c : CompletionCall) (restart : Reopening)

/-- A begun completion is that of a published event. -/
def CompletionCall.OfPublished (s : BridgeStore) : CompletionCall → Prop
  | begin completion => Published s completion
  | _ => True

/-- One step: a call, a change by the rest of the daemon, or a stop and a restart. The process
can stop between two calls, and after any write in the middle of one. -/
inductive CompletionStep (hash : ContentHash) (hostId : String) :
    BridgeStore → CompletionAction → BridgeStore → Prop
  | call {s : BridgeStore} (c : CompletionCall) (published : c.OfPublished s) :
      CompletionStep hash hostId s (.call c) (c.program.run s).2
  | other {s s' : BridgeStore} (change : OtherChange hash hostId s s') :
      CompletionStep hash hostId s .other s'
  | stop {s : BridgeStore} (restart : Reopening) :
      CompletionStep hash hostId s (.stop restart) (restart.store s.files)
  | stopDuring {s : BridgeStore} (c : CompletionCall) (published : c.OfPublished s)
      {added : List RuntimeFiles} {image : RuntimeFiles} (restart : Reopening)
      (images : (c.program.run s).2.images = added ++ s.images) (written : image ∈ added) :
      CompletionStep hash hostId s (.stopDuring c restart) (restart.store image)

/-- The files that the process has left behind so far: those of now and every image. -/
def LeftBehind (s : BridgeStore) (files : RuntimeFiles) : Prop :=
  files = s.files ∨ files ∈ s.images

/-- A stop at any point leaves files that a restart accepts and from which it finishes every
completion. -/
def ResumableCompletion : Prop :=
  ∀ (hash : ContentHash) (hostId : String) (files : RuntimeFiles) (restart : Reopening)
    (as : List CompletionAction) (s : BridgeStore),
    Resumable hash hostId files → Run (CompletionStep hash hostId) (restart.store files) as s →
    ∀ left, LeftBehind s left →
      assertCurrentRuntimeRelationships hash left.state left.items hostId = .ok () ∧ Resumes left

/-- No Session goes on to a later revision before its completion is finished: a completion
begins at the current or the next revision of a Session without another one, and a revision is
committed for a snapshot when none is unfinished. -/
def CompletionCall.Waits (s : BridgeStore) : CompletionCall → Prop
  | begin completion =>
      (readCurrentSessionRevision s.state completion.sessionId = completion.revision ∨
        readCurrentSessionRevision s.state completion.sessionId + 1 = completion.revision) ∧
      ∀ eventId other, s.state.eventUploadCompletions.get? eventId = some other →
        other.sessionId = completion.sessionId → eventId = completion.eventId
  | commit sessionId revision =>
      revision ≤ readCurrentSessionRevision s.state sessionId ∨
        ∀ eventId other, s.state.eventUploadCompletions.get? eventId = some other →
          other.sessionId ≠ sessionId
  | _ => True

/-- The condition on a step. -/
def LaterRevisionsWait (s : BridgeStore) : CompletionAction → Prop
  | .call c | .stopDuring c _ => c.Waits s
  | _ => True

/-! ### Every call keeps the store recoverable -/

section
variable {hash : ContentHash} {hostId : String} {s : BridgeStore}

theorem recoverable_begin (h : Recoverable hash hostId s) {completion : EventUploadCompletionV1}
    (hpublished : Published s completion)
    (hwaits : (CompletionCall.begin completion).Waits s) :
    Recoverable hash hostId ((beginEventUploadCompletion completion).run s).2 := by
  rw [beginEventUploadCompletion, Effect.run_bind, Effect.run_get, Effect.next_ok]
  rcases hget : s.state.eventUploadCompletions.get? completion.eventId with _ | existing
  · refine (mutateAndPersist_ends (f := fun state =>
      withCompletion state completion) h False.elim fun items hitems => ?_).recoverable
    refine (h.pairs s.state items (.inl rfl) hitems).setCompletion ?_ hwaits.2
    refine ⟨rfl, hpublished.ofSession, hwaits.1.imp_right fun hnext =>
      ⟨hpublished.revisionCommitted, hnext⟩, fun hflag => ?_, fun hflag => ?_, ?_, ?_⟩
    · rw [hpublished.inflightRemoved] at hflag
      cases hflag
    · rw [hpublished.sourceRemoved] at hflag
      cases hflag
    · intro item hitem
      obtain ⟨hkind, hsession⟩ := hpublished.inflight items hitems item hitem
      exact ⟨hkind, hsession, hpublished.inflightRemoved⟩
    · intro item hitem
      obtain ⟨hkind, hsession⟩ := hpublished.source items hitems item hitem
      exact ⟨hkind, hsession, hpublished.sourceRemoved⟩
  · dsimp only
    split
    · exact h
    · exact h

theorem recoverable_commit (h : Recoverable hash hostId s) {sessionId : String} {revision : Nat}
    (hwaits : (CompletionCall.commit sessionId revision).Waits s) :
    Recoverable hash hostId ((commitSessionRevision sessionId revision).run s).2 := by
  by_cases hcurrent : readCurrentSessionRevision s.state sessionId = revision
  · rw [run_commitSessionRevision_same hcurrent]
    exact h
  · by_cases hnext : readCurrentSessionRevision s.state sessionId + 1 = revision
    · have hfree := hwaits.resolve_left (by omega)
      rw [run_commitSessionRevision_next hnext, ← hnext]
      refine (mutateAndPersist_ends (f := fun state => { state with
        sessionRevisions := state.sessionRevisions.set sessionId
          (readCurrentSessionRevision s.state sessionId + 1) }) h False.elim
        fun items hitems => ?_).recoverable
      refine (h.pairs s.state items (.inl rfl) hitems).setRevision fun eventId other hget hsession =>
        ?_
      exact absurd hsession (hfree eventId other hget)
    · rw [run_commitSessionRevision_stale hcurrent hnext]
      exact h

theorem recoverable_call (h : Recoverable hash hostId s) {c : CompletionCall}
    (hpublished : c.OfPublished s) (hwaits : c.Waits s) :
    Recoverable hash hostId (c.program.run s).2 := by
  cases c with
  | begin completion => exact recoverable_begin h hpublished hwaits
  | complete eventId =>
    exact (completeEventUpload_ends h False.elim eventId).recoverable
  | resume => exact (resumeEventUploadCompletions_ends h False.elim).recoverable
  | commit sessionId revision => exact recoverable_commit h hwaits

theorem recoverable_other (h : Recoverable hash hostId s) {s' : BridgeStore}
    (hchange : OtherChange hash hostId s s') : Recoverable hash hostId s' := by
  have hof : OfJournal OnePerSession := by
    intro state state' hjournal _ hone
    rw [OnePerSession, hjournal]
    exact hone
  have hone : Holds OnePerSession s := ⟨(h.pairs s.state s.items (.inl rfl) (.inl rfl)).onePerSession,
    h.files.onePerSession⟩
  obtain ⟨hheld, added, himages, hadded⟩ := hchange.keeps _ hof hone
  constructor
  · intro state items hstate hitems
    refine ⟨hchange.pairs state items hstate hitems, ?_⟩
    rcases hstate with rfl | rfl
    · exact hheld.1
    · exact hheld.2
  · intro image hmem
    rcases hchange.images image hmem with hold | haccepted
    · exact h.images image hold
    · refine ⟨haccepted, ?_⟩
      rw [himages] at hmem
      rcases List.mem_append.mp hmem with hmem | hmem
      · exact hadded image hmem
      · exact (h.images image hmem).onePerSession

/-- What every step keeps. -/
theorem recoverable_step {s' : BridgeStore} {action : CompletionAction}
    (h : Recoverable hash hostId s)
    (hstep : Guarded (CompletionStep hash hostId) LaterRevisionsWait s action s') :
    Recoverable hash hostId s' := by
  obtain ⟨hwaits, hstep⟩ := hstep
  cases hstep with
  | call c published => exact recoverable_call h published hwaits
  | other change => exact recoverable_other h change
  | stop restart => exact recoverable_opened h.files _ _
  | stopDuring c published restart images written =>
    have hafter := recoverable_call h published hwaits
    refine recoverable_opened (hafter.images _ ?_) _ _
    rw [images]
    exact List.mem_append_left _ written

end

/-! ### A revision never goes back -/

/-- The revision of the Session is at least this one. -/
def AtRevision (sessionId : String) (revision : Nat) (state : PersistedBridgeState) : Prop :=
  revision ≤ readCurrentSessionRevision state sessionId

theorem keptByCompletions_atRevision (sessionId : String) (revision : Nat) :
    KeptByCompletions (AtRevision sessionId revision) where
  journal _ _ h := h
  revision state other h := by
    unfold AtRevision at h ⊢
    by_cases hsession : sessionId = other
    · rw [hsession, readCurrentSessionRevision_set_self, readNextSessionRevision, ← hsession]
      omega
    · rw [readCurrentSessionRevision_set_ne _ _ hsession]
      exact h

theorem stays_call {P : PersistedBridgeState → Prop} (hP : KeptByCompletions P)
    (c : CompletionCall) : Effect.Leaves (Stays P) c.program := by
  cases c with
  | begin completion => exact stays_beginEventUploadCompletion hP completion
  | complete eventId => exact stays_completeEventUpload hP eventId
  | resume => exact stays_resumeEventUploadCompletions hP
  | commit sessionId revision => exact stays_commitSessionRevision hP sessionId revision

/-- Memory, file and images are at a revision. -/
def AllAtRevision (sessionId : String) (revision : Nat) (s : BridgeStore) : Prop :=
  Holds (AtRevision sessionId revision) s ∧
    ∀ image ∈ s.images, AtRevision sessionId revision image.state

theorem allAtRevision_of_stays {sessionId : String} {revision : Nat} {s s' : BridgeStore}
    (hstays : Stays (AtRevision sessionId revision) s s')
    (h : AllAtRevision sessionId revision s) : AllAtRevision sessionId revision s' := by
  obtain ⟨hheld, added, himages, hadded⟩ := hstays h.1
  refine ⟨hheld, fun image hmem => ?_⟩
  rw [himages] at hmem
  rcases List.mem_append.mp hmem with hmem | hmem
  · exact hadded image hmem
  · exact h.2 image hmem

theorem allAtRevision_opened {sessionId : String} {revision : Nat} {files : RuntimeFiles}
    (h : AtRevision sessionId revision files.state) (restart : Reopening) :
    AllAtRevision sessionId revision (restart.store files) :=
  ⟨⟨h, h⟩, fun _ hmem => absurd hmem List.not_mem_nil⟩

theorem allAtRevision_step {hash : ContentHash} {hostId sessionId : String} {revision : Nat}
    {s s' : BridgeStore} {action : CompletionAction} (h : AllAtRevision sessionId revision s)
    (hstep : CompletionStep hash hostId s action s') : AllAtRevision sessionId revision s' := by
  have hcall := fun c => allAtRevision_of_stays
    (stays_call (keptByCompletions_atRevision sessionId revision) c s) h
  cases hstep with
  | call c => exact hcall c
  | other change =>
    refine allAtRevision_of_stays (change.keeps _ fun state state' _ hrevisions hstate => ?_) h
    rw [AtRevision, readCurrentSessionRevision, hrevisions]
    exact hstate
  | stop restart => exact allAtRevision_opened h.1.2 restart
  | stopDuring c published restart images written =>
    refine allAtRevision_opened ((hcall c).2 _ ?_) restart
    rw [images]
    exact List.mem_append_left _ written

/-- In a run in which no Session goes on to a later revision before its completion is
finished, every file that is left behind is accepted by a restart, which finishes its
completions: each has its revision committed, its upload and its source removed and its
journal cleared. No revision of a Session goes back on the way. -/
theorem completions_resumed {hash : ContentHash} {hostId : String} {files : RuntimeFiles}
    (hfiles : Resumable hash hostId files) {restart : Reopening}
    {as : List CompletionAction} {s : BridgeStore}
    (hrun : Run (Guarded (CompletionStep hash hostId) LaterRevisionsWait) (restart.store files)
      as s) :
    ∀ left, LeftBehind s left →
      assertCurrentRuntimeRelationships hash left.state left.items hostId = .ok () ∧
        Resumes left ∧ ∀ sessionId, readCurrentSessionRevision files.state sessionId
          ≤ readCurrentSessionRevision left.state sessionId := by
  have hend : Recoverable hash hostId s :=
    hrun.invariant (fun _ _ _ h hstep => recoverable_step h hstep)
      (recoverable_opened hfiles _ _)
  intro left hleft
  have hresumable : Resumable hash hostId left := by
    rcases hleft with rfl | hmem
    · exact hend.files
    · exact hend.images left hmem
  refine ⟨hresumable.accepted, hresumable.resumes, fun sessionId => ?_⟩
  have hunguarded : Run (CompletionStep hash hostId) (restart.store files) as s :=
    hrun.mono fun _ _ _ hstep => hstep.2
  have hrevisions : AllAtRevision sessionId (readCurrentSessionRevision files.state sessionId) s :=
    hunguarded.invariant (fun _ _ _ h hstep => allAtRevision_step h hstep)
      (allAtRevision_opened (Nat.le_refl _) restart)
  rcases hleft with rfl | hmem
  · exact hrevisions.1.2
  · exact hrevisions.2 left hmem

/-! ### A later revision in between -/

/-- A Session whose turn has just ended. -/
def endedSession : CanonicalSessionState where
  sessionId := "session"
  hostId := "host"
  provider := "pi"
  projectName := "project"
  nameText := "name"
  openingText := none
  latestActivityText := some "Done"
  workingDirectory := none
  harnessProvider := none
  status := .idle
  updatedAt := "2026-01-01T00:00:00.000Z"
  lastEventId := some "event"
  snoozedUntil := none

/-- The event of the end. -/
def endEvent : CanonicalEvent where
  eventId := "event"
  hostId := "host"
  sessionId := "session"
  provider := "pi"
  agentText := "Done"
  humanText := none
  projectName := none
  workingDirectory := none
  harnessProvider := none
  createdAt := "2026-01-01T00:00:00.000Z"
  kind := .done

/-- Its upload at the first revision. -/
def endUpload : E2EEventAndSessionUploadV3 where
  event := ⟨"event", "host", "session", "pi", .done, "2026-01-01T00:00:00.000Z", 1,
    ⟨"content-1", .eventContentV3, [], []⟩, []⟩
  session := ⟨"host", "session", "pi", .idle, "2026-01-01T00:00:00.000Z", some "event", none, 1, 1,
    ⟨"content-2", .sessionContentV3, [], []⟩, []⟩

/-- The files with the source and the upload of the event. -/
def publishedFiles : RuntimeFiles where
  state := { emptyState "epoch" with
    sessions := Dict.set ∅ "session" endedSession
    sessionDrivers := Dict.set ∅ "session" "pi"
    recentEvents := [endEvent] }
  items := [pendingItem endEvent endedSession none .eventSourceV3,
    ⟨"inflight:event:event", "session", some "event", .eventUploadV3, "2026-01-01T00:00:00.000Z",
      .eventUpload none endUpload⟩]

/-- The completion of the upload. -/
def endCompletion : EventUploadCompletionV1 :=
  ⟨"event", "session", 1, "content-1", "content-2", "2026-01-01T00:00:01.000Z", false, false,
    false⟩

theorem isCanonicalDigest_constant (_ : List BindingField) :
    isCanonicalDigest "AAAAAAAAAAAAAAAAAAAAAAAAAAAAAAAAAAAAAAAAAAA" = true := by
  decide

/-- A digest for the sample. -/
def constantHash : ContentHash :=
  ⟨fun _ => "AAAAAAAAAAAAAAAAAAAAAAAAAAAAAAAAAAAAAAAAAAA", isCanonicalDigest_constant⟩

/-- The completion is journaled and its revision committed. Then the write of the spool
fails. -/
def spoolWriteFails : Reopening := ⟨true, [.written, .written, .written, .failed]⟩

/-- The store after these calls. -/
def afterCalls (cs : List CompletionCall) : BridgeStore :=
  cs.foldl (fun s c => (c.program.run s).2) (spoolWriteFails.store publishedFiles)

/-- The completion as far as it gets. -/
def interrupted : List CompletionCall := [.begin endCompletion, .complete "event"]

theorem published_endCompletion :
    Published (spoolWriteFails.store publishedFiles) endCompletion where
  ofSession event hevent := by
    obtain rfl : endEvent = event := Option.some.inj hevent
    rfl
  inflight items hitems item hitem := by
    obtain rfl : items = publishedFiles.items := hitems.elim id id
    obtain rfl := Option.some.inj hitem
    exact ⟨rfl, rfl⟩
  source items hitems item hitem := by
    obtain rfl : items = publishedFiles.items := hitems.elim id id
    obtain rfl := Option.some.inj hitem
    exact ⟨rfl, rfl⟩
  revisionCommitted := rfl
  inflightRemoved := rfl
  sourceRemoved := rfl

theorem resumable_publishedFiles : Resumable constantHash "host" publishedFiles where
  accepted := by decide +kernel
  onePerSession _ _ _ _ hget := nomatch hget

/-- The interrupted completion is resumed after a restart. -/
theorem completions_resumed_interrupted :
    assertCurrentRuntimeRelationships constantHash (afterCalls interrupted).files.state
        (afterCalls interrupted).files.items "host" = .ok () ∧
      Resumes (afterCalls interrupted).files ∧
      ∀ sessionId, readCurrentSessionRevision publishedFiles.state sessionId
        ≤ readCurrentSessionRevision (afterCalls interrupted).files.state sessionId := by
  refine completions_resumed resumable_publishedFiles (?_ : Run _
    (spoolWriteFails.store publishedFiles) (interrupted.map .call) _) _ (.inl rfl)
  refine Run.cons ⟨?_, .call (.begin endCompletion) published_endCompletion⟩
    (Run.single ⟨trivial, .call (.complete "event") trivial⟩)
  exact ⟨.inr rfl, fun _ _ hget => nomatch hget⟩

/-- A snapshot of the Session commits the second revision after that, and a restart refuses
the files. -/
theorem not_resumableCompletion : ¬ResumableCompletion := by
  intro h
  have hrun : Run (CompletionStep constantHash "host") (spoolWriteFails.store publishedFiles)
      [.call (.begin endCompletion), .call (.complete "event"), .call (.commit "session" 2)]
      (afterCalls (interrupted ++ [.commit "session" 2])) :=
    Run.cons (.call (.begin endCompletion) published_endCompletion)
      (Run.cons (.call (.complete "event") trivial)
        (Run.single (.call (.commit "session" 2) trivial)))
  have hleft := (h constantHash "host" publishedFiles spoolWriteFails _ _
    resumable_publishedFiles hrun _ (.inl rfl)).1
  revert hleft
  decide +kernel

end Ariava.Proofs.UploadCompletion
