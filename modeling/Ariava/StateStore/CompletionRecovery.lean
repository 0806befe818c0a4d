import Ariava.StateStore.StateCodec
import Ariava.StateStore.StoreFrames

/-!
# `Ariava.StateStore.CompletionRecovery`: resuming upload completions

A completion commits the revision of its Session, removes the upload and the source of its
event from the spool and clears its journal, with a write after each step. A write replaces
the state file or the spool file, so what is on disk may pair a state and items of different
times.

- `Recoverable`: a restart accepts every pair that a write may leave. The steps keep it
  (`commitStep_ends`, `removalStep_ends`, `clearStep_ends`), whatever becomes of their writes.
- `Ends` states both ways of running a call in one: with failed writes the store stays
  recoverable, and a `smooth` call, which meets none, returns with its postcondition.
- `Keeps`, `KeepsOthers`: what the completion of one event leaves to the others.
- `Resumable.resumes`: a restart finishes every completion.
-/

set_option autoImplicit false

namespace Ariava.StateStore

open Ariava.Lib
open Ariava.Protocol

/-- The steps of `completeEventUpload` for a completion that it has read. -/
def completionSteps (eventId : String) (completion : EventUploadCompletionV1) :
    StoreEffect Unit := do
  completionStep completion.revisionCommitted eventId
    (commitSessionRevision completion.sessionId completion.revision)
    fun c => { c with revisionCommitted := true }
  completionStep completion.inflightRemoved eventId
    (removeItem (inflightEventItemId eventId)) fun c => { c with inflightRemoved := true }
  completionStep completion.sourceRemoved eventId (removeItem eventId)
    fun c => { c with sourceRemoved := true }
  mutateAndPersist fun state =>
    { state with eventUploadCompletions := state.eventUploadCompletions.erase eventId }

/-- `completeEventUpload`, by whether there is a completion. -/
theorem run_completeEventUpload (eventId : String) (s : BridgeStore) :
    (completeEventUpload eventId).run s
      = match s.state.eventUploadCompletions.get? eventId with
        | none => (.ok (), s)
        | some completion => (completionSteps eventId completion).run s := by
  rw [completeEventUpload, Effect.run_bind, Effect.run_get, Effect.next_ok]
  rcases s.state.eventUploadCompletions.get? eventId with _ | completion
  · rfl
  · rfl

section
variable (hash : ContentHash) (hostId : String)

/-! ### What a restart resumes -/

/-- No Session has two unfinished completions. -/
def OnePerSession (state : PersistedBridgeState) : Prop :=
  ∀ eventId eventId' completion completion',
    state.eventUploadCompletions.get? eventId = some completion →
    state.eventUploadCompletions.get? eventId' = some completion' →
    completion.sessionId = completion'.sessionId → eventId = eventId'

/-- A restart accepts the files, and no Session has two unfinished completions in them. -/
structure Resumable (files : RuntimeFiles) : Prop where
  accepted : assertCurrentRuntimeRelationships hash files.state files.items hostId = .ok ()
  onePerSession : OnePerSession files.state

/-- Whichever of the two states and of the two item lists a write puts together, a restart
accepts it, and it accepted every image. -/
structure Recoverable (s : BridgeStore) : Prop where
  pairs : ∀ state items, state = s.state ∨ state = s.files.state →
    items = s.items ∨ items = s.files.items → Resumable hash hostId ⟨state, items⟩
  images : ∀ image ∈ s.images, Resumable hash hostId image

variable {hash hostId}

theorem recoverable_opened {files : RuntimeFiles} (h : Resumable hash hostId files)
    (ready : Bool) (writes : List WriteOutcome) :
    Recoverable hash hostId (BridgeStore.opened files ready writes) := by
  refine ⟨fun state items hstate hitems => ?_, fun _ hmem => absurd hmem List.not_mem_nil⟩
  obtain rfl : state = files.state := hstate.elim id id
  obtain rfl : items = files.items := hitems.elim id id
  exact h

/-- The files of a recoverable store. -/
theorem Recoverable.files {s : BridgeStore} (h : Recoverable hash hostId s) :
    Resumable hash hostId s.files := h.pairs _ _ (.inr rfl) (.inr rfl)

/-- A change of the state in memory that goes with both item lists. -/
theorem Recoverable.withState {s : BridgeStore} (h : Recoverable hash hostId s)
    {state : PersistedBridgeState}
    (hstate : ∀ items, items = s.items ∨ items = s.files.items →
      Resumable hash hostId ⟨state, items⟩) :
    Recoverable hash hostId { s with state := state } := by
  refine ⟨fun state' items hstate' hitems => ?_, h.images⟩
  rcases hstate' with rfl | rfl
  · exact hstate items hitems
  · exact h.pairs _ _ (.inr rfl) hitems

/-- A change of the items in memory that goes with both states. -/
theorem Recoverable.withItems {s : BridgeStore} (h : Recoverable hash hostId s)
    {items : List SpoolItem}
    (hitems : ∀ state, state = s.state ∨ state = s.files.state →
      Resumable hash hostId ⟨state, items⟩) :
    Recoverable hash hostId { s with items := items } := by
  refine ⟨fun state items' hstate hitems' => ?_, h.images⟩
  rcases hitems' with rfl | rfl
  · exact hitems state hstate
  · exact h.pairs _ _ hstate (.inr rfl)

/-- A write of a state and items that go with each other and with what stays. -/
theorem Recoverable.afterWrite {s : BridgeStore} (h : Recoverable hash hostId s)
    {files : RuntimeFiles} (hstate : files.state = s.state ∨ files.state = s.files.state)
    (hitems : ∀ state, state = s.state ∨ state = s.files.state →
      Resumable hash hostId ⟨state, files.items⟩) :
    Recoverable hash hostId (s.afterWrite files) := by
  rcases s.afterWrite_files files with ⟨hfiles, himages⟩ | ⟨hfiles, himages⟩
  · constructor
    · rintro state items hstate' hitems'
      rw [hfiles, s.afterWrite_state] at hstate'
      rw [hfiles, s.afterWrite_items] at hitems'
      have hold : state = s.state ∨ state = s.files.state := by
        rcases hstate' with rfl | rfl
        · exact .inl rfl
        · exact hstate
      rcases hitems' with rfl | rfl
      · exact h.pairs _ _ hold (.inl rfl)
      · exact hitems state hold
    · intro image hmem
      rw [himages] at hmem
      rcases List.mem_cons.mp hmem with rfl | hmem
      · exact hitems image.state hstate
      · exact h.images image hmem
  · refine ⟨fun state items hstate' hitems' => ?_, fun image hmem => ?_⟩
    · rw [hfiles, s.afterWrite_state] at hstate'
      rw [hfiles, s.afterWrite_items] at hitems'
      exact h.pairs _ _ hstate' hitems'
    · exact h.images image (himages ▸ hmem)

/-! ### Changes of the journal and of the revisions -/

namespace Resumable

variable {state : PersistedBridgeState} {items : List SpoolItem}

/-- The completions of resumable files fit. -/
theorem fits (h : Resumable hash hostId ⟨state, items⟩) {eventId : String}
    {completion : EventUploadCompletionV1}
    (hget : state.eventUploadCompletions.get? eventId = some completion) :
    CompletionFits state items eventId completion :=
  (assertCurrentRuntimeRelationships_eq_ok_iff.mp h.accepted).2.2 eventId completion hget

/-- A change of the completions alone. -/
theorem withCompletions (h : Resumable hash hostId ⟨state, items⟩)
    {completions : Dict String EventUploadCompletionV1}
    (hfits : ∀ eventId completion, completions.get? eventId = some completion →
      CompletionFits state items eventId completion)
    (hone : OnePerSession { state with eventUploadCompletions := completions }) :
    Resumable hash hostId ⟨{ state with eventUploadCompletions := completions }, items⟩ := by
  obtain ⟨hrest, hrevisions, -⟩ := assertCurrentRuntimeRelationships_eq_ok_iff.mp h.accepted
  refine ⟨assertCurrentRuntimeRelationships_eq_ok_iff.mpr ⟨hrest, hrevisions, ?_⟩, hone⟩
  intro eventId completion hget
  exact (hfits eventId completion hget).congr rfl rfl

/-- One completion written, of a Session that has no other one. -/
theorem setCompletion (h : Resumable hash hostId ⟨state, items⟩)
    {completion : EventUploadCompletionV1}
    (hfits : CompletionFits state items completion.eventId completion)
    (hother : ∀ eventId other, state.eventUploadCompletions.get? eventId = some other →
      other.sessionId = completion.sessionId → eventId = completion.eventId) :
    Resumable hash hostId ⟨withCompletion state completion, items⟩ := by
  refine h.withCompletions (fun eventId other hget => ?_)
    fun eventId eventId' other other' hget hget' hsession => ?_
  · rcases Dict.get?_set_cases hget with ⟨rfl, rfl⟩ | ⟨-, hold⟩
    · exact hfits
    · exact h.fits hold
  · rcases Dict.get?_set_cases hget with ⟨rfl, rfl⟩ | ⟨hne, hold⟩
    · rcases Dict.get?_set_cases hget' with ⟨rfl, rfl⟩ | ⟨hne', hold'⟩
      · rfl
      · exact (hother _ _ hold' hsession.symm).symm
    · rcases Dict.get?_set_cases hget' with ⟨rfl, rfl⟩ | ⟨hne', hold'⟩
      · exact hother _ _ hold hsession
      · exact h.onePerSession _ _ _ _ hold hold' hsession

/-- A completion erased. -/
theorem eraseCompletion (h : Resumable hash hostId ⟨state, items⟩) (eventId : String) :
    Resumable hash hostId ⟨{ state with
      eventUploadCompletions := state.eventUploadCompletions.erase eventId }, items⟩ := by
  refine h.withCompletions (fun _ _ hget => h.fits (Dict.get?_of_erase hget))
    fun _ _ _ _ hget hget' hsession => ?_
  exact h.onePerSession _ _ _ _ (Dict.get?_of_erase hget) (Dict.get?_of_erase hget') hsession

/-- The next revision of a Session committed, when an unfinished completion of the Session
is for this revision. -/
theorem setRevision (h : Resumable hash hostId ⟨state, items⟩) {sessionId : String}
    (hall : ∀ eventId completion, state.eventUploadCompletions.get? eventId = some completion →
      completion.sessionId = sessionId →
      completion.revision = readCurrentSessionRevision state sessionId + 1) :
    Resumable hash hostId ⟨{ state with
      sessionRevisions := state.sessionRevisions.set sessionId
        (readCurrentSessionRevision state sessionId + 1) }, items⟩ := by
  obtain ⟨hrest, hrevisions, -⟩ := assertCurrentRuntimeRelationships_eq_ok_iff.mp h.accepted
  refine ⟨assertCurrentRuntimeRelationships_eq_ok_iff.mpr ⟨hrest, fun revision hmem => ?_,
    fun eventId completion hget => ?_⟩, h.onePerSession⟩
  · obtain ⟨id, hid⟩ := Dict.mem_values_iff.mp hmem
    rcases Dict.get?_set_cases hid with ⟨-, rfl⟩ | ⟨-, hold⟩
    · omega
    · exact hrevisions revision (Dict.mem_values_iff.mpr ⟨id, hold⟩)
  · have hfits := h.fits hget
    by_cases hsession : completion.sessionId = sessionId
    · refine hfits.withRevision rfl (.inl ?_)
      rw [hsession, readCurrentSessionRevision_set_self]
      exact (hall eventId completion hget hsession).symm
    · exact hfits.congr rfl (readCurrentSessionRevision_set_ne state _ hsession)

/-- An item of a completion's event removed. -/
theorem removeItem (h : Resumable hash hostId ⟨state, items⟩) {spoolItemId : String}
    (hkind : ∀ removed, spoolGet items spoolItemId = some removed →
      removed.payloadKind ≠ .eventReservationV3) :
    Resumable hash hostId ⟨state, withoutItems items [spoolItemId]⟩ :=
  ⟨assertCurrentRuntimeRelationships_withoutItems hkind h.accepted, h.onePerSession⟩

end Resumable

/-! ### One write -/

section
variable {smooth : Prop}

/-- The files hold what is in memory, and no write is going to fail. -/
structure Synced (s : BridgeStore) : Prop where
  writes : s.writes = []
  files : s.files = ⟨s.state, s.items⟩

/-- How a call ends: the store is recoverable, `Post` holds after a return, and a smooth call
returns. -/
structure Ends (hash : ContentHash) (hostId : String) (smooth : Prop)
    (Post : BridgeStore → Prop) (outcome : Except Thrown Unit) (s : BridgeStore) : Prop where
  recoverable : Recoverable hash hostId s
  returned : outcome = .ok () → Post s
  returns : smooth → outcome = .ok ()

/-- Two calls in a row. -/
theorem ends_bind {P Mid Post : BridgeStore → Prop} {p : StoreEffect Unit}
    {f : Unit → StoreEffect Unit} (hp : Effect.Triple P p (Ends hash hostId smooth Mid))
    (hf : Effect.Triple Mid (f ()) (Ends hash hostId smooth Post)) :
    Effect.Triple P (p >>= f) (Ends hash hostId smooth Post) := by
  intro s hs
  have hfirst := hp s hs
  rw [Effect.run_bind]
  rcases hrun : p.run s with ⟨thrown | _, t⟩
  · rw [hrun] at hfirst
    exact ⟨hfirst.recoverable, nofun, hfirst.returns⟩
  · rw [hrun] at hfirst
    exact hf t (hfirst.returned rfl)

/-- A changed state that is persisted. -/
theorem mutateAndPersist_ends {f : PersistedBridgeState → PersistedBridgeState}
    {s : BridgeStore} (h : Recoverable hash hostId s) (hsmooth : smooth → Synced s)
    (hf : ∀ items, items = s.items ∨ items = s.files.items →
      Resumable hash hostId ⟨f s.state, items⟩) :
    Ends hash hostId smooth
      (fun s' => s'.state = f s.state ∧ s'.items = s.items ∧ s'.files.items = s.files.items ∧
        (smooth → Synced s'))
      ((mutateAndPersist f).run s).1 ((mutateAndPersist f).run s).2 := by
  have hchanged : Recoverable hash hostId { s with state := f s.state } := h.withState hf
  have hwritten : Recoverable hash hostId (BridgeStore.afterWrite { s with state := f s.state }
      { s.files with state := f s.state }) :=
    hchanged.afterWrite (.inl rfl) fun state hstate => hchanged.pairs _ _ hstate (.inr rfl)
  show Ends hash hostId smooth _
    (if s.nextWrite = .written then .ok () else .error writeError)
    (BridgeStore.afterWrite { s with state := f s.state } { s.files with state := f s.state })
  refine ⟨hwritten, fun _ => ⟨by simp, by simp, ?_, fun hs => ?_⟩, fun hs => ?_⟩
  · rcases BridgeStore.afterWrite_files { s with state := f s.state }
      { s.files with state := f s.state } with ⟨hfiles, -⟩ | ⟨hfiles, -⟩
    · rw [hfiles]
    · rw [hfiles]
  · obtain ⟨hwrites, hfiles⟩ := hsmooth hs
    have hinstalled := (BridgeStore.afterWrite_of_noFailure { s with state := f s.state }
      { s.files with state := f s.state } hwrites).2
    refine ⟨by simp [hwrites], ?_⟩
    rw [hinstalled, hfiles]
    simp
  · exact if_pos (BridgeStore.afterWrite_of_noFailure s s.files (hsmooth hs).writes).1

/-- An item that is removed from the spool. -/
theorem removeItem_ends {spoolItemId : String} {s : BridgeStore} (h : Recoverable hash hostId s)
    (hsmooth : smooth → Synced s)
    (hkind : ∀ removed, spoolGet s.items spoolItemId = some removed →
      removed.payloadKind ≠ .eventReservationV3) :
    Ends hash hostId smooth
      (fun s' => s'.state = s.state ∧ s'.items = withoutItems s.items [spoolItemId] ∧
        s'.files.items = withoutItems s.items [spoolItemId] ∧ (smooth → Synced s'))
      ((removeItem spoolItemId).run s).1 ((removeItem spoolItemId).run s).2 := by
  have hitems : ∀ state, state = s.state ∨ state = s.files.state →
      Resumable hash hostId ⟨state, withoutItems s.items [spoolItemId]⟩ := fun state hstate =>
    (h.pairs state s.items hstate (.inl rfl)).removeItem hkind
  have hwritten : Recoverable hash hostId
      (s.afterWrite { s.files with items := withoutItems s.items [spoolItemId] }) :=
    h.afterWrite (.inr rfl) hitems
  have hrun : (removeItem spoolItemId).run s
      = (persistSpool (withoutItems s.items [spoolItemId])).run s := rfl
  rw [hrun]
  show Ends hash hostId smooth _ (if _ then _ else _ : Except Thrown Unit × BridgeStore).1
    (if _ then _ else _ : Except Thrown Unit × BridgeStore).2
  by_cases hwrite : s.nextWrite = .written ∨ s.nextWrite = .replaced
  · rw [if_pos hwrite]
    have hinstalled : (s.afterWrite
        { s.files with items := withoutItems s.items [spoolItemId] }).files
          = { s.files with items := withoutItems s.items [spoolItemId] } := by
      rcases hwrite with hwrite | hwrite
      · simp [BridgeStore.afterWrite, hwrite, WriteOutcome.installs, BridgeStore.install]
      · simp [BridgeStore.afterWrite, hwrite, WriteOutcome.installs, BridgeStore.install]
    refine ⟨hwritten.withItems fun state hstate => ?_, fun _ => ⟨by simp, rfl, ?_, fun hs => ?_⟩,
      fun _ => rfl⟩
    · rw [hinstalled, BridgeStore.afterWrite_state] at hstate
      exact hitems state hstate
    · show (s.afterWrite _).files.items = _
      rw [hinstalled]
    · obtain ⟨hwrites, hfiles⟩ := hsmooth hs
      refine ⟨by simp [hwrites], ?_⟩
      show (s.afterWrite _).files = _
      rw [hinstalled, hfiles]
      simp
  · rw [if_neg hwrite]
    refine ⟨hwritten, fun hok => ?_, fun hs => absurd (Or.inl ?_) hwrite⟩
    · cases hok
    · exact (BridgeStore.afterWrite_of_noFailure s s.files (hsmooth hs).writes).1

/-! ### The steps of a completion -/

/-- A recoverable store with an unfinished completion. -/
structure Underway (hash : ContentHash) (hostId : String) (smooth : Prop) (eventId : String)
    (completion : EventUploadCompletionV1) (s : BridgeStore) : Prop where
  recoverable : Recoverable hash hostId s
  journaled : s.state.eventUploadCompletions.get? eventId = some completion
  synced : smooth → Synced s

variable {eventId : String} {completion : EventUploadCompletionV1}

/-- The completion fits with each of the two item lists. -/
theorem Underway.fits {s : BridgeStore}
    (h : Underway hash hostId smooth eventId completion s) {items : List SpoolItem}
    (hitems : items = s.items ∨ items = s.files.items) :
    CompletionFits s.state items eventId completion :=
  (h.recoverable.pairs _ _ (.inl rfl) hitems).fits h.journaled

/-- The write of the next revision in the words of `mutateAndPersist`. -/
theorem run_commitSessionRevision_next {sessionId : String} {revision : Nat} {s : BridgeStore}
    (h : readCurrentSessionRevision s.state sessionId + 1 = revision) :
    (commitSessionRevision sessionId revision).run s
      = (mutateAndPersist fun state =>
          { state with sessionRevisions := state.sessionRevisions.set sessionId revision }).run s := by
  subst h
  have hne : readCurrentSessionRevision s.state sessionId + 1
      ≠ readCurrentSessionRevision s.state sessionId := by omega
  have htransition : commitSessionRevisionTransition s.state sessionId
      (readCurrentSessionRevision s.state sessionId + 1) = .ok (.next { s.state with
        sessionRevisions := s.state.sessionRevisions.set sessionId
          (readCurrentSessionRevision s.state sessionId + 1) } ()) := by
    simp only [commitSessionRevisionTransition, if_neg hne, if_true]
  rw [commitSessionRevision, applyTransition, Effect.run_bind, Effect.run_get, Effect.next_ok]
  simp only [htransition]
  rw [Effect.run_bind, setState, Effect.run_modify, Effect.next_ok, Effect.run_bind,
    mutateAndPersist, Effect.run_bind, Effect.run_modify, Effect.next_ok]
  rcases persist.run _ with ⟨_ | _, _⟩
  · rfl
  · rfl

/-- A committed revision that is the current one is not written again. -/
theorem run_commitSessionRevision_same {sessionId : String} {revision : Nat} {s : BridgeStore}
    (h : readCurrentSessionRevision s.state sessionId = revision) :
    (commitSessionRevision sessionId revision).run s = (.ok (), s) := by
  subst h
  rw [commitSessionRevision, applyTransition, Effect.run_bind, Effect.run_get, Effect.next_ok]
  simp only [commitSessionRevisionTransition, if_true]
  rfl

/-- A revision that is neither the current one nor the next one is refused. -/
theorem run_commitSessionRevision_stale {sessionId : String} {revision : Nat} {s : BridgeStore}
    (hcurrent : readCurrentSessionRevision s.state sessionId ≠ revision)
    (hnext : readCurrentSessionRevision s.state sessionId + 1 ≠ revision) :
    (commitSessionRevision sessionId revision).run s
      = (.error (.typeError "session revision must advance monotonically"), s) := by
  rw [commitSessionRevision, applyTransition, Effect.run_bind, Effect.run_get, Effect.next_ok]
  simp only [commitSessionRevisionTransition, if_neg (Ne.symm hcurrent), if_neg (Ne.symm hnext)]
  rfl

/-- The first step commits the revision of the completion. -/
theorem commitSessionRevision_ends :
    Effect.Triple (Underway hash hostId smooth eventId completion)
      (commitSessionRevision completion.sessionId completion.revision)
      (Ends hash hostId smooth fun s => Underway hash hostId smooth eventId completion s ∧
        readCurrentSessionRevision s.state completion.sessionId = completion.revision) := by
  intro s hs
  rcases (hs.fits (.inl rfl)).revision with hcurrent | ⟨-, hnext⟩
  · rw [run_commitSessionRevision_same hcurrent]
    exact ⟨hs.recoverable, fun _ => ⟨hs, hcurrent⟩, fun _ => rfl⟩
  · rw [run_commitSessionRevision_next hnext]
    have hends := mutateAndPersist_ends (f := fun state => { state with
      sessionRevisions := state.sessionRevisions.set completion.sessionId completion.revision })
      hs.recoverable hs.synced fun items hitems => by
        have hpair := hs.recoverable.pairs s.state items (.inl rfl) hitems
        rw [← hnext]
        refine hpair.setRevision fun eventId' other hget hsession => ?_
        obtain rfl := hpair.onePerSession _ _ _ _ hget hs.journaled hsession
        obtain rfl : other = completion := Option.some.inj (hget.symm.trans hs.journaled)
        exact hnext.symm
    refine ⟨hends.recoverable, fun hok => ?_, hends.returns⟩
    obtain ⟨hstate, -, -, hsynced⟩ := hends.returned hok
    refine ⟨⟨hends.recoverable, ?_, hsynced⟩, ?_⟩
    · rw [hstate]
      exact hs.journaled
    · rw [hstate]
      exact readCurrentSessionRevision_set_self _ _ _

/-- The journal of a completion under way takes a change that fits. -/
theorem updateEventCompletion_ends {patch : EventUploadCompletionV1 → EventUploadCompletionV1}
    {s : BridgeStore} (h : Underway hash hostId smooth eventId completion s)
    (hsession : (patch completion).sessionId = completion.sessionId)
    (hfits : ∀ items, items = s.items ∨ items = s.files.items →
      CompletionFits s.state items eventId (patch completion)) :
    Ends hash hostId smooth (Underway hash hostId smooth eventId (patch completion))
      ((updateEventCompletion eventId patch).run s).1
      ((updateEventCompletion eventId patch).run s).2 := by
  have hrun : (updateEventCompletion eventId patch).run s
      = (mutateAndPersist fun state => { state with
          eventUploadCompletions := state.eventUploadCompletions.set eventId
            (patch completion) }).run s := by
    rw [updateEventCompletion, Effect.run_bind, Effect.run_get, Effect.next_ok, h.journaled]
  have hnamed : eventId = (patch completion).eventId := (hfits _ (.inl rfl)).named
  rw [hrun]
  have hends := mutateAndPersist_ends (f := fun state => { state with
    eventUploadCompletions := state.eventUploadCompletions.set eventId (patch completion) })
    h.recoverable h.synced fun items hitems => by
      have hpair := h.recoverable.pairs s.state items (.inl rfl) hitems
      have hfit : CompletionFits s.state items (patch completion).eventId (patch completion) :=
        hnamed ▸ hfits items hitems
      have hset := hpair.setCompletion hfit fun eventId' other hget hother => by
        rw [← hnamed]
        exact hpair.onePerSession _ _ _ _ hget h.journaled (hother.trans hsession)
      rw [withCompletion, ← hnamed] at hset
      exact hset
  refine ⟨hends.recoverable, fun hok => ?_, hends.returns⟩
  obtain ⟨hstate, -, -, hsynced⟩ := hends.returned hok
  refine ⟨hends.recoverable, ?_, hsynced⟩
  rw [hstate]
  exact Dict.get?_set_self _ _ _

/-- The first step with its flag. -/
theorem commitStep_ends :
    Effect.Triple (Underway hash hostId smooth eventId completion)
      (completionStep completion.revisionCommitted eventId
        (commitSessionRevision completion.sessionId completion.revision)
        fun c => { c with revisionCommitted := true })
      (Ends hash hostId smooth
        (Underway hash hostId smooth eventId { completion with revisionCommitted := true })) := by
  intro s hs
  rw [completionStep]
  rcases hflag : completion.revisionCommitted with _ | _
  · rw [if_neg Bool.false_ne_true]
    refine ends_bind commitSessionRevision_ends (fun t ht => ?_) s hs
    refine @updateEventCompletion_ends _ _ _ _ completion
      (fun c => { c with revisionCommitted := true }) t ht.1 rfl fun items hitems => ?_
    have hfits := ht.1.fits hitems
    exact ⟨hfits.named, hfits.ofSession, .inl ht.2, fun _ => rfl, hfits.inflightFirst,
      hfits.inflight, hfits.source⟩
  · rw [if_pos rfl]
    have hsame : { completion with revisionCommitted := true } = completion := by
      rw [← hflag]
    rw [hsame]
    exact ⟨hs.recoverable, fun _ => hs, fun _ => rfl⟩

/-- A step that removes an item, with its flag. -/
theorem removalStep_ends {done : Bool} {spoolItemId : String}
    {patch : EventUploadCompletionV1 → EventUploadCompletionV1}
    (hdone : done = true → patch completion = completion)
    (hsession : (patch completion).sessionId = completion.sessionId)
    (hkind : ∀ state items, CompletionFits state items eventId completion →
      ∀ removed, spoolGet items spoolItemId = some removed →
        removed.payloadKind ≠ .eventReservationV3)
    (hpatch : ∀ state items, CompletionFits state items eventId completion →
      spoolGet items spoolItemId = none → CompletionFits state items eventId (patch completion)) :
    Effect.Triple (Underway hash hostId smooth eventId completion)
      (completionStep done eventId (removeItem spoolItemId) patch)
      (Ends hash hostId smooth (Underway hash hostId smooth eventId (patch completion))) := by
  intro s hs
  rw [completionStep]
  rcases done with _ | _
  · rw [if_neg Bool.false_ne_true]
    have hremove : Effect.Triple (Underway hash hostId smooth eventId completion)
        (removeItem spoolItemId) (Ends hash hostId smooth fun t =>
          Underway hash hostId smooth eventId completion t ∧
            spoolGet t.items spoolItemId = none ∧ spoolGet t.files.items spoolItemId = none) := by
      intro t ht
      have hends := removeItem_ends ht.recoverable ht.synced (hkind _ _ (ht.fits (.inl rfl)))
      refine ⟨hends.recoverable, fun hok => ?_, hends.returns⟩
      obtain ⟨hstate, hitems, hfiles, hsynced⟩ := hends.returned hok
      refine ⟨⟨hends.recoverable, ?_, hsynced⟩, ?_, ?_⟩
      · rw [hstate]
        exact ht.journaled
      · rw [hitems]
        exact spoolGet_withoutItems_of_mem (List.mem_singleton_self _)
      · rw [hfiles]
        exact spoolGet_withoutItems_of_mem (List.mem_singleton_self _)
    refine ends_bind hremove (fun t ht => ?_) s hs
    refine updateEventCompletion_ends ht.1 hsession fun items hitems => ?_
    refine hpatch _ _ (ht.1.fits hitems) ?_
    rcases hitems with rfl | rfl
    · exact ht.2.1
    · exact ht.2.2
  · rw [if_pos rfl, hdone rfl]
    exact ⟨hs.recoverable, fun _ => hs, fun _ => rfl⟩

/-- The completion with every flag set. -/
def finished (completion : EventUploadCompletionV1) : EventUploadCompletionV1 :=
  { completion with revisionCommitted := true, inflightRemoved := true, sourceRemoved := true }

/-- The second step, after the revision is committed. -/
theorem inflightStep_ends :
    Effect.Triple
      (Underway hash hostId smooth eventId { completion with revisionCommitted := true })
      (completionStep completion.inflightRemoved eventId (removeItem (inflightEventItemId eventId))
        fun c => { c with inflightRemoved := true })
      (Ends hash hostId smooth (Underway hash hostId smooth eventId
        { completion with revisionCommitted := true, inflightRemoved := true })) := by
  refine @removalStep_ends _ _ _ eventId { completion with revisionCommitted := true } _ _
    (fun c => { c with inflightRemoved := true }) (fun hdone => ?_) rfl
    (fun state items hfits removed hremoved => ?_) fun state items hfits hfree => ?_
  · rw [← hdone]
  · obtain rfl : eventId = completion.eventId := hfits.named
    rw [(hfits.inflight removed hremoved).1]
    exact nofun
  · refine ⟨hfits.named, hfits.ofSession, hfits.revision, fun _ => rfl, fun _ => rfl,
      fun item hitem => ?_, hfits.source⟩
    obtain rfl : eventId = completion.eventId := hfits.named
    cases hfree.symm.trans hitem

/-- The third step, after the upload in flight is removed. -/
theorem sourceStep_ends :
    Effect.Triple
      (Underway hash hostId smooth eventId
        { completion with revisionCommitted := true, inflightRemoved := true })
      (completionStep completion.sourceRemoved eventId (removeItem eventId)
        fun c => { c with sourceRemoved := true })
      (Ends hash hostId smooth (Underway hash hostId smooth eventId (finished completion))) := by
  refine @removalStep_ends _ _ _ eventId
    { completion with revisionCommitted := true, inflightRemoved := true } _ _
    (fun c => { c with sourceRemoved := true }) (fun hdone => ?_) rfl
    (fun state items hfits removed hremoved => ?_) fun state items hfits hfree => ?_
  · rw [← hdone]
  · obtain rfl : eventId = completion.eventId := hfits.named
    rw [(hfits.source removed hremoved).1]
    exact nofun
  · refine ⟨hfits.named, hfits.ofSession, hfits.revision, fun _ => rfl, fun _ => rfl,
      hfits.inflight, fun item hitem => ?_⟩
    obtain rfl : eventId = completion.eventId := hfits.named
    cases hfree.symm.trans hitem

/-- A completion is finished: its revision is the current one, its items are gone and so is
its journal. -/
structure Settled (eventId : String) (completion : EventUploadCompletionV1) (s : BridgeStore) :
    Prop where
  cleared : s.state.eventUploadCompletions.get? eventId = none
  revision : readCurrentSessionRevision s.state completion.sessionId = completion.revision
  inflight : spoolGet s.items (inflightEventItemId eventId) = none
  source : spoolGet s.items eventId = none

/-- The last step clears the journal. -/
theorem clearStep_ends :
    Effect.Triple (Underway hash hostId smooth eventId (finished completion))
      (mutateAndPersist fun state =>
        { state with eventUploadCompletions := state.eventUploadCompletions.erase eventId })
      (Ends hash hostId smooth fun s => (smooth → Synced s) ∧ Settled eventId completion s) := by
  intro s hs
  have hends := mutateAndPersist_ends (f := fun state => { state with
    eventUploadCompletions := state.eventUploadCompletions.erase eventId })
    hs.recoverable hs.synced fun items hitems =>
      (hs.recoverable.pairs s.state items (.inl rfl) hitems).eraseCompletion eventId
  refine ⟨hends.recoverable, fun hok => ?_, hends.returns⟩
  obtain ⟨hstate, hitems, -, hsynced⟩ := hends.returned hok
  have hfits := hs.fits (.inl rfl)
  have hnamed : eventId = completion.eventId := hfits.named
  refine ⟨hsynced, ?_, ?_, ?_, ?_⟩
  · rw [hstate]
    exact Dict.get?_erase_self _ _
  · rw [hstate]
    exact hfits.revision.elim id fun h => absurd h.1 Bool.true_eq_false_eq_False
  · rw [hitems, hnamed, Option.eq_none_iff_forall_ne_some]
    intro item hitem
    exact absurd (hfits.inflight item hitem).2.2 Bool.true_eq_false_eq_False
  · rw [hitems, hnamed, Option.eq_none_iff_forall_ne_some]
    intro item hitem
    exact absurd (hfits.source item hitem).2.2 Bool.true_eq_false_eq_False

/-- The four steps in a row. -/
theorem completionSteps_ends :
    Effect.Triple (Underway hash hostId smooth eventId completion)
      (completionSteps eventId completion)
      (Ends hash hostId smooth fun s => (smooth → Synced s) ∧ Settled eventId completion s) := by
  unfold completionSteps
  refine ends_bind commitStep_ends ?_
  refine ends_bind inflightStep_ends ?_
  exact ends_bind sourceStep_ends clearStep_ends

/-- A completion from wherever it had got to. -/
theorem completeEventUpload_ends {s : BridgeStore} (h : Recoverable hash hostId s)
    (hsmooth : smooth → Synced s) (eventId : String) :
    Ends hash hostId smooth
      (fun s' => (smooth → Synced s') ∧ ∀ completion,
        s.state.eventUploadCompletions.get? eventId = some completion →
          Settled eventId completion s')
      ((completeEventUpload eventId).run s).1 ((completeEventUpload eventId).run s).2 := by
  rw [run_completeEventUpload]
  rcases hget : s.state.eventUploadCompletions.get? eventId with _ | completion
  · exact ⟨h, fun _ => ⟨hsmooth, nofun⟩, fun _ => rfl⟩
  · have hends := completionSteps_ends s ⟨h, hget, hsmooth⟩
    refine ⟨hends.recoverable, fun hok => ⟨(hends.returned hok).1, ?_⟩, hends.returns⟩
    rintro _ ⟨⟩
    exact (hends.returned hok).2

end

end

/-! ### What a completion leaves alone -/

/-- The journals of the other events, the revisions of the other Sessions and the ids that
are free in the spool stay. -/
structure Keeps (eventId sessionId : String) (s s' : BridgeStore) : Prop where
  journal : ∀ other, other ≠ eventId →
    s'.state.eventUploadCompletions.get? other = s.state.eventUploadCompletions.get? other
  revisions : ∀ other, other ≠ sessionId →
    readCurrentSessionRevision s'.state other = readCurrentSessionRevision s.state other
  items : ∀ id, spoolGet s.items id = none → spoolGet s'.items id = none

section
variable {eventId sessionId : String}

theorem keeps_refl (s : BridgeStore) : Keeps eventId sessionId s s :=
  ⟨fun _ _ => rfl, fun _ _ => rfl, fun _ h => h⟩

theorem keeps_trans (s t u : BridgeStore) (h₁ : Keeps eventId sessionId s t)
    (h₂ : Keeps eventId sessionId t u) : Keeps eventId sessionId s u where
  journal other hne := (h₂.journal other hne).trans (h₁.journal other hne)
  revisions other hne := (h₂.revisions other hne).trans (h₁.revisions other hne)
  items id h := h₂.items id (h₁.items id h)

theorem keeps_mutateAndPersist {f : PersistedBridgeState → PersistedBridgeState}
    (hjournal : ∀ state other, other ≠ eventId →
      (f state).eventUploadCompletions.get? other = state.eventUploadCompletions.get? other)
    (hrevisions : ∀ state other, other ≠ sessionId →
      readCurrentSessionRevision (f state) other = readCurrentSessionRevision state other) :
    Effect.Leaves (Keeps eventId sessionId) (mutateAndPersist f) := by
  intro s
  show Keeps eventId sessionId s
    (BridgeStore.afterWrite { s with state := f s.state } { s.files with state := f s.state })
  refine ⟨fun other hne => ?_, fun other hne => ?_, fun id h => ?_⟩
  · rw [BridgeStore.afterWrite_state]
    exact hjournal _ other hne
  · rw [BridgeStore.afterWrite_state]
    exact hrevisions _ other hne
  · rw [BridgeStore.afterWrite_items]
    exact h

theorem keeps_removeItem (spoolItemId : String) :
    Effect.Leaves (Keeps eventId sessionId) (removeItem spoolItemId) := by
  intro s
  show Keeps eventId sessionId s (if _ then _ else _ : Except Thrown Unit × BridgeStore).2
  split
  · refine ⟨fun other _ => ?_, fun other _ => ?_, fun id h => ?_⟩
    · show (s.afterWrite _).state.eventUploadCompletions.get? other = _
      rw [BridgeStore.afterWrite_state]
    · show readCurrentSessionRevision (s.afterWrite _).state other = _
      rw [BridgeStore.afterWrite_state]
    · by_contra hsome
      obtain ⟨item, hitem⟩ := Option.ne_none_iff_exists'.mp hsome
      rw [spoolGet_of_withoutItems hitem] at h
      cases h
  · refine ⟨fun other _ => ?_, fun other _ => ?_, fun id h => ?_⟩
    · rw [BridgeStore.afterWrite_state]
    · rw [BridgeStore.afterWrite_state]
    · rw [BridgeStore.afterWrite_items]
      exact h

theorem keeps_commitSessionRevision (revision : Nat) :
    Effect.Leaves (Keeps eventId sessionId) (commitSessionRevision sessionId revision) := by
  intro s
  by_cases hcurrent : readCurrentSessionRevision s.state sessionId = revision
  · rw [run_commitSessionRevision_same hcurrent]
    exact keeps_refl s
  · by_cases hnext : readCurrentSessionRevision s.state sessionId + 1 = revision
    · rw [run_commitSessionRevision_next hnext]
      exact keeps_mutateAndPersist (f := fun state => { state with
          sessionRevisions := state.sessionRevisions.set sessionId revision })
        (fun _ _ _ => rfl)
        (fun state other hne => readCurrentSessionRevision_set_ne state _ hne) s
    · rw [run_commitSessionRevision_stale hcurrent hnext]
      exact keeps_refl s

theorem keeps_completionStep (done : Bool) {step : StoreEffect Unit}
    (hstep : Effect.Leaves (Keeps eventId sessionId) step)
    (patch : EventUploadCompletionV1 → EventUploadCompletionV1) :
    Effect.Leaves (Keeps eventId sessionId) (completionStep done eventId step patch) := by
  refine Effect.Leaves.ite (fun _ => Effect.Leaves.pure keeps_refl ()) fun _ => ?_
  refine Effect.Leaves.bind keeps_trans hstep fun _ => ?_
  refine Effect.Leaves.bind keeps_trans (Effect.Leaves.get keeps_refl) fun s => ?_
  split
  · exact Effect.Leaves.throw keeps_refl _
  · exact keeps_mutateAndPersist (fun state other hne => Dict.get?_set_ne _ _ hne) fun _ _ _ => rfl

theorem keeps_completionSteps (completion : EventUploadCompletionV1) :
    Effect.Leaves (Keeps eventId completion.sessionId) (completionSteps eventId completion) := by
  unfold completionSteps
  refine Effect.Leaves.bind keeps_trans ?_ fun _ => ?_
  · exact keeps_completionStep _ (keeps_commitSessionRevision completion.revision) _
  refine Effect.Leaves.bind keeps_trans ?_ fun _ => ?_
  · exact keeps_completionStep _ (keeps_removeItem (inflightEventItemId eventId)) _
  refine Effect.Leaves.bind keeps_trans ?_ fun _ => ?_
  · exact keeps_completionStep _ (keeps_removeItem eventId) _
  · exact keeps_mutateAndPersist (fun state other hne => Dict.get?_erase_ne _ hne) fun _ _ _ => rfl

/-- What the completions of these events leave alone. -/
structure KeepsOthers (eventIds : List String) (s s' : BridgeStore) : Prop where
  journal : ∀ other, other ∉ eventIds →
    s'.state.eventUploadCompletions.get? other = s.state.eventUploadCompletions.get? other
  revisions : ∀ sessionId, (∀ eventId ∈ eventIds, ∀ completion,
      s.state.eventUploadCompletions.get? eventId = some completion →
        completion.sessionId ≠ sessionId) →
    readCurrentSessionRevision s'.state sessionId = readCurrentSessionRevision s.state sessionId
  items : ∀ id, spoolGet s.items id = none → spoolGet s'.items id = none

theorem keepsOthers_completeEventUpload (eventId : String) :
    Effect.Leaves (KeepsOthers [eventId]) (completeEventUpload eventId) := by
  intro s
  rw [run_completeEventUpload]
  rcases hget : s.state.eventUploadCompletions.get? eventId with _ | completion
  · exact ⟨fun _ _ => rfl, fun _ _ => rfl, fun _ h => h⟩
  · obtain ⟨hjournal, hrevisions, hitems⟩ := keeps_completionSteps completion s
    refine ⟨fun other hother => hjournal other ?_, fun sessionId hall => hrevisions sessionId ?_,
      hitems⟩
    · exact fun heq => hother (List.mem_singleton.mpr heq)
    · exact (hall eventId (List.mem_singleton_self _) completion hget).symm

end

/-! ### Resuming every completion -/

section
variable {hash : ContentHash} {hostId : String} {smooth : Prop}

/-- A settled completion stays settled when the completions of other events follow, none of
which is of its Session. -/
theorem Settled.keepsOthers {eventId : String} {completion : EventUploadCompletionV1}
    {eventIds : List String} {s s' : BridgeStore} (h : Settled eventId completion s)
    (hkeeps : KeepsOthers eventIds s s') (hnot : eventId ∉ eventIds)
    (hsession : ∀ other ∈ eventIds, ∀ unfinished,
      s.state.eventUploadCompletions.get? other = some unfinished →
        unfinished.sessionId ≠ completion.sessionId) :
    Settled eventId completion s' where
  cleared := (hkeeps.journal eventId hnot).trans h.cleared
  revision := (hkeeps.revisions _ hsession).trans h.revision
  inflight := hkeeps.items _ h.inflight
  source := hkeeps.items _ h.source

/-- What a completion of one event leaves alone, and then the completions of the rest. -/
theorem KeepsOthers.cons {eventId : String} {rest : List String} {s t u : BridgeStore}
    (hnot : eventId ∉ rest) (h₁ : KeepsOthers [eventId] s t) (h₂ : KeepsOthers rest t u) :
    KeepsOthers (eventId :: rest) s u where
  journal other hother := by
    rw [List.mem_cons, not_or] at hother
    exact (h₂.journal other hother.2).trans
      (h₁.journal other (fun h => hother.1 (List.mem_singleton.mp h)))
  revisions sessionId hall := by
    refine (h₂.revisions sessionId fun other hother completion hget => ?_).trans
      (h₁.revisions sessionId fun other hother => ?_)
    · have hne : other ∉ [eventId] := fun h => hnot (List.mem_singleton.mp h ▸ hother)
      rw [h₁.journal other hne] at hget
      exact hall other (List.mem_cons_of_mem _ hother) completion hget
    · rw [List.mem_singleton.mp hother]
      exact hall eventId (List.mem_cons_self ..)
  items id h := h₂.items id (h₁.items id h)

/-- The loop of `resumeEventUploadCompletions`, by induction on the events that are left. -/
theorem resumeLoop_ends {eventIds : List String} (hnodup : eventIds.Nodup) {s : BridgeStore}
    (h : Recoverable hash hostId s) (hsmooth : smooth → Synced s) :
    KeepsOthers eventIds s ((Effect.forEach eventIds completeEventUpload).run s).2 ∧
      Ends hash hostId smooth
        (fun s' => (smooth → Synced s') ∧ ∀ eventId ∈ eventIds, ∀ completion,
          s.state.eventUploadCompletions.get? eventId = some completion →
            Settled eventId completion s')
        ((Effect.forEach eventIds completeEventUpload).run s).1
        ((Effect.forEach eventIds completeEventUpload).run s).2 := by
  induction eventIds generalizing s with
  | nil =>
    refine ⟨⟨fun _ _ => rfl, fun _ _ => rfl, fun _ hid => hid⟩, h, fun _ => ⟨hsmooth, ?_⟩,
      fun _ => rfl⟩
    exact fun _ hmem => absurd hmem List.not_mem_nil
  | cons eventId rest ih =>
    obtain ⟨hnot, hrest⟩ := List.nodup_cons.mp hnodup
    have hkeeps := keepsOthers_completeEventUpload eventId s
    have hends := completeEventUpload_ends h hsmooth eventId
    rw [Effect.forEach, Effect.run_bind]
    rcases hrun : (completeEventUpload eventId).run s with ⟨thrown | _, t⟩
    · rw [hrun] at hkeeps hends
      refine ⟨hkeeps.cons hnot ⟨fun _ _ => rfl, fun _ _ => rfl, fun _ hid => hid⟩, ?_⟩
      exact ⟨hends.recoverable, nofun, hends.returns⟩
    · rw [hrun] at hkeeps hends
      rw [Effect.next_ok]
      obtain ⟨hsynced, hsettled⟩ := hends.returned rfl
      obtain ⟨hkeepsRest, hendsRest⟩ := ih hrest hends.recoverable hsynced
      refine ⟨hkeeps.cons hnot hkeepsRest, hendsRest.recoverable, fun hok => ?_,
        hendsRest.returns⟩
      obtain ⟨hsyncedRest, hsettledRest⟩ := hendsRest.returned hok
      have hsame : ∀ other ∈ rest, t.state.eventUploadCompletions.get? other
          = s.state.eventUploadCompletions.get? other := fun other hother =>
        hkeeps.journal other fun hmem => hnot (List.mem_singleton.mp hmem ▸ hother)
      refine ⟨hsyncedRest, fun other hother completion hget => ?_⟩
      rcases List.mem_cons.mp hother with rfl | hother
      · refine (hsettled completion hget).keepsOthers hkeepsRest hnot
          fun unfinishedId hmem unfinished hunfinished hsession => ?_
        -- the two completions would be of one Session
        rw [hsame unfinishedId hmem] at hunfinished
        have hone := (h.pairs s.state s.items (.inl rfl) (.inl rfl)).onePerSession
        have heq : unfinishedId = other := hone _ _ _ _ hunfinished hget hsession
        exact hnot (heq ▸ hmem)
      · rw [← hsame other hother] at hget
        exact hsettledRest other hother completion hget

theorem resumeEventUploadCompletions_ends {s : BridgeStore} (h : Recoverable hash hostId s)
    (hsmooth : smooth → Synced s) :
    Ends hash hostId smooth
      (fun s' => (smooth → Synced s') ∧ s'.state.eventUploadCompletions = ∅ ∧
        ∀ eventId completion, s.state.eventUploadCompletions.get? eventId = some completion →
          Settled eventId completion s')
      (resumeEventUploadCompletions.run s).1 (resumeEventUploadCompletions.run s).2 := by
  have hrun : resumeEventUploadCompletions.run s
      = (Effect.forEach s.state.eventUploadCompletions.keys completeEventUpload).run s := rfl
  obtain ⟨hkeeps, hends⟩ :=
    resumeLoop_ends (s.state.eventUploadCompletions.nodupKeys) h hsmooth
  rw [hrun]
  refine ⟨hends.recoverable, fun hok => ?_, hends.returns⟩
  obtain ⟨hsynced, hsettled⟩ := hends.returned hok
  have hall : ∀ eventId completion,
      s.state.eventUploadCompletions.get? eventId = some completion →
        Settled eventId completion _ := fun eventId completion hget =>
    hsettled eventId (Dict.mem_keys_iff.mpr ⟨completion, hget⟩) completion hget
  refine ⟨hsynced, Dict.eq_empty_iff.mpr fun eventId => ?_, hall⟩
  rcases hget : s.state.eventUploadCompletions.get? eventId with _ | completion
  · rw [← hget]
    exact hkeeps.journal eventId (Dict.not_mem_keys_iff.mpr hget)
  · exact (hall eventId completion hget).cleared

/-- A restart from these files that meets no failed write finishes every completion that they
hold, and the files at the end are what is in memory. -/
def Resumes (files : RuntimeFiles) : Prop :=
  ∀ ready, ∃ s, resumeEventUploadCompletions.run (BridgeStore.opened files ready [])
      = (.ok (), s) ∧ s.files = ⟨s.state, s.items⟩ ∧ s.state.eventUploadCompletions = ∅ ∧
    ∀ eventId completion, files.state.eventUploadCompletions.get? eventId = some completion →
      Settled eventId completion s

/-- Resumable files are resumed. -/
theorem Resumable.resumes {files : RuntimeFiles} (h : Resumable hash hostId files) :
    Resumes files := by
  intro ready
  have hends := @resumeEventUploadCompletions_ends _ _ True _
    (recoverable_opened h ready []) fun _ => ⟨rfl, rfl⟩
  have hok := hends.returns trivial
  obtain ⟨hsynced, hempty, hsettled⟩ := hends.returned hok
  exact ⟨_, Prod.ext hok rfl, (hsynced trivial).files, hempty, hsettled⟩

end

end Ariava.StateStore
