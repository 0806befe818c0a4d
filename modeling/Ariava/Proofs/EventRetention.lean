import Ariava.E2e.EventUploads

/-!
# `Ariava.Proofs.EventRetention`: no pending event is lost

Every write that the turn of a pending event makes, seen with the calls before it. The process may
stop after any of them, so each write has to be right on its own (`WriteSound`):

- the source goes out of the spool once its upload is known to be committed, or into a dead letter
  that has it and its inflight;
- the inflight is replaced or archived only after the Relay answered that it is not committed;
- after an answer that leaves it open what became of a call, nothing is written.

A turn keeps a history whose writes are sound (`HistorySound`). `Steady` is what holds between its
parts: the memory is what the files hold, and every answer so far was a definite one. An upload is
published while it is the one in flight (`InFlight`), so its verdict is about the record that a
later write takes away.

- `HistorySound.sourceKept`, `HistorySound.inflightKept`: where the records are at any point;
- `HistorySound.uncertain`: after an uncertain answer nothing is written;
- `noEventLoss`: the turns of `processPendingEventDescriptor` and `publishEventUpload`.
-/

set_option autoImplicit false

namespace Ariava.Proofs.EventRetention

open Ariava.Lib
open Ariava.Protocol
open Ariava.StateStore
open Ariava.E2e

/-! ### Sound writes -/

/-- The upload that the answer of a call proves committed. -/
def provenBy : EventCall → Option E2EEventAndSessionUploadV3
  | .publication upload (.ok ()) => some upload
  | .reconciliation upload (.ok true) => some upload
  | _ => none

/-- The answer leaves it open what became of the call: it is no conflict and no verdict. -/
def isUncertain : EventCall → Bool
  | .publication _ (.error failure) => !isRelayConflict failure
  | .reconciliation _ (.error _) => true
  | .refresh none => true
  | _ => false

section
variable (descriptor : PendingEventDescriptor)

/-- The upload is of the event and the Session of the descriptor. -/
def IsUploadOf (upload : E2EEventAndSessionUploadV3) : Prop :=
  upload.event.eventId = descriptor.eventId ∧ upload.session.sessionId = descriptor.sessionId

/-- The source has the ids of the descriptor. -/
structure IsSourceOf (source : PendingEventSource) : Prop where
  eventId : source.event.eventId = descriptor.eventId
  eventSessionId : source.event.sessionId = descriptor.sessionId
  sessionId : source.session.sessionId = descriptor.sessionId

/-- A call proved an upload of the event committed. -/
def Committed (calls : List EventCall) : Prop :=
  ∃ call ∈ calls, ∃ upload, provenBy call = some upload ∧ IsUploadOf descriptor upload

/-- A dead letter of the event has its source, and its inflight if there was one. -/
def Archived (files : RuntimeFiles) (source : SpoolItem) (inflight : Option SpoolPlaintext) :
    Prop :=
  ∃ item header, spoolGet files.items (deadLetterItemId descriptor.eventId) = some item ∧
    item.plaintext = deadLetterRecord header source.plaintext inflight ∧
      header.eventId = descriptor.eventId ∧ header.sessionId = descriptor.sessionId

/-- The Relay answered that the upload of an inflight is not committed. -/
def ProvenUncommitted (calls : List EventCall) (item : SpoolItem) : Prop :=
  ∃ digest upload, item.plaintext = .eventUpload digest upload ∧
    .reconciliation upload (.ok false) ∈ calls

/-- A write of the turn of an event after some calls. With `journaled` the spool had a completion
journal of the event before the turn. -/
structure WriteSound (journaled : Bool) (calls : List EventCall) (before after : RuntimeFiles) :
    Prop where
  certain : ∀ call ∈ calls, isUncertain call = false
  source : ∀ item, spoolGet before.items descriptor.eventId = some item →
    spoolGet after.items descriptor.eventId = some item ∨
      (journaled = true ∨ Committed descriptor calls) ∨
        Archived descriptor after item (openInflightEventRaw before.items descriptor.eventId)
  inflight : ∀ item, spoolGet before.items (inflightEventItemId descriptor.eventId) = some item →
    spoolGet after.items (inflightEventItemId descriptor.eventId) = some item ∨
      (spoolGet after.items (inflightEventItemId descriptor.eventId) = none ∧
        (journaled = true ∨ Committed descriptor calls)) ∨
      ProvenUncommitted calls item
  journal : (after.state.eventUploadCompletions.get? descriptor.eventId).isSome →
    (before.state.eventUploadCompletions.get? descriptor.eventId).isSome ∨
      Committed descriptor calls
  deadLetter : ∀ item,
    spoolGet before.items (deadLetterItemId descriptor.eventId) = some item →
    spoolGet after.items (deadLetterItemId descriptor.eventId) = some item
  others : ∀ id, id ≠ descriptor.eventId → id ≠ inflightEventItemId descriptor.eventId →
    id ≠ deadLetterItemId descriptor.eventId → spoolGet after.items id = spoolGet before.items id

/-- Each write of a history is sound after the calls before it. -/
def HistorySound (journaled : Bool) (start : RuntimeFiles) : List EventStep → Prop
  | [] => True
  | .called _ :: earlier => HistorySound journaled start earlier
  | .wrote files :: earlier =>
      WriteSound descriptor journaled (earlier.filterMap EventStep.call?)
        (filesAfter start (earlier.filterMap EventStep.files?)) files ∧
      HistorySound journaled start earlier

end

/-! ### The ids of the records -/

theorem IsSourceOf.descriptor {descriptor : PendingEventDescriptor} {source : PendingEventSource}
    (h : IsSourceOf descriptor source) :
    (⟨source.event.eventId, source.event.sessionId⟩ : PendingEventDescriptor) = descriptor := by
  rw [h.eventId, h.eventSessionId]

section
variable (eventId : String)

theorem length_inflightEventItemId :
    (inflightEventItemId eventId).length = 15 + eventId.length := String.length_append ..

theorem length_deadLetterItemId :
    (deadLetterItemId eventId).length = 18 + eventId.length := String.length_append ..

theorem inflightEventItemId_ne : inflightEventItemId eventId ≠ eventId := by
  intro h
  have hlength := length_inflightEventItemId eventId
  rw [h] at hlength
  omega

theorem deadLetterItemId_ne : deadLetterItemId eventId ≠ eventId := by
  intro h
  have hlength := length_deadLetterItemId eventId
  rw [h] at hlength
  omega

theorem deadLetterItemId_ne_inflight : deadLetterItemId eventId ≠ inflightEventItemId eventId := by
  intro h
  have hlength := length_deadLetterItemId eventId
  rw [h, length_inflightEventItemId] at hlength
  omega

end

/-! ### The writes of a turn -/

section
variable {descriptor : PendingEventDescriptor} {journaled : Bool} {calls : List EventCall}
  {before after : RuntimeFiles}

/-- A completion takes the records away. -/
theorem WriteSound.of_clears (hcertain : ∀ call ∈ calls, isUncertain call = false)
    (hknown : journaled = true ∨ Committed descriptor calls)
    (h : Clears descriptor.eventId before after) :
    WriteSound descriptor journaled calls before after := by
  obtain ⟨⟨removed, hremoved, hitems⟩, hjournal⟩ := h
  have hother : ∀ id, id ≠ descriptor.eventId → id ≠ inflightEventItemId descriptor.eventId →
      spoolGet after.items id = spoolGet before.items id := by
    intro id hne hne'
    rw [hitems]
    refine spoolGet_withoutItems_of_not_mem fun hmem => ?_
    rcases hremoved id hmem with heq | heq
    · exact hne heq
    · exact hne' heq
  refine ⟨hcertain, fun _ _ => .inr (.inl hknown), fun item hitem => ?_,
    fun hsome => .inl (hjournal hsome), fun item hitem => ?_,
    fun id hne hne' _ => hother id hne hne'⟩
  · rw [hitems]
    by_cases hmem : inflightEventItemId descriptor.eventId ∈ removed
    · exact .inr (.inl ⟨spoolGet_withoutItems_of_mem hmem, hknown⟩)
    · exact .inl (by rw [spoolGet_withoutItems_of_not_mem hmem, hitem])
  · rw [hother _ (deadLetterItemId_ne _) (deadLetterItemId_ne_inflight _), hitem]

/-- The journal of a completion is written. -/
theorem WriteSound.of_journal (hcertain : ∀ call ∈ calls, isUncertain call = false)
    (hcommitted : Committed descriptor calls) (hitems : after.items = before.items) :
    WriteSound descriptor journaled calls before after where
  certain := hcertain
  source item hitem := .inl (hitems ▸ hitem)
  inflight item hitem := .inl (hitems ▸ hitem)
  journal _ := .inr hcommitted
  deadLetter item hitem := hitems ▸ hitem
  others _ _ _ _ := by rw [hitems]

/-- What is in flight is this upload. -/
def InFlight (descriptor : PendingEventDescriptor) (items : List SpoolItem)
    (upload : E2EEventAndSessionUploadV3) : Prop :=
  ∀ item, spoolGet items (inflightEventItemId descriptor.eventId) = some item →
    ∃ digest, item.plaintext = .eventUpload digest upload

theorem InFlight.provenUncommitted {items : List SpoolItem} {upload : E2EEventAndSessionUploadV3}
    (h : InFlight descriptor items upload)
    (hcall : .reconciliation upload (.ok false) ∈ calls) (item : SpoolItem)
    (hitem : spoolGet items (inflightEventItemId descriptor.eventId) = some item) :
    ProvenUncommitted calls item := by
  obtain ⟨digest, hplaintext⟩ := h item hitem
  exact ⟨digest, upload, hplaintext, hcall⟩

/-- An item that takes the place of the inflight. -/
theorem WriteSound.of_replace {item : SpoolItem} {items : List SpoolItem}
    (hcertain : ∀ call ∈ calls, isUncertain call = false)
    (hid : item.spoolItemId = inflightEventItemId descriptor.eventId)
    (huncommitted : ∀ kept,
      spoolGet before.items (inflightEventItemId descriptor.eventId) = some kept →
      ProvenUncommitted calls kept)
    (h : replaceItems before.items [inflightEventItemId descriptor.eventId] [item] = .ok items) :
    WriteSound descriptor journaled calls before { before with items := items } := by
  rw [← hid] at h
  have hother : ∀ id, id ≠ inflightEventItemId descriptor.eventId →
      spoolGet items id = spoolGet before.items id := by
    intro id hne
    have hne' : (sealedItem item).spoolItemId ≠ id := fun heq => hne (heq ▸ hid)
    rw [replaceItems_single h, spoolGet_append_single, if_neg hne', Option.or_none,
      spoolGet_withoutItems_of_not_mem]
    exact fun hmem => hne (List.mem_singleton.mp hmem ▸ hid)
  refine ⟨hcertain, fun kept hkept => .inl ?_,
    fun kept hkept => .inr (.inr (huncommitted kept hkept)), .inl, fun kept hkept => ?_, fun id _ hne _ => hother id hne⟩
  · show spoolGet items descriptor.eventId = some kept
    rw [hother _ (inflightEventItemId_ne _).symm, hkept]
  · show spoolGet items (deadLetterItemId descriptor.eventId) = some kept
    rw [hother _ (deadLetterItemId_ne_inflight _), hkept]

/-- A first inflight is added. -/
theorem WriteSound.of_append {item : SpoolItem}
    (hcertain : ∀ call ∈ calls, isUncertain call = false)
    (hid : item.spoolItemId = inflightEventItemId descriptor.eventId)
    (hfree : spoolGet before.items (inflightEventItemId descriptor.eventId) = none) :
    WriteSound descriptor journaled calls before
      { before with items := before.items ++ [sealedItem item] } := by
  have hother : ∀ id, id ≠ inflightEventItemId descriptor.eventId →
      spoolGet (before.items ++ [sealedItem item]) id = spoolGet before.items id := by
    intro id hne
    have hne' : (sealedItem item).spoolItemId ≠ id := fun heq => hne (heq ▸ hid)
    rw [spoolGet_append_single, if_neg hne', Option.or_none]
  refine ⟨hcertain, fun kept hkept => .inl ?_, fun kept hkept => ?_, .inl, fun kept hkept => ?_,
    fun id _ hne _ => hother id hne⟩
  · show spoolGet (before.items ++ [sealedItem item]) descriptor.eventId = some kept
    rw [hother _ (inflightEventItemId_ne _).symm, hkept]
  · rw [hfree] at hkept
    cases hkept
  · show spoolGet (before.items ++ [sealedItem item]) (deadLetterItemId descriptor.eventId)
      = some kept
    rw [hother _ (deadLetterItemId_ne_inflight _), hkept]

/-- Both records go into a dead letter in one write. -/
theorem WriteSound.of_quarantine {reasonCode : EventDeadLetterReasonCode} {quarantinedAt : String}
    {source : SpoolItem} {inflight : Option SpoolPlaintext} {items : List SpoolItem}
    (hcertain : ∀ call ∈ calls, isUncertain call = false)
    (hsource : spoolGet before.items descriptor.eventId = some source)
    (hinflight : openInflightEventRaw before.items descriptor.eventId = inflight)
    (huncommitted : ∀ kept,
      spoolGet before.items (inflightEventItemId descriptor.eventId) = some kept →
      ProvenUncommitted calls kept)
    (h : replaceItems before.items [descriptor.eventId, inflightEventItemId descriptor.eventId]
      [deadLetterItem descriptor reasonCode quarantinedAt source.plaintext inflight] = .ok items) :
    WriteSound descriptor journaled calls before { before with items := items } := by
  generalize hitem : deadLetterItem descriptor reasonCode quarantinedAt source.plaintext inflight
    = item at h
  have hid : item.spoolItemId = deadLetterItemId descriptor.eventId := by rw [← hitem]; rfl
  unfold replaceItems at h
  unfold addItems at h
  split at h
  · cases h
  · next hfree =>
    cases h
    rw [Option.not_isSome_iff_eq_none] at hfree
    refine ⟨hcertain, fun kept hkept => .inr (.inr ?_),
      fun kept hkept => .inr (.inr (huncommitted kept hkept)), .inl, fun kept hkept => ?_,
      fun id hne hne' hne'' => ?_⟩
    · rw [hsource] at hkept
      cases hkept
      refine ⟨sealedItem item, ⟨descriptor.eventId, descriptor.sessionId, reasonCode,
        quarantinedAt⟩, ?_, ?_, rfl, rfl⟩
      · rw [← hid, spoolGet_append_single, hfree]
        exact if_pos rfl
      · rw [hinflight, ← hitem]
        rfl
    · -- The place of the dead letter was free, or the write would have failed.
      have hnotRemoved : deadLetterItemId descriptor.eventId
          ∉ [descriptor.eventId, inflightEventItemId descriptor.eventId] := by
        simp [deadLetterItemId_ne, deadLetterItemId_ne_inflight]
      rw [hid, spoolGet_withoutItems_of_not_mem hnotRemoved, hkept] at hfree
      cases hfree
    · have hother : (sealedItem item).spoolItemId ≠ id := fun heq => hne'' (heq ▸ hid)
      rw [spoolGet_append_single, if_neg hother, Option.or_none, spoolGet_withoutItems_of_not_mem]
      simp [hne, hne']

end

/-! ### Runs -/

section
variable {Material α β : Type} {descriptor : PendingEventDescriptor} {journaled : Bool}
  {start : RuntimeFiles} {run t : EventRun Material}

theorem calls_wrote (images : List RuntimeFiles) (history : List EventStep) :
    (images.map EventStep.wrote ++ history).filterMap EventStep.call?
      = history.filterMap EventStep.call? := by
  simp [List.filterMap_append, List.filterMap_map, Function.comp_def, EventStep.call?]

theorem files_wrote (images : List RuntimeFiles) (history : List EventStep) :
    (images.map EventStep.wrote ++ history).filterMap EventStep.files?
      = images ++ history.filterMap EventStep.files? := by
  simp [List.filterMap_append, List.filterMap_map, Function.comp_def, EventStep.files?]

/-- The writes of a program of the store after a history. -/
theorem historySound_append {history : List EventStep} {images : List RuntimeFiles}
    (hsound : HistorySound descriptor journaled start history)
    (heach : EachWrite (WriteSound descriptor journaled (history.filterMap EventStep.call?))
      (filesAfter start (history.filterMap EventStep.files?)) images) :
    HistorySound descriptor journaled start (images.map EventStep.wrote ++ history) := by
  induction images with
  | nil => exact hsound
  | cons image rest ih =>
    refine ⟨?_, ih heach.2⟩
    show WriteSound descriptor journaled
      ((rest.map EventStep.wrote ++ history).filterMap EventStep.call?)
      (filesAfter start ((rest.map EventStep.wrote ++ history).filterMap EventStep.files?)) image
    rw [calls_wrote, files_wrote, filesAfter_append]
    exact heach.1

variable (descriptor journaled start) in
/-- What holds between the parts of a turn. -/
structure Steady (run : EventRun Material) : Prop where
  sound : HistorySound descriptor journaled start run.history
  files : run.store.files = filesAfter start (run.history.filterMap EventStep.files?)
  sync : InSync run.store
  certain : ∀ call ∈ run.calls, isUncertain call = false

variable (descriptor journaled start) in
/-- A program that starts in a run leaves a sound history, whether it returns or throws. -/
def SoundFrom (p : EventEffect Material α) (run : EventRun Material) : Prop :=
  HistorySound descriptor journaled start (p.run run).2.history

theorem soundFrom_bind {p : EventEffect Material α} {f : α → EventEffect Material β}
    (hp : SoundFrom descriptor journaled start p run)
    (hf : ∀ a t, p.run run = (.ok a, t) → SoundFrom descriptor journaled start (f a) t) :
    SoundFrom descriptor journaled start (p >>= f) run := by
  unfold SoundFrom
  rw [Effect.run_bind]
  rcases hrun : p.run run with ⟨thrown | a, t⟩
  · unfold SoundFrom at hp
    rw [hrun] at hp
    exact hp
  · exact hf a t hrun

/-- The answer of a program is made into another one. -/
theorem soundFrom_map {p : EventEffect Material α} {f : α → β}
    (hp : SoundFrom descriptor journaled start p run) :
    SoundFrom descriptor journaled start (p >>= fun a => return f a) run := by
  refine soundFrom_bind hp fun a t hrun => ?_
  unfold SoundFrom at hp
  rw [hrun] at hp
  exact hp

/-- A program of which the run is known. -/
theorem soundFrom_bind_of_run {p : EventEffect Material α} {f : α → EventEffect Material β} {a : α}
    (hrun : p.run run = (.ok a, t)) (hf : SoundFrom descriptor journaled start (f a) t) :
    SoundFrom descriptor journaled start (p >>= f) run := by
  unfold SoundFrom
  rw [Effect.run_bind, hrun]
  exact hf

/-- A result or an error of a pure function. -/
theorem soundFrom_bind_ofExcept {result : Except Thrown α} {f : α → EventEffect Material β}
    (h : HistorySound descriptor journaled start run.history)
    (hf : ∀ a, result = .ok a → SoundFrom descriptor journaled start (f a) run) :
    SoundFrom descriptor journaled start (Effect.ofExcept result >>= f) run := by
  cases result with
  | error thrown => exact h
  | ok a => exact hf a rfl

/-- A program that only reads. -/
theorem soundFrom_get {f : EventRun Material → EventEffect Material β}
    (h : SoundFrom descriptor journaled start (f run) run) :
    SoundFrom descriptor journaled start (get >>= f) run := h

/-- A handler that only answers. -/
theorem soundFrom_tryCatch {p : EventEffect Material α} {a : α}
    (hp : SoundFrom descriptor journaled start p run) :
    SoundFrom descriptor journaled start (tryCatch p fun _ => return a) run := by
  unfold SoundFrom at hp ⊢
  rw [Effect.run_tryCatch]
  rcases hrun : p.run run with ⟨thrown | b, t⟩
  · rw [hrun] at hp
    exact hp
  · rw [hrun] at hp
    exact hp

/-! Programs of the store -/

/-- The memory before a program of the store is reached from itself. -/
theorem Steady.reaches (h : Steady descriptor journaled start run)
    (W : RuntimeFiles → RuntimeFiles → Prop) :
    Reaches W { run.store with images := [] } { run.store with images := [] } :=
  ⟨Writes.refl _, h.sync⟩

/-- A program of the store whose writes are sound after the calls so far. -/
def StoreSound (descriptor : PendingEventDescriptor) (journaled : Bool) (run : EventRun Material)
    (p : StoreEffect α) : Prop :=
  Finishes (WriteSound descriptor journaled run.calls) { run.store with images := [] }
    (p.run { run.store with images := [] }).1 (p.run { run.store with images := [] }).2

theorem soundFrom_inEventStore {p : StoreEffect α} (h : Steady descriptor journaled start run)
    (hp : StoreSound descriptor journaled run p) :
    SoundFrom descriptor journaled start (inEventStore p) run := by
  obtain ⟨⟨added, himages, hfiles, heach⟩, -⟩ := hp
  have himages : (p.run { run.store with images := [] }).2.images = added :=
    himages.trans (List.append_nil _)
  show HistorySound descriptor journaled start
    ((p.run { run.store with images := [] }).2.images.map EventStep.wrote ++ run.history)
  rw [himages]
  exact historySound_append h.sound (h.files ▸ heach)

theorem steady_inEventStore {p : StoreEffect α} {a : α}
    (h : Steady descriptor journaled start run) (hp : StoreSound descriptor journaled run p)
    (hrun : (inEventStore p : EventEffect Material α).run run = (.ok a, t)) :
    Steady descriptor journaled start t ∧ t.calls = run.calls ∧
      p.run { run.store with images := [] } = (.ok a, t.store) := by
  have hsound := soundFrom_inEventStore h hp
  obtain ⟨⟨added, himages, hfiles, -⟩, hsync⟩ := hp
  have himages : (p.run { run.store with images := [] }).2.images = added :=
    himages.trans (List.append_nil _)
  unfold SoundFrom at hsound
  rw [hrun] at hsound
  obtain ⟨hanswer, rfl⟩ := Prod.mk.inj hrun
  have hcalls := calls_wrote (p.run { run.store with images := [] }).2.images run.history
  refine ⟨⟨hsound, ?_, hsync a hanswer, ?_⟩, hcalls, Prod.ext hanswer rfl⟩
  · show (p.run { run.store with images := [] }).2.files
      = filesAfter start (((p.run { run.store with images := [] }).2.images.map EventStep.wrote
        ++ run.history).filterMap EventStep.files?)
    rw [files_wrote, himages, filesAfter_append, ← h.files, hfiles]
  · intro call (hcall : call ∈ List.filterMap EventStep.call? (_ ++ run.history))
    rw [hcalls] at hcall
    exact h.certain call hcall

/-! Calls -/

/-- The run after a call. -/
def after (run : EventRun Material) (call : EventCall) : EventRun Material :=
  { run with history := .called call :: run.history }

@[simp] theorem calls_after (call : EventCall) : (after run call).calls = call :: run.calls := rfl

/-- A definite answer. -/
theorem Steady.after (h : Steady descriptor journaled start run) (call : EventCall)
    (hcall : isUncertain call = false) : Steady descriptor journaled start (after run call) where
  sound := h.sound
  files := h.files
  sync := h.sync
  certain other hother := by
    rcases List.mem_cons.mp hother with rfl | hold
    · exact hcall
    · exact h.certain other hold

variable {ports : EventPorts Material} {upload : E2EEventAndSessionUploadV3}

theorem publishEncryptedEvent_run :
    (publishEncryptedEvent ports upload).run run
      = (.ok (ports.publishEncryptedEvent run.clock),
        EventRetention.after run
          (.publication upload (ports.publishEncryptedEvent run.clock))) := rfl

theorem reconcileEncryptedEvent_run :
    (reconcileEncryptedEvent ports upload).run run
      = (.ok (ports.reconcileEncryptedEvent run.clock),
        EventRetention.after run
          (.reconciliation upload (ports.reconcileEncryptedEvent run.clock))) := rfl

/-- The upload of a publication or a reconciliation that proves it. -/
theorem committed_after {call : EventCall} (hcall : provenBy call = some upload)
    (hupload : IsUploadOf descriptor upload) :
    Committed descriptor (EventRetention.after run call).calls :=
  ⟨call, List.mem_cons_self, upload, hcall, hupload⟩

/-! Completions and quarantines -/

theorem storeSound_completeEventUpload (h : Steady descriptor journaled start run)
    (hknown : journaled = true ∨ Committed descriptor run.calls) :
    StoreSound descriptor journaled run (completeEventUpload descriptor.eventId) :=
  (finishes_completeEventUpload _ (h.reaches _)).mono fun _ _ hclears =>
    .of_clears h.certain hknown hclears

theorem soundFrom_completeFromInflight (h : Steady descriptor journaled start run)
    (hcommitted : Committed descriptor run.calls) :
    SoundFrom descriptor journaled start (completeFromInflight ports descriptor upload) run := by
  refine soundFrom_get ?_
  have hbegin : ∀ completion, StoreSound descriptor journaled run
      (beginEventUploadCompletion completion) := fun completion =>
    finishes_beginEventUploadCompletion
      (fun _ => .of_journal h.certain hcommitted rfl) _ (h.reaches _)
  refine soundFrom_bind (soundFrom_inEventStore h (hbegin _)) fun _ t hrun => ?_
  obtain ⟨hsteady, hcalls, -⟩ := steady_inEventStore h (hbegin _) hrun
  exact soundFrom_inEventStore hsteady
    (storeSound_completeEventUpload hsteady (.inr (hcalls ▸ hcommitted)))

/-- The source goes into a dead letter, with the inflight that the spool has now. -/
theorem storeSound_quarantine {reasonCode : EventDeadLetterReasonCode} {quarantinedAt : String}
    {inflight : Option SpoolPlaintext} (h : Steady descriptor journaled start run)
    (hinflight : openInflightEventRaw run.store.items descriptor.eventId = inflight)
    (huncommitted : ∀ kept,
      spoolGet run.store.items (inflightEventItemId descriptor.eventId) = some kept →
      ProvenUncommitted run.calls kept) :
    StoreSound descriptor journaled run
      (quarantinePendingEventRaw descriptor reasonCode inflight quarantinedAt) := by
  have hitems : run.store.files.items = run.store.items := congrArg RuntimeFiles.items h.sync
  have hstart := h.reaches (WriteSound descriptor journaled run.calls)
  unfold StoreSound
  rw [quarantinePendingEventRaw, Effect.run_bind, Effect.run_get, Effect.next_ok]
  cases hsource : spoolGet run.store.items descriptor.eventId with
  | none => exact hstart.finishes _
  | some source =>
    dsimp only
    rw [Effect.run_bind, Effect.run_ofExcept]
    -- The checks of the inflight only throw; what goes into the dead letter is what is in flight.
    cases assertProvenUncommitted (openInflightEventRaw run.store.items descriptor.eventId)
        inflight with
    | error thrown => exact hstart.finishes _
    | ok _ =>
      rw [Effect.next_ok]
      refine Finishes.bind (finishes_replace hstart fun items hreplaced => ?_) fun _ =>
        finishes_pure true
      rw [← hitems] at hsource hinflight huncommitted
      exact .of_quarantine h.certain hsource hinflight huncommitted hreplaced

/-- The quarantine of a source that cannot be published. -/
theorem soundFrom_quarantineEvent {reasonCode : EventDeadLetterReasonCode}
    {inflight : Option SpoolPlaintext} (h : Steady descriptor journaled start run)
    (hinflight : openInflightEventRaw run.store.items descriptor.eventId = inflight)
    (huncommitted : ∀ kept,
      spoolGet run.store.items (inflightEventItemId descriptor.eventId) = some kept →
      ProvenUncommitted run.calls kept) :
    SoundFrom descriptor journaled start
      (quarantineEvent ports descriptor reasonCode inflight) run := by
  refine soundFrom_get (soundFrom_map (soundFrom_tryCatch ?_))
  exact soundFrom_inEventStore h (storeSound_quarantine h hinflight huncommitted)

/-- The quarantine of an event that the Relay will never take. -/
theorem soundFrom_quarantinePermanentlyConflictingEvent {event : CanonicalEvent}
    (h : Steady descriptor journaled start run)
    (hevent : (⟨event.eventId, event.sessionId⟩ : PendingEventDescriptor) = descriptor)
    (huncommitted : ∀ kept,
      spoolGet run.store.items (inflightEventItemId descriptor.eventId) = some kept →
      ProvenUncommitted run.calls kept) :
    SoundFrom descriptor journaled start
      (quarantinePermanentlyConflictingEvent ports event) run := by
  subst hevent
  refine soundFrom_get (soundFrom_tryCatch ?_)
  exact soundFrom_inEventStore h (storeSound_quarantine h rfl huncommitted)

/-! Verdicts -/

/-- What an attempt to publish leaves: the store as it was, and a decision that follows from the
answers. -/
structure Attempted (descriptor : PendingEventDescriptor) (journaled : Bool)
    (start : RuntimeFiles) (upload : E2EEventAndSessionUploadV3)
    (decision : Option EventUploadDecision) (run t : EventRun Material) : Prop where
  store : t.store = run.store
  sound : HistorySound descriptor journaled start t.history
  complete : decision = some .complete →
    Steady descriptor journaled start t ∧ Committed descriptor t.calls
  uncommitted : (decision = some .refreshSessionAndReencrypt ∨
      ∃ category, decision = some (.quarantine category)) →
    Steady descriptor journaled start t ∧ .reconciliation upload (.ok false) ∈ t.calls

/-- An attempt without a decision, or with one that ends the turn. -/
theorem Attempted.of_idle {decision : Option EventUploadDecision} (hstore : t.store = run.store)
    (hsound : HistorySound descriptor journaled start t.history)
    (hidle : decision = none ∨ ∃ category, decision = some (.defer category)) :
    Attempted descriptor journaled start upload decision run t := by
  refine ⟨hstore, hsound, fun hcomplete => ?_, fun huncommitted => ?_⟩
  · rcases hidle with rfl | ⟨category, rfl⟩ <;> cases hcomplete
  · rcases hidle with rfl | ⟨category, rfl⟩ <;>
      rcases huncommitted with hdecision | ⟨_, hdecision⟩ <;> cases hdecision

/-- An attempt that was published. -/
theorem Attempted.of_published (h : Steady descriptor journaled start run)
    (hupload : IsUploadOf descriptor upload) :
    Attempted descriptor journaled start upload (some .complete) run
      (EventRetention.after run (.publication upload (.ok ()))) := by
  refine ⟨rfl, h.sound, fun _ => ⟨h.after _ rfl, committed_after rfl hupload⟩, fun huncommitted => ?_⟩
  rcases huncommitted with hdecision | ⟨_, hdecision⟩ <;> cases hdecision

variable (ports) in
/-- A conflict that is reconciled. -/
theorem attempted_reconcileConflict (failure : RelayFailure) (exhausted : Bool)
    (h : Steady descriptor journaled start run) (hupload : IsUploadOf descriptor upload) :
    ∃ decision t, (reconcileConflict ports upload failure exhausted).run run = (.ok decision, t) ∧
      Attempted descriptor journaled start upload decision run t := by
  rw [reconcileConflict, Effect.run_bind, reconcileEncryptedEvent_run, Effect.next_ok]
  cases ports.reconcileEncryptedEvent run.clock with
  | error thrown => exact ⟨none, _, rfl, .of_idle rfl h.sound (.inl rfl)⟩
  | ok committed =>
    -- A verdict is definite, and a decision says which one it was made on.
    have hsteady := h.after (.reconciliation upload (.ok committed)) rfl
    refine ⟨some _, _, rfl, rfl, h.sound, fun hcomplete => ⟨hsteady, ?_⟩,
      fun huncommitted => ⟨hsteady, ?_⟩⟩
    · rcases decideEventUpload_complete_iff.mp (Option.some.inj hcomplete) with hfalse | ⟨-, heq⟩
      · cases hfalse
      · cases heq
        exact committed_after rfl hupload
    · have heq : some committed = some false := by
        rcases huncommitted with hrefresh | ⟨category, hquarantine⟩
        · exact (decideEventUpload_refresh (Option.some.inj hrefresh)).1
        · exact (decideEventUpload_quarantine (Option.some.inj hquarantine)).1
      cases heq
      exact List.mem_cons_self

variable (ports) in
/-- A program that publishes an upload and reconciles a conflict. What becomes of another failure is
`idle`. -/
theorem attempted_publication {p : EventEffect Material (Option EventUploadDecision)}
    (h : Steady descriptor journaled start run) (hupload : IsUploadOf descriptor upload)
    (hok : ports.publishEncryptedEvent run.clock = .ok () →
      p.run run = (.ok (some .complete),
        EventRetention.after run (.publication upload (.ok ()))))
    (herror : ∀ failure, ports.publishEncryptedEvent run.clock = .error failure →
      ∃ exhausted idle, (idle = none ∨ ∃ category, idle = some (.defer category)) ∧
        p.run run = (if isRelayConflict failure
          then reconcileConflict ports upload failure exhausted
          else return idle).run (EventRetention.after run (.publication upload (.error failure)))) :
    ∃ decision t, p.run run = (.ok decision, t) ∧
      Attempted descriptor journaled start upload decision run t := by
  cases hanswer : ports.publishEncryptedEvent run.clock with
  | ok _ => exact ⟨some .complete, _, hok hanswer, .of_published h hupload⟩
  | error failure =>
    obtain ⟨exhausted, idle, hidle, hrun⟩ := herror failure hanswer
    rw [hrun]
    cases hconflict : isRelayConflict failure with
    | true =>
      have hcertain : isUncertain (.publication upload (.error failure)) = false := by
        rw [isUncertain, hconflict]
        rfl
      obtain ⟨decision, t, hreconciled, hattempted⟩ :=
        attempted_reconcileConflict ports failure exhausted
          (h.after _ hcertain) hupload
      exact ⟨decision, t, hreconciled, hattempted.store, hattempted.sound, hattempted.complete,
        hattempted.uncommitted⟩
    | false => exact ⟨idle, _, rfl, .of_idle rfl h.sound hidle⟩

variable (ports) in
theorem attempted_publishFirst (h : Steady descriptor journaled start run)
    (hupload : IsUploadOf descriptor upload) :
    ∃ decision t, (publishFirst ports upload).run run = (.ok decision, t) ∧
      Attempted descriptor journaled start upload decision run t := by
  have hrun : (publishFirst ports upload).run run = _ := Effect.run_bind ..
  rw [publishEncryptedEvent_run, Effect.next_ok] at hrun
  refine attempted_publication ports h hupload (fun hanswer => ?_)
    fun failure hanswer => ⟨false, none, .inl rfl, ?_⟩
  · rw [hrun, hanswer]
    rfl
  · rw [hrun, hanswer]

variable (ports) in
theorem attempted_publishRefreshed (h : Steady descriptor journaled start run)
    (hupload : IsUploadOf descriptor upload) :
    ∃ decision t, (publishRefreshed ports upload).run run = (.ok decision, t) ∧
      Attempted descriptor journaled start upload decision run t := by
  have hrun : (publishRefreshed ports upload).run run = _ := Effect.run_bind ..
  rw [publishEncryptedEvent_run, Effect.next_ok] at hrun
  refine attempted_publication ports h hupload (fun hanswer => ?_)
    fun failure hanswer => ⟨true, some (.defer (relayFailureCategory failure)), .inr ⟨_, rfl⟩, ?_⟩
  · rw [hrun, hanswer]
    rfl
  · rw [hrun, hanswer]
    rfl

/-! Publications -/

variable (ports) in
/-- The end of a publication after its last decision. -/
theorem soundFrom_carryOutDecision {event : CanonicalEvent} {decision : EventUploadDecision}
    {before : EventRun Material}
    (hattempted :
      Attempted descriptor journaled start upload (some decision) before run)
    (hevent : (⟨event.eventId, event.sessionId⟩ : PendingEventDescriptor) = descriptor)
    (hinflight : InFlight descriptor run.store.items upload) :
    SoundFrom descriptor journaled start (carryOutDecision ports descriptor event upload decision)
      run := by
  cases decision with
  | complete =>
    obtain ⟨hsteady, hcommitted⟩ := hattempted.complete rfl
    exact soundFrom_map (soundFrom_completeFromInflight hsteady hcommitted)
  | quarantine category =>
    obtain ⟨hsteady, hcall⟩ := hattempted.uncommitted (.inr ⟨category, rfl⟩)
    exact soundFrom_map (soundFrom_quarantinePermanentlyConflictingEvent hsteady hevent
      (hinflight.provenUncommitted hcall))
  | reconcile => exact hattempted.sound
  | refreshSessionAndReencrypt => exact hattempted.sound
  | defer category => exact hattempted.sound

variable (ports) in
/-- A refresh changes the context of the flush alone, and is definite if it goes through. -/
theorem refreshContext_run (h : Steady descriptor journaled start run) :
    ∃ refreshed t, (refreshContext ports).run run = (.ok refreshed, t) ∧ t.store = run.store ∧
      HistorySound descriptor journaled start t.history ∧
      (refreshed = true → Steady descriptor journaled start t ∧ run.calls ⊆ t.calls) := by
  rw [refreshContext, Effect.run_bind, Effect.run_get, Effect.next_ok]
  cases ports.recipientSnapshot run.clock with
  | error failure => exact ⟨false, _, rfl, rfl, h.sound, nofun⟩
  | ok snapshot =>
    dsimp only
    rw [Effect.run_bind, Effect.run_modify, Effect.next_ok]
    cases ports.reconcileRecipients run.clock snapshot with
    | error thrown => exact ⟨false, _, rfl, rfl, h.sound, nofun⟩
    | ok recipients =>
      refine ⟨true, _, rfl, rfl, h.sound, fun _ => ⟨?_, List.subset_cons_self _ _⟩⟩
      have hsteady := h.after (.refresh (some snapshot.recipientSetVersion)) rfl
      exact ⟨hsteady.sound, hsteady.files, hsteady.sync, hsteady.certain⟩

/-- An upload takes the place of the one that was proven uncommitted. -/
theorem storeSound_replaceInflight (upload : E2EEventAndSessionUploadV3)
    (sourceDigest createdAt : String) (h : Steady descriptor journaled start run)
    (huncommitted : ∀ kept,
      spoolGet run.store.items (inflightEventItemId descriptor.eventId) = some kept →
      ProvenUncommitted run.calls kept) :
    StoreSound descriptor journaled run (replaceInflightEventUpload descriptor.eventId
      descriptor.sessionId upload sourceDigest createdAt) := by
  have hitems : run.store.files.items = run.store.items := congrArg RuntimeFiles.items h.sync
  rw [← hitems] at huncommitted
  exact finishes_replace (h.reaches _) fun items hreplaced =>
    .of_replace h.certain rfl huncommitted hreplaced

/-- The upload that was written is the one in flight. -/
theorem InFlight.of_append {items : List SpoolItem} {sourceDigest createdAt : String}
    (hfree : spoolGet items (inflightEventItemId descriptor.eventId) = none) :
    InFlight descriptor (items ++ [sealedItem (inflightEventItem descriptor.eventId
      descriptor.sessionId upload sourceDigest createdAt)]) upload := by
  intro item hitem
  rw [spoolGet_append_single, hfree, Option.none_or] at hitem
  have hid : (sealedItem (inflightEventItem descriptor.eventId descriptor.sessionId upload
      sourceDigest createdAt)).spoolItemId = inflightEventItemId descriptor.eventId := rfl
  rw [if_pos hid] at hitem
  cases hitem
  exact ⟨_, rfl⟩

theorem InFlight.of_replace {items items' : List SpoolItem} {sourceDigest createdAt : String}
    (h : replaceItems items [inflightEventItemId descriptor.eventId]
      [inflightEventItem descriptor.eventId descriptor.sessionId upload sourceDigest createdAt]
        = .ok items') :
    InFlight descriptor items' upload := by
  have hitems : items' = withoutItems items [inflightEventItemId descriptor.eventId]
      ++ [sealedItem (inflightEventItem descriptor.eventId descriptor.sessionId upload sourceDigest
        createdAt)] := replaceItems_single h
  rw [hitems]
  exact .of_append (spoolGet_withoutItems_of_mem (List.mem_singleton_self _))

/-- The write of an upload in place of another one, and what is in flight afterwards. -/
theorem soundFrom_bind_replaceInflight {sourceDigest createdAt : String}
    {f : EventEffect Material α} (h : Steady descriptor journaled start run)
    (huncommitted : ∀ kept,
      spoolGet run.store.items (inflightEventItemId descriptor.eventId) = some kept →
      ProvenUncommitted run.calls kept)
    (hf : ∀ t, Steady descriptor journaled start t → t.calls = run.calls →
      InFlight descriptor t.store.items upload → SoundFrom descriptor journaled start f t) :
    SoundFrom descriptor journaled start (inEventStore (replaceInflightEventUpload
      descriptor.eventId descriptor.sessionId upload sourceDigest createdAt) >>= fun _ => f)
      run := by
  have hwrites := storeSound_replaceInflight upload sourceDigest createdAt h huncommitted
  refine soundFrom_bind (soundFrom_inEventStore h hwrites) fun _ t hrun => ?_
  obtain ⟨hsteady, hcalls, hreplaced⟩ := steady_inEventStore h hwrites hrun
  exact hf t hsteady hcalls (.of_replace (replace_ok hreplaced))

/-- An upload is encrypted from the source. -/
theorem soundFrom_bind_encryptEvent {source : PendingEventSource} {revision : Nat}
    {f : E2EEventAndSessionUploadV3 → EventEffect Material α}
    (h : HistorySound descriptor journaled start run.history)
    (hsource : IsSourceOf descriptor source)
    (hf : ∀ upload, IsUploadOf descriptor upload →
      SoundFrom descriptor journaled start (f upload) run) :
    SoundFrom descriptor journaled start
      (encryptEvent ports source.event source.session revision >>= f) run := by
  rw [encryptEvent, Effect.bind_bind]
  refine soundFrom_get (soundFrom_bind_ofExcept h fun upload hencrypted => hf upload ?_)
  obtain ⟨heventId, hsessionId⟩ := encryptEventUpload_ok ports hencrypted
  exact ⟨heventId.trans hsource.eventId, hsessionId.trans hsource.sessionId⟩

/-- The branch for other recipients. -/
theorem soundFrom_refreshAndPublish {text : ProtocolText} {source : PendingEventSource}
    (h : Steady descriptor journaled start run) (hsource : IsSourceOf descriptor source)
    (hinflight : InFlight descriptor run.store.items upload)
    (hcall : .reconciliation upload (.ok false) ∈ run.calls) :
    SoundFrom descriptor journaled start
      (refreshAndPublish ports descriptor text source upload) run := by
  obtain ⟨refreshed, t, hrefresh, hstore, hsound, hrefreshed⟩ :=
    refreshContext_run ports h
  refine soundFrom_bind_of_run hrefresh ?_
  cases refreshed with
  | false => exact hsound
  | true =>
    obtain ⟨hsteady, hcalls⟩ := hrefreshed rfl
    -- The verdict on the first upload is what lets its replacement overwrite it.
    rw [← hstore] at hinflight
    refine soundFrom_bind_encryptEvent hsound hsource fun replacement hreplacement => ?_
    refine soundFrom_bind_ofExcept hsound fun sourceDigest _ => ?_
    refine soundFrom_get (soundFrom_bind_replaceInflight hsteady
      (hinflight.provenUncommitted (hcalls hcall)) fun u hreplaced _ hinflight' => ?_)
    obtain ⟨decision, v, hpublished, hattempted⟩ :=
      attempted_publishRefreshed ports hreplaced hreplacement
    refine soundFrom_bind_of_run hpublished ?_
    cases decision with
    | none => exact hattempted.sound
    | some decision =>
      rw [← hattempted.store] at hinflight'
      exact soundFrom_carryOutDecision ports hattempted hsource.descriptor hinflight'

/-- A publication. -/
theorem soundFrom_publishEventUpload {text : ProtocolText} {source : PendingEventSource}
    (h : Steady descriptor journaled start run) (hsource : IsSourceOf descriptor source)
    (hupload : IsUploadOf descriptor upload)
    (hinflight : InFlight descriptor run.store.items upload) :
    SoundFrom descriptor journaled start
      (publishEventUpload ports descriptor text source upload) run := by
  obtain ⟨decision, t, hpublished, hattempted⟩ :=
    attempted_publishFirst ports h hupload
  refine soundFrom_bind_of_run hpublished ?_
  rw [← hattempted.store] at hinflight
  cases decision with
  | none => exact hattempted.sound
  | some decision =>
    have hcarried := soundFrom_carryOutDecision ports hattempted hsource.descriptor
      hinflight
    cases decision with
    | refreshSessionAndReencrypt =>
      obtain ⟨hsteady, hcall⟩ := hattempted.uncommitted (.inl rfl)
      exact soundFrom_refreshAndPublish hsteady hsource hinflight hcall
    | complete => exact hcarried
    | reconcile => exact hcarried
    | quarantine category => exact hcarried
    | defer category => exact hcarried

/-! Turns -/

/-- What a program left. -/
theorem SoundFrom.of_run {p : EventEffect Material α} {outcome : Except Thrown α}
    (h : SoundFrom descriptor journaled start p run) (hrun : p.run run = (outcome, t)) :
    HistorySound descriptor journaled start t.history := by
  unfold SoundFrom at h
  rwa [hrun] at h

/-- An inflight is reconciled before it is overwritten. -/
theorem soundFrom_bind_reconcileInflight {inflight : LoadedEventInflight}
    {f : Option PendingEventDescriptorOutcome → EventEffect Material β}
    (h : Steady descriptor journaled start run)
    (hupload : IsUploadOf descriptor inflight.upload)
    (hnone : SoundFrom descriptor journaled start (f none)
      (EventRetention.after run (.reconciliation inflight.upload (.ok false))))
    (hsome : ∀ outcome t, HistorySound descriptor journaled start t.history →
      SoundFrom descriptor journaled start (f (some outcome)) t) :
    SoundFrom descriptor journaled start
      (reconcileInflightBeforeOverwrite ports descriptor inflight >>= f) run := by
  rw [reconcileInflightBeforeOverwrite, Effect.bind_bind]
  refine soundFrom_bind_of_run reconcileEncryptedEvent_run ?_
  cases ports.reconcileEncryptedEvent run.clock with
  | error failure => exact hsome _ _ h.sound
  | ok committed =>
    cases committed with
    | false => exact hnone
    | true =>
      have hsteady := h.after (.reconciliation inflight.upload (.ok true)) rfl
      have hcompleted : SoundFrom descriptor journaled start
          (completeFromInflight ports descriptor inflight.upload) _ :=
        soundFrom_completeFromInflight hsteady (committed_after rfl hupload)
      dsimp only
      rw [Effect.bind_bind]
      exact soundFrom_bind hcompleted fun _ t hrun => hsome _ t (hcompleted.of_run hrun)

/-- What the loaded inflight says of the upload in flight. -/
theorem inFlight_of_isLoaded {items : List SpoolItem} {inflight : LoadedEventInflight}
    (h : IsLoaded items descriptor (some inflight)) :
    openInflightEventRaw items descriptor.eventId = some inflight.raw ∧
      InFlight descriptor items inflight.upload ∧ IsUploadOf descriptor inflight.upload := by
  obtain ⟨item, hitem, hraw, hplaintext, hmatches⟩ := h
  refine ⟨?_, fun other hother => ?_, ?_⟩
  · rw [openInflightEventRaw, hitem, Option.map_some, hraw]
  · rw [hitem] at hother
    cases hother
    exact ⟨_, hplaintext⟩
  · unfold uploadMatchesDescriptor at hmatches
    simp only [Bool.and_eq_true, decide_eq_true_eq] at hmatches
    exact ⟨hmatches.1.1.1.1.1.1, hmatches.1.1.1.1.1.2⟩

/-- A source that cannot be published. -/
theorem soundFrom_quarantineReconciled {reasonCode : EventDeadLetterReasonCode}
    {currentDigest : Option String} {inflight : Option LoadedEventInflight}
    (h : Steady descriptor journaled start run)
    (hloaded : IsLoaded run.store.items descriptor inflight) :
    SoundFrom descriptor journaled start
      (quarantineReconciled ports descriptor reasonCode currentDigest inflight) run := by
  cases inflight with
  | none =>
    have hraw : openInflightEventRaw run.store.items descriptor.eventId = none := by
      rw [openInflightEventRaw, hloaded]
      rfl
    refine soundFrom_quarantineEvent h hraw fun kept hkept => ?_
    rw [hloaded] at hkept
    cases hkept
  | some inflight =>
    obtain ⟨hraw, hinflight, hupload⟩ := inFlight_of_isLoaded hloaded
    refine soundFrom_bind_reconcileInflight h hupload ?_ fun outcome t hsound => hsound
    have hsteady := h.after (.reconciliation inflight.upload (.ok false)) rfl
    dsimp only
    split
    · exact hsteady.sound
    · exact soundFrom_quarantineEvent hsteady hraw
        (hinflight.provenUncommitted List.mem_cons_self)

/-- An inflight of another source or for other recipients. -/
theorem soundFrom_bind_reconcileMismatch {sourceDigest : String} {recipientSetVersion : Nat}
    {inflight : Option LoadedEventInflight}
    {f : Option PendingEventDescriptorOutcome → EventEffect Material β}
    (h : Steady descriptor journaled start run)
    (hloaded : IsLoaded run.store.items descriptor inflight)
    (hnone : ∀ t, Steady descriptor journaled start t → t.store = run.store → t.ctx = run.ctx →
      (∀ loaded, inflight = some loaded → isRecipientMismatch loaded recipientSetVersion = true →
        .reconciliation loaded.upload (.ok false) ∈ t.calls) →
      SoundFrom descriptor journaled start (f none) t)
    (hsome : ∀ outcome t, HistorySound descriptor journaled start t.history →
      SoundFrom descriptor journaled start (f (some outcome)) t) :
    SoundFrom descriptor journaled start
      (reconcileMismatch ports descriptor sourceDigest recipientSetVersion inflight >>= f)
      run := by
  cases inflight with
  | none => exact hnone run h rfl rfl fun _ hsame => by cases hsame
  | some inflight =>
    obtain ⟨-, -, hupload⟩ := inFlight_of_isLoaded hloaded
    rw [reconcileMismatch]
    split
    · rw [Effect.bind_bind]
      have hsteady := h.after (.reconciliation inflight.upload (.ok false)) rfl
      refine soundFrom_bind_reconcileInflight h hupload ?_ fun outcome t hsound =>
        hsome outcome t hsound
      cases isDigestMismatch inflight sourceDigest with
      | true => exact hsome _ _ hsteady.sound
      | false =>
        refine hnone _ hsteady rfl rfl fun loaded hsame _ => ?_
        cases hsame
        exact List.mem_cons_self
    · next hmatches =>
      -- Without a mismatch nothing is overwritten, and no verdict is needed.
      refine hnone run h rfl rfl fun loaded hsame hmismatch => ?_
      cases hsame
      rw [hmismatch, Bool.or_true] at hmatches
      exact absurd rfl hmatches

/-- A first upload is put in flight. -/
theorem storeSound_persistInflight (upload : E2EEventAndSessionUploadV3)
    (sourceDigest createdAt : String) (h : Steady descriptor journaled start run) :
    StoreSound descriptor journaled run (persistInflightEventUpload descriptor.eventId
      descriptor.sessionId upload sourceDigest createdAt) :=
  finishes_bind (finishes_enqueue fun _ hfree => .of_append h.certain rfl hfree)
    (fun _ => finishes_pure _) _ (h.reaches _)

/-- The upload that is published is in flight. -/
theorem soundFrom_bind_prepareEventUpload {source : PendingEventSource} {sourceDigest : String}
    {inflight : Option LoadedEventInflight}
    {f : E2EEventAndSessionUploadV3 → EventEffect Material β}
    (h : Steady descriptor journaled start run) (hsource : IsSourceOf descriptor source)
    (hloaded : IsLoaded run.store.items descriptor inflight)
    (hmismatch : ∀ loaded, inflight = some loaded →
      isRecipientMismatch loaded run.ctx.snapshot.recipientSetVersion = true →
        .reconciliation loaded.upload (.ok false) ∈ run.calls)
    (hf : ∀ upload t, Steady descriptor journaled start t → IsUploadOf descriptor upload →
      InFlight descriptor t.store.items upload →
        SoundFrom descriptor journaled start (f upload) t) :
    SoundFrom descriptor journaled start
      (prepareEventUpload ports descriptor source sourceDigest inflight >>= f) run := by
  rw [prepareEventUpload, Effect.bind_bind]
  refine soundFrom_get ?_
  cases inflight with
  | none =>
    dsimp only
    rw [Effect.bind_bind]
    refine soundFrom_bind_encryptEvent h.sound hsource fun upload hupload => ?_
    rw [Effect.bind_bind]
    have hwrites := storeSound_persistInflight upload sourceDigest (ports.now run.clock) h
    refine soundFrom_bind (soundFrom_inEventStore h hwrites) fun _ t hrun => ?_
    obtain ⟨hsteady, -, hpersisted⟩ := steady_inEventStore h hwrites hrun
    obtain ⟨stored, u, henqueued, hreturn⟩ := Effect.run_bind_eq_ok.mp hpersisted
    cases hreturn
    rcases enqueue_ok henqueued with ⟨hfree, hitems⟩ | ⟨hfound, -, -⟩
    · refine hf upload _ hsteady hupload ?_
      rw [hitems]
      exact .of_append hfree
    · -- There was no inflight when the parts were loaded.
      cases hloaded.symm.trans hfound
  | some inflight =>
    obtain ⟨-, hinflight, hupload⟩ := inFlight_of_isLoaded hloaded
    dsimp only
    split
    · next hother =>
      rw [Effect.bind_bind]
      refine soundFrom_bind_encryptEvent h.sound hsource fun upload hupload => ?_
      rw [Effect.bind_bind]
      exact soundFrom_bind_replaceInflight h
        (hinflight.provenUncommitted (hmismatch inflight rfl hother))
        fun t hsteady _ hinflight' => hf upload t hsteady hupload hinflight'
    · exact hf inflight.upload run h hupload hinflight

/-- A source that loads has the ids of the descriptor. -/
theorem isSourceOf_of_open {text : ProtocolText} {items : List SpoolItem}
    {source : PendingEventSource}
    (h : openPendingEventSource text items descriptor = .ok source) :
    IsSourceOf descriptor source := by
  have hids : StateStore.assertEventSessionBinding source.event source.session = .ok () ∧
      source.event.eventId = descriptor.eventId ∧
        source.session.sessionId = descriptor.sessionId := by
    unfold openPendingEventSource at h
    grind
  obtain ⟨hbinding, heventId, hsessionId⟩ := hids
  have hsession : source.event.sessionId = source.session.sessionId := by
    unfold StateStore.assertEventSessionBinding at hbinding
    simp only [throwIf_eq_ok, Bool.or_eq_false_iff, decide_eq_false_iff_not, not_not] at hbinding
    exact hbinding.1.1.1.2
  exact ⟨heventId, hsession.trans hsessionId, hsessionId⟩

theorem soundFrom_processSource {text : ProtocolText} {source : PendingEventSource}
    {inflight : Option LoadedEventInflight} (h : Steady descriptor journaled start run)
    (hsource : IsSourceOf descriptor source)
    (hloaded : IsLoaded run.store.items descriptor inflight) :
    SoundFrom descriptor journaled start
      (processSource ports descriptor text source inflight) run := by
  refine soundFrom_bind_ofExcept h.sound fun preflight _ => ?_
  cases preflight with
  | invalidContent code => exact soundFrom_quarantineReconciled h hloaded
  | invalidSourceBinding => exact soundFrom_quarantineReconciled h hloaded
  | ready sourceDigest =>
    refine soundFrom_get (soundFrom_bind_reconcileMismatch h hloaded
      (fun t hsteady hstore hctx hmismatch => ?_) fun outcome t hsound => hsound)
    rw [← hstore] at hloaded
    rw [← hctx] at hmismatch
    exact soundFrom_bind_prepareEventUpload hsteady hsource hloaded hmismatch
      fun upload u hprepared hupload hinflight =>
        soundFrom_publishEventUpload hprepared hsource hupload hinflight

/-- The store has just been opened. -/
theorem steady_start (files : RuntimeFiles) (ready : Bool)
    (writes : List StateStore.WriteOutcome) (ctx : EventFlushContext Material) :
    Steady descriptor journaled files (.start (.opened files ready writes) ctx) where
  sound := True.intro
  files := rfl
  sync := rfl
  certain _ hcall := absurd hcall List.not_mem_nil

theorem soundFrom_processPendingEventDescriptor {text : ProtocolText}
    (h : Steady descriptor journaled start run)
    (hjournaled : run.store.state.eventUploadCompletions.contains descriptor.eventId = true →
      journaled = true) :
    SoundFrom descriptor journaled start
      (processPendingEventDescriptor ports descriptor text) run := by
  refine soundFrom_get ?_
  split
  · next hcontains =>
    -- The journal of an earlier turn.
    exact soundFrom_map (soundFrom_inEventStore h
      (storeSound_completeEventUpload h (.inl (hjournaled hcontains))))
  · split
    · exact h.sound
    · next source inflight hload =>
      obtain ⟨hopen, hloaded⟩ := loadPendingEventParts_ok hload
      exact soundFrom_processSource h (isSourceOf_of_open hopen.symm) hloaded
    · next failure inflight hload =>
      obtain ⟨-, hloaded⟩ := loadPendingEventParts_ok hload
      cases sourceDeadLetterReason failure with
      | none => exact h.sound
      | some reasonCode => exact soundFrom_quarantineReconciled h hloaded

end

/-! ### Crash points -/

section
variable {descriptor : PendingEventDescriptor} {journaled : Bool} {start : RuntimeFiles}
  {earlier history : List EventStep}

theorem Committed.mono {calls calls' : List EventCall} (hsub : calls ⊆ calls')
    (h : Committed descriptor calls) : Committed descriptor calls' := by
  obtain ⟨call, hcall, hproof⟩ := h
  exact ⟨call, hsub hcall, hproof⟩

theorem ProvenUncommitted.mono {calls calls' : List EventCall} {item : SpoolItem}
    (hsub : calls ⊆ calls') (h : ProvenUncommitted calls item) :
    ProvenUncommitted calls' item := by
  obtain ⟨digest, upload, hplaintext, hcall⟩ := h
  exact ⟨digest, upload, hplaintext, hsub hcall⟩

/-- A dead letter stays. -/
theorem Archived.of_write {calls : List EventCall} {before after : RuntimeFiles}
    {source : SpoolItem} {inflight : Option SpoolPlaintext}
    (hwrite : WriteSound descriptor journaled calls before after)
    (h : Archived descriptor before source inflight) :
    Archived descriptor after source inflight := by
  obtain ⟨item, header, hitem, hrecord⟩ := h
  exact ⟨item, header, hwrite.deadLetter item hitem, hrecord⟩

theorem HistorySound.of_suffix (hsuffix : earlier <:+ history)
    (h : HistorySound descriptor journaled start history) :
    HistorySound descriptor journaled start earlier := by
  obtain ⟨later, rfl⟩ := hsuffix
  induction later with
  | nil => exact h
  | cons step rest ih =>
    cases step with
    | called call => exact ih h
    | wrote files => exact ih h.2

/-- What has become of the source of an event by a point of a turn. -/
def SourceKept (descriptor : PendingEventDescriptor) (journaled : Bool) (source : SpoolItem)
    (calls : List EventCall) (files : RuntimeFiles) : Prop :=
  spoolGet files.items descriptor.eventId = some source ∨
    (journaled = true ∨ Committed descriptor calls) ∨
      ∃ inflight, Archived descriptor files source inflight

/-- What has become of the inflight of an event by a point of a turn. -/
def InflightKept (descriptor : PendingEventDescriptor) (journaled : Bool) (inflight : SpoolItem)
    (calls : List EventCall) (files : RuntimeFiles) : Prop :=
  spoolGet files.items (inflightEventItemId descriptor.eventId) = some inflight ∨
    (journaled = true ∨ Committed descriptor calls) ∨ ProvenUncommitted calls inflight

/-- The source that the spool had is kept through a sound history. -/
theorem HistorySound.sourceKept {source : SpoolItem}
    (h : HistorySound descriptor journaled start history)
    (hsource : spoolGet start.items descriptor.eventId = some source) :
    SourceKept descriptor journaled source (history.filterMap EventStep.call?)
      (filesAfter start (history.filterMap EventStep.files?)) := by
  induction history with
  | nil => exact .inl hsource
  | cons step rest ih =>
    cases step with
    | called call =>
      rcases ih h with hkept | (hjournaled | hcommitted) | harchived
      · exact .inl hkept
      · exact .inr (.inl (.inl hjournaled))
      · exact .inr (.inl (.inr (hcommitted.mono (List.subset_cons_self _ _))))
      · exact .inr (.inr harchived)
    | wrote files =>
      obtain ⟨hwrite, hrest⟩ := h
      rcases ih hrest with hkept | hknown | ⟨inflight, harchived⟩
      · rcases hwrite.source source hkept with hkept | hknown | harchived
        · exact .inl hkept
        · exact .inr (.inl hknown)
        · exact .inr (.inr ⟨_, harchived⟩)
      · exact .inr (.inl hknown)
      · exact .inr (.inr ⟨inflight, harchived.of_write hwrite⟩)

/-- The inflight that the spool had is kept through a sound history. -/
theorem HistorySound.inflightKept {inflight : SpoolItem}
    (h : HistorySound descriptor journaled start history)
    (hinflight :
      spoolGet start.items (inflightEventItemId descriptor.eventId) = some inflight) :
    InflightKept descriptor journaled inflight (history.filterMap EventStep.call?)
      (filesAfter start (history.filterMap EventStep.files?)) := by
  induction history with
  | nil => exact .inl hinflight
  | cons step rest ih =>
    cases step with
    | called call =>
      rcases ih h with hkept | (hjournaled | hcommitted) | huncommitted
      · exact .inl hkept
      · exact .inr (.inl (.inl hjournaled))
      · exact .inr (.inl (.inr (hcommitted.mono (List.subset_cons_self _ _))))
      · exact .inr (.inr (huncommitted.mono (List.subset_cons_self _ _)))
    | wrote files =>
      obtain ⟨hwrite, hrest⟩ := h
      rcases ih hrest with hkept | hknown | huncommitted
      · rcases hwrite.inflight inflight hkept with hkept | ⟨-, hknown⟩ | huncommitted
        · exact .inl hkept
        · exact .inr (.inl hknown)
        · exact .inr (.inr huncommitted)
      · exact .inr (.inl hknown)
      · exact .inr (.inr huncommitted)

/-- After an uncertain answer nothing is written. -/
theorem HistorySound.uncertain {later : List EventStep} {call : EventCall}
    (h : HistorySound descriptor journaled start (later ++ .called call :: earlier))
    (huncertain : isUncertain call = true) : later.filterMap EventStep.files? = [] := by
  induction later with
  | nil => rfl
  | cons step rest ih =>
    cases step with
    | called other => exact ih h
    | wrote files =>
      -- The answer would be among the calls before this write.
      have hmem : call ∈ (rest ++ .called call :: earlier).filterMap EventStep.call? :=
        List.mem_filterMap.mpr
          ⟨.called call, List.mem_append_right _ List.mem_cons_self, rfl⟩
      rw [h.1.certain call hmem] at huncertain
      cases huncertain

/-- A turn that loses nothing. Each `earlier` part of its history is a point where the process may
stop, with the files and the answers so far. -/
structure NoLoss (descriptor : PendingEventDescriptor) (journaled : Bool) (start : RuntimeFiles)
    (history : List EventStep) : Prop where
  writes : HistorySound descriptor journaled start history
  source : ∀ source, spoolGet start.items descriptor.eventId = some source →
    ∀ earlier, earlier <:+ history →
      SourceKept descriptor journaled source (earlier.filterMap EventStep.call?)
        (filesAfter start (earlier.filterMap EventStep.files?))
  inflight : ∀ inflight,
    spoolGet start.items (inflightEventItemId descriptor.eventId) = some inflight →
    ∀ earlier, earlier <:+ history →
      InflightKept descriptor journaled inflight (earlier.filterMap EventStep.call?)
        (filesAfter start (earlier.filterMap EventStep.files?))
  uncertain : ∀ later call earlier, history = later ++ .called call :: earlier →
    isUncertain call = true → later.filterMap EventStep.files? = []

theorem HistorySound.noLoss (h : HistorySound descriptor journaled start history) :
    NoLoss descriptor journaled start history where
  writes := h
  source _ hsource _ hsuffix := (h.of_suffix hsuffix).sourceKept hsource
  inflight _ hinflight _ hsuffix := (h.of_suffix hsuffix).inflightKept hinflight
  uncertain later call earlier hhistory huncertain := by
    subst hhistory
    exact h.uncertain huncertain

end

section
variable {Material : Type}

/-- The turns of a pending event, from any files and with any answers. Those who call
`publishEventUpload` have loaded the source and put the upload in flight. -/
structure NoEventLoss (ports : EventPorts Material) (text : ProtocolText) : Prop where
  processed : ∀ descriptor files ready writes ctx,
    NoLoss descriptor (files.state.eventUploadCompletions.contains descriptor.eventId) files
      ((processPendingEventDescriptor ports descriptor text).run
        (.start (.opened files ready writes) ctx)).2.history
  published : ∀ descriptor files ready writes ctx source upload,
    IsSourceOf descriptor source → IsUploadOf descriptor upload →
    InFlight descriptor files.items upload →
    NoLoss descriptor false files
      ((publishEventUpload ports descriptor text source upload).run
        (.start (.opened files ready writes) ctx)).2.history

/-- No turn loses a pending event, whatever the Relay answers, whichever writes fail, and wherever
the process stops. -/
theorem noEventLoss (ports : EventPorts Material) (text : ProtocolText) :
    NoEventLoss ports text where
  processed _ files ready writes ctx :=
    (soundFrom_processPendingEventDescriptor (steady_start files ready writes ctx)
      id).noLoss
  published _ files ready writes ctx _ _ hsource hupload hinflight :=
    (soundFrom_publishEventUpload (steady_start files ready writes ctx) hsource hupload
      hinflight).noLoss

end

end Ariava.Proofs.EventRetention
