import Ariava.StateStore.StoreFrames

/-!
# `Ariava.StateStore.DurableWrites`: what each write of a program replaces

`Stays` follows a property of the state. Here every write is seen as a step between two pairs of
files: `Writes W` says that `W` holds between the files before and after each write of a program.
The process may stop after any of them.

A program computes what it writes from the memory. `InSync` says that the memory is what the files
hold, and a program that returns keeps it. The rules are for programs that start in sync
(`Reaches`) and throw after a failed write (`Finishes`):

- `finishes_bind`: two programs in a row;
- `finishes_mutateAndPersist`, `finishes_applyTransition`: the writes of the state;
- `finishes_enqueue`, `finishes_replace`: the writes of the spool;
- `finishes_completeEventUpload`: the completion of an upload removes its two items.
-/

set_option autoImplicit false

namespace Ariava.StateStore

open Ariava.Lib
open Ariava.Protocol

/-- The files after the writes, latest first. -/
def filesAfter (start : RuntimeFiles) (images : List RuntimeFiles) : RuntimeFiles :=
  images.headD start

/-- `W` holds between the files before and after each of the writes. -/
def EachWrite (W : RuntimeFiles → RuntimeFiles → Prop) (start : RuntimeFiles) :
    List RuntimeFiles → Prop
  | [] => True
  | image :: earlier => W (filesAfter start earlier) image ∧ EachWrite W start earlier

/-- Each write between two stores is in `W`. -/
def Writes (W : RuntimeFiles → RuntimeFiles → Prop) (s t : BridgeStore) : Prop :=
  ∃ added, t.images = added ++ s.images ∧ t.files = filesAfter s.files added ∧
    EachWrite W s.files added

/-- The memory is what the files hold. -/
def InSync (s : BridgeStore) : Prop := s.files = ⟨s.state, s.items⟩

section
variable {W : RuntimeFiles → RuntimeFiles → Prop} {start : RuntimeFiles}
  {s t u : BridgeStore}

theorem filesAfter_append (later earlier : List RuntimeFiles) :
    filesAfter start (later ++ earlier) = filesAfter (filesAfter start earlier) later := by
  cases later with
  | nil => rfl
  | cons image rest => rfl

theorem eachWrite_append {later earlier : List RuntimeFiles} :
    EachWrite W start (later ++ earlier)
      ↔ EachWrite W (filesAfter start earlier) later ∧ EachWrite W start earlier := by
  induction later with
  | nil => exact ⟨fun h => ⟨trivial, h⟩, fun h => h.2⟩
  | cons image rest ih =>
    rw [List.cons_append, EachWrite, EachWrite, ih, filesAfter_append, and_assoc]

namespace Writes

theorem refl (s : BridgeStore) : Writes W s s := ⟨[], rfl, rfl, trivial⟩

/-- No write. -/
theorem of_eq (hfiles : t.files = s.files) (himages : t.images = s.images) : Writes W s t :=
  ⟨[], himages, hfiles, trivial⟩

theorem trans (h : Writes W s t) (h' : Writes W t u) : Writes W s u := by
  obtain ⟨earlier, himages, hfiles, heach⟩ := h
  obtain ⟨later, himages', hfiles', heach'⟩ := h'
  refine ⟨later ++ earlier, ?_, ?_, ?_⟩
  · rw [himages', himages, List.append_assoc]
  · rw [hfiles', hfiles, filesAfter_append]
  · rw [eachWrite_append, ← hfiles]
    exact ⟨heach', heach⟩

theorem mono {W' : RuntimeFiles → RuntimeFiles → Prop}
    (himp : ∀ before after, W before after → W' before after) (h : Writes W s t) :
    Writes W' s t := by
  obtain ⟨added, himages, hfiles, heach⟩ := h
  refine ⟨added, himages, hfiles, ?_⟩
  clear himages hfiles
  induction added with
  | nil => trivial
  | cons image rest ih => exact ⟨himp _ _ heach.1, ih heach.2⟩

/-- A write that installs its files or not. -/
theorem afterWrite {files : RuntimeFiles} (h : W s.files files) :
    Writes W s (s.afterWrite files) := by
  rcases s.afterWrite_files files with ⟨hfiles, himages⟩ | ⟨hfiles, himages⟩
  · exact ⟨[files], himages, hfiles, h, trivial⟩
  · exact of_eq hfiles himages

end Writes

/-! ### Programs that start in sync -/

/-- A store in sync, reached from `s` by writes in `W`. -/
def Reaches (W : RuntimeFiles → RuntimeFiles → Prop) (s t : BridgeStore) : Prop :=
  Writes W s t ∧ InSync t

/-- How a program ends: its writes are in `W`, and after a return the store is in sync. -/
def Finishes {α : Type} (W : RuntimeFiles → RuntimeFiles → Prop) (s : BridgeStore)
    (outcome : Except Thrown α) (t : BridgeStore) : Prop :=
  Writes W s t ∧ ∀ a, outcome = .ok a → InSync t

variable {α β : Type}

theorem Reaches.finishes (h : Reaches W s t) (outcome : Except Thrown α) :
    Finishes W s outcome t := ⟨h.1, fun _ _ => h.2⟩

theorem Finishes.mono {W' : RuntimeFiles → RuntimeFiles → Prop} {outcome : Except Thrown α}
    (himp : ∀ before after, W before after → W' before after) (h : Finishes W s outcome t) :
    Finishes W' s outcome t := ⟨h.1.mono himp, h.2⟩

theorem finishes_pure (a : α) :
    Effect.Triple (Reaches W s) (pure a : StoreEffect α) (Finishes W s) :=
  Effect.Triple.pure fun _ h => h.finishes _

theorem finishes_throw (thrown : Thrown) :
    Effect.Triple (Reaches W s) (throw thrown : StoreEffect α) (Finishes W s) :=
  Effect.Triple.throw fun _ h => h.finishes _

/-- A program that finished, and what comes after its return. -/
theorem Finishes.bind {p : StoreEffect α} {f : α → StoreEffect β}
    (hp : Finishes W s (p.run t).1 (p.run t).2)
    (hf : ∀ a, Effect.Triple (Reaches W s) (f a) (Finishes W s)) :
    Finishes W s ((p >>= f).run t).1 ((p >>= f).run t).2 := by
  rw [Effect.run_bind]
  rcases hrun : p.run t with ⟨thrown | a, u⟩
  · rw [hrun] at hp
    exact ⟨hp.1, fun _ hok => by cases hok⟩
  · rw [hrun] at hp
    exact hf a u ⟨hp.1, hp.2 a rfl⟩

theorem finishes_bind {p : StoreEffect α} {f : α → StoreEffect β}
    (hp : Effect.Triple (Reaches W s) p (Finishes W s))
    (hf : ∀ a, Effect.Triple (Reaches W s) (f a) (Finishes W s)) :
    Effect.Triple (Reaches W s) (p >>= f) (Finishes W s) := fun t ht => (hp t ht).bind hf

/-- A program that reads the store first may use that it is in sync. -/
theorem finishes_of_get {f : BridgeStore → StoreEffect α}
    (hf : ∀ t, Reaches W s t → Finishes W s ((f t).run t).1 ((f t).run t).2) :
    Effect.Triple (Reaches W s) (get >>= f) (Finishes W s) := fun t ht => hf t ht

/-! ### The writes of the state -/

/-- The write of a state in memory that differs from the one in the file. -/
theorem finishes_persist (hwrites : Writes W s t) (hitems : t.items = t.files.items)
    (hW : W t.files { t.files with state := t.state }) :
    Finishes W s (persist.run t).1 (persist.run t).2 := by
  refine ⟨hwrites.trans (.afterWrite hW), fun _ hok => ?_⟩
  have hrun : persist.run t = (.ok (), (persist.run t).2) := Prod.ext hok rfl
  rw [persist_ok hrun]
  show RuntimeFiles.mk t.state t.files.items = ⟨t.state, t.items⟩
  rw [hitems]

/-- A change of the state that is persisted. -/
theorem finishes_mutateAndPersist {f : PersistedBridgeState → PersistedBridgeState}
    (ht : Reaches W s t) (hW : W t.files { t.files with state := f t.state }) :
    Finishes W s ((mutateAndPersist f).run t).1 ((mutateAndPersist f).run t).2 := by
  have hitems : t.items = t.files.items := (congrArg RuntimeFiles.items ht.2).symm
  exact finishes_persist (t := { t with state := f t.state }) (ht.1.trans (.of_eq rfl rfl))
    hitems hW

/-- The journal of a completion is written, unless there is one. -/
theorem finishes_beginEventUploadCompletion {completion : EventUploadCompletionV1}
    (hW : ∀ files, W files { files with state := withCompletion files.state completion }) :
    Effect.Triple (Reaches W s) (beginEventUploadCompletion completion) (Finishes W s) := by
  refine finishes_of_get fun t ht => ?_
  have hstate : t.files.state = t.state := congrArg RuntimeFiles.state ht.2
  cases t.state.eventUploadCompletions.get? completion.eventId with
  | some existing =>
    exact Effect.Triple.ite (fun _ => finishes_pure _) (fun _ => finishes_throw _) t ht
  | none => exact finishes_mutateAndPersist ht (hstate ▸ hW t.files)

/-- A transition that is applied. -/
theorem finishes_applyTransition
    {transition : PersistedBridgeState → Except Thrown (StateTransition α)}
    (hW : ∀ files state result, transition files.state = .ok (.next state result) →
      W files { files with state := state }) :
    Effect.Triple (Reaches W s) (applyTransition transition) (Finishes W s) := by
  refine finishes_of_get fun t ht => ?_
  cases htransition : transition t.state with
  | error thrown => exact ht.finishes _
  | ok result =>
    cases result with
    | unchanged result => exact ht.finishes _
    | next state result =>
      have hstate : t.files.state = t.state := congrArg RuntimeFiles.state ht.2
      have hitems : t.items = t.files.items := (congrArg RuntimeFiles.items ht.2).symm
      have hpersist := finishes_persist (t := { t with state := state })
        (ht.1.trans (.of_eq rfl rfl)) hitems (hW t.files state result (hstate ▸ htransition))
      exact hpersist.bind fun _ => finishes_pure result

/-! ### The writes of the spool -/

/-- The items of the spool are written. -/
theorem finishes_persistSpool {items : List SpoolItem} (ht : Reaches W s t)
    (hW : W t.files { t.files with items := items }) :
    Finishes W s ((persistSpool items).run t).1 ((persistSpool items).run t).2 := by
  obtain ⟨hwrites, hsync⟩ := ht
  have hwritten : Writes W s (t.afterWrite { t.files with items := items }) :=
    hwrites.trans (.afterWrite hW)
  simp only [persistSpool, Effect.run]
  split
  · next houtcome =>
    refine ⟨hwritten.trans (.of_eq rfl rfl), fun _ _ => ?_⟩
    have hinstalls : t.nextWrite.installs = true := by
      rcases houtcome with h | h <;> rw [h] <;> rfl
    show (t.afterWrite { t.files with items := items }).files
      = ⟨(t.afterWrite { t.files with items := items }).state, items⟩
    have hstate : t.files.state = t.state := congrArg RuntimeFiles.state hsync
    rw [BridgeStore.afterWrite_state, BridgeStore.afterWrite, if_pos hinstalls]
    show RuntimeFiles.mk t.files.state items = ⟨t.state, items⟩
    rw [hstate]
  · exact ⟨hwritten, fun _ hok => by cases hok⟩

/-- An item is added, or the one of its id stays. -/
theorem finishes_enqueue {input : SpoolItem}
    (hW : ∀ files, spoolGet files.items input.spoolItemId = none →
      W files { files with items := files.items ++ [sealedItem input] }) :
    Effect.Triple (Reaches W s) (enqueue input) (Finishes W s) := by
  refine finishes_of_get fun t ht => ?_
  cases hfound : spoolGet t.items input.spoolItemId with
  | some existing =>
    exact Effect.Triple.ite (fun _ => finishes_pure _) (fun _ => finishes_throw _) t ht
  | none =>
    have hitems : t.files.items = t.items := congrArg RuntimeFiles.items ht.2
    have hwritten : W t.files { t.files with items := t.items ++ [sealedItem input] } := by
      have hfiles := hW t.files (hitems ▸ hfound)
      rwa [hitems] at hfiles
    exact (finishes_persistSpool ht hwritten).bind fun _ => finishes_pure _

/-- Items are removed and added in one write. -/
theorem finishes_replace {removeIds : List String} {additions : List SpoolItem}
    (ht : Reaches W s t)
    (hW : ∀ items, replaceItems t.files.items removeIds additions = .ok items →
      W t.files { t.files with items := items }) :
    Finishes W s ((replace removeIds additions).run t).1
      ((replace removeIds additions).run t).2 := by
  have hitems : t.files.items = t.items := congrArg RuntimeFiles.items ht.2
  rw [replace, Effect.run_bind, Effect.run_get, Effect.next_ok]
  cases hreplaced : replaceItems t.items removeIds additions with
  | error thrown => exact ht.finishes _
  | ok items => exact finishes_persistSpool ht (hW items (hitems ▸ hreplaced))

end

/-! ### The completion of an upload -/

/-- What a completion does to the files: items of the event go, and no journal of it comes. -/
structure Clears (eventId : String) (before after : RuntimeFiles) : Prop where
  items : ∃ removed : List String,
    (∀ id ∈ removed, id = eventId ∨ id = inflightEventItemId eventId) ∧
      after.items = withoutItems before.items removed
  journal : (after.state.eventUploadCompletions.get? eventId).isSome →
    (before.state.eventUploadCompletions.get? eventId).isSome

section
variable {eventId : String} {s : BridgeStore}

theorem withoutItems_nil (items : List SpoolItem) : withoutItems items [] = items := by
  simp [withoutItems]

theorem Clears.of_state {files : RuntimeFiles} {state : PersistedBridgeState}
    (h : (state.eventUploadCompletions.get? eventId).isSome →
      (files.state.eventUploadCompletions.get? eventId).isSome) :
    Clears eventId files { files with state := state } where
  items := ⟨[], fun _ hid => absurd hid List.not_mem_nil, (withoutItems_nil _).symm⟩
  journal := h

theorem finishes_removeItem {spoolItemId : String}
    (hid : spoolItemId = eventId ∨ spoolItemId = inflightEventItemId eventId) :
    Effect.Triple (Reaches (Clears eventId) s) (removeItem spoolItemId)
      (Finishes (Clears eventId) s) := by
  refine fun t ht => finishes_replace ht fun items hitems => ?_
  cases hitems
  exact ⟨⟨[spoolItemId], fun _ hmem => List.mem_singleton.mp hmem ▸ hid, rfl⟩, id⟩

theorem finishes_updateEventCompletion
    {patch : EventUploadCompletionV1 → EventUploadCompletionV1} :
    Effect.Triple (Reaches (Clears eventId) s) (updateEventCompletion eventId patch)
      (Finishes (Clears eventId) s) := by
  refine finishes_of_get fun t ht => ?_
  cases hfound : t.state.eventUploadCompletions.get? eventId with
  | none => exact ht.finishes _
  | some current =>
    refine finishes_mutateAndPersist ht (.of_state fun _ => ?_)
    have hstate : t.files.state = t.state := congrArg RuntimeFiles.state ht.2
    rw [hstate, hfound]
    rfl

theorem finishes_completionStep {done : Bool} {step : StoreEffect Unit}
    {patch : EventUploadCompletionV1 → EventUploadCompletionV1}
    (hstep : Effect.Triple (Reaches (Clears eventId) s) step (Finishes (Clears eventId) s)) :
    Effect.Triple (Reaches (Clears eventId) s) (completionStep done eventId step patch)
      (Finishes (Clears eventId) s) :=
  Effect.Triple.ite (fun _ => finishes_pure _) fun _ =>
    finishes_bind hstep fun _ => finishes_updateEventCompletion

theorem finishes_commitSessionRevision {sessionId : String} {revision : Nat} :
    Effect.Triple (Reaches (Clears eventId) s) (commitSessionRevision sessionId revision)
      (Finishes (Clears eventId) s) := by
  refine finishes_applyTransition fun files state result htransition => ?_
  refine Clears.of_state fun hsome => ?_
  unfold commitSessionRevisionTransition at htransition
  grind

theorem finishes_completeEventUpload :
    Effect.Triple (Reaches (Clears eventId) s) (completeEventUpload eventId)
      (Finishes (Clears eventId) s) := by
  refine finishes_of_get fun t ht => ?_
  cases t.state.eventUploadCompletions.get? eventId with
  | none => exact ht.finishes _
  | some completion =>
    refine finishes_bind (finishes_completionStep finishes_commitSessionRevision)
      (fun _ => finishes_bind (finishes_completionStep (finishes_removeItem (.inr rfl)))
        fun _ => finishes_bind (finishes_completionStep (finishes_removeItem (.inl rfl)))
          fun _ => ?_) t ht
    refine fun u hu => finishes_mutateAndPersist hu (.of_state fun hsome => ?_)
    simp at hsome

end

end Ariava.StateStore
