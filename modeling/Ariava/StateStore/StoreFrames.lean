import Ariava.StateStore.BridgeStateStore

/-!
# `Ariava.StateStore.StoreFrames`: what every program of the store keeps

Facts about all programs of the store, whatever they do.

- `Stays P`: a property of the state stays. It holds of the memory and of the file at the
  end, when it did at the start, and of every image in between. Images are only added, so
  this covers every stop of the process as well.
- `IsStoreError`: the errors of the store are plain errors and type errors. None of them is
  one of the classes that the adapter server tells apart.

The primitives come first, for every property. Then comes one lemma for each method, for
the properties of the producer checkpoints.
-/

set_option autoImplicit false

namespace Ariava.StateStore

open Ariava.Lib
open Ariava.Protocol
open Ariava.AgentAdapter (PendingTerminal TerminalEventCancellationInput)

/-- A property of the state holds of the memory and of the file. -/
def Holds (P : PersistedBridgeState → Prop) (s : BridgeStore) : Prop :=
  P s.state ∧ P s.files.state

/-- A property of the state stays, also in every image that is added. -/
def Stays (P : PersistedBridgeState → Prop) (s s' : BridgeStore) : Prop :=
  Holds P s → Holds P s' ∧
    ∃ added, s'.images = added ++ s.images ∧ ∀ image ∈ added, P image.state

namespace Stays

variable {P : PersistedBridgeState → Prop}

/-- A change of the memory alone. -/
theorem of_memory {s s' : BridgeStore} (h : Holds P s → Holds P s')
    (himages : s'.images = s.images) : Stays P s s' := by
  intro hs
  refine ⟨h hs, [], by rw [himages, List.nil_append], fun image hmem => ?_⟩
  exact absurd hmem List.not_mem_nil

theorem refl (s : BridgeStore) : Stays P s s := of_memory id rfl

theorem trans (s t u : BridgeStore) (h₁ : Stays P s t) (h₂ : Stays P t u) : Stays P s u := by
  intro hs
  obtain ⟨ht, a, himages, ha⟩ := h₁ hs
  obtain ⟨hu, b, himages', hb⟩ := h₂ ht
  refine ⟨hu, b ++ a, by rw [himages', himages, List.append_assoc], fun image hmem => ?_⟩
  rcases List.mem_append.mp hmem with hmem | hmem
  · exact hb image hmem
  · exact ha image hmem

/-- The number of images does not shrink. -/
theorem length_le {s t : BridgeStore} (h : Stays (fun _ => True) s t) :
    s.images.length ≤ t.images.length := by
  obtain ⟨-, a, himages, -⟩ := h ⟨trivial, trivial⟩
  rw [himages, List.length_append]
  omega

end Stays

/-- An error that the store throws. -/
def IsStoreError (thrown : Thrown) : Prop :=
  thrown.errorClass = .error ∨ thrown.errorClass = .typeError

theorem isStoreError_error (message : String) : IsStoreError (.error message) := .inl rfl

theorem isStoreError_typeError (message : String) : IsStoreError (.typeError message) := .inr rfl

/-! ### The primitives -/

section
variable {α β : Type} {P : PersistedBridgeState → Prop}

theorem stays_bind {p : StoreEffect α} {f : α → StoreEffect β}
    (hp : Effect.Leaves (Stays P) p) (hf : ∀ a, Effect.Leaves (Stays P) (f a)) :
    Effect.Leaves (Stays P) (p >>= f) :=
  Effect.Leaves.bind Stays.trans hp hf

theorem stays_pure (a : α) : Effect.Leaves (Stays P) (pure a : StoreEffect α) :=
  Effect.Leaves.pure Stays.refl a

theorem stays_throw (thrown : Thrown) : Effect.Leaves (Stays P) (throw thrown : StoreEffect α) :=
  Effect.Leaves.throw Stays.refl thrown

theorem stays_get : Effect.Leaves (Stays P) (get : StoreEffect BridgeStore) :=
  Effect.Leaves.get Stays.refl

theorem stays_ofExcept (r : Except Thrown α) :
    Effect.Leaves (Stays P) (Effect.ofExcept r : StoreEffect α) :=
  Effect.Leaves.ofExcept Stays.refl r

theorem stays_bind_ofExcept {r : Except Thrown α} {f : α → StoreEffect β}
    (hf : ∀ a, r = .ok a → Effect.Leaves (Stays P) (f a)) :
    Effect.Leaves (Stays P) (Effect.ofExcept r >>= f) := by
  intro s
  rw [Effect.run_bind, Effect.run_ofExcept]
  rcases hr : r with thrown | a
  · exact Stays.refl s
  · exact hf a hr s

theorem stays_readStore (f : BridgeStore → Except Thrown α) :
    Effect.Leaves (Stays P) (readStore f) := fun s => Stays.refl s

theorem stays_tryCatch {p : StoreEffect α} {h : Thrown → StoreEffect α}
    (hp : Effect.Leaves (Stays P) p) (hh : ∀ e, Effect.Leaves (Stays P) (h e)) :
    Effect.Leaves (Stays P) (tryCatch p h) :=
  Effect.Leaves.tryCatch Stays.trans hp hh

theorem stays_forEach {xs : List β} {f : β → StoreEffect Unit}
    (hf : ∀ x ∈ xs, Effect.Leaves (Stays P) (f x)) :
    Effect.Leaves (Stays P) (Effect.forEach xs f) :=
  Effect.Leaves.forEach Stays.refl Stays.trans hf

theorem stays_setState {state : PersistedBridgeState} (h : P state) :
    Effect.Leaves (Stays P) (setState state) :=
  fun _ => Stays.of_memory (fun hs => ⟨h, hs.2⟩) rfl

theorem stays_afterWrite {s : BridgeStore} {files : RuntimeFiles} (h : P files.state) :
    Stays P s (s.afterWrite files) := by
  unfold BridgeStore.afterWrite
  dsimp only
  split
  · intro hs
    refine ⟨⟨hs.1, h⟩, [files], rfl, fun image hmem => ?_⟩
    rw [List.mem_singleton.mp hmem]
    exact h
  · exact Stays.of_memory id rfl

theorem stays_writeState {state : PersistedBridgeState} (h : P state) :
    Effect.Leaves (Stays P) (writeState state) :=
  fun _ => stays_afterWrite h

/-- The write of the state in memory. -/
theorem stays_persist : Effect.Leaves (Stays P) persist :=
  fun s hs => stays_writeState hs.1 s hs

theorem stays_commit {state : PersistedBridgeState} (h : P state) :
    Effect.Leaves (Stays P) (commit state) :=
  stays_bind (stays_writeState h) fun _ => stays_setState h

/-- A write of the spool leaves the state alone. -/
theorem stays_persistSpool (items : List SpoolItem) :
    Effect.Leaves (Stays P) (persistSpool items) := by
  intro s hs
  have hwrite : Stays P s (s.afterWrite { s.files with items := items }) :=
    stays_afterWrite hs.2
  simp only [persistSpool, Effect.run]
  split
  · exact hwrite hs
  · exact hwrite hs

/-- A program that reads the store first may use what holds there. -/
theorem stays_of_get {f : BridgeStore → StoreEffect α}
    (hf : ∀ s, Holds P s → Effect.Leaves (Stays P) (f s)) :
    Effect.Leaves (Stays P) (get >>= f) := fun s hs => hf s hs s hs

theorem stays_commitTransition
    {transition : PersistedBridgeState → Except Thrown (StateTransition α)}
    (h : ∀ state next result, transition state = .ok (.next next result) → P state → P next) :
    Effect.Leaves (Stays P) (commitTransition transition) := by
  refine stays_of_get fun s hs => ?_
  rcases htransition : transition s.state with thrown | (result | ⟨state, result⟩)
  · exact stays_throw thrown
  · exact stays_pure result
  · have hnext := h s.state state result htransition hs.1
    exact stays_bind (stays_commit hnext) fun _ => stays_pure result

theorem stays_applyTransition
    {transition : PersistedBridgeState → Except Thrown (StateTransition α)}
    (h : ∀ state next result, transition state = .ok (.next next result) → P state → P next) :
    Effect.Leaves (Stays P) (applyTransition transition) := by
  refine stays_of_get fun s hs => ?_
  rcases htransition : transition s.state with thrown | (result | ⟨state, result⟩)
  · exact stays_throw thrown
  · exact stays_pure result
  · have hnext := h s.state state result htransition hs.1
    exact stays_bind (stays_setState hnext) fun _ => stays_bind stays_persist fun _ =>
      stays_pure result

theorem stays_enqueue (input : SpoolItem) : Effect.Leaves (Stays P) (enqueue input) := by
  refine stays_bind stays_get fun s => ?_
  rcases spoolGet s.items input.spoolItemId with _ | existing
  · exact stays_bind (stays_persistSpool _) fun _ => stays_pure _
  · exact Effect.Leaves.ite (fun _ => stays_pure _) fun _ => stays_throw _

theorem stays_replace (removeIds : List String) (additions : List SpoolItem) :
    Effect.Leaves (Stays P) (replace removeIds additions) := by
  refine stays_bind stays_get fun s => ?_
  rcases replaceItems s.items removeIds additions with thrown | items
  · exact stays_throw thrown
  · exact stays_persistSpool items

/-! ### Successful writes -/

/-- The store after a write that replaced a file. -/
def BridgeStore.replaced (s : BridgeStore) (files : RuntimeFiles) : BridgeStore :=
  { s with writes := s.writes.tail, files := files, images := files :: s.images }

theorem writeState_ok {state : PersistedBridgeState} {s s' : BridgeStore}
    (h : (writeState state).run s = (.ok (), s')) :
    s' = s.replaced { s.files with state := state } := by
  simp only [writeState, Effect.run, Prod.mk.injEq] at h
  obtain ⟨hok, rfl⟩ := h
  have hwritten : s.nextWrite = .written := by
    by_contra hne
    rw [if_neg hne] at hok
    cases hok
  simp [BridgeStore.afterWrite, hwritten, WriteOutcome.installs, BridgeStore.install,
    BridgeStore.replaced]

theorem persist_ok {s s' : BridgeStore} (h : persist.run s = (.ok (), s')) :
    s' = s.replaced { s.files with state := s.state } := writeState_ok h

/-- The write of the state in memory returns exactly when the next write succeeds. -/
theorem persist_run_eq_ok {s s' : BridgeStore} :
    persist.run s = (.ok (), s') ↔
      s.nextWrite = .written ∧ s' = s.replaced { s.files with state := s.state } := by
  constructor
  · intro h
    refine ⟨?_, persist_ok h⟩
    by_contra hne
    have hok : (if s.nextWrite = .written then .ok () else .error writeError)
        = (.ok () : Except Thrown Unit) := congrArg Prod.fst h
    rw [if_neg hne] at hok
    cases hok
  · rintro ⟨hwritten, rfl⟩
    show (if s.nextWrite = .written then _ else _, _) = _
    rw [if_pos hwritten]
    simp [BridgeStore.afterWrite, hwritten, WriteOutcome.installs, BridgeStore.install,
      BridgeStore.replaced]

theorem commit_ok {state : PersistedBridgeState} {s s' : BridgeStore}
    (h : (commit state).run s = (.ok (), s')) :
    s' = { s.replaced { s.files with state := state } with state := state } := by
  obtain ⟨_, t, hwrite, hset⟩ := Effect.run_bind_eq_ok.mp h
  rw [← writeState_ok hwrite]
  cases hset
  rfl

/-- A transition that is committed has its result, and nothing or its state was written. -/
theorem commitTransition_ok {transition : PersistedBridgeState → Except Thrown (StateTransition α)}
    {s s' : BridgeStore} {a : α} (h : (commitTransition transition).run s = (.ok a, s')) :
    ∃ t, transition s.state = .ok t ∧ a = t.result ∧ match t with
      | .unchanged _ => s' = s
      | .next state _ =>
          s' = { s.replaced { s.files with state := state } with state := state } := by
  obtain ⟨s₀, t₀, hget, hrest⟩ := Effect.run_bind_eq_ok.mp h
  cases hget
  rcases htransition : transition s.state with thrown | (result | ⟨state, result⟩)
  · simp only [htransition] at hrest
    cases hrest
  · simp only [htransition] at hrest
    cases hrest
    exact ⟨_, rfl, rfl, rfl⟩
  · simp only [htransition] at hrest
    obtain ⟨_, t, hcommit, hpure⟩ := Effect.run_bind_eq_ok.mp hrest
    cases hpure
    exact ⟨_, rfl, rfl, commit_ok hcommit⟩

/-- A spool write that returns has put the items into memory. -/
theorem persistSpool_ok {items : List SpoolItem} {s s' : BridgeStore}
    (h : (persistSpool items).run s = (.ok (), s')) : s'.items = items := by
  simp only [persistSpool, Effect.run] at h
  split at h
  · cases h
    rfl
  · cases h

theorem replace_ok {removeIds : List String} {additions : List SpoolItem} {s s' : BridgeStore}
    (h : (replace removeIds additions).run s = (.ok (), s')) :
    replaceItems s.items removeIds additions = .ok s'.items := by
  obtain ⟨_, _, hget, hwrite⟩ := Effect.run_bind_eq_ok.mp h
  cases hget
  rcases hreplace : replaceItems s.items removeIds additions with thrown | items
  · rw [hreplace] at hwrite
    cases hwrite
  · rw [hreplace] at hwrite
    rw [persistSpool_ok hwrite]

/-- An item is added under a free id, or the item of its id has its binding and stays. -/
theorem enqueue_ok {input stored : SpoolItem} {s s' : BridgeStore}
    (h : (enqueue input).run s = (.ok stored, s')) :
    (spoolGet s.items input.spoolItemId = none ∧ s'.items = s.items ++ [sealedItem input]) ∨
      (spoolGet s.items input.spoolItemId = some stored ∧ sameItemBinding stored input = true ∧
        s' = s) := by
  obtain ⟨_, _, hget, hrest⟩ := Effect.run_bind_eq_ok.mp h
  cases hget
  rcases hfound : spoolGet s.items input.spoolItemId with _ | existing
  · rw [hfound] at hrest
    obtain ⟨_, t, hwrite, hreturn⟩ := Effect.run_bind_eq_ok.mp hrest
    cases hreturn
    exact .inl ⟨rfl, persistSpool_ok hwrite⟩
  · rw [hfound] at hrest
    dsimp only at hrest
    split at hrest
    · next hsame =>
      cases hrest
      exact .inr ⟨rfl, hsame, rfl⟩
    · cases hrest

/-! ### The errors of the primitives -/

theorem raises_writeState (state : PersistedBridgeState) :
    Effect.Raises IsStoreError (writeState state) := by
  intro s e h
  simp only [writeState, Effect.run] at h
  split at h
  · cases h
  · cases h
    exact isStoreError_error _

theorem raises_setState (state : PersistedBridgeState) :
    Effect.Raises IsStoreError (setState state) := Effect.Raises.modify _

theorem raises_persist : Effect.Raises IsStoreError persist :=
  Effect.Raises.bind Effect.Raises.get fun s => raises_writeState s.state

theorem raises_commit (state : PersistedBridgeState) : Effect.Raises IsStoreError (commit state) :=
  Effect.Raises.bind (raises_writeState state) fun _ => raises_setState state

theorem raises_persistSpool (items : List SpoolItem) :
    Effect.Raises IsStoreError (persistSpool items) := by
  intro s e h
  simp only [persistSpool, Effect.run] at h
  split at h
  · cases h
  · cases h
    exact isStoreError_error _

theorem raises_commitTransition
    {transition : PersistedBridgeState → Except Thrown (StateTransition α)}
    (h : ∀ state, Throws IsStoreError (transition state)) :
    Effect.Raises IsStoreError (commitTransition transition) := by
  refine Effect.Raises.bind Effect.Raises.get fun s => ?_
  have hs := h s.state
  rcases htransition : transition s.state with thrown | (result | ⟨state, result⟩)
  · exact Effect.Raises.throw (hs thrown htransition)
  · exact Effect.Raises.pure result
  · exact Effect.Raises.bind (raises_commit state) fun _ => Effect.Raises.pure result

theorem raises_enqueue (input : SpoolItem) : Effect.Raises IsStoreError (enqueue input) := by
  refine Effect.Raises.bind Effect.Raises.get fun s => ?_
  rcases spoolGet s.items input.spoolItemId with _ | existing
  · exact Effect.Raises.bind (raises_persistSpool _) fun _ => Effect.Raises.pure _
  · exact Effect.Raises.ite (fun _ => Effect.Raises.pure _)
      fun _ => Effect.Raises.throw (isStoreError_typeError _)

theorem throwsStoreErrors_addItems (items additions : List SpoolItem) :
    Throws IsStoreError (addItems items additions) := by
  induction additions generalizing items with
  | nil => exact .ok items
  | cons input rest ih =>
    rw [addItems]
    split
    · exact .error (isStoreError_typeError _)
    · exact ih _

theorem raises_replace (removeIds : List String) (additions : List SpoolItem) :
    Effect.Raises IsStoreError (replace removeIds additions) := by
  refine Effect.Raises.bind Effect.Raises.get fun s => ?_
  rcases hreplace : replaceItems s.items removeIds additions with thrown | items
  · exact Effect.Raises.throw (throwsStoreErrors_addItems _ _ thrown hreplace)
  · exact raises_persistSpool items

theorem raises_readStore {f : BridgeStore → Except Thrown α}
    (h : ∀ s, Throws IsStoreError (f s)) : Effect.Raises IsStoreError (readStore f) :=
  fun s e he => h s e he

theorem raises_ofExcept {r : Except Thrown α} (h : Throws IsStoreError r) :
    Effect.Raises IsStoreError (Effect.ofExcept r : StoreEffect α) :=
  Effect.Raises.ofExcept h

end

/-! ### The checks of the spool records -/

theorem throwsStoreErrors_parsePlaintext (plaintext : SpoolPlaintext) :
    Throws IsStoreError (parsePlaintext plaintext) := by
  cases plaintext
  case notUtf8 => exact .error (isStoreError_typeError _)
  case notJson => exact .error (isStoreError_error _)
  all_goals exact .ok _

theorem throwsStoreErrors_assertEventSessionBinding (event : CanonicalEvent)
    (session : CanonicalSessionState) :
    Throws IsStoreError (assertEventSessionBinding event session) :=
  .throwIf (isStoreError_typeError _)

theorem throwsStoreErrors_pendingTuple (plaintext : SpoolPlaintext) :
    Throws IsStoreError (pendingTuple plaintext) := by
  refine .bind (throwsStoreErrors_parsePlaintext plaintext) fun parsed => ?_
  cases parsed
  case pendingEvent event session producerFingerprint =>
    exact .bind (throwsStoreErrors_assertEventSessionBinding event session) fun _ => .ok _
  all_goals exact .error (isStoreError_typeError _)

theorem throwsStoreErrors_openProducerTuple (items : List SpoolItem)
    (kind : LocalSpoolPayloadKind) (eventId fingerprint : String) :
    Throws IsStoreError (openProducerTuple items kind eventId fingerprint) := by
  unfold openProducerTuple
  split
  · exact .ok _
  · refine .bind (throwsStoreErrors_pendingTuple _) fun found => ?_
    exact .bind (.throwIf (isStoreError_typeError _)) fun _ => .ok _

theorem throwsStoreErrors_producerEventTuple (items : List SpoolItem)
    (eventId fingerprint : String) :
    Throws IsStoreError (producerEventTuple items eventId fingerprint) := by
  refine .bind (throwsStoreErrors_openProducerTuple _ _ _ _) fun found => ?_
  cases found with
  | some tuple => exact .ok _
  | none => exact throwsStoreErrors_openProducerTuple _ _ _ _

theorem throwsStoreErrors_applyProducerReservation (state : PersistedBridgeState)
    (event : CanonicalEvent) (fingerprint : String) :
    Throws IsStoreError (applyProducerReservation state event fingerprint) :=
  .bind (.throwIf (isStoreError_typeError _)) fun _ => .ok _

/-! ### Sessions and pending events -/

/-- A property of the producer checkpoints alone. -/
def OfCheckpoints (P : PersistedBridgeState → Prop) : Prop :=
  ∀ state state' : PersistedBridgeState,
    state'.producerEventCheckpoints = state.producerEventCheckpoints → P state → P state'

section
variable (text : ProtocolText) {P : PersistedBridgeState → Prop} (hP : OfCheckpoints P)

theorem setSessionDriverTransition_cases {state : PersistedBridgeState}
    {sessionId driverName : String} {session : Option CanonicalSessionState}
    {t : StateTransition Unit}
    (h : setSessionDriverTransition state sessionId driverName session = .ok t) :
    ∃ bound, t = .next (withSession driverName state bound) () := by
  rw [setSessionDriverTransition] at h
  split at h
  · cases h
  · split at h
    · cases h
      exact ⟨_, rfl⟩
    · cases h

include hP in
theorem stays_setSessionDriver (sessionId driverName : String)
    (session : Option CanonicalSessionState) :
    Effect.Leaves (Stays P) (setSessionDriver sessionId driverName session) := by
  refine stays_commitTransition fun state next result h hstate => ?_
  obtain ⟨bound, hbound⟩ := setSessionDriverTransition_cases h
  cases hbound
  exact hP state _ rfl hstate

theorem raises_setSessionDriver (sessionId driverName : String)
    (session : Option CanonicalSessionState) :
    Effect.Raises IsStoreError (setSessionDriver sessionId driverName session) := by
  refine raises_commitTransition fun state => ?_
  rw [setSessionDriverTransition]
  split
  · exact .error (isStoreError_typeError _)
  · split
    · exact .ok _
    · exact .error (isStoreError_typeError _)

/-- A Session is removed whose checkpoint the property is not about. -/
theorem stays_removeSession {sessionId : String}
    (hremove : ∀ state, P state → P (withoutSession state sessionId))
    (expectedDriverName : Option String) :
    Effect.Leaves (Stays P) (removeSession sessionId expectedDriverName) := by
  refine stays_commitTransition fun state next result h hstate => ?_
  rw [removeSessionTransition] at h
  split at h
  · cases h
  · split at h
    · cases h
      exact hremove state hstate
    · cases h

theorem stays_enqueuePendingEvent (event : CanonicalEvent) (session : CanonicalSessionState)
    (producerFingerprint : Option String) (payloadKind : LocalSpoolPayloadKind) :
    Effect.Leaves (Stays P) (enqueuePendingEvent event session producerFingerprint payloadKind) :=
  stays_bind (stays_enqueue _) fun _ => stays_ofExcept _

theorem raises_enqueuePendingEvent (event : CanonicalEvent) (session : CanonicalSessionState)
    (producerFingerprint : Option String) (payloadKind : LocalSpoolPayloadKind) :
    Effect.Raises IsStoreError
      (enqueuePendingEvent event session producerFingerprint payloadKind) :=
  Effect.Raises.bind (raises_enqueue _) fun _ =>
    raises_ofExcept (.throwIf (isStoreError_typeError _))

theorem raises_assertStoredTuple (kind : LocalSpoolPayloadKind) (event : CanonicalEvent)
    (session : CanonicalSessionState) (fingerprint : String) :
    Effect.Raises IsStoreError (assertStoredTuple kind event session fingerprint) :=
  raises_readStore fun _ => .bind (throwsStoreErrors_openProducerTuple _ _ _ _) fun _ =>
    .throwIf (isStoreError_typeError _)

theorem stays_journalPendingEvent (event : CanonicalEvent) (session : CanonicalSessionState)
    (producerFingerprint : Option String) :
    Effect.Leaves (Stays P) (journalPendingEvent event session producerFingerprint) := by
  refine stays_bind stays_get fun s => ?_
  split
  · exact stays_bind (stays_readStore _) fun _ => stays_replace _ _
  · exact stays_readStore _
  · exact stays_enqueuePendingEvent _ _ _ _

theorem raises_journalPendingEvent (event : CanonicalEvent) (session : CanonicalSessionState)
    (producerFingerprint : Option String) :
    Effect.Raises IsStoreError (journalPendingEvent event session producerFingerprint) := by
  refine Effect.Raises.bind Effect.Raises.get fun s => ?_
  split
  · exact Effect.Raises.bind (raises_assertStoredTuple _ _ _ _) fun _ => raises_replace _ _
  · exact raises_assertStoredTuple _ _ _ _
  · exact raises_enqueuePendingEvent _ _ _ _

theorem applyProducerReservation_checkpoints {state state' : PersistedBridgeState}
    {event : CanonicalEvent} {fingerprint : String}
    (h : applyProducerReservation state event fingerprint = .ok state') :
    state'.producerEventCheckpoints = state.producerEventCheckpoints := by
  rw [applyProducerReservation, check_bind_eq_ok] at h
  cases h.2
  rfl

include hP in
theorem stays_applyReservationWhen (event : CanonicalEvent)
    (producerFingerprint : Option String) :
    Effect.Leaves (Stays P) (applyReservationWhen event producerFingerprint) := by
  cases producerFingerprint with
  | none => exact stays_pure ()
  | some fingerprint =>
    refine stays_of_get fun s hs => stays_bind_ofExcept fun state hstate => stays_setState ?_
    exact hP s.state state (applyProducerReservation_checkpoints hstate) hs.1

theorem raises_applyReservationWhen (event : CanonicalEvent)
    (producerFingerprint : Option String) :
    Effect.Raises IsStoreError (applyReservationWhen event producerFingerprint) := by
  cases producerFingerprint with
  | none => exact Effect.Raises.pure ()
  | some fingerprint =>
    refine Effect.Raises.bind Effect.Raises.get fun s => ?_
    refine Effect.Raises.bind (raises_ofExcept ?_) fun _ => raises_setState _
    exact throwsStoreErrors_applyProducerReservation _ _ _

include hP in
theorem stays_queuePendingEvent (event : CanonicalEvent) (session : CanonicalSessionState)
    (producerFingerprint : Option String) :
    Effect.Leaves (Stays P) (queuePendingEvent text event session producerFingerprint) := by
  refine stays_bind (stays_ofExcept _) fun _ => ?_
  refine stays_bind (stays_journalPendingEvent _ _ _) fun _ => ?_
  refine stays_of_get fun previous hprevious => ?_
  have happlied : P (applyPendingEventState text previous.state event session) :=
    hP previous.state _ rfl hprevious.1
  refine stays_bind (stays_setState happlied) fun _ => ?_
  refine stays_bind (stays_applyReservationWhen hP _ _) fun _ => ?_
  exact stays_tryCatch stays_persist fun e =>
    stays_bind (stays_setState hprevious.1) fun _ => stays_throw e

theorem raises_queuePendingEvent (event : CanonicalEvent) (session : CanonicalSessionState)
    (producerFingerprint : Option String) :
    Effect.Raises IsStoreError (queuePendingEvent text event session producerFingerprint) := by
  refine Effect.Raises.bind
    (raises_ofExcept (throwsStoreErrors_assertEventSessionBinding _ _)) fun _ => ?_
  refine Effect.Raises.bind (raises_journalPendingEvent _ _ _) fun _ => ?_
  refine Effect.Raises.bind Effect.Raises.get fun previous => ?_
  refine Effect.Raises.bind (raises_setState _) fun _ => ?_
  refine Effect.Raises.bind (raises_applyReservationWhen _ _) fun _ => ?_
  exact Effect.Raises.tryCatch raises_persist fun e he =>
    Effect.Raises.bind (raises_setState _) fun _ => Effect.Raises.throw he

/-- An event that is queued was persisted. -/
theorem queuePendingEvent_images {event : CanonicalEvent} {session : CanonicalSessionState}
    {producerFingerprint : Option String} {s s' : BridgeStore}
    (h : (queuePendingEvent text event session producerFingerprint).run s = (.ok (), s')) :
    s.images.length < s'.images.length := by
  obtain ⟨_, t₁, hbound, h₁⟩ := Effect.run_bind_eq_ok.mp h
  obtain ⟨_, t₂, hjournal, h₂⟩ := Effect.run_bind_eq_ok.mp h₁
  obtain ⟨_, t₃, hget, h₃⟩ := Effect.run_bind_eq_ok.mp h₂
  obtain ⟨_, t₄, hset, h₄⟩ := Effect.run_bind_eq_ok.mp h₃
  obtain ⟨_, t₅, hreserve, hlast⟩ := Effect.run_bind_eq_ok.mp h₄
  rw [Effect.run_ofExcept, Prod.mk.injEq] at hbound
  obtain ⟨-, rfl⟩ := hbound
  cases hget
  cases hset
  have hbefore := (stays_journalPendingEvent event session producerFingerprint s).length_le
  have hreserved := (stays_applyReservationWhen (fun _ _ _ _ => trivial) event producerFingerprint
    { t₂ with state := applyPendingEventState text t₂.state event session }).length_le
  rw [hjournal] at hbefore
  rw [hreserve] at hreserved
  rw [Effect.run_tryCatch] at hlast
  rcases hpersist : persist.run t₅ with ⟨_ | _, t₆⟩
  · rw [hpersist] at hlast
    cases hlast
  · rw [hpersist] at hlast
    cases hlast
    rw [persist_ok hpersist, BridgeStore.replaced, List.length_cons]
    dsimp only at hbefore hreserved
    omega

/-! ### Cancellations -/

theorem stays_commitCancelled {state : PersistedBridgeState} (h : P state)
    (cancellation : PersistedTerminalCancellationV1) :
    Effect.Leaves (Stays P) (commitCancelled state cancellation) := by
  refine stays_bind stays_get fun before => ?_
  refine stays_tryCatch (stays_commit h) fun e => stays_bind stays_get fun s => ?_
  exact Effect.Leaves.ite (fun _ => stays_setState h) fun _ => stays_throw e

include hP in
theorem stays_finishTerminalCancellation (cancellation : PersistedTerminalCancellationV1) :
    Effect.Leaves (Stays P) (finishTerminalCancellation cancellation) := by
  refine stays_tryCatch (stays_bind (stays_bind stays_get fun s => ?_) fun _ => ?_)
    fun _ => stays_pure ()
  · exact Effect.Leaves.ite (fun _ => stays_replace _ _) fun _ => stays_pure ()
  · exact stays_of_get fun s hs => stays_commit (hP s.state _ rfl hs.1)

include hP in
/-- A cancellation that removes no Session, or one that the property is not about. -/
theorem stays_cancelTerminalEvent (input : TerminalEventCancellationInput)
    (hremove : input.removeSession = true →
      ∀ state, P state → P (withoutSession state input.sessionId)) :
    Effect.Leaves (Stays P) (cancelTerminalEvent input) := by
  refine stays_bind stays_get fun s => Effect.Leaves.ite (fun _ => ?_) fun _ => stays_pure ()
  refine stays_bind (stays_ofExcept _) fun existing => stays_bind ?_ fun cancellation => ?_
  · cases existing with
    | some cancellation => exact stays_pure cancellation
    | none => exact stays_bind (stays_enqueue _) fun _ => stays_pure _
  · refine stays_of_get fun t ht => ?_
    refine stays_bind (stays_commitCancelled ?_ _) fun _ => stays_finishTerminalCancellation hP _
    unfold cancelledState
    dsimp only
    split
    · next hremoved => exact hremove hremoved _ (hP t.state _ rfl ht.1)
    · exact hP t.state _ rfl ht.1

/-! ### Sources, handles and commands -/

/-- A source is accepted whose checkpoint has the property. -/
theorem stays_acceptProducerEventSource
    {reservation : PersistedProducerEventReservationV1}
    {checkpoint : ProducerEventSourceCheckpointV1}
    (h : ∀ state reservations, P state → P { state with
      producerEventReservations := reservations
      producerEventCheckpoints :=
        state.producerEventCheckpoints.set checkpoint.sessionId checkpoint }) :
    Effect.Leaves (Stays P) (acceptProducerEventSource reservation checkpoint) := by
  refine stays_commitTransition fun state next result htransition hstate => ?_
  obtain ⟨-, -, hnext⟩ := reserveProducerEventWithCheckpointTransition_cases htransition
  cases hnext
  exact h state _ hstate

include hP in
theorem stays_queuePendingSessionHandle (handle : PendingSessionHandle) :
    Effect.Leaves (Stays P) (queuePendingSessionHandle text handle) := by
  refine stays_commitTransition fun state next result htransition hstate => ?_
  rw [queuePendingSessionHandleTransition, bind_eq_ok_iff] at htransition
  obtain ⟨event, -, htransition⟩ := htransition
  dsimp only at htransition
  rw [check_bind_eq_ok] at htransition
  cases htransition.2
  exact hP state _ rfl hstate

include hP in
theorem stays_markCommandOutcomeUnknownIfPresent (commandId : String) :
    Effect.Leaves (Stays P) (markCommandOutcomeUnknownIfPresent text commandId) := by
  refine stays_tryCatch (stays_bind ?_ fun _ => stays_pure ()) fun _ => stays_pure ()
  refine stays_bind (stays_readStore _) fun _ => ?_
  refine stays_commitTransition fun state next result htransition hstate => ?_
  obtain ⟨current, -, -, execution, -, -, hnext⟩ := markCommandOutcomeUnknown_cases htransition
  cases hnext
  exact hP state _ rfl hstate

/-! ### The daemon's own programs -/

theorem replaceDriverSessions_checkpoints (driverName : String)
    (sessions : List CanonicalSessionState) (state : PersistedBridgeState) :
    (sessions.foldl (withSession driverName) state).producerEventCheckpoints
      = state.producerEventCheckpoints := by
  induction sessions generalizing state with
  | nil => rfl
  | cons session rest ih => exact ih (withSession driverName state session)

include hP in
/-- The Sessions of a driver are replaced. The checkpoints of dropped ones stay. -/
theorem stays_replaceDriverSessions (driverName : String)
    (sessions : List CanonicalSessionState) :
    Effect.Leaves (Stays P) (replaceDriverSessions driverName sessions) := by
  refine stays_commitTransition fun state next result htransition hstate => ?_
  cases htransition
  refine hP state _ ?_ hstate
  exact replaceDriverSessions_checkpoints driverName sessions _

end

/-! ### Upload completions -/

/-- A property that a change of the upload completions keeps, and the next revision of a
Session too. -/
structure KeptByCompletions (P : PersistedBridgeState → Prop) : Prop where
  journal : ∀ state completions, P state →
    P { state with eventUploadCompletions := completions }
  revision : ∀ state sessionId, P state → P { state with
    sessionRevisions := state.sessionRevisions.set sessionId
      (readNextSessionRevision state sessionId) }

theorem OfCheckpoints.keptByCompletions {P : PersistedBridgeState → Prop}
    (hP : OfCheckpoints P) : KeptByCompletions P :=
  ⟨fun state _ => hP state _ rfl, fun state _ => hP state _ rfl⟩

section
variable {P : PersistedBridgeState → Prop} (hP : KeptByCompletions P)

theorem stays_mutateAndPersist {f : PersistedBridgeState → PersistedBridgeState}
    (hf : ∀ state, P state → P (f state)) : Effect.Leaves (Stays P) (mutateAndPersist f) := by
  refine stays_bind (fun s => ?_) fun _ => stays_persist
  exact Stays.of_memory (fun hs => ⟨hf s.state hs.1, hs.2⟩) rfl

include hP in
theorem stays_beginEventUploadCompletion (completion : EventUploadCompletionV1) :
    Effect.Leaves (Stays P) (beginEventUploadCompletion completion) := by
  refine stays_bind stays_get fun s => ?_
  split
  · exact Effect.Leaves.ite (fun _ => stays_pure ()) fun _ => stays_throw _
  · exact stays_mutateAndPersist fun state => hP.journal state _

include hP in
theorem stays_commitSessionRevision (sessionId : String) (revision : Nat) :
    Effect.Leaves (Stays P) (commitSessionRevision sessionId revision) := by
  refine stays_applyTransition fun state next result htransition hstate => ?_
  rcases commitSessionRevisionTransition_cases htransition with ⟨-, h⟩ | ⟨rfl, h⟩
  · cases h
  · cases h
    exact hP.revision state sessionId hstate

include hP in
theorem stays_completionStep (done : Bool) (eventId : String) {step : StoreEffect Unit}
    (hstep : Effect.Leaves (Stays P) step)
    (patch : EventUploadCompletionV1 → EventUploadCompletionV1) :
    Effect.Leaves (Stays P) (completionStep done eventId step patch) := by
  refine Effect.Leaves.ite (fun _ => stays_pure ()) fun _ => stays_bind hstep fun _ => ?_
  refine stays_bind stays_get fun s => ?_
  split
  · exact stays_throw _
  · exact stays_mutateAndPersist fun state => hP.journal state _

include hP in
theorem stays_completeEventUpload (eventId : String) :
    Effect.Leaves (Stays P) (completeEventUpload eventId) := by
  refine stays_bind stays_get fun s => ?_
  split
  · exact stays_pure ()
  · refine stays_bind (stays_completionStep hP _ _ (stays_commitSessionRevision hP _ _) _)
      fun _ => ?_
    refine stays_bind (stays_completionStep hP _ _ (stays_replace _ _) _) fun _ => ?_
    refine stays_bind (stays_completionStep hP _ _ (stays_replace _ _) _) fun _ => ?_
    exact stays_mutateAndPersist fun state => hP.journal state _

include hP in
theorem stays_resumeEventUploadCompletions :
    Effect.Leaves (Stays P) resumeEventUploadCompletions :=
  stays_bind stays_get fun _ => stays_forEach fun eventId _ => stays_completeEventUpload hP eventId

end

end Ariava.StateStore
