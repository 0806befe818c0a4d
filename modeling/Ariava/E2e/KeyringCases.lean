import Ariava.E2e.KeyringInvariants

/-!
# `Ariava.E2e.KeyringCases`: every way a keyring method can end

`KeyringInvariants` follows a property of the pins through the methods. The results about the
keyring file need the whole state that is written, so here each method has its list of results.

- `updatePersisted_cases`: the methods that load first (`UpdateResult`).
- `mapPins_run`: the revocations that write the copy of the object.
- `reconcileRecipients_cases`: a reconciliation writes the copy of the object when the file is what
  the object last read or wrote, and else the file, and then it refuses to revoke an active pin it
  did not know (`ReconcileResult`).
- `pruneRetiring_cases` of `KeyringInvariants`.
-/

set_option autoImplicit false

namespace Ariava.E2e

open Ariava.Lib
open Ariava.Protocol

/-- The world with another state in the object. -/
def KeyringWorld.withObject (w : KeyringWorld) (state persisted : PersistedKeyringV2) :
    KeyringWorld :=
  { w with keyring := w.keyring.withState state, persistedState := persisted }

/-- The world after a state was written. -/
def KeyringWorld.written (w : KeyringWorld) (state : PersistedKeyringV2) : KeyringWorld :=
  { w with keyring := w.keyring.withState state, persistedState := state, file := some state }

/-- The state passes `validateState`, with the keys of this world. -/
def KeyringWorld.Accepts (crypto : NodeCrypto) (w : KeyringWorld) (state : PersistedKeyringV2) :
    Prop :=
  validateState crypto w.keyring.currentHostId w.keyring.identities state = .ok ()

/-- What `load` returns: the empty state without a file, else the file, if it is accepted. -/
def KeyringWorld.Loads (crypto : NodeCrypto) (w : KeyringWorld) (state : PersistedKeyringV2) :
    Prop :=
  (w.file = none ∧ state = ⟨[], []⟩) ∨ (w.file = some state ∧ w.Accepts crypto state)

namespace LocalLinkKeyring

section
variable {crypto : NodeCrypto} {w : KeyringWorld} {state : PersistedKeyringV2}

/-- `load` returns what is described by `Loads`, or throws, and changes nothing. -/
theorem load_cases (w : KeyringWorld) :
    (∃ state, w.Loads crypto state ∧ (load crypto).run w = (.ok state, w)) ∨
      ∃ e, (load crypto).run w = (.error e, w) := by
  unfold load
  rw [Effect.run_bind, Effect.run_get, Effect.next_ok]
  cases hfile : w.file with
  | none => exact Or.inl ⟨_, Or.inl ⟨hfile, rfl⟩, rfl⟩
  | some state =>
    show (∃ _, _ ∧ (_ >>= _ : KeyringEffect _).run w = _) ∨
      ∃ _, (_ >>= _ : KeyringEffect _).run w = _
    rw [Effect.run_bind, Effect.run_ofExcept]
    cases hvalid : validateState crypto w.keyring.currentHostId w.keyring.identities state with
    | error e => exact Or.inr ⟨e, rfl⟩
    | ok u => exact Or.inl ⟨state, Or.inr ⟨hfile, hvalid⟩, rfl⟩

/-- `load` returns a state that `Loads` describes. -/
theorem load_run_of_loads (h : w.Loads crypto state) : (load crypto).run w = (.ok state, w) := by
  unfold load
  rw [Effect.run_bind, Effect.run_get, Effect.next_ok]
  rcases h with ⟨hfile, rfl⟩ | ⟨hfile, hvalid⟩
  · rw [hfile]
    rfl
  · rw [hfile]
    show (_ >>= _ : KeyringEffect _).run w = _
    rw [Effect.run_bind, Effect.run_ofExcept,
      show validateState crypto w.keyring.currentHostId w.keyring.identities state = .ok ()
        from hvalid]
    rfl

/-- A file gives one state. -/
theorem loads_unique {state' : PersistedKeyringV2} (h : w.Loads crypto state)
    (h' : w.Loads crypto state') : state = state' := by
  have hrun := load_run_of_loads h
  rw [load_run_of_loads h'] at hrun
  exact (Except.ok.inj (congrArg Prod.fst hrun)).symm

/-! ### The methods that load first -/

/-- The results of `updatePersisted`. -/
inductive UpdateResult (crypto : NodeCrypto)
    (mutate : PersistedKeyringV2 → Except Thrown PersistedKeyringV2) (w : KeyringWorld) :
    Except Thrown Unit × KeyringWorld → Prop
  | unreadable (e : Thrown) : UpdateResult crypto mutate w (.error e, w)
  | rejected (latest : PersistedKeyringV2) (e : Thrown) (hload : w.Loads crypto latest) :
      UpdateResult crypto mutate w (.error e, w.withObject latest latest)
  | invalid (latest next : PersistedKeyringV2) (e : Thrown) (hload : w.Loads crypto latest)
      (hnext : mutate latest = .ok next) :
      UpdateResult crypto mutate w (.error e, w.withObject next latest)
  | unchanged (latest : PersistedKeyringV2) (hload : w.Loads crypto latest)
      (hnext : mutate latest = .ok latest) (hvalid : w.Accepts crypto latest) :
      UpdateResult crypto mutate w (.ok (), w.withObject latest latest)
  | written (latest next : PersistedKeyringV2) (hload : w.Loads crypto latest)
      (hnext : mutate latest = .ok next) (hvalid : w.Accepts crypto next) :
      UpdateResult crypto mutate w (.ok (), w.written next)

/-- `updatePersisted` has these results. -/
theorem updatePersisted_cases
    (mutate : PersistedKeyringV2 → Except Thrown PersistedKeyringV2) (w : KeyringWorld) :
    UpdateResult crypto mutate w ((updatePersisted crypto mutate).run w) := by
  unfold updatePersisted
  rw [Effect.run_bind]
  rcases @load_cases crypto w with ⟨latest, hload, hrun⟩ | ⟨e, hrun⟩
  · rw [hrun, Effect.next_ok, Effect.run_bind]
    show UpdateResult crypto mutate w
      ((_ >>= _ : KeyringEffect Unit).run (w.withObject latest latest))
    rw [Effect.run_bind, Effect.run_ofExcept]
    cases hnext : mutate latest with
    | error e => exact UpdateResult.rejected latest e hload
    | ok next =>
      rw [Effect.next_ok, Effect.run_bind, Effect.run_modify, Effect.next_ok, Effect.run_bind,
        Effect.run_get, Effect.next_ok, Effect.run_bind, Effect.run_ofExcept]
      show UpdateResult crypto mutate w (Effect.next _
        (validateState crypto w.keyring.currentHostId w.keyring.identities next,
          w.withObject next latest))
      cases hvalid : validateState crypto w.keyring.currentHostId w.keyring.identities next with
      | error e => exact UpdateResult.invalid latest next e hload hnext
      | ok u =>
        rw [Effect.next_ok]
        by_cases hsame : latest = next
        · subst hsame
          rw [if_neg (fun h => h rfl)]
          exact UpdateResult.unchanged latest hload hnext hvalid
        · rw [if_pos hsame]
          exact UpdateResult.written latest next hload hnext hvalid
  · rw [hrun]
    exact UpdateResult.unreadable e

/-- The arguments of an update pass the checks that come before the file is read. -/
def ArgumentsChecked (crypto : NodeCrypto) (w : KeyringWorld) : KeyringUpdate → Prop
  | .persistActive pin _ =>
      ValidPin crypto w.keyring.currentHostId w.keyring.identities pin ∧ pin.status = .active
  | .stageActivation pending =>
      assertValidPending crypto w.keyring.currentHostId w.keyring.identities pending = .ok ()
  | .revokeWatchGeneration watchDeviceId linkGeneration =>
      (isNonEmptyString watchDeviceId && isPositiveSafeInteger linkGeneration) = true

/-- An update throws on its arguments and changes nothing, or it loads, changes and writes. -/
theorem performUpdate_cases (update : KeyringUpdate) (w : KeyringWorld) :
    (∃ e, (performUpdate crypto update).run w = (.error e, w)) ∨
      ArgumentsChecked crypto w update ∧
        UpdateResult crypto (changed update) w ((performUpdate crypto update).run w) := by
  cases update with
  | persistActive pin now =>
    show (∃ e, (persistActive crypto pin now).run w = (.error e, w)) ∨
      _ ∧ UpdateResult crypto _ w ((persistActive crypto pin now).run w)
    unfold persistActive
    rw [Effect.run_bind, Effect.run_get, Effect.next_ok, Effect.run_bind, Effect.run_ofExcept]
    cases hvalid : assertValidPin crypto w.keyring.currentHostId w.keyring.identities pin with
    | error e => exact Or.inl ⟨e, rfl⟩
    | ok u =>
      rw [Effect.next_ok, Effect.run_bind, Effect.run_ofExcept]
      cases hactive : throwIf (decide (pin.status ≠ .active))
          (Thrown.typeError "new link pin must be active") with
      | error e => exact Or.inl ⟨e, rfl⟩
      | ok u =>
        rw [throwIf_eq_ok, decide_eq_false_iff_not, not_not] at hactive
        exact Or.inr ⟨⟨assertValidPin_eq_ok_iff.mp hvalid, hactive⟩,
          updatePersisted_cases (activated pin now) w⟩
  | stageActivation pending =>
    show (∃ e, (stageActivation crypto pending).run w = (.error e, w)) ∨
      _ ∧ UpdateResult crypto _ w ((stageActivation crypto pending).run w)
    unfold stageActivation
    rw [Effect.run_bind, Effect.run_get, Effect.next_ok, Effect.run_bind, Effect.run_ofExcept]
    cases hvalid : assertValidPending crypto w.keyring.currentHostId w.keyring.identities
        pending with
    | error e => exact Or.inl ⟨e, rfl⟩
    | ok u => exact Or.inr ⟨hvalid, updatePersisted_cases (staged pending) w⟩
  | revokeWatchGeneration watchDeviceId linkGeneration =>
    show (∃ e, (revokeWatchGeneration crypto watchDeviceId linkGeneration).run w = (.error e, w)) ∨
      _ ∧ UpdateResult crypto _ w ((revokeWatchGeneration crypto watchDeviceId linkGeneration).run w)
    unfold revokeWatchGeneration
    rw [Effect.run_bind, Effect.run_ofExcept]
    cases hvalid : throwIf (!(isNonEmptyString watchDeviceId && isPositiveSafeInteger linkGeneration))
        (Thrown.typeError "Watch relation generation is invalid") with
    | error e => exact Or.inl ⟨e, rfl⟩
    | ok u =>
      rw [throwIf_eq_ok, Bool.not_eq_false'] at hvalid
      exact Or.inr ⟨hvalid, updatePersisted_cases _ w⟩

/-! ### The methods that write the copy of the object -/

/-- `mapPins` writes when it changed a pin. -/
theorem mapPins_run (f : ActiveLinkPinV2 → ActiveLinkPinV2) (w : KeyringWorld) :
    (mapPins f).run w = (.ok (), if w.keyring.pins.map f = w.keyring.pins then w
      else w.written ⟨w.keyring.pins.map f, w.keyring.pendingActivations⟩) := by
  unfold mapPins
  rw [Effect.run_bind, Effect.run_get, Effect.next_ok, Effect.run_bind]
  show (ite _ _ _ : KeyringEffect Unit).run
    { w with keyring := { w.keyring with pins := w.keyring.pins.map f } } = _
  by_cases hsame : w.keyring.pins.map f = w.keyring.pins
  · rw [if_neg (fun h => h hsame), if_pos hsame, hsame]
    rfl
  · rw [if_pos hsame, if_neg hsame]
    rfl

/-! ### Reconciliation -/

/-- The state that a reconciliation makes of a state. -/
def reconciledState (snapshot : E2ERecipientSnapshotV1) (state : PersistedKeyringV2) :
    PersistedKeyringV2 :=
  ⟨state.pins.map (reconciledPin snapshot), state.pendingActivations⟩

/-- The results of `reconcileRecipients`. -/
inductive ReconcileResult (crypto : NodeCrypto) (snapshot : E2ERecipientSnapshotV1)
    (w : KeyringWorld) : Except Thrown Unit × KeyringWorld → Prop
  | kept (r : Except Thrown Unit) : ReconcileResult crypto snapshot w (r, w)
  | refreshed (latest : PersistedKeyringV2) (r : Except Thrown Unit)
      (hload : w.Loads crypto latest) :
      ReconcileResult crypto snapshot w (r, w.withObject latest latest)
  | writtenCopy (r : Except Thrown Unit) (hload : w.Loads crypto w.persistedState) :
      ReconcileResult crypto snapshot w (r, w.written (reconciledState snapshot w.keyring.state))
  | writtenLatest (latest : PersistedKeyringV2) (r : Except Thrown Unit)
      (hload : w.Loads crypto latest)
      (hknown : ∀ pin ∈ latest.pins, pin.status = .active →
        pinKey pin ∉ snapshot.recipients.map recipientKey →
          pinKey pin ∈ w.keyring.pins.map pinKey) :
      ReconcileResult crypto snapshot w (r, w.written (reconciledState snapshot latest))

/-- Finding the materials of the recipients reads the object only. -/
theorem recipientMaterials_cases (snapshot : E2ERecipientSnapshotV1) (w : KeyringWorld) :
    (∃ materials, (recipientMaterials crypto snapshot).run w = (.ok materials, w)) ∨
      ∃ e, (recipientMaterials crypto snapshot).run w = (.error e, w) := by
  unfold recipientMaterials
  rw [Effect.run_bind, Effect.run_get, Effect.next_ok, Effect.run_ofExcept]
  cases snapshot.recipients.mapM (materialForRecipient crypto w.keyring) with
  | error e => exact Or.inr ⟨e, rfl⟩
  | ok materials => exact Or.inl ⟨materials, rfl⟩

/-- `refreshPersisted` takes over the file, or throws. -/
theorem refreshPersisted_cases (w : KeyringWorld) :
    (∃ latest, w.Loads crypto latest ∧
      (refreshPersisted crypto).run w = (.ok (), w.withObject latest latest)) ∨
      ∃ e, (refreshPersisted crypto).run w = (.error e, w) := by
  unfold refreshPersisted
  rw [Effect.run_bind]
  rcases @load_cases crypto w with ⟨latest, hload, hrun⟩ | ⟨e, hrun⟩
  · rw [hrun]
    exact Or.inl ⟨latest, hload, rfl⟩
  · rw [hrun]
    exact Or.inr ⟨e, rfl⟩

/-- The recipients are found in the object, or in the file, or not at all. -/
theorem findRecipients_cases (snapshot : E2ERecipientSnapshotV1) (w : KeyringWorld) :
    (findRecipients crypto snapshot).run w = (.ok false, w) ∨
      (∃ e, (findRecipients crypto snapshot).run w = (.error e, w)) ∨
      ∃ latest, w.Loads crypto latest ∧
        ((findRecipients crypto snapshot).run w = (.ok true, w.withObject latest latest) ∨
          ∃ e, (findRecipients crypto snapshot).run w = (.error e, w.withObject latest latest)) := by
  unfold findRecipients
  rw [Effect.run_tryCatch, Effect.run_bind]
  rcases @recipientMaterials_cases crypto snapshot w with ⟨materials, hrun⟩ | ⟨e, hrun⟩
  · rw [hrun]
    exact Or.inl rfl
  · rw [hrun, Effect.next_error, Effect.handle_error, Effect.run_bind]
    rcases @refreshPersisted_cases crypto w with ⟨latest, hload, hrefresh⟩ | ⟨e', hrefresh⟩
    · rw [hrefresh, Effect.next_ok, Effect.run_tryCatch, Effect.run_bind]
      refine Or.inr (Or.inr ⟨latest, hload, ?_⟩)
      rcases @recipientMaterials_cases crypto snapshot (w.withObject latest latest) with
        ⟨materials, hagain⟩ | ⟨e'', hagain⟩
      · rw [hagain]
        exact Or.inl rfl
      · rw [hagain]
        exact Or.inr ⟨e, rfl⟩
    · rw [hrefresh]
      exact Or.inr (Or.inl ⟨e', rfl⟩)

/-- The reconciled pins, and the pins that the check let through. -/
theorem reconciledPins_known {snapshot : E2ERecipientSnapshotV1} {known : List PinKey}
    {pins pins' : List ActiveLinkPinV2}
    (h : reconciledPins snapshot (some known) pins = .ok pins') :
    ∀ pin ∈ pins, pin.status = .active → pinKey pin ∉ snapshot.recipients.map recipientKey →
      pinKey pin ∈ known := by
  rw [reconciledPins, check_bind_eq_ok, throwIf_eq_ok] at h
  intro pin hpin hactive hunlisted
  by_contra hunknown
  have hnone := h.1
  rw [Option.any_some, List.any_eq_false] at hnone
  exact hnone pin hpin (decide_eq_true ⟨hactive, hunlisted, hunknown⟩)

/-- The second half of a reconciliation: when the file is what the object last read or wrote, it
writes what it has reconciled, and else it starts over from the file. -/
theorem persistReconciled_cases (snapshot : E2ERecipientSnapshotV1) (known : List PinKey)
    (reconciled : List ActiveLinkPinV2) (w : KeyringWorld) :
    (∃ e, (persistReconciled crypto snapshot known reconciled).run w = (.error e, w)) ∨
    (w.Loads crypto w.persistedState ∧
      (persistReconciled crypto snapshot known reconciled).run w
        = (.ok (), w.written ⟨reconciled, w.keyring.pendingActivations⟩)) ∨
    ∃ latest, w.Loads crypto latest ∧
      ((∃ e, (persistReconciled crypto snapshot known reconciled).run w
        = (.error e, w.withObject latest latest)) ∨
      (∃ pins, reconciledPins snapshot (some known) latest.pins = .ok pins ∧
        (persistReconciled crypto snapshot known reconciled).run w
          = (.ok (), w.written ⟨pins, latest.pendingActivations⟩))) := by
  unfold persistReconciled
  rw [Effect.run_bind]
  rcases @load_cases crypto w with ⟨latest, hload, hrun⟩ | ⟨e, hrun⟩
  · rw [hrun, Effect.next_ok, Effect.run_bind, Effect.run_get, Effect.next_ok]
    by_cases hsame : latest = w.persistedState
    · subst hsame
      rw [if_neg (fun h => h rfl)]
      exact Or.inr (Or.inl ⟨hload, rfl⟩)
    · rw [if_pos hsame, Effect.run_bind]
      refine Or.inr (Or.inr ⟨latest, hload, ?_⟩)
      show (∃ _, (_ >>= _ : KeyringEffect Unit).run (w.withObject latest latest) = _) ∨
        ∃ _, _ ∧ (_ >>= _ : KeyringEffect Unit).run (w.withObject latest latest) = _
      rw [Effect.run_bind]
      rcases @recipientMaterials_cases crypto snapshot (w.withObject latest latest) with
        ⟨materials, hfound⟩ | ⟨e, hfound⟩
      · rw [hfound, Effect.next_ok, Effect.run_bind, Effect.run_ofExcept]
        cases hpins : reconciledPins snapshot (some known) latest.pins with
        | error e => exact Or.inl ⟨e, rfl⟩
        | ok pins => exact Or.inr ⟨pins, rfl, rfl⟩
      · rw [hfound]
        exact Or.inl ⟨e, rfl⟩
  · rw [hrun]
    exact Or.inl ⟨e, rfl⟩

/-- What is loaded after a refresh is what was loaded before it. -/
theorem loads_withObject {object persisted latest : PersistedKeyringV2} :
    (w.withObject object persisted).Loads crypto latest ↔ w.Loads crypto latest := Iff.rfl

/-- `reconcileRecipients` has these results. -/
theorem reconcileRecipients_cases (snapshot : E2ERecipientSnapshotV1) (w : KeyringWorld) :
    ReconcileResult crypto snapshot w ((reconcileRecipients crypto snapshot).run w) := by
  unfold reconcileRecipients
  rw [Effect.run_bind, Effect.run_get, Effect.next_ok, Effect.run_bind, Effect.run_ofExcept]
  cases throwIf (decide (snapshot.hostId ≠ w.keyring.currentHostId)
      || !isPositiveSafeInteger snapshot.recipientSetVersion)
    (Thrown.typeError "recipient snapshot is invalid") with
  | error e => exact ReconcileResult.kept _
  | ok u =>
    rw [Effect.next_ok, Effect.run_bind]
    rcases @findRecipients_cases crypto snapshot w with hfind | ⟨e, hfind⟩ |
      ⟨latest, hload, hfind | ⟨e, hfind⟩⟩
    · -- All recipients are in the object.
      rw [hfind, Effect.next_ok, Effect.run_bind, Effect.run_get, Effect.next_ok]
      show ReconcileResult crypto snapshot w ((_ >>= _ : KeyringEffect Unit).run w)
      rw [Effect.run_bind, Effect.run_ofExcept, if_neg Bool.false_ne_true]
      cases hrec : reconciledPins snapshot none w.keyring.pins with
      | error e => exact ReconcileResult.kept _
      | ok reconciled =>
        rw [Effect.next_ok]
        by_cases hsame : reconciled = w.keyring.pins
        · rw [if_pos hsame]
          exact ReconcileResult.kept _
        · rw [if_neg hsame, reconciledPins_eq_ok hrec]
          rcases @persistReconciled_cases crypto snapshot (w.keyring.pins.map pinKey)
            (w.keyring.pins.map (reconciledPin snapshot)) w with
            ⟨e, hrun⟩ | ⟨hload, hrun⟩ | ⟨latest, hload, ⟨e, hrun⟩ | ⟨pins, hpins, hrun⟩⟩
          · rw [hrun]
            exact ReconcileResult.kept _
          · rw [hrun]
            exact ReconcileResult.writtenCopy _ hload
          · rw [hrun]
            exact ReconcileResult.refreshed latest _ hload
          · rw [hrun, reconciledPins_eq_ok hpins]
            exact ReconcileResult.writtenLatest latest _ hload (reconciledPins_known hpins)
    · rw [hfind]
      exact ReconcileResult.kept _
    · -- The object now holds the file.
      rw [hfind, Effect.next_ok, Effect.run_bind, Effect.run_get, Effect.next_ok]
      show ReconcileResult crypto snapshot w
        ((_ >>= _ : KeyringEffect Unit).run (w.withObject latest latest))
      rw [Effect.run_bind, Effect.run_ofExcept, if_pos rfl]
      show ReconcileResult crypto snapshot w (Effect.next _ (reconciledPins snapshot
        (some (w.keyring.pins.map pinKey)) latest.pins, w.withObject latest latest))
      cases hrec : reconciledPins snapshot (some (w.keyring.pins.map pinKey)) latest.pins with
      | error e => exact ReconcileResult.refreshed latest _ hload
      | ok reconciled =>
        rw [Effect.next_ok]
        have hknown := reconciledPins_known hrec
        by_cases hsame : reconciled = (w.withObject latest latest).keyring.pins
        · rw [if_pos hsame]
          exact ReconcileResult.refreshed latest _ hload
        · rw [if_neg hsame, reconciledPins_eq_ok hrec]
          rcases @persistReconciled_cases crypto snapshot (w.keyring.pins.map pinKey)
            (latest.pins.map (reconciledPin snapshot)) (w.withObject latest latest) with
            ⟨e, hrun⟩ | ⟨-, hrun⟩ | ⟨latest', hload', ⟨e, hrun⟩ | ⟨pins, hpins, hrun⟩⟩
          · rw [hrun]
            exact ReconcileResult.refreshed latest _ hload
          · rw [hrun]
            exact ReconcileResult.writtenLatest latest _ hload hknown
          · rw [hrun]
            exact ReconcileResult.refreshed latest' _ (loads_withObject.mp hload')
          · rw [hrun, reconciledPins_eq_ok hpins]
            exact ReconcileResult.writtenLatest latest' _ (loads_withObject.mp hload')
              (reconciledPins_known hpins)
    · rw [hfind]
      exact ReconcileResult.refreshed latest _ hload

end

end LocalLinkKeyring

end Ariava.E2e
