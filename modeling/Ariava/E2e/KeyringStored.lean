import Ariava.E2e.KeyringRepresentation

/-!
# `Ariava.E2e.KeyringStored`: what a method does to the keyring file

`KeyringWorld.stored` is the state of the file. An activation, a staging and a generation
revocation start from it, because they load it first. A revocation, a prune and some
reconciliations start from the copy of the object. `CopyCurrent` says that a copy that is written
is what the file holds.

* `perform_stored`: with a current copy, every method leaves the file or makes of its state what
  `StoredChange` says.
-/

set_option autoImplicit false

namespace Ariava.E2e

open Ariava.Lib
open Ariava.Protocol
open LocalLinkKeyring

/-- The state of the file. Without a file it is empty. -/
def KeyringWorld.stored (w : KeyringWorld) : PersistedKeyringV2 := w.file.getD ⟨[], []⟩

/-- A method that writes the copy of the object does so when the file holds the same: a revocation
or a prune changes nothing, or its copy is what the file holds; a reconciliation that finds the file
as the object last read or wrote it has it in its copy. -/
def CopyCurrent (w : KeyringWorld) : KeyringAction → Prop
  | .revokeWatch watchDeviceId =>
      w.keyring.pins.map (watchRevoked watchDeviceId) = w.keyring.pins ∨ w.keyring.state = w.stored
  | .revokeCompromisedEncryptionKey keyId =>
      w.keyring.pins.map (keyRevoked keyId) = w.keyring.pins ∨ w.keyring.state = w.stored
  | .pruneRetiring references now =>
      w.keyring.pins.all (isPinRetained references now) = true ∨ w.keyring.state = w.stored
  | .reconcileRecipients _ => w.persistedState = w.stored → w.keyring.state = w.stored
  | _ => True

/-- What a method makes of the state of the file. -/
def StoredChange (crypto : NodeCrypto) (w : KeyringWorld) (next : PersistedKeyringV2) :
    KeyringAction → Prop
  | .update update | .foreign update =>
      ArgumentsChecked crypto w update ∧ w.Accepts crypto w.stored ∧
        changed update w.stored = .ok next ∧ w.Accepts crypto next
  | .revokeWatch watchDeviceId =>
      next = ⟨w.stored.pins.map (watchRevoked watchDeviceId), w.stored.pendingActivations⟩
  | .revokeCompromisedEncryptionKey keyId =>
      next = ⟨w.stored.pins.map (keyRevoked keyId), w.stored.pendingActivations⟩
  | .reconcileRecipients snapshot =>
      next = reconciledState snapshot w.stored ∧
        ∀ pin ∈ w.stored.pins, pin.status = .active →
          pinKey pin ∉ snapshot.recipients.map recipientKey → pinKey pin ∈ w.keyring.pins.map pinKey
  | .pruneRetiring references now =>
      next = ⟨w.stored.pins.filter (isPinRetained references now), w.stored.pendingActivations⟩
  | .reopen => False
  | .rotate _ => False

section
variable {crypto : NodeCrypto} {w : KeyringWorld}

/-- What is loaded is the state of the file. -/
theorem KeyringWorld.Loads.stored {state : PersistedKeyringV2} (h : w.Loads crypto state) :
    w.stored = state := by
  unfold KeyringWorld.stored
  rcases h with ⟨hnone, rfl⟩ | ⟨hsome, -⟩
  · rw [hnone]
    rfl
  · rw [hsome]
    rfl

/-- The file after an update. -/
theorem performUpdate_stored (update : KeyringUpdate) :
    ((performUpdate crypto update).run w).2.stored = w.stored ∨
      ArgumentsChecked crypto w update ∧ w.Accepts crypto w.stored ∧
        changed update w.stored = .ok ((performUpdate crypto update).run w).2.stored ∧
        w.Accepts crypto ((performUpdate crypto update).run w).2.stored := by
  rcases @performUpdate_cases crypto update w with ⟨e, hrun⟩ | ⟨hchecked, hresult⟩
  · rw [hrun]
    exact Or.inl rfl
  · generalize (performUpdate crypto update).run w = result at hresult
    cases hresult with
    | unreadable e => exact Or.inl rfl
    | rejected latest e hload => exact Or.inl rfl
    | invalid latest next e hload hnext => exact Or.inl rfl
    | unchanged latest hload hnext hvalid => exact Or.inl rfl
    | written latest next hload hnext hvalid =>
      rw [hload.stored]
      exact Or.inr ⟨hchecked, hload.accepts, hnext, hvalid⟩

/-- The file after a method that revokes in a current copy. -/
theorem mapPins_stored {f : ActiveLinkPinV2 → ActiveLinkPinV2}
    (hcurrent : w.keyring.pins.map f = w.keyring.pins ∨ w.keyring.state = w.stored) :
    ((mapPins f).run w).2.stored = w.stored ∨
      ((mapPins f).run w).2.stored = ⟨w.stored.pins.map f, w.stored.pendingActivations⟩ := by
  rw [mapPins_run]
  show (if _ then w else _).stored = w.stored ∨ (if _ then w else _).stored = _
  split
  · exact Or.inl rfl
  · rename_i hchanged
    have hstate := hcurrent.resolve_left hchanged
    rw [← hstate]
    exact Or.inr rfl

/-- With a current copy, a method leaves the file or changes its state as it should. -/
theorem perform_stored {a : KeyringAction} (hcurrent : CopyCurrent w a) :
    ((perform crypto a).final w).stored = w.stored ∨
      StoredChange crypto w ((perform crypto a).final w).stored a := by
  cases a with
  | update update => exact performUpdate_stored update
  | foreign update => exact performUpdate_stored update
  | revokeWatch watchDeviceId => exact mapPins_stored hcurrent
  | revokeCompromisedEncryptionKey keyId => exact mapPins_stored hcurrent
  | reconcileRecipients snapshot =>
    show ((reconcileRecipients crypto snapshot).run w).2.stored = w.stored ∨
      StoredChange crypto w ((reconcileRecipients crypto snapshot).run w).2.stored _
    have hresult := @reconcileRecipients_cases crypto snapshot w
    generalize (reconcileRecipients crypto snapshot).run w = result at hresult
    cases hresult with
    | kept r => exact Or.inl rfl
    | refreshed latest r hload => exact Or.inl rfl
    | writtenCopy r hload =>
      have hstate : w.keyring.state = w.stored := hcurrent hload.stored.symm
      refine Or.inr ⟨?_, fun pin hpin _ _ => ?_⟩
      · rw [← hstate]
        rfl
      · -- The copy holds the pins of the file, so it knows them.
        rw [← hstate] at hpin
        exact List.mem_map.mpr ⟨pin, hpin, rfl⟩
    | writtenLatest latest r hload hknown =>
      rw [← hload.stored] at hknown ⊢
      exact Or.inr ⟨rfl, hknown⟩
  | pruneRetiring references now =>
    show ((pruneRetiring references now).final w).stored = w.stored ∨
      StoredChange crypto w ((pruneRetiring references now).final w).stored _
    rcases hcurrent with hall | hstate
    · -- Every pin is retained, so nothing is written.
      left
      unfold pruneRetiring Effect.final
      rw [Effect.run_bind, Effect.run_ofExcept]
      cases assertCanonicalRetentionReferences references with
      | error e => rfl
      | ok u =>
        rw [Effect.next_ok, Effect.run_bind, Effect.run_get, Effect.next_ok, Effect.run_bind,
          if_pos hall]
        rfl
    · rcases pruneRetiring_cases references now w with hsame | hpruned
      · rw [hsame]
        exact Or.inl rfl
      · rw [hpruned]
        refine Or.inr ?_
        show _ = _
        rw [← hstate]
        rfl
  | reopen =>
    left
    show ((refreshPersisted crypto).run w).2.stored = w.stored
    rcases @refreshPersisted_cases crypto w with ⟨latest, hload, hrun⟩ | ⟨e, hrun⟩
    · rw [hrun]
      rfl
    · rw [hrun]
  | rotate identity => exact Or.inl rfl

/-! ### What the changes keep -/

/-- Every function that a method maps over pins keeps their tuples and Watches. -/
theorem retireFor_cases (pin : ActiveLinkPinV2) (now : CanonicalTimestamp) (item : ActiveLinkPinV2) :
    retireFor pin now item = item ∨
      (retireFor pin now item =
          { item with status := .retiring, retiringAt := some (max now item.activatedAt) } ∧
        item.watchDeviceId = pin.watchDeviceId ∧ item.status = .active) := by
  unfold retireFor
  split
  · rename_i h
    exact Or.inr ⟨rfl, h.1, h.2.1⟩
  · exact Or.inl rfl

/-- What `activated` makes of a state: the pin is there already, or it is added and the older
active pins of its Watch retire. -/
theorem activated_cases {pin : ActiveLinkPinV2} {now : CanonicalTimestamp}
    {state next : PersistedKeyringV2} (h : activated pin now state = .ok next) :
    (∀ item ∈ state.pins, item.watchDeviceId = pin.watchDeviceId →
        rejectsRollback pin item = false) ∧
      next.pendingActivations = withoutPending (pinKey pin) state.pendingActivations ∧
      ((pin ∈ state.pins ∧ next.pins = state.pins) ∨
        ((∀ item ∈ state.pins, pinKey item ≠ pinKey pin) ∧
          next.pins = state.pins.map (retireFor pin now) ++ [pin])) := by
  unfold activated at h
  split at h
  · exact absurd h (by simp)
  · rename_i hfresh
    refine ⟨fun item hitem hwatch => ?_, ?_⟩
    · by_contra hrejects
      rw [Bool.not_eq_false] at hrejects
      exact hfresh (List.any_eq_true.mpr
        ⟨item, List.mem_filter.mpr ⟨hitem, decide_eq_true hwatch⟩, hrejects⟩)
    · split at h
      · rename_i known hknown
        split at h
        · exact absurd h (by simp)
        · rename_i hsame
          rw [not_not] at hsame
          cases h
          subst hsame
          exact ⟨rfl, Or.inl ⟨List.mem_of_find?_eq_some hknown, rfl⟩⟩
      · rename_i hnew
        cases h
        refine ⟨rfl, Or.inr ⟨fun item hitem => ?_, rfl⟩⟩
        have hne := List.find?_eq_none.mp hnew item hitem
        simpa using hne

/-- What `staged` makes of a state. -/
theorem staged_cases {pending : PendingActivationV2} {state next : PersistedKeyringV2}
    (h : staged pending state = .ok next) :
    next.pins = state.pins ∧ ∀ item ∈ state.pendingActivations, item ∈ next.pendingActivations := by
  refine ⟨staged_pins h, fun item hitem => ?_⟩
  unfold staged at h
  split at h
  · split at h
    · exact absurd h (by simp)
    · rw [← Except.ok.inj h]
      exact hitem
  · rw [← Except.ok.inj h]
    exact List.mem_append_left _ hitem

end

end Ariava.E2e
