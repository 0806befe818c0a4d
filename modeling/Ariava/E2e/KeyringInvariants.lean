import Ariava.E2e.KeyringUpdates

/-!
# `Ariava.E2e.KeyringInvariants`: what every keyring method keeps

A property of pin lists that each elementary change keeps is kept by the methods, in the object
and in the file: `perform_after`. It is instantiated twice.

- `KeyringSound.step`: the pins of the object stay valid, and their tuples stay different. Here
  the file gives sound pins because it is checked when it is loaded.
- Elsewhere, with the property that a pin is still there.

`Retains` says that the key of an id does not change. `KeyringStep.retains` is the step lemma.
-/

set_option autoImplicit false

namespace Ariava.E2e

open Ariava.Lib
open Ariava.Protocol

/-- The pins of the file. -/
def KeyringWorld.filePins (w : KeyringWorld) : List ActiveLinkPinV2 :=
  (w.file.map fun state => state.pins).getD []

/-- The Host and its keys are the same. -/
structure SameHost (w₀ w : KeyringWorld) : Prop where
  hostId : w.keyring.currentHostId = w₀.keyring.currentHostId
  identities : w.keyring.identities = w₀.keyring.identities
  currentKeyId : w.currentKeyId = w₀.currentKeyId
  generatedKeyIds : w.generatedKeyIds = w₀.generatedKeyIds

theorem SameHost.refl (w : KeyringWorld) : SameHost w w := ⟨rfl, rfl, rfl, rfl⟩

/-- A method before it writes: the file is as it was, and `P` holds of the pins of the object. -/
structure BeforeWrite (P : List ActiveLinkPinV2 → Prop) (w₀ w : KeyringWorld) : Prop
    extends SameHost w₀ w where
  file : w.file = w₀.file
  pins : P w.keyring.pins

/-- A method after it wrote: the file is as it was, or `P` holds of its pins. -/
structure AfterWrite (P : List ActiveLinkPinV2 → Prop) (w₀ w : KeyringWorld) : Prop
    extends SameHost w₀ w where
  file : w.file = w₀.file ∨ P w.filePins
  pins : P w.keyring.pins

section
variable {P : List ActiveLinkPinV2 → Prop} {w₀ w : KeyringWorld}

theorem BeforeWrite.after (h : BeforeWrite P w₀ w) : AfterWrite P w₀ w :=
  ⟨h.toSameHost, Or.inl h.file, h.pins⟩

/-- Only the state of the object changes. -/
theorem BeforeWrite.withState (h : BeforeWrite P w₀ w) {state : PersistedKeyringV2}
    (hpins : P state.pins) (persisted : PersistedKeyringV2) :
    BeforeWrite P w₀
      { w with keyring := w.keyring.withState state, persistedState := persisted } :=
  ⟨⟨h.hostId, h.identities, h.currentKeyId, h.generatedKeyIds⟩, h.file, hpins⟩

theorem BeforeWrite.refl (hpins : P w.keyring.pins) : BeforeWrite P w w :=
  ⟨SameHost.refl w, rfl, hpins⟩

end

/-! ### The methods -/

namespace LocalLinkKeyring

section
variable {crypto : NodeCrypto} {P : List ActiveLinkPinV2 → Prop} {w₀ w : KeyringWorld}

/-- What `load` finds depends on the file and the Host only. -/
theorem run_load (hhost : SameHost w₀ w) (hfile : w.file = w₀.file) :
    (load crypto).run w = ((load crypto).outcome w₀, w) := by
  unfold load Effect.outcome
  rw [Effect.run_bind, Effect.run_get, Effect.next_ok, Effect.run_bind, Effect.run_get,
    Effect.next_ok, hfile]
  cases w₀.file with
  | none => rfl
  | some state =>
    show (_ >>= _ : KeyringEffect _).run w = (((_ >>= _ : KeyringEffect _).run w₀).1, w)
    rw [Effect.run_bind, Effect.run_bind, Effect.run_ofExcept, Effect.run_ofExcept,
      hhost.hostId, hhost.identities]
    cases validateState crypto w₀.keyring.currentHostId w₀.keyring.identities state <;> rfl

/-- A method writes what it has in the object. -/
theorem BeforeWrite.persist (h : BeforeWrite P w₀ w) :
    AfterWrite P w₀ (LocalLinkKeyring.persist.run w).2 :=
  ⟨⟨h.hostId, h.identities, h.currentKeyId, h.generatedKeyIds⟩, Or.inr h.pins, h.pins⟩

theorem BeforeWrite.setPins (h : BeforeWrite P w₀ w) {pins : List ActiveLinkPinV2}
    (hpins : P pins) : BeforeWrite P w₀ ((LocalLinkKeyring.setPins pins).run w).2 :=
  ⟨⟨h.hostId, h.identities, h.currentKeyId, h.generatedKeyIds⟩, h.file, hpins⟩

theorem BeforeWrite.adopt (h : BeforeWrite P w₀ w) {state : PersistedKeyringV2}
    (hpins : P state.pins) : BeforeWrite P w₀ ((LocalLinkKeyring.adopt state).run w).2 :=
  h.withState hpins state

/-- `refreshPersisted` takes over the pins of the file. -/
theorem refreshPersisted_before (hload : ∀ state, (load crypto).outcome w₀ = .ok state → P state.pins)
    (h : BeforeWrite P w₀ w) : BeforeWrite P w₀ ((refreshPersisted crypto).run w).2 := by
  unfold refreshPersisted
  rw [Effect.run_bind, run_load h.toSameHost h.file]
  cases hlatest : (load crypto).outcome w₀ with
  | error e => exact h
  | ok latest => exact BeforeWrite.adopt h (hload latest hlatest)

/-- `updatePersisted` keeps what its change keeps. -/
theorem updatePersisted_after {mutate : PersistedKeyringV2 → Except Thrown PersistedKeyringV2}
    (hload : ∀ state, (load crypto).outcome w₀ = .ok state → P state.pins)
    (hmutate : ∀ state next, mutate state = .ok next → P state.pins → P next.pins)
    (h : BeforeWrite P w₀ w) : AfterWrite P w₀ ((updatePersisted crypto mutate).run w).2 := by
  unfold updatePersisted
  rw [Effect.run_bind, run_load h.toSameHost h.file]
  cases hlatest : (load crypto).outcome w₀ with
  | error e => exact h.after
  | ok latest =>
    have hpins := hload latest hlatest
    have hadopted := BeforeWrite.adopt h hpins
    rw [Effect.next_ok, Effect.run_bind]
    show AfterWrite P w₀ ((_ >>= _ : KeyringEffect Unit).run ((adopt latest).run w).2).2
    rw [Effect.run_bind, Effect.run_ofExcept]
    cases hnext : mutate latest with
    | error e => exact hadopted.after
    | ok next =>
      have hchanged := hmutate latest next hnext hpins
      rw [Effect.next_ok, Effect.run_bind, Effect.run_modify, Effect.next_ok, Effect.run_bind,
        Effect.run_get, Effect.next_ok, Effect.run_bind, Effect.run_ofExcept]
      have hbefore := hadopted.withState hchanged latest
      cases validateState crypto _ _ next with
      | error e => exact hbefore.after
      | ok u =>
        rw [Effect.next_ok]
        split
        · exact BeforeWrite.persist hbefore
        · exact hbefore.after

/-- `mapPins` keeps what changing the pins one by one keeps. -/
theorem mapPins_after {f : ActiveLinkPinV2 → ActiveLinkPinV2}
    (hf : ∀ pins, P pins → P (pins.map f)) (h : BeforeWrite P w₀ w) :
    AfterWrite P w₀ ((mapPins f).run w).2 := by
  unfold mapPins
  rw [Effect.run_bind, Effect.run_get, Effect.next_ok, Effect.run_bind]
  have hset := BeforeWrite.setPins h (hf _ h.pins)
  show AfterWrite P w₀ ((ite _ _ _ : KeyringEffect Unit).run ((setPins _).run w).2).2
  split
  · exact BeforeWrite.persist hset
  · exact hset.after

/-- Finding the recipients refreshes from the file at most. -/
theorem findRecipients_before {snapshot : E2ERecipientSnapshotV1}
    (hload : ∀ state, (load crypto).outcome w₀ = .ok state → P state.pins)
    (h : BeforeWrite P w₀ w) : BeforeWrite P w₀ ((findRecipients crypto snapshot).run w).2 := by
  unfold findRecipients
  rw [Effect.run_tryCatch]
  rcases hfirst : (recipientMaterials crypto snapshot >>= fun _ =>
    (pure false : KeyringEffect Bool)).run w with ⟨r, v⟩
  have hv : v = w := by
    rw [Effect.run_bind] at hfirst
    unfold recipientMaterials at hfirst
    rw [Effect.run_bind, Effect.run_get, Effect.next_ok, Effect.run_ofExcept] at hfirst
    cases hmaterials : snapshot.recipients.mapM (materialForRecipient crypto w.keyring) with
    | error e => rw [hmaterials] at hfirst; exact (congrArg Prod.snd hfirst).symm
    | ok materials => rw [hmaterials] at hfirst; exact (congrArg Prod.snd hfirst).symm
  subst hv
  cases r with
  | ok refreshed => exact h
  | error e =>
    rw [Effect.handle_error, Effect.run_bind]
    have hrefreshed := refreshPersisted_before hload h
    rcases hrun : (refreshPersisted crypto).run v with ⟨r, u⟩
    rw [hrun] at hrefreshed
    cases r with
    | error e => exact hrefreshed
    | ok _ =>
      rw [Effect.next_ok, Effect.run_tryCatch, Effect.run_bind]
      unfold recipientMaterials
      rw [Effect.run_bind, Effect.run_get, Effect.next_ok, Effect.run_ofExcept]
      cases snapshot.recipients.mapM (materialForRecipient crypto u.keyring) with
      | error e => exact hrefreshed
      | ok materials => exact hrefreshed

/-- Reconciled pins are the pins, reconciled one by one. -/
theorem reconciledPins_eq_ok {snapshot : E2ERecipientSnapshotV1} {known : Option (List PinKey)}
    {pins pins' : List ActiveLinkPinV2} (h : reconciledPins snapshot known pins = .ok pins') :
    pins' = pins.map (reconciledPin snapshot) := by
  rw [reconciledPins, check_bind_eq_ok] at h
  exact (Except.ok.inj h.2).symm

/-- Writing the reconciled pins keeps what reconciling the pins one by one keeps. -/
theorem persistReconciled_after {snapshot : E2ERecipientSnapshotV1} {known : List PinKey}
    {reconciled : List ActiveLinkPinV2}
    (hload : ∀ state, (load crypto).outcome w₀ = .ok state → P state.pins)
    (hreconcile : ∀ pins, P pins → P (pins.map (reconciledPin snapshot)))
    (hreconciled : P reconciled) (h : BeforeWrite P w₀ w) :
    AfterWrite P w₀ ((persistReconciled crypto snapshot known reconciled).run w).2 := by
  unfold persistReconciled
  rw [Effect.run_bind, run_load h.toSameHost h.file]
  cases hlatest : (load crypto).outcome w₀ with
  | error e => exact h.after
  | ok latest =>
    rw [Effect.next_ok, Effect.run_bind, Effect.run_get, Effect.next_ok]
    split
    · -- The file has changed behind the object.
      have hpins := hload latest hlatest
      have hadopted := BeforeWrite.adopt h hpins
      rw [Effect.run_bind]
      show AfterWrite P w₀ ((_ >>= _ : KeyringEffect Unit).run ((adopt latest).run w).2).2
      generalize ((adopt latest).run w).2 = u at hadopted ⊢
      rw [Effect.run_bind]
      unfold recipientMaterials
      rw [Effect.run_bind, Effect.run_get, Effect.next_ok, Effect.run_ofExcept]
      cases snapshot.recipients.mapM (materialForRecipient crypto u.keyring) with
      | error e => exact hadopted.after
      | ok materials =>
        rw [Effect.next_ok, Effect.run_bind, Effect.run_ofExcept]
        cases hrec : reconciledPins snapshot (some known) latest.pins with
        | error e => exact hadopted.after
        | ok pins =>
          rw [reconciledPins_eq_ok hrec]
          exact BeforeWrite.persist (BeforeWrite.setPins hadopted (hreconcile _ hpins))
    · exact BeforeWrite.persist (BeforeWrite.setPins h hreconciled)

/-- `reconcileRecipients` keeps what reconciling the pins one by one keeps. -/
theorem reconcileRecipients_after {snapshot : E2ERecipientSnapshotV1}
    (hload : ∀ state, (load crypto).outcome w₀ = .ok state → P state.pins)
    (hreconcile : ∀ pins, P pins → P (pins.map (reconciledPin snapshot)))
    (h : BeforeWrite P w₀ w) :
    AfterWrite P w₀ ((reconcileRecipients crypto snapshot).run w).2 := by
  unfold reconcileRecipients
  rw [Effect.run_bind, Effect.run_get, Effect.next_ok, Effect.run_bind, Effect.run_ofExcept]
  cases throwIf (decide (snapshot.hostId ≠ w.keyring.currentHostId)
      || !isPositiveSafeInteger snapshot.recipientSetVersion)
    (Thrown.typeError "recipient snapshot is invalid") with
  | error e => exact h.after
  | ok u =>
    rw [Effect.next_ok, Effect.run_bind]
    have hfound : BeforeWrite P w₀ ((findRecipients crypto snapshot).run w).2 :=
      findRecipients_before hload h
    rcases hfind : (findRecipients crypto snapshot).run w with ⟨r, v⟩
    rw [hfind] at hfound
    cases r with
    | error e => exact hfound.after
    | ok refreshed =>
      rw [Effect.next_ok, Effect.run_bind, Effect.run_get, Effect.next_ok]
      show AfterWrite P w₀ ((_ >>= _ : KeyringEffect Unit).run v).2
      rw [Effect.run_bind, Effect.run_ofExcept]
      cases hrec : reconciledPins snapshot
          (if refreshed = true then some (w.keyring.pins.map pinKey) else none) v.keyring.pins with
      | error e => exact hfound.after
      | ok reconciled =>
        rw [Effect.next_ok]
        split
        · exact hfound.after
        · refine persistReconciled_after hload hreconcile ?_ hfound
          rw [reconciledPins_eq_ok hrec]
          exact hreconcile _ hfound.pins

/-- A pin that is activated was checked first. -/
def Checked (crypto : NodeCrypto) (w : KeyringWorld) : KeyringUpdate → Prop
  | .persistActive pin _ =>
      ValidPin crypto w.keyring.currentHostId w.keyring.identities pin ∧ pin.status = .active
  | _ => True

/-- An update keeps what its change keeps. -/
theorem performUpdate_after {update : KeyringUpdate}
    (hload : ∀ state, (load crypto).outcome w = .ok state → P state.pins)
    (hkept : Checked crypto w update → ∀ state next, changed update state = .ok next →
      P state.pins → P next.pins) (hpins : P w.keyring.pins) :
    AfterWrite P w ((performUpdate crypto update).run w).2 := by
  have h := BeforeWrite.refl hpins
  cases update with
  | persistActive pin now =>
    show AfterWrite P w ((persistActive crypto pin now).run w).2
    unfold persistActive
    rw [Effect.run_bind, Effect.run_get, Effect.next_ok, Effect.run_bind, Effect.run_ofExcept]
    cases hvalid : assertValidPin crypto w.keyring.currentHostId w.keyring.identities pin with
    | error e => exact h.after
    | ok u =>
      rw [Effect.next_ok, Effect.run_bind, Effect.run_ofExcept]
      cases hactive : throwIf (decide (pin.status ≠ .active))
          (Thrown.typeError "new link pin must be active") with
      | error e => exact h.after
      | ok u =>
        rw [throwIf_eq_ok, decide_eq_false_iff_not, not_not] at hactive
        exact updatePersisted_after hload
          (hkept ⟨assertValidPin_eq_ok_iff.mp hvalid, hactive⟩) h
  | stageActivation pending =>
    show AfterWrite P w ((stageActivation crypto pending).run w).2
    unfold stageActivation
    rw [Effect.run_bind, Effect.run_get, Effect.next_ok, Effect.run_bind, Effect.run_ofExcept]
    cases assertValidPending crypto w.keyring.currentHostId w.keyring.identities pending with
    | error e => exact h.after
    | ok u => exact updatePersisted_after hload (hkept trivial) h
  | revokeWatchGeneration watchDeviceId linkGeneration =>
    show AfterWrite P w ((revokeWatchGeneration crypto watchDeviceId linkGeneration).run w).2
    unfold revokeWatchGeneration
    rw [Effect.run_bind, Effect.run_ofExcept]
    cases throwIf (!(isNonEmptyString watchDeviceId && isPositiveSafeInteger linkGeneration))
        (Thrown.typeError "Watch relation generation is invalid") with
    | error e => exact h.after
    | ok u => exact updatePersisted_after hload (hkept trivial) h

/-- `P` is kept by everything an action does to pins. -/
def KeptBy (crypto : NodeCrypto) (w : KeyringWorld) (P : List ActiveLinkPinV2 → Prop) :
    KeyringAction → Prop
  | .update update | .foreign update => Checked crypto w update → ∀ state next,
      changed update state = .ok next → P state.pins → P next.pins
  | .revokeWatch watchDeviceId => ∀ pins, P pins → P (pins.map (watchRevoked watchDeviceId))
  | .revokeCompromisedEncryptionKey keyId => ∀ pins, P pins → P (pins.map (keyRevoked keyId))
  | .reconcileRecipients snapshot => ∀ pins, P pins → P (pins.map (reconciledPin snapshot))
  | .pruneRetiring references now =>
      ∀ pins, P pins → P (pins.filter (isPinRetained references now))
  | .reopen => True
  | .rotate _ => True

/-- The keyring with the pins that a prune keeps. -/
def prunedPins (references : PinRetentionReferences) (now : CanonicalTimestamp)
    (keyring : LocalLinkKeyring) : LocalLinkKeyring :=
  { keyring with pins := keyring.pins.filter (isPinRetained references now) }

/-- The keys that a prune keeps. -/
def prunedIdentities (currentKeyId : String) (keyring : LocalLinkKeyring) : HostIdentities :=
  keyring.identities.filter fun keyId _ =>
    decide (keyId = currentKeyId) || keyring.referencedHostEncryptionKeyIds.contains keyId

/-- `pruneRetiring` filters the pins of the object. If one goes, it writes the rest and drops the
keys that nothing refers to. -/
theorem pruneRetiring_cases (references : PinRetentionReferences) (now : CanonicalTimestamp)
    (w : KeyringWorld) :
    (pruneRetiring references now).final w = w ∨
      (pruneRetiring references now).final w =
        { w with
          keyring := { prunedPins references now w.keyring with
            identities := prunedIdentities w.currentKeyId (prunedPins references now w.keyring) }
          file := some (prunedPins references now w.keyring).state
          persistedState := (prunedPins references now w.keyring).state } := by
  unfold pruneRetiring Effect.final
  rw [Effect.run_bind, Effect.run_ofExcept]
  cases assertCanonicalRetentionReferences references with
  | error e => exact Or.inl rfl
  | ok u =>
    rw [Effect.next_ok, Effect.run_bind, Effect.run_get, Effect.next_ok, Effect.run_bind]
    by_cases hall : w.keyring.pins.all (isPinRetained references now) = true
    · left
      rw [if_pos hall]
      have hsame : w.keyring.pins.filter (isPinRetained references now) = w.keyring.pins :=
        List.filter_eq_self.mpr (List.all_eq_true.mp hall)
      rw [hsame]
      rfl
    · right
      rw [if_neg hall]
      rfl

/-- Every action keeps `P`, in the object and in the file. -/
theorem perform_pins {action : KeyringAction}
    (hload : ∀ state, (load crypto).outcome w = .ok state → P state.pins)
    (hkept : KeptBy crypto w P action) (hpins : P w.keyring.pins) :
    P ((perform crypto action).final w).keyring.pins ∧
      (((perform crypto action).final w).file = w.file ∨
        P ((perform crypto action).final w).filePins) := by
  have h := BeforeWrite.refl hpins
  cases action with
  | update update =>
    have hafter := performUpdate_after hload hkept hpins
    exact ⟨hafter.pins, hafter.file⟩
  | foreign update =>
    have hafter := performUpdate_after hload hkept hpins
    exact ⟨hpins, hafter.file⟩
  | revokeWatch watchDeviceId =>
    have hafter := mapPins_after hkept h
    exact ⟨hafter.pins, hafter.file⟩
  | revokeCompromisedEncryptionKey keyId =>
    have hafter := mapPins_after hkept h
    exact ⟨hafter.pins, hafter.file⟩
  | reconcileRecipients snapshot =>
    have hafter := reconcileRecipients_after hload hkept h
    exact ⟨hafter.pins, hafter.file⟩
  | pruneRetiring references now =>
    show P ((pruneRetiring references now).final w).keyring.pins ∧
      (((pruneRetiring references now).final w).file = w.file ∨
        P ((pruneRetiring references now).final w).filePins)
    rcases pruneRetiring_cases references now w with hsame | hpruned
    · rw [hsame]
      exact ⟨hpins, Or.inl rfl⟩
    · rw [hpruned]
      exact ⟨hkept _ hpins, Or.inr (hkept _ hpins)⟩
  | reopen =>
    have hbefore := refreshPersisted_before hload h
    exact ⟨hbefore.pins, Or.inl hbefore.file⟩
  | rotate identity => exact ⟨hpins, Or.inl rfl⟩

/-- Only a prune and a rotation touch the keys of the Host. -/
theorem perform_host (action : KeyringAction) :
    SameHost w ((perform crypto action).final w) ∨
      (∃ references now, action = .pruneRetiring references now) ∨
      ∃ identity, action = .rotate identity := by
  have h : BeforeWrite (fun _ => True) w w := BeforeWrite.refl trivial
  cases action with
  | update update =>
    exact Or.inl (performUpdate_after (P := fun _ => True) (fun _ _ => trivial)
      (fun _ _ _ _ _ => trivial) trivial).toSameHost
  | foreign update => exact Or.inl ⟨rfl, rfl, rfl, rfl⟩
  | revokeWatch watchDeviceId =>
    exact Or.inl (mapPins_after (fun _ _ => trivial) h).toSameHost
  | revokeCompromisedEncryptionKey keyId =>
    exact Or.inl (mapPins_after (fun _ _ => trivial) h).toSameHost
  | reconcileRecipients snapshot =>
    exact Or.inl (reconcileRecipients_after (fun _ _ => trivial) (fun _ _ => trivial) h).toSameHost
  | pruneRetiring references now => exact Or.inr (Or.inl ⟨references, now, rfl⟩)
  | reopen => exact Or.inl (refreshPersisted_before (fun _ _ => trivial) h).toSameHost
  | rotate identity => exact Or.inr (Or.inr ⟨identity, rfl⟩)

end

end LocalLinkKeyring

/-! ### Sound keyrings -/

/-- What holds of every reachable keyring: its keys can be imported, its pins are valid and have
different tuples. -/
structure KeyringSound (crypto : NodeCrypto) (w : KeyringWorld) : Prop where
  identities : ∀ keyId identity, w.keyring.identities.get? keyId = some identity →
    identity.encryptionKeyId = keyId ∧ crypto.canImportPrivateKey identity = true ∧
      keyId ∈ w.generatedKeyIds
  pins : SoundPins crypto w.keyring.currentHostId w.keyring.identities w.keyring.pins

/-- No key of an id that was generated is replaced by another one. -/
structure Retains (w w' : KeyringWorld) : Prop where
  hostId : w'.keyring.currentHostId = w.keyring.currentHostId
  generated : ∀ keyId ∈ w.generatedKeyIds, keyId ∈ w'.generatedKeyIds
  identities : ∀ keyId ∈ w.generatedKeyIds, ∀ identity,
    w'.keyring.identities.get? keyId = some identity →
      w.keyring.identities.get? keyId = some identity

theorem Retains.refl (w : KeyringWorld) : Retains w w :=
  ⟨rfl, fun _ h => h, fun _ _ _ h => h⟩

theorem Retains.trans {w₁ w₂ w₃ : KeyringWorld} (h₁ : Retains w₁ w₂) (h₂ : Retains w₂ w₃) :
    Retains w₁ w₃ :=
  ⟨h₂.hostId.trans h₁.hostId, fun keyId h => h₂.generated keyId (h₁.generated keyId h),
    fun keyId h identity hget =>
      h₁.identities keyId h identity (h₂.identities keyId (h₁.generated keyId h) identity hget)⟩

theorem SameHost.retains {w w' : KeyringWorld} (h : SameHost w w') : Retains w w' :=
  ⟨h.hostId, fun _ hmem => h.generatedKeyIds ▸ hmem, fun _ _ _ hget => h.identities ▸ hget⟩

section
open LocalLinkKeyring
variable {crypto : NodeCrypto} {w w' : KeyringWorld} {a : KeyringAction}

/-- The pins of a file that was loaded are sound. -/
theorem soundPins_of_load {state : PersistedKeyringV2}
    (h : (load crypto).outcome w = .ok state) :
    SoundPins crypto w.keyring.currentHostId w.keyring.identities state.pins := by
  unfold load Effect.outcome at h
  rw [Effect.run_bind, Effect.run_get, Effect.next_ok] at h
  cases hfile : w.file with
  | none =>
    rw [hfile] at h
    cases (Except.ok.inj h : (⟨[], []⟩ : PersistedKeyringV2) = state)
    exact ⟨fun _ hpin => absurd hpin List.not_mem_nil, List.nodup_nil⟩
  | some stored =>
    rw [hfile] at h
    change ((_ >>= _ : KeyringEffect _).run w).1 = _ at h
    rw [Effect.run_bind, Effect.run_ofExcept] at h
    cases hvalid : validateState crypto w.keyring.currentHostId w.keyring.identities stored with
    | error e => rw [hvalid] at h; exact absurd h (by simp)
    | ok u =>
      rw [hvalid] at h
      cases (Except.ok.inj h : stored = state)
      exact soundPins_of_validateState hvalid

/-- Activating a pin that was checked keeps the pins sound. -/
theorem SoundPins.activated {hostId : String} {identities : HostIdentities}
    {pin : ActiveLinkPinV2} {now : CanonicalTimestamp} {state next : PersistedKeyringV2}
    (hvalid : ValidPin crypto hostId identities pin)
    (hnext : LocalLinkKeyring.activated pin now state = .ok next)
    (h : SoundPins crypto hostId identities state.pins) :
    SoundPins crypto hostId identities next.pins := by
  unfold LocalLinkKeyring.activated at hnext
  split at hnext
  · exact absurd hnext (by simp)
  · split at hnext
    · split at hnext
      · exact absurd hnext (by simp)
      · cases hnext
        exact h
    · rename_i hnew
      cases hnext
      have hkey : ∀ item, pinKey (retireFor pin now item) = pinKey item := by
        intro item
        unfold retireFor
        split <;> rfl
      refine SoundPins.append (h.map (fun item hitem => ?_) hkey) hvalid fun other hother => ?_
      · unfold retireFor
        split
        · refine (h.valid item hitem).withStatus ?_
          show decide (item.activatedAt ≤ max now item.activatedAt) = true
          rw [decide_eq_true_eq]
          exact le_max_right _ _
        · exact h.valid item hitem
      · obtain ⟨item, hitem, rfl⟩ := List.mem_map.mp hother
        rw [hkey]
        have hne := List.find?_eq_none.mp hnew item hitem
        simpa using hne

/-- Revoking some pins keeps them sound. -/
theorem SoundPins.revoke {hostId : String} {identities : HostIdentities}
    {f : ActiveLinkPinV2 → ActiveLinkPinV2}
    (hf : ∀ pin, f pin = pin ∨ f pin = revokedPin pin ∨ f pin = { pin with status := .revoked })
    {pins : List ActiveLinkPinV2} (h : SoundPins crypto hostId identities pins) :
    SoundPins crypto hostId identities (pins.map f) := by
  refine h.map (fun pin hpin => ?_) fun pin => ?_
  · have hvalid := h.valid pin hpin
    rcases hf pin with hf | hf | hf
    · rw [hf]
      exact hvalid
    · rw [hf]
      exact hvalid.revoked
    · rw [hf]
      exact hvalid.revokedAt
  · rcases hf pin with hf | hf | hf <;> rw [hf] <;> rfl

theorem watchRevoked_cases (watchDeviceId : String) (pin : ActiveLinkPinV2) :
    watchRevoked watchDeviceId pin = pin ∨
      watchRevoked watchDeviceId pin = revokedPin pin ∧ pin.watchDeviceId = watchDeviceId := by
  unfold watchRevoked
  split
  · rename_i hwatch
    exact Or.inr ⟨rfl, hwatch⟩
  · exact Or.inl rfl

theorem generationRevokedPin_cases (watchDeviceId : String) (linkGeneration : Nat)
    (pin : ActiveLinkPinV2) :
    generationRevokedPin watchDeviceId linkGeneration pin = pin ∨
      generationRevokedPin watchDeviceId linkGeneration pin = revokedPin pin ∧
        pin.watchDeviceId = watchDeviceId ∧ pin.linkGeneration = linkGeneration := by
  unfold generationRevokedPin
  split
  · rename_i hwatch
    exact Or.inr ⟨rfl, hwatch⟩
  · exact Or.inl rfl

theorem keyRevoked_cases (keyId : String) (pin : ActiveLinkPinV2) :
    keyRevoked keyId pin = pin ∨
      keyRevoked keyId pin = { pin with status := .revoked } ∧
        pin.hostBinding.encryptionKeyId = keyId := by
  unfold keyRevoked
  split
  · rename_i hkey
    exact Or.inr ⟨rfl, hkey.2⟩
  · exact Or.inl rfl

theorem reconciledPin_cases (snapshot : E2ERecipientSnapshotV1) (pin : ActiveLinkPinV2) :
    reconciledPin snapshot pin = pin ∨ reconciledPin snapshot pin = revokedPin pin := by
  unfold reconciledPin
  split
  · exact Or.inl rfl
  · split
    · exact Or.inl rfl
    · exact Or.inr rfl

/-- Staging an activation leaves the pins. -/
theorem staged_pins {pending : PendingActivationV2} {state next : PersistedKeyringV2}
    (h : staged pending state = .ok next) : next.pins = state.pins := by
  unfold staged at h
  split at h
  · split at h
    · exact absurd h (by simp)
    · rw [Except.ok.inj h]
  · rw [← Except.ok.inj h]

/-- What an action does to pins keeps them sound. -/
theorem soundPins_keptBy (a : KeyringAction) : KeptBy crypto w
    (SoundPins crypto w.keyring.currentHostId w.keyring.identities) a := by
  have hupdate : ∀ update, Checked crypto w update → ∀ state next,
      changed update state = .ok next →
        SoundPins crypto w.keyring.currentHostId w.keyring.identities state.pins →
          SoundPins crypto w.keyring.currentHostId w.keyring.identities next.pins := by
    intro update hchecked state next hnext h
    cases update with
    | persistActive pin now => exact SoundPins.activated hchecked.1 hnext h
    | stageActivation pending =>
      rw [staged_pins hnext]
      exact h
    | revokeWatchGeneration watchDeviceId linkGeneration =>
      cases hnext
      refine h.revoke fun pin => ?_
      rcases generationRevokedPin_cases watchDeviceId linkGeneration pin with hf | ⟨hf, -⟩
      · exact Or.inl hf
      · exact Or.inr (Or.inl hf)
  cases a with
  | update update => exact hupdate update
  | foreign update => exact hupdate update
  | revokeWatch watchDeviceId =>
    intro pins h
    refine h.revoke fun pin => ?_
    rcases watchRevoked_cases watchDeviceId pin with hf | ⟨hf, -⟩
    · exact Or.inl hf
    · exact Or.inr (Or.inl hf)
  | revokeCompromisedEncryptionKey keyId =>
    intro pins h
    refine h.revoke fun pin => ?_
    rcases keyRevoked_cases keyId pin with hf | ⟨hf, -⟩
    · exact Or.inl hf
    · exact Or.inr (Or.inr hf)
  | reconcileRecipients snapshot =>
    intro pins h
    refine h.revoke fun pin => ?_
    rcases reconciledPin_cases snapshot pin with hf | hf
    · exact Or.inl hf
    · exact Or.inr (Or.inl hf)
  | pruneRetiring references now => exact fun pins h => h.filter _
  | reopen => trivial
  | rotate identity => trivial

/-- A step keeps the keys of the Host. -/
theorem KeyringStep.retains (hstep : KeyringStep crypto w a w') : Retains w w' := by
  obtain ⟨hgenerated, rfl⟩ := hstep
  rcases @perform_host crypto w a with hsame | ⟨references, now, rfl⟩ |
    ⟨identity, rfl⟩
  · exact hsame.retains
  · show Retains w ((pruneRetiring references now).final w)
    rcases pruneRetiring_cases references now w with hsame | hpruned
    · rw [hsame]
      exact Retains.refl w
    · rw [hpruned]
      exact ⟨rfl, fun _ h => h, fun _ _ _ hget => Dict.get?_of_filter hget⟩
  · refine ⟨rfl, fun _ h => List.mem_cons_of_mem _ h, fun keyId hkey other hget => ?_⟩
    have hne : keyId ≠ identity.encryptionKeyId := fun heq => hgenerated.1 (heq ▸ hkey)
    exact (Dict.get?_set_ne _ _ hne).symm.trans hget

/-- A step keeps the keyring sound. -/
theorem KeyringSound.step (h : KeyringSound crypto w) (hstep : KeyringStep crypto w a w') :
    KeyringSound crypto w' := by
  obtain ⟨hgenerated, rfl⟩ := hstep
  have hpins := (perform_pins (fun _ => soundPins_of_load) (soundPins_keptBy a) h.pins).1
  rcases @perform_host crypto w a with hsame | ⟨references, now, rfl⟩ |
    ⟨identity, rfl⟩
  · refine ⟨?_, ?_⟩
    · rw [hsame.identities, hsame.generatedKeyIds]
      exact h.identities
    · rw [hsame.identities, hsame.hostId]
      exact hpins
  · change KeyringSound crypto ((pruneRetiring references now).final w)
    rcases pruneRetiring_cases references now w with hsame | hpruned
    · rw [hsame]
      exact h
    · rw [hpruned]
      refine ⟨fun keyId identity hget => h.identities keyId identity (Dict.get?_of_filter hget),
        ?_⟩
      refine (h.pins.filter _).identities_mono fun pin hpin identity hget => ?_
      -- The key of a pin that stays is referenced.
      show (prunedIdentities w.currentKeyId (prunedPins references now w.keyring)).get? _ = _
      rw [prunedIdentities, Dict.get?_filter]
      have hreferenced : (prunedPins references now w.keyring).referencedHostEncryptionKeyIds.contains
          pin.hostBinding.encryptionKeyId = true :=
        List.contains_iff_mem.mpr (List.mem_append_left _ (List.mem_map.mpr ⟨pin, hpin, rfl⟩))
      show (w.keyring.identities.get? _).filter _ = _
      rw [hget, Option.filter_some, hreferenced, Bool.or_true]
      rfl
  · refine ⟨fun keyId other hget => ?_, ?_⟩
    · rcases Dict.get?_set_cases hget with ⟨rfl, rfl⟩ | ⟨-, hold⟩
      · exact ⟨rfl, hgenerated.2, List.mem_cons_self⟩
      · obtain ⟨hid, himport, hknown⟩ := h.identities keyId other hold
        exact ⟨hid, himport, List.mem_cons_of_mem _ hknown⟩
    · refine SoundPins.identities_mono h.pins fun pin _ other hget => ?_
      have hknown := (h.identities _ _ hget).2.2
      have hne : pin.hostBinding.encryptionKeyId ≠ identity.encryptionKeyId :=
        fun heq => hgenerated.1 (heq ▸ hknown)
      exact (Dict.get?_set_ne _ _ hne).trans hget

end

end Ariava.E2e
