import Ariava.E2e.KeyringFaults
import Ariava.Proofs.RecipientReconciliation

/-!
# `Ariava.Proofs.KeyringAtomicity`: what a keyring method leaves when it throws

A method that throws should leave the pins and the pending activations of the object, and the
file, as they were. `ErrorAtomic` states it of one call.

The methods change the object before they check and write it, so the property fails whenever a
throw comes after that, unless the object already held what the method put there.

- `errorAtomic_update_iff`: an update adopts the file, changes the object, validates and writes.
- `errorAtomic_mapPins_iff`: a revocation changes the object and writes.
- `errorAtomic_reconcile_iff`: a reconciliation is atomic only while it does not throw once it has
  loaded the file; a recipient that is unknown to the file too is the exception.
- `errorAtomic_iff`: the three together.
- `not_keyringErrorAtomicity`: a second activation is staged for a Watch.
-/

set_option autoImplicit false

namespace Ariava.Proofs.KeyringAtomicity

open Ariava.Lib
open Ariava.Protocol
open Ariava.E2e
open Ariava.E2e.LocalLinkKeyring
open Ariava.Proofs.RecipientReconciliation (recipientsFound pinKey_reconciledPin)

/-! ### The property -/

/-- The object's pins and pending activations and the file are the same in both worlds. -/
def Kept (w w' : KeyringWorld) : Prop :=
  w'.keyring.state = w.keyring.state ∧ w'.file = w.file

/-- If the program throws, it keeps the object and the file. -/
def ErrorAtomic (p : KeyringEffect Unit) (w : KeyringWorld) : Prop :=
  ∀ e w', p.run w = (.error e, w') → Kept w w'

/-- Every method, whatever the storage does in it, is error atomic in every state of the keyring. -/
def KeyringErrorAtomicity (crypto : NodeCrypto) (start : KeyringWorld) : Prop :=
  ∀ actions w o call, Run (KeyringStep crypto) start actions w →
    ErrorAtomic (callOn crypto o call) w

section
variable {p : KeyringEffect Unit} {w w' : KeyringWorld} {r : Except Thrown Unit}

theorem kept_refl (w : KeyringWorld) : Kept w w := ⟨rfl, rfl⟩

theorem kept_withObject {state persisted : PersistedKeyringV2} :
    Kept w (w.withObject state persisted) ↔ w.keyring.state = state :=
  ⟨fun h => h.1.symm, fun h => ⟨h.symm, rfl⟩⟩

/-- A program that returns is error atomic. -/
theorem errorAtomic_of_ok (h : p.run w = (.ok (), w')) : ErrorAtomic p w := by
  intro e w'' herror
  rw [h] at herror
  cases herror

theorem errorAtomic_of_error {e : Thrown} (h : p.run w = (.error e, w')) :
    ErrorAtomic p w ↔ Kept w w' := by
  constructor
  · intro hatomic
    exact hatomic e w' h
  · intro hkept e' w'' herror
    rw [h] at herror
    cases herror
    exact hkept

/-- Two programs with one run. -/
theorem errorAtomic_congr {q : KeyringEffect Unit} (h : p.run w = q.run w) :
    ErrorAtomic p w ↔ ErrorAtomic q w := by
  unfold ErrorAtomic
  rw [h]

/-- Under a lock that is taken, the release has to return too. -/
theorem errorAtomic_withLock_iff {o : StorageOutcomes} {body : KeyringEffect Unit}
    (h : body.run w = (r, w')) :
    ErrorAtomic (withLock o body) w ↔
      (o.acquire = .ok () → (r = .ok () ∧ o.release = .ok ()) ∨ Kept w w') := by
  have hrun := @withLock_run o body w
  cases hacquire : o.acquire with
  | error e =>
    rw [hacquire] at hrun
    rw [errorAtomic_of_error hrun]
    simp [kept_refl]
  | ok u =>
    rw [hacquire, h] at hrun
    cases hrelease : o.release with
    | error e =>
      rw [hrelease] at hrun
      rw [errorAtomic_of_error hrun]
      simp
    | ok u =>
      rw [hrelease] at hrun
      cases r with
      | error e =>
        rw [errorAtomic_of_error hrun]
        simp
      | ok u => simp [errorAtomic_of_ok hrun]

/-- A lock that is refused. -/
theorem errorAtomic_of_refused {o : StorageOutcomes} {body : KeyringEffect Unit} {e : Thrown}
    (h : o.acquire = .error e) : ErrorAtomic (withLock o body) w := by
  have hrun := @withLock_run o body w
  rw [h] at hrun
  exact (errorAtomic_of_error hrun).mpr (kept_refl w)

/-- The write of a state that the file does not hold. -/
theorem persistOn_cases (o : StorageOutcomes) {state persisted : PersistedKeyringV2}
    (hfile : w.file ≠ some state) :
    ∃ r w', (persistOn o.write).run (w.withObject state persisted) = (r, w') ∧
      (r = .ok () ↔ o.write = .written) ∧
      (Kept w w' ↔ (∃ e, o.write = .refused e) ∧ w.keyring.state = state) := by
  cases hwrite : o.write with
  | written =>
    refine ⟨_, _, rfl, by simp, ?_⟩
    constructor
    · intro hkept
      exact absurd hkept.2.symm hfile
    · rintro ⟨⟨e, hrefused⟩, -⟩
      cases hrefused
  | refused e =>
    refine ⟨_, _, rfl, by simp, ?_⟩
    rw [kept_withObject]
    constructor
    · intro hstate
      exact ⟨⟨e, rfl⟩, hstate⟩
    · exact And.right
  | promoted e =>
    refine ⟨_, _, rfl, by simp, ?_⟩
    constructor
    · intro hkept
      exact absurd hkept.2.symm hfile
    · rintro ⟨⟨e', hrefused⟩, -⟩
      cases hrefused

/-- The write of a state that the object did not hold before the call. -/
theorem persistOn_cases_of_ne (o : StorageOutcomes) {state persisted : PersistedKeyringV2}
    (hstate : w.keyring.state ≠ state) :
    ∃ r w', (persistOn o.write).run (w.withObject state persisted) = (r, w') ∧
      (r = .ok () ↔ o.write = .written) ∧ ¬ Kept w w' := by
  cases hwrite : o.write with
  | written =>
    refine ⟨_, _, rfl, by simp, ?_⟩
    intro hkept
    exact hstate hkept.1.symm
  | refused e =>
    refine ⟨_, _, rfl, by simp, ?_⟩
    intro hkept
    exact hstate hkept.1.symm
  | promoted e =>
    refine ⟨_, _, rfl, by simp, ?_⟩
    intro hkept
    exact hstate hkept.1.symm

end

/-! ### Updates -/

/-- When an update is error atomic: it throws on its arguments, in the lock or while it reads the
file; or its change is rejected, and the object held the state of the file; or the changed state is
not valid or not written, and the object held the changed state already; or it returns. -/
def UpdateHarmless (crypto : NodeCrypto) (o : StorageOutcomes) (update : KeyringUpdate)
    (w : KeyringWorld) : Prop :=
  match updateArguments crypto w.keyring update, o.acquire, o.read, (load crypto).outcome w with
  | .ok (), .ok (), .ok (), .ok latest =>
      match changed update latest with
      | .error _ => w.keyring.state = latest
      | .ok next =>
          match validateState crypto w.keyring.currentHostId w.keyring.identities next with
          | .error _ => w.keyring.state = next
          | .ok () =>
              if latest = next then o.release = .ok () ∨ w.keyring.state = latest
              else match o.write with
                | .written => o.release = .ok ()
                | .refused _ => w.keyring.state = next
                | .promoted _ => False
  | _, _, _, _ => True

section
variable {crypto : NodeCrypto} {o : StorageOutcomes} {w : KeyringWorld}

/-- The state that is loaded is the one of the file, and another one is not there. -/
theorem file_ne_of_load {latest next : PersistedKeyringV2}
    (hload : (load crypto).outcome w = .ok latest) (hne : latest ≠ next) :
    w.file ≠ some next := by
  intro hfile
  apply hne
  rw [← (loads_of_load hload).stored, KeyringWorld.stored, hfile]
  rfl

/-- After its arguments are checked, an update is its locked body. -/
theorem performUpdateOn_run (update : KeyringUpdate) (w : KeyringWorld) :
    (performUpdateOn crypto o update).run w
      = match updateArguments crypto w.keyring update with
        | .error e => (.error e, w)
        | .ok () => (updatePersistedOn crypto o (changed update)).run w := by
  unfold performUpdateOn
  rw [Effect.run_bind, Effect.run_get, Effect.next_ok, Effect.run_bind, Effect.run_ofExcept]
  cases updateArguments crypto w.keyring update with
  | error e => rfl
  | ok u => rfl

/-- An update is error atomic exactly when it is harmless. -/
theorem errorAtomic_update_iff (update : KeyringUpdate) :
    ErrorAtomic (performUpdateOn crypto o update) w ↔ UpdateHarmless crypto o update w := by
  have hrun := @performUpdateOn_run crypto o update w
  have hbody := @updateBodyOn_run crypto o (changed update) w
  unfold UpdateHarmless
  cases hargs : updateArguments crypto w.keyring update with
  | error e =>
    rw [hargs] at hrun
    rw [errorAtomic_of_error hrun]
    simp [kept_refl]
  | ok u =>
    rw [hargs] at hrun
    rw [errorAtomic_congr hrun]
    unfold updatePersistedOn
    cases hacquire : o.acquire with
    | error e =>
      simp [errorAtomic_of_refused hacquire]
    | ok u =>
      cases hread : o.read with
      | error e =>
        rw [hread] at hbody
        rw [errorAtomic_withLock_iff hbody]
        simp [kept_refl]
      | ok u =>
        rw [hread] at hbody
        cases hload : (load crypto).outcome w with
        | error e =>
          rw [hload] at hbody
          rw [errorAtomic_withLock_iff hbody]
          simp [kept_refl]
        | ok latest =>
          rw [hload] at hbody
          dsimp only at hbody ⊢
          cases hnext : changed update latest with
          | error e =>
            rw [hnext] at hbody
            rw [errorAtomic_withLock_iff hbody]
            simp [hacquire, kept_withObject]
          | ok next =>
            rw [hnext] at hbody
            dsimp only at hbody ⊢
            cases hvalid : validateState crypto w.keyring.currentHostId w.keyring.identities
                next with
            | error e =>
              rw [hvalid] at hbody
              rw [errorAtomic_withLock_iff hbody]
              simp [hacquire, kept_withObject]
            | ok u =>
              rw [hvalid] at hbody
              dsimp only at hbody ⊢
              by_cases hsame : latest = next
              · rw [if_pos hsame] at hbody
                rw [errorAtomic_withLock_iff hbody, if_pos hsame]
                simp [hacquire, kept_withObject]
              · rw [if_neg hsame] at hbody ⊢
                obtain ⟨r, w', hpersist, hreturns, hkept⟩ :=
                  @persistOn_cases w o next latest (file_ne_of_load hload hsame)
                rw [errorAtomic_withLock_iff (hbody.trans hpersist), hreturns, hkept, hacquire]
                cases o.write with
                | written => simp
                | refused e => simp
                | promoted e => simp

/-! ### Revocations -/

/-- A revocation is error atomic exactly when it changes no pin or its write returns. -/
theorem errorAtomic_mapPins_iff (f : ActiveLinkPinV2 → ActiveLinkPinV2) :
    ErrorAtomic (mapPinsOn o f) w ↔ w.keyring.pins.map f = w.keyring.pins ∨ o.write = .written := by
  have hrun := @mapPinsOn_run o f w
  by_cases hsame : w.keyring.pins.map f = w.keyring.pins
  · rw [if_pos hsame] at hrun
    simp [errorAtomic_of_ok hrun, hsame]
  · rw [if_neg hsame] at hrun
    have hstate : w.keyring.state ≠ ⟨w.keyring.pins.map f, w.keyring.pendingActivations⟩ := by
      intro h
      exact hsame (congrArg PersistedKeyringV2.pins h).symm
    obtain ⟨r, w', hpersist, hreturns, hkept⟩ :=
      @persistOn_cases_of_ne w o _ w.persistedState hstate
    rw [hpersist] at hrun
    cases r with
    | error e =>
      rw [errorAtomic_of_error hrun]
      simp only [reduceCtorEq, false_iff] at hreturns
      simp [hkept, hsame, hreturns]
    | ok u => simp [errorAtomic_of_ok hrun, hreturns.mp rfl]

/-! ### Reconciliations -/

/-- The file can be reconciled: it has the recipients, and no active pin that the snapshot leaves
out and the object does not know. -/
def Reconcilable (crypto : NodeCrypto) (snapshot : E2ERecipientSnapshotV1) (w : KeyringWorld)
    (latest : PersistedKeyringV2) : Prop :=
  recipientsFound crypto snapshot (w.keyring.withState latest) = true ∧
    reconciledPins snapshot (some (w.keyring.pins.map pinKey)) latest.pins
      = .ok (latest.pins.map (reconciledPin snapshot))

/-- When a reconciliation is error atomic. It throws on its arguments, in the lock or while it reads
the file; or it returns; or the file cannot be reconciled either, and the object held its state. -/
def ReconcileHarmless (crypto : NodeCrypto) (o : StorageOutcomes)
    (snapshot : E2ERecipientSnapshotV1) (w : KeyringWorld) : Prop :=
  if snapshot.hostId ≠ w.keyring.currentHostId
      ∨ isPositiveSafeInteger snapshot.recipientSetVersion = false then True
  else if recipientsFound crypto snapshot w.keyring = true then
    w.keyring.pins.map (reconciledPin snapshot) = w.keyring.pins ∨
      match o.acquire, o.read, (load crypto).outcome w with
      | .ok (), .ok (), .ok latest =>
          (latest = w.persistedState ∨ Reconcilable crypto snapshot w latest)
            ∧ o.write = .written ∧ o.release = .ok ()
      | _, _, _ => True
  else
    match o.refresh, (load crypto).outcome w with
    | .ok (), .ok latest =>
        (Reconcilable crypto snapshot w latest ∧
          (latest.pins.map (reconciledPin snapshot) = latest.pins
            ∨ (o.acquire = .ok () ∧ o.read = .ok () ∧ o.write = .written
              ∧ o.release = .ok ())))
        ∨ (¬ Reconcilable crypto snapshot w latest ∧ w.keyring.state = latest)
    | _, _ => True

section
variable {snapshot : E2ERecipientSnapshotV1}

/-- A pin that was reconciled stays as it is. -/
theorem reconciledPin_idem (pin : ActiveLinkPinV2) :
    reconciledPin snapshot (reconciledPin snapshot pin) = reconciledPin snapshot pin := by
  rcases eq_or_ne (reconciledPin snapshot pin) pin with hsame | hne
  · rw [hsame, hsame]
  · have hrevoked : reconciledPin snapshot pin = revokedPin pin := by
      unfold reconciledPin at hne ⊢
      split_ifs at hne ⊢ with h1 h2
      · exact absurd rfl hne
      · exact absurd rfl hne
      · rfl
    have hstatus : (revokedPin pin).status = .revoked := rfl
    rw [hrevoked]
    unfold reconciledPin
    rw [if_pos (Or.inl hstatus)]

/-- A usable pin of a listed tuple is the same after the reconciliation. -/
theorem getUsable_reconciled {keyring : LocalLinkKeyring} {state : PersistedKeyringV2}
    {key : PinKey} (hlisted : key ∈ snapshot.recipients.map recipientKey) :
    (keyring.withState (reconciledState snapshot state)).getUsable key
      = (keyring.withState state).getUsable key := by
  have hlistedPin : ∀ pin : ActiveLinkPinV2, pinKey pin = key →
      reconciledPin snapshot pin = pin := by
    intro pin hkey
    unfold reconciledPin
    rw [if_pos (Or.inr (hkey ▸ hlisted))]
  unfold getUsable
  show (state.pins.map (reconciledPin snapshot)).find? _ = state.pins.find? _
  induction state.pins with
  | nil => rfl
  | cons pin rest ih =>
    rw [List.map_cons, List.find?_cons, List.find?_cons, ih, pinKey_reconciledPin]
    by_cases hkey : pinKey pin = key
    · rw [hlistedPin pin hkey]
    · simp [hkey]

/-- Two functions that agree on a list have one result for it. -/
theorem mapM_congr {α β : Type} {f g : α → Except Thrown β} {xs : List α}
    (h : ∀ x ∈ xs, f x = g x) : xs.mapM f = xs.mapM g := by
  induction xs with
  | nil => rfl
  | cons x rest ih =>
    rw [List.mapM_cons, List.mapM_cons, h x List.mem_cons_self,
      ih fun y hy => h y (List.mem_cons_of_mem x hy)]

/-- Recipients that are found in a state are found after its reconciliation. -/
theorem recipientsFound_reconciled {keyring : LocalLinkKeyring} {state : PersistedKeyringV2} :
    recipientsFound crypto snapshot (keyring.withState (reconciledState snapshot state))
      = recipientsFound crypto snapshot (keyring.withState state) := by
  have hmaterial : ∀ recipient ∈ snapshot.recipients,
      materialForRecipient crypto (keyring.withState (reconciledState snapshot state)) recipient
        = materialForRecipient crypto (keyring.withState state) recipient := by
    intro recipient hmem
    unfold materialForRecipient resolvePinMaterial
    rw [getUsable_reconciled (List.mem_map_of_mem hmem)]
    rfl
  unfold recipientsFound
  rw [mapM_congr hmaterial]

/-- Recipients that are found have their materials. -/
theorem exists_ok_of_recipientsFound {keyring : LocalLinkKeyring}
    (h : recipientsFound crypto snapshot keyring = true) :
    ∃ materials,
      snapshot.recipients.mapM (materialForRecipient crypto keyring) = .ok materials := by
  unfold recipientsFound at h
  cases hmaterials : snapshot.recipients.mapM (materialForRecipient crypto keyring) with
  | ok materials => exact ⟨materials, rfl⟩
  | error e => simp [hmaterials] at h

/-- Recipients that are not found throw. -/
theorem exists_error_of_not_recipientsFound {keyring : LocalLinkKeyring}
    (h : recipientsFound crypto snapshot keyring ≠ true) :
    ∃ e, snapshot.recipients.mapM (materialForRecipient crypto keyring) = .error e := by
  unfold recipientsFound at h
  cases hmaterials : snapshot.recipients.mapM (materialForRecipient crypto keyring) with
  | ok materials => simp [hmaterials] at h
  | error e => exact ⟨e, rfl⟩

/-- An object that has the recipients holds another state than one that lacks them. -/
theorem state_ne_of_found {state : PersistedKeyringV2}
    (h : recipientsFound crypto snapshot (w.keyring.withState state)
      ≠ recipientsFound crypto snapshot w.keyring) : w.keyring.state ≠ state := by
  rintro rfl
  exact h rfl

/-- The pins of the object are known to it. -/
theorem reconciledPins_own (pins : List ActiveLinkPinV2) :
    reconciledPins snapshot (some (pins.map pinKey)) pins
      = .ok (pins.map (reconciledPin snapshot)) := by
  unfold reconciledPins
  rw [Option.any_some, List.any_eq_false.mpr]
  · rfl
  · intro pin hpin
    simp only [decide_eq_true_eq, not_and, not_not]
    intro _ _
    exact List.mem_map_of_mem hpin

/-- The second half of a reconciliation whose recipients are in the object. -/
theorem errorAtomic_persistReconciled_iff
    (hfound : recipientsFound crypto snapshot w.keyring = true)
    (hchanges : w.keyring.pins.map (reconciledPin snapshot) ≠ w.keyring.pins) :
    ErrorAtomic (persistReconciledOn crypto o snapshot (w.keyring.pins.map pinKey)
        (w.keyring.pins.map (reconciledPin snapshot))) w ↔
      match o.acquire, o.read, (load crypto).outcome w with
      | .ok (), .ok (), .ok latest =>
          (latest = w.persistedState ∨ Reconcilable crypto snapshot w latest)
            ∧ o.write = .written ∧ o.release = .ok ()
      | _, _, _ => True := by
  have hbody := @reconciledBodyOn_run crypto o snapshot (w.keyring.pins.map pinKey)
    (w.keyring.pins.map (reconciledPin snapshot)) w
  unfold persistReconciledOn
  cases hacquire : o.acquire with
  | error e => simp [errorAtomic_of_refused hacquire]
  | ok u =>
    cases hread : o.read with
    | error e =>
      rw [hread] at hbody
      rw [errorAtomic_withLock_iff hbody]
      simp [kept_refl]
    | ok u =>
      rw [hread] at hbody
      cases hload : (load crypto).outcome w with
      | error e =>
        rw [hload] at hbody
        rw [errorAtomic_withLock_iff hbody]
        simp [kept_refl]
      | ok latest =>
        rw [hload] at hbody
        dsimp only at hbody ⊢
        by_cases hsame : latest = w.persistedState
        · -- the object writes its own pins, which differ from what it held
          rw [if_pos hsame] at hbody
          have hstate : w.keyring.state ≠ ⟨w.keyring.pins.map (reconciledPin snapshot),
              w.keyring.pendingActivations⟩ := by
            intro h
            exact hchanges (congrArg PersistedKeyringV2.pins h).symm
          obtain ⟨r, w', hpersist, hreturns, hkept⟩ :=
            @persistOn_cases_of_ne w o _ w.persistedState hstate
          rw [errorAtomic_withLock_iff (hbody.trans hpersist), hreturns]
          simp [hacquire, hkept, hsame]
        · rw [if_neg hsame] at hbody
          by_cases hlatest : recipientsFound crypto snapshot (w.keyring.withState latest) = true
          · obtain ⟨materials, hmaterials⟩ := exists_ok_of_recipientsFound hlatest
            rw [hmaterials] at hbody
            dsimp only at hbody
            cases hpins : reconciledPins snapshot (some (w.keyring.pins.map pinKey))
                latest.pins with
            | error e =>
              -- the object's own pins are not refused, so it held others
              rw [hpins] at hbody
              have hstate : w.keyring.state ≠ latest := by
                rintro rfl
                have hown := @reconciledPins_own snapshot w.keyring.pins
                rw [show w.keyring.state.pins = w.keyring.pins from rfl, hown] at hpins
                cases hpins
              rw [errorAtomic_withLock_iff hbody]
              simp [hacquire, kept_withObject, hstate, hsame, Reconcilable, hpins]
            | ok pins =>
              rw [hpins] at hbody
              have hmapped := reconciledPins_eq_ok hpins
              -- what a reconciliation leaves is not changed by another one
              have hstate : w.keyring.state ≠ ⟨pins, latest.pendingActivations⟩ := by
                intro h
                have hown : w.keyring.pins = pins := congrArg PersistedKeyringV2.pins h
                apply hchanges
                rw [hown, hmapped, List.map_map]
                exact List.map_congr_left fun pin _ => reconciledPin_idem pin
              obtain ⟨r, w', hpersist, hreturns, hkept⟩ :=
                @persistOn_cases_of_ne w o _ latest hstate
              rw [errorAtomic_withLock_iff (hbody.trans hpersist), hreturns]
              simp [hacquire, hkept, Reconcilable, hlatest, hpins, hmapped]
          · obtain ⟨e, herror⟩ := exists_error_of_not_recipientsFound hlatest
            rw [herror] at hbody
            have hstate : w.keyring.state ≠ latest := by
              refine @state_ne_of_found crypto w snapshot latest ?_
              rw [hfound]
              exact hlatest
            rw [errorAtomic_withLock_iff hbody]
            simp [hacquire, kept_withObject, hstate, hsame, Reconcilable, hlatest]

/-- A locked body returns when the lock is taken, the body returns and the release does. It leaves
what it started from or what the body left. -/
theorem withLock_returns {body : KeyringEffect Unit} {v v' : KeyringWorld} {r : Except Thrown Unit}
    (h : body.run v = (r, v')) :
    ∃ r' w', (withLock o body).run v = (r', w') ∧ (w' = v ∨ w' = v') ∧
      (r' = .ok () ↔ o.acquire = .ok () ∧ r = .ok () ∧ o.release = .ok ()) := by
  have hrun := @withLock_run o body v
  rw [h] at hrun
  refine ⟨_, _, hrun, ?_, ?_⟩
  · cases o.acquire with
    | error e => exact Or.inl rfl
    | ok u => cases o.release <;> exact Or.inr rfl
  · cases o.acquire with
    | error e => simp
    | ok u => cases o.release <;> simp

/-- The second half of a reconciliation after the object took over a file that has the recipients,
when the object had not: whatever it leaves, the object finds them. -/
theorem persistReconciled_refreshed {latest : PersistedKeyringV2}
    (hnot : recipientsFound crypto snapshot w.keyring ≠ true)
    (hload : (load crypto).outcome w = .ok latest)
    (hlatest : recipientsFound crypto snapshot (w.keyring.withState latest) = true)
    (known : List PinKey) :
    ∃ r w', (persistReconciledOn crypto o snapshot known
        (latest.pins.map (reconciledPin snapshot))).run (w.withObject latest latest) = (r, w') ∧
      ¬ Kept w w' ∧ (r = .ok () ↔ o.acquire = .ok () ∧ o.read = .ok () ∧ o.write = .written
        ∧ o.release = .ok ()) := by
  have hbefore : ¬ Kept w (w.withObject latest latest) := by
    rw [kept_withObject]
    refine @state_ne_of_found crypto w snapshot latest ?_
    rw [hlatest]
    exact hnot.symm
  have hafter : w.keyring.state ≠ reconciledState snapshot latest := by
    refine @state_ne_of_found crypto w snapshot _ ?_
    rw [recipientsFound_reconciled, hlatest]
    exact hnot.symm
  have hagain : (load crypto).outcome (w.withObject latest latest) = .ok latest :=
    congrArg Prod.fst (load_run_of_loads (loads_withObject.mpr (loads_of_load hload)))
  have hbody := @reconciledBodyOn_run crypto o snapshot known
    (latest.pins.map (reconciledPin snapshot)) (w.withObject latest latest)
  unfold persistReconciledOn
  cases hread : o.read with
  | error e =>
    rw [hread] at hbody
    obtain ⟨r, w', hrun, hleft, hreturns⟩ := @withLock_returns o _ _ _ _ hbody
    refine ⟨r, w', hrun, ?_, ?_⟩
    · rcases hleft with rfl | rfl <;> exact hbefore
    · rw [hreturns]
      simp
  | ok u =>
    rw [hread, hagain] at hbody
    dsimp only at hbody
    have hpersisted : latest = (w.withObject latest latest).persistedState := rfl
    rw [if_pos hpersisted] at hbody
    obtain ⟨r₁, w₁, hpersist, hwritten, hkept⟩ :=
      @persistOn_cases_of_ne w o (reconciledState snapshot latest) latest hafter
    obtain ⟨r, w', hrun, hleft, hreturns⟩ := @withLock_returns o _ _ _ _ (hbody.trans hpersist)
    refine ⟨r, w', hrun, ?_, ?_⟩
    · rcases hleft with rfl | rfl
      · exact hbefore
      · exact hkept
    · rw [hreturns, hwritten]
      simp

/-- A reconciliation is error atomic exactly when it is harmless. -/
theorem errorAtomic_reconcile_iff (snapshot : E2ERecipientSnapshotV1) :
    ErrorAtomic (reconcileRecipientsOn crypto o snapshot) w ↔
      ReconcileHarmless crypto o snapshot w := by
  unfold ReconcileHarmless
  by_cases hinvalid : snapshot.hostId ≠ w.keyring.currentHostId
      ∨ isPositiveSafeInteger snapshot.recipientSetVersion = false
  · have hrun : (reconcileRecipientsOn crypto o snapshot).run w
        = (.error (.typeError "recipient snapshot is invalid"), w) := by
      have hcheck : (decide (snapshot.hostId ≠ w.keyring.currentHostId)
          || !isPositiveSafeInteger snapshot.recipientSetVersion) = true := by
        simpa using hinvalid
      unfold reconcileRecipientsOn
      rw [Effect.run_bind, Effect.run_get, Effect.next_ok, Effect.run_bind, Effect.run_ofExcept,
        hcheck]
      rfl
    rw [if_pos hinvalid, errorAtomic_of_error hrun]
    simp [kept_refl]
  · rw [if_neg hinvalid]
    -- the run after the check of the arguments
    have hrun : (reconcileRecipientsOn crypto o snapshot).run w
        = Effect.next (fun refreshed => do
            let v ← get
            let reconciled ← Effect.ofExcept (reconciledPins snapshot
              (if refreshed then some (w.keyring.pins.map pinKey) else none) v.keyring.pins)
            if reconciled = v.keyring.pins then pure ()
            else persistReconciledOn crypto o snapshot (w.keyring.pins.map pinKey) reconciled)
          ((findRecipientsOn crypto o snapshot).run w) := by
      unfold reconcileRecipientsOn
      rw [Effect.run_bind, Effect.run_get, Effect.next_ok, Effect.run_bind, Effect.run_ofExcept,
        throwIf_eq_ok.mpr (by simpa using hinvalid), Effect.next_ok, Effect.run_bind]
    rw [findRecipientsOn_run] at hrun
    by_cases hfound : recipientsFound crypto snapshot w.keyring = true
    · rw [if_pos hfound]
      obtain ⟨materials, hmaterials⟩ := exists_ok_of_recipientsFound hfound
      rw [hmaterials] at hrun
      dsimp only at hrun
      rw [Effect.next_ok, Effect.run_bind, Effect.run_get, Effect.next_ok, Effect.run_bind,
        Effect.run_ofExcept, if_neg Bool.false_ne_true] at hrun
      have hnone : reconciledPins snapshot none w.keyring.pins
          = .ok (w.keyring.pins.map (reconciledPin snapshot)) := rfl
      rw [hnone, Effect.next_ok] at hrun
      by_cases hsame : w.keyring.pins.map (reconciledPin snapshot) = w.keyring.pins
      · rw [if_pos hsame] at hrun
        simp [errorAtomic_of_ok hrun, hsame]
      · rw [if_neg hsame] at hrun
        rw [errorAtomic_congr hrun, errorAtomic_persistReconciled_iff hfound hsame]
        simp only [hsame, false_or]
    · rw [if_neg hfound]
      obtain ⟨error, hmaterials⟩ := exists_error_of_not_recipientsFound hfound
      rw [hmaterials] at hrun
      dsimp only at hrun
      cases hrefresh : o.refresh with
      | error e =>
        rw [hrefresh] at hrun
        rw [errorAtomic_of_error hrun]
        simp [kept_refl]
      | ok u =>
        rw [hrefresh] at hrun
        cases hload : (load crypto).outcome w with
        | error e =>
          rw [hload] at hrun
          rw [errorAtomic_of_error hrun]
          simp [kept_refl]
        | ok latest =>
          rw [hload] at hrun
          dsimp only at hrun ⊢
          by_cases hlatest : recipientsFound crypto snapshot (w.keyring.withState latest) = true
          · obtain ⟨found, hagain⟩ := exists_ok_of_recipientsFound hlatest
            rw [hagain] at hrun
            dsimp only at hrun
            rw [Effect.next_ok, Effect.run_bind, Effect.run_get, Effect.next_ok, Effect.run_bind,
              Effect.run_ofExcept, if_pos rfl] at hrun
            have hpinsOf : (w.withObject latest latest).keyring.pins = latest.pins := rfl
            rw [hpinsOf] at hrun
            cases hpins : reconciledPins snapshot (some (w.keyring.pins.map pinKey))
                latest.pins with
            | error e =>
              rw [hpins] at hrun
              rw [errorAtomic_of_error hrun]
              simp [kept_withObject, Reconcilable, hpins]
            | ok pins =>
              rw [hpins, Effect.next_ok] at hrun
              have hmapped := reconciledPins_eq_ok hpins
              have hcan : Reconcilable crypto snapshot w latest :=
                ⟨hlatest, hpins.trans (congrArg Except.ok hmapped)⟩
              rw [hmapped] at hrun
              by_cases hsame : latest.pins.map (reconciledPin snapshot) = latest.pins
              · rw [if_pos hsame] at hrun
                simp [errorAtomic_of_ok hrun, hcan, hsame]
              · rw [if_neg hsame] at hrun
                obtain ⟨r, w', hpersist, hkept, hreturns⟩ :=
                  @persistReconciled_refreshed crypto o w snapshot latest hfound hload hlatest
                    (w.keyring.pins.map pinKey)
                rw [hpersist] at hrun
                simp only [hcan, hsame, false_or, true_and, not_true_eq_false, false_and, or_false]
                rw [← hreturns]
                cases r with
                | error e =>
                  rw [errorAtomic_of_error hrun]
                  simp [hkept]
                | ok u => simp [errorAtomic_of_ok hrun]
          · obtain ⟨e, hagain⟩ := exists_error_of_not_recipientsFound hlatest
            rw [hagain] at hrun
            rw [errorAtomic_of_error hrun]
            simp [kept_withObject, Reconcilable, hlatest]

end

end

/-! ### Main result -/

/-- When a call is error atomic. -/
def Harmless (crypto : NodeCrypto) (o : StorageOutcomes) (call : KeyringCall) (w : KeyringWorld) :
    Prop :=
  match call with
  | .update change => UpdateHarmless crypto o change w
  | .revokeWatch watchDeviceId =>
      w.keyring.pins.map (watchRevoked watchDeviceId) = w.keyring.pins ∨ o.write = .written
  | .revokeCompromisedEncryptionKey keyId =>
      w.keyring.pins.map (keyRevoked keyId) = w.keyring.pins ∨ o.write = .written
  | .reconcileRecipients snapshot => ReconcileHarmless crypto o snapshot w

/-- In every state of the keyring, whatever the storage does, a call is error atomic exactly when it
is harmless. -/
theorem errorAtomic_iff (crypto : NodeCrypto) (o : StorageOutcomes) (call : KeyringCall)
    (w : KeyringWorld) : ErrorAtomic (callOn crypto o call) w ↔ Harmless crypto o call w := by
  cases call with
  | update change => exact errorAtomic_update_iff change
  | revokeWatch watchDeviceId => exact errorAtomic_mapPins_iff (watchRevoked watchDeviceId)
  | revokeCompromisedEncryptionKey keyId => exact errorAtomic_mapPins_iff (keyRevoked keyId)
  | reconcileRecipients snapshot => exact errorAtomic_reconcile_iff snapshot

/-! ### A second activation for one Watch -/

open Ariava.Proofs.ReceiptConstruction

/-- The staged activation of an epoch of the link. -/
def stagedEpoch (epoch : Nat) : PendingActivationV2 where
  linkId := "link"
  linkGeneration := 1
  epoch := epoch
  peerProofDigest := (linkPin epoch).peerProofDigest
  activatedAt := (linkPin epoch).activatedAt
  pin := linkPin epoch

/-- The keyring that has opened its file and staged the second epoch. -/
def stagedWorld : KeyringWorld := linkStart.written ⟨[linkPin 1], [stagedEpoch 2]⟩

/-- The object after the third epoch was refused: it holds both activations. -/
def refusedWorld : KeyringWorld :=
  stagedWorld.withObject ⟨[linkPin 1], [stagedEpoch 2, stagedEpoch 3]⟩
    ⟨[linkPin 1], [stagedEpoch 2]⟩

set_option maxRecDepth 20000 in
/-- The activation that `stageActivation` refuses stays in the object. -/
theorem not_keyringErrorAtomicity : ¬ KeyringErrorAtomicity linkCrypto linkStart := by
  intro h
  have hrun : Run (KeyringStep linkCrypto) linkStart
      [.reopen, .update (.stageActivation (stagedEpoch 2))] stagedWorld :=
    Run.snoc (Run.single ⟨trivial, rfl⟩) ⟨trivial, by decide +kernel⟩
  have hrefused : (callOn linkCrypto .fine (.update (.stageActivation (stagedEpoch 3)))).run
      stagedWorld
        = (.error (.typeError "duplicate pending local E2E activation"), refusedWorld) := by
    decide +kernel
  have hkept := h _ _ .fine _ hrun _ _ hrefused
  exact absurd hkept.1 (by decide)

end Ariava.Proofs.KeyringAtomicity
