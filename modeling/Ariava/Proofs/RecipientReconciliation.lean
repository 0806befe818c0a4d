import Ariava.E2e.KeyringStored
import Ariava.Proofs.KeyringIsolation
import Ariava.Proofs.ReceiptConstruction

/-!
# `Ariava.Proofs.RecipientReconciliation`: pins and the recipient snapshot

A pass asks the Relay for its recipients and then reconciles the pins with the answer: a pin that
the snapshot does not list is revoked. Meanwhile a pin can be activated. The snapshot does not list
such a pin because it is older, and `reconcileRecipients` throws instead of revoking it.

`Reconciled` says what a reconciliation should do, where the pins that were known are those of the
keyring when the snapshot was requested. `reconcileRecipients_iff` is for every run of the keyring
before the request and every run between the request and the call: the reconciliation does so
exactly when each usable pin that came since is listed, or retires for a pin that is listed
(`SnapshotCovers`).

Without this it does not, because the guard takes for known what the object holds at the call, and
it runs only after the file was read. `lateSnapshot` is such a run: another pass has read the new
pin with a newer snapshot, and then the older snapshot revokes it.

* `reconcileRecipients_ok`: what is written is `rewrittenPins`, each one reconciled.
* `RevocationsAgree.step`: the object and the file hold the same pins revoked.
-/

set_option autoImplicit false

namespace Ariava.Proofs.RecipientReconciliation

open Ariava.Lib
open Ariava.Protocol
open Ariava.E2e
open Ariava.E2e.LocalLinkKeyring

/-! ### The pins that are rewritten -/

/-- All recipients have a matching active pin. -/
def recipientsFound (crypto : NodeCrypto) (snapshot : E2ERecipientSnapshotV1)
    (keyring : LocalLinkKeyring) : Bool :=
  match snapshot.recipients.mapM (materialForRecipient crypto keyring) with
  | .ok _ => true
  | .error _ => false

/-- The pins that a reconciliation starts from: those of the object, or those of the file when the
object lacks a recipient, or when it would write and the file is not what it last read or wrote. -/
def rewrittenPins (crypto : NodeCrypto) (snapshot : E2ERecipientSnapshotV1) (w : KeyringWorld) :
    List ActiveLinkPinV2 :=
  if recipientsFound crypto snapshot w.keyring = true ∧
      (w.keyring.pins.map (reconciledPin snapshot) = w.keyring.pins ∨
        w.stored = w.persistedState) then w.keyring.pins
  else w.stored.pins

section
variable {crypto : NodeCrypto} {snapshot : E2ERecipientSnapshotV1} {w w' : KeyringWorld}

theorem recipientMaterials_run : (recipientMaterials crypto snapshot).run w
    = (snapshot.recipients.mapM (materialForRecipient crypto w.keyring), w) := by
  unfold recipientMaterials
  rw [Effect.run_bind, Effect.run_get, Effect.next_ok, Effect.run_ofExcept]

theorem recipientsFound_of_ok {materials : List (E2ERecipientV1 × PinMaterial)}
    {keyring : LocalLinkKeyring}
    (h : snapshot.recipients.mapM (materialForRecipient crypto keyring) = .ok materials) :
    recipientsFound crypto snapshot keyring = true := by
  rw [recipientsFound, h]

theorem recipientsFound_of_error {e : Thrown} {keyring : LocalLinkKeyring}
    (h : snapshot.recipients.mapM (materialForRecipient crypto keyring) = .error e) :
    recipientsFound crypto snapshot keyring = false := by
  rw [recipientsFound, h]

/-- The recipients are found in the object, or in the file after a refresh. -/
theorem findRecipients_ok {refreshed : Bool} {v : KeyringWorld}
    (h : (findRecipients crypto snapshot).run w = (.ok refreshed, v)) :
    (refreshed = false ∧ v = w ∧ recipientsFound crypto snapshot w.keyring = true) ∨
      ∃ latest, refreshed = true ∧ w.Loads crypto latest ∧ v = w.withObject latest latest ∧
        recipientsFound crypto snapshot w.keyring = false ∧
        recipientsFound crypto snapshot (w.keyring.withState latest) = true := by
  unfold findRecipients at h
  rw [Effect.run_tryCatch, Effect.run_bind, recipientMaterials_run] at h
  cases hfirst : snapshot.recipients.mapM (materialForRecipient crypto w.keyring) with
  | ok materials =>
    rw [hfirst] at h
    cases h
    exact .inl ⟨rfl, rfl, recipientsFound_of_ok hfirst⟩
  | error e =>
    rw [hfirst, Effect.next_error, Effect.handle_error, Effect.run_bind] at h
    rcases @refreshPersisted_cases crypto w with ⟨latest, hload, hrefresh⟩ | ⟨e', hrefresh⟩
    · rw [hrefresh, Effect.next_ok, Effect.run_tryCatch, Effect.run_bind,
        recipientMaterials_run] at h
      cases hagain : snapshot.recipients.mapM
          (materialForRecipient crypto (w.withObject latest latest).keyring) with
      | ok materials =>
        rw [hagain] at h
        cases h
        exact .inr ⟨latest, rfl, hload, rfl, recipientsFound_of_error hfirst,
          recipientsFound_of_ok hagain⟩
      | error e'' =>
        rw [hagain] at h
        cases h
    · rw [hrefresh] at h
      cases h

/-- The second half writes what the object has reconciled, or what it reconciles of the file. -/
theorem persistReconciled_ok {known : List PinKey} {reconciled : List ActiveLinkPinV2}
    (h : (persistReconciled crypto snapshot known reconciled).run w = (.ok (), w')) :
    (w.stored = w.persistedState ∧ w' = w.written ⟨reconciled, w.keyring.pendingActivations⟩) ∨
      ∃ latest, w.Loads crypto latest ∧ latest ≠ w.persistedState ∧
        recipientsFound crypto snapshot (w.keyring.withState latest) = true ∧
        w' = w.written (reconciledState snapshot latest) := by
  unfold persistReconciled at h
  rw [Effect.run_bind] at h
  rcases @load_cases crypto w with ⟨latest, hload, hrun⟩ | ⟨e, hrun⟩
  · rw [hrun, Effect.next_ok, Effect.run_bind, Effect.run_get, Effect.next_ok] at h
    by_cases hsame : latest = w.persistedState
    · rw [if_neg (fun hne => hne hsame)] at h
      cases h
      exact .inl ⟨hload.stored.trans hsame, rfl⟩
    · rw [if_pos hsame, Effect.run_bind] at h
      change (Effect.run (_ >>= _ : KeyringEffect Unit) (w.withObject latest latest)) = _ at h
      rw [Effect.run_bind, recipientMaterials_run] at h
      cases hfound : snapshot.recipients.mapM
          (materialForRecipient crypto (w.withObject latest latest).keyring) with
      | error e =>
        rw [hfound] at h
        cases h
      | ok materials =>
        rw [hfound, Effect.next_ok, Effect.run_bind, Effect.run_ofExcept] at h
        cases hpins : reconciledPins snapshot (some known) latest.pins with
        | error e =>
          rw [hpins] at h
          cases h
        | ok pins =>
          rw [hpins, reconciledPins_eq_ok hpins] at h
          cases h
          exact .inr ⟨latest, hload, hsame, recipientsFound_of_ok hfound, rfl⟩
  · rw [hrun] at h
    cases h

/-- The pins of the object are rewritten. -/
theorem rewrittenPins_object (hfound : recipientsFound crypto snapshot w.keyring = true)
    (hcurrent : w.keyring.pins.map (reconciledPin snapshot) = w.keyring.pins ∨
      w.stored = w.persistedState) : rewrittenPins crypto snapshot w = w.keyring.pins :=
  if_pos ⟨hfound, hcurrent⟩

/-- The pins of the file are rewritten. -/
theorem rewrittenPins_file (hstale : recipientsFound crypto snapshot w.keyring = true →
      ¬ (w.keyring.pins.map (reconciledPin snapshot) = w.keyring.pins ∨
        w.stored = w.persistedState)) : rewrittenPins crypto snapshot w = w.stored.pins :=
  if_neg fun h => hstale h.1 h.2

/-- A reconciliation that returns has rewritten `rewrittenPins`, among which all recipients are
found. -/
theorem reconcileRecipients_ok
    (h : (reconcileRecipients crypto snapshot).run w = (.ok (), w')) :
    w'.keyring.pins = (rewrittenPins crypto snapshot w).map (reconciledPin snapshot) ∧
      recipientsFound crypto snapshot
        { w.keyring with pins := rewrittenPins crypto snapshot w } = true := by
  unfold reconcileRecipients at h
  rw [Effect.run_bind, Effect.run_get, Effect.next_ok, Effect.run_bind, Effect.run_ofExcept] at h
  cases hvalid : throwIf (decide (snapshot.hostId ≠ w.keyring.currentHostId)
      || !isPositiveSafeInteger snapshot.recipientSetVersion)
    (Thrown.typeError "recipient snapshot is invalid") with
  | error e =>
    rw [hvalid] at h
    cases h
  | ok u =>
    rw [hvalid, Effect.next_ok, Effect.run_bind] at h
    rcases hfind : (findRecipients crypto snapshot).run w with ⟨r, v⟩
    rw [hfind] at h
    cases r with
    | error e => cases h
    | ok refreshed =>
      rw [Effect.next_ok, Effect.run_bind, Effect.run_get, Effect.next_ok] at h
      change (Effect.run (_ >>= _ : KeyringEffect Unit) v) = _ at h
      rw [Effect.run_bind, Effect.run_ofExcept] at h
      cases hrec : reconciledPins snapshot
          (if refreshed = true then some (w.keyring.pins.map pinKey) else none) v.keyring.pins with
      | error e =>
        rw [hrec] at h
        cases h
      | ok reconciled =>
        rw [hrec, Effect.next_ok] at h
        have hmap := reconciledPins_eq_ok hrec
        rcases findRecipients_ok hfind with ⟨rfl, rfl, hfound⟩ |
          ⟨latest, rfl, hload, rfl, hlacks, hfound⟩
        · -- The object has all recipients.
          by_cases hsame : reconciled = v.keyring.pins
          · rw [if_pos hsame] at h
            cases h
            have hfixed := hmap.symm.trans hsame
            rw [rewrittenPins_object hfound (.inl hfixed)]
            exact ⟨hfixed.symm, hfound⟩
          · rw [if_neg hsame] at h
            rcases persistReconciled_ok h with ⟨hcurrent, rfl⟩ |
              ⟨latest, hload, hchanged, hfound', rfl⟩
            · rw [rewrittenPins_object hfound (.inr hcurrent)]
              exact ⟨hmap, hfound⟩
            · rw [rewrittenPins_file fun _ hcurrent => hcurrent.elim
                (fun hfixed => hsame (hmap.trans hfixed))
                fun hstored => hchanged (hload.stored.symm.trans hstored), hload.stored]
              exact ⟨rfl, hfound'⟩
        · -- The object has read the file.
          rw [rewrittenPins_file (fun hfound' => absurd hfound' (by rw [hlacks]; decide)),
            hload.stored]
          by_cases hsame : reconciled = (w.withObject latest latest).keyring.pins
          · rw [if_pos hsame] at h
            cases h
            exact ⟨(hmap.symm.trans hsame).symm, hfound⟩
          · rw [if_neg hsame] at h
            rcases persistReconciled_ok h with ⟨-, rfl⟩ | ⟨latest', hload', hchanged, -, -⟩
            · exact ⟨hmap, hfound⟩
            · exact absurd (loads_unique hload' (loads_withObject.mpr hload)) hchanged

/-! ### What the recipients are -/

/-- A loop that returns has run on every element. -/
theorem exists_ok_of_mapM {α β : Type} {f : α → Except Thrown β} {items : List α} {results : List β}
    (h : items.mapM f = .ok results) : ∀ item ∈ items, ∃ result, f item = .ok result := by
  induction items generalizing results with
  | nil => exact fun item hitem => absurd hitem List.not_mem_nil
  | cons first rest ih =>
    rw [List.mapM_cons, bind_eq_ok_iff] at h
    obtain ⟨result, hfirst, h⟩ := h
    rw [bind_eq_ok_iff] at h
    obtain ⟨results', hrest, -⟩ := h
    exact List.forall_mem_cons.mpr ⟨⟨result, hfirst⟩, ih hrest⟩

/-- A recipient that is found has an active pin of its tuple and Watch. -/
theorem exists_of_recipientsFound {keyring : LocalLinkKeyring} {recipient : E2ERecipientV1}
    (h : recipientsFound crypto snapshot keyring = true)
    (hrecipient : recipient ∈ snapshot.recipients) :
    ∃ pin ∈ keyring.pins, pin.status = .active ∧ pinKey pin = recipientKey recipient ∧
      pin.watchDeviceId = recipient.watchDeviceId := by
  unfold recipientsFound at h
  cases hmaterials : snapshot.recipients.mapM (materialForRecipient crypto keyring) with
  | error e =>
    rw [hmaterials] at h
    cases h
  | ok materials =>
    obtain ⟨⟨_, material⟩, hmaterial⟩ := exists_ok_of_mapM hmaterials recipient hrecipient
    unfold materialForRecipient at hmaterial
    split at hmaterial
    · next found hfound =>
      split at hmaterial
      · next hmatches =>
        cases hmaterial
        unfold resolvePinMaterial at hfound
        split at hfound
        · cases hfound
        · next pin husable =>
          split at hfound
          · cases hfound
          · split at hfound
            · cases hfound
              have hkey := List.find?_some husable
              rw [Bool.and_eq_true, decide_eq_true_eq, decide_eq_true_eq] at hkey
              exact ⟨pin, List.mem_of_find?_eq_some husable, hmatches.1, hkey.2,
                hmatches.2.1.symm⟩
            · cases hfound
      · cases hmaterial
    · cases hmaterial

/-! ### What a reconciliation does to a pin -/

/-- The snapshot lists the pin. -/
def Lists (snapshot : E2ERecipientSnapshotV1) (pin : ActiveLinkPinV2) : Prop :=
  pinKey pin ∈ snapshot.recipients.map recipientKey

variable {pin : ActiveLinkPinV2}

/-- A pin that a reconciliation leaves is revoked, listed, or retires for a pin that is listed. -/
theorem reconciledPin_eq_self_iff : reconciledPin snapshot pin = pin ∨ pin.status = .revoked ↔
    pin.status = .revoked ∨ Lists snapshot pin ∨
      (pin.status = .retiring ∧ hasSuccessor snapshot pin = true) := by
  unfold reconciledPin Lists
  split
  · next hkept =>
    constructor
    · exact fun _ => hkept.imp_right .inl
    · exact fun _ => .inl rfl
  · next hother =>
    rw [not_or] at hother
    split
    · next hretiring =>
      constructor
      · exact fun _ => .inr (.inr hretiring)
      · exact fun _ => .inl rfl
    · next hrevoked =>
      constructor
      · rintro (hsame | hstatus)
        · exact .inl (congrArg ActiveLinkPinV2.status hsame).symm
        · exact .inl hstatus
      · rintro (hstatus | hlisted | hretiring)
        · exact .inr hstatus
        · exact absurd hlisted hother.2
        · exact absurd hretiring hrevoked

theorem pinKey_reconciledPin (snapshot : E2ERecipientSnapshotV1) (pin : ActiveLinkPinV2) :
    pinKey (reconciledPin snapshot pin) = pinKey pin :=
  ((revokesOnly_reconciledPin snapshot).cases pin).1

/-- A usable pin after a reconciliation was left as it was. -/
theorem eq_of_reconciledPin_usable (h : (reconciledPin snapshot pin).status ≠ .revoked) :
    reconciledPin snapshot pin = pin := by
  rcases reconciledPin_cases snapshot pin with hsame | hrevoked
  · exact hsame
  · rw [hrevoked] at h
    exact absurd rfl h

/-- A usable pin is in the reconciled pins if it was there and was left. -/
theorem mem_map_reconciledPin {pins : List ActiveLinkPinV2} (husable : pin.status ≠ .revoked) :
    pin ∈ pins.map (reconciledPin snapshot) ↔
      pin ∈ pins ∧ (Lists snapshot pin ∨
        (pin.status = .retiring ∧ hasSuccessor snapshot pin = true)) := by
  constructor
  · intro hmem
    obtain ⟨before, hbefore, rfl⟩ := List.mem_map.mp hmem
    have hsame := eq_of_reconciledPin_usable husable
    rw [hsame] at husable ⊢
    exact ⟨hbefore, (reconciledPin_eq_self_iff.mp (.inl hsame)).resolve_left husable⟩
  · rintro ⟨hmem, hleft⟩
    have hsame := (reconciledPin_eq_self_iff.mpr (.inr hleft)).resolve_right husable
    exact List.mem_map.mpr ⟨pin, hmem, hsame⟩

end

/-! ### The revocations of the object and of the file -/

/-- What the object holds revoked, the file holds revoked, and what the object last read or wrote as
revoked, it holds revoked. -/
structure RevocationsAgree (crypto : NodeCrypto) (w : KeyringWorld) : Prop where
  sound : KeyringSound crypto w
  object : ∀ pin ∈ w.keyring.pins, pin.status = .revoked →
    ∃ pin' ∈ w.stored.pins, pinKey pin' = pinKey pin ∧ pin'.status = .revoked
  persisted : ∀ pin ∈ w.persistedState.pins, pin.status = .revoked →
    ∀ pin' ∈ w.keyring.pins, pinKey pin' = pinKey pin → pin'.status = .revoked

section
variable {crypto : NodeCrypto} {w w' : KeyringWorld} {a : KeyringAction}
  {state next latest : PersistedKeyringV2} {update : KeyringUpdate}

/-- Pins of different tuples with one tuple are one pin. -/
theorem eq_of_pinKey {pins : List ActiveLinkPinV2} (h : (pins.map pinKey).Nodup)
    {pin pin' : ActiveLinkPinV2} (hpin : pin ∈ pins) (hpin' : pin' ∈ pins)
    (hkey : pinKey pin' = pinKey pin) : pin' = pin :=
  List.inj_on_of_nodup_map h hpin' hpin hkey

/-- The object and the file hold the same, and it is what the object last read or wrote. -/
theorem revocationsAgree_of_same (hsound : KeyringSound crypto w)
    (hpersisted : w.persistedState = w.keyring.state) (hstored : w.stored = w.keyring.state) :
    RevocationsAgree crypto w where
  sound := hsound
  object := fun pin hpin hstatus => ⟨pin, hstored ▸ hpin, rfl, hstatus⟩
  persisted := by
    intro pin hpin hstatus pin' hpin' hkey
    rw [hpersisted] at hpin
    rw [eq_of_pinKey hsound.pins.tuples hpin hpin' hkey]
    exact hstatus

/-- A revoked pin stays revoked when an update changes a state. -/
theorem changed_revoked (h : changed update state = .ok next) {pin : ActiveLinkPinV2}
    (hpin : pin ∈ state.pins) (hstatus : pin.status = .revoked) :
    ∃ pin' ∈ next.pins, pinKey pin' = pinKey pin ∧ pin'.status = .revoked := by
  cases update with
  | persistActive new now =>
    obtain ⟨-, -, ⟨-, hsame⟩ | ⟨-, hpins⟩⟩ := activated_cases h
    · exact ⟨pin, hsame ▸ hpin, rfl, hstatus⟩
    · have hkept : retireFor new now pin = pin := by
        rcases retireFor_cases new now pin with hkept | ⟨-, -, hactive⟩
        · exact hkept
        · rw [hstatus] at hactive
          cases hactive
      rw [hpins]
      exact ⟨pin, List.mem_append_left _ (List.mem_map.mpr ⟨pin, hpin, hkept⟩), rfl, hstatus⟩
  | stageActivation pending => exact ⟨pin, (staged_cases h).1 ▸ hpin, rfl, hstatus⟩
  | revokeWatchGeneration watchDeviceId linkGeneration =>
    cases h
    refine ⟨_, List.mem_map.mpr ⟨pin, hpin, rfl⟩, ?_⟩
    rcases generationRevokedPin_cases watchDeviceId linkGeneration pin with hsame | ⟨hrevoked, -⟩
    · rw [hsame]
      exact ⟨rfl, hstatus⟩
    · rw [hrevoked]
      exact ⟨rfl, rfl⟩

/-- Fewer pending activations are accepted too. -/
theorem acceptedState_sublistPending {hostId : String} {identities : HostIdentities}
    (h : AcceptedState crypto hostId identities state) {pending : List PendingActivationV2}
    (hsub : pending.Sublist state.pendingActivations) :
    AcceptedState crypto hostId identities ⟨state.pins, pending⟩ where
  pins := h.pins
  pending := fun item hitem => h.pending item (hsub.subset hitem)
  representation :=
    { tuples := h.representation.tuples
      oneActive := h.representation.oneActive
      activeNewest := h.representation.activeNewest
      pendingTuples := (hsub.map _).nodup h.representation.pendingTuples
      pendingFresh := fun item hitem => h.representation.pendingFresh item (hsub.subset hitem)
      pendingWatches := (hsub.map _).nodup h.representation.pendingWatches
      pendingNewer := fun item hitem => h.representation.pendingNewer item (hsub.subset hitem) }

/-- Revoking a generation keeps a state accepted. -/
theorem accepts_generationRevoked (h : w.Accepts crypto state) (watchDeviceId : String)
    (linkGeneration : Nat) :
    w.Accepts crypto (generationRevoked watchDeviceId linkGeneration state) := by
  have hrevoked : RevokesOnly (generationRevokedPin watchDeviceId linkGeneration) := by
    intro pin
    rcases generationRevokedPin_cases watchDeviceId linkGeneration pin with hsame | ⟨hrevoked, -⟩
    · exact .inl hsame
    · exact .inr (.inl hrevoked)
  have hmapped := (validateState_eq_ok_iff.mp h).mapPins hrevoked
  exact validateState_eq_ok_iff.mpr (acceptedState_sublistPending hmapped List.filter_sublist)

/-- An update whose result is accepted does not throw. -/
theorem updatePersisted_accepted
    {mutate : PersistedKeyringV2 → Except Thrown PersistedKeyringV2}
    (hload : w.Loads crypto latest) (hnext : mutate latest = .ok next)
    (hvalid : w.Accepts crypto next) :
    ((updatePersisted crypto mutate).run w).1 = .ok () := by
  unfold updatePersisted
  rw [Effect.run_bind, load_run_of_loads hload, Effect.next_ok, Effect.run_bind]
  show ((_ >>= _ : KeyringEffect Unit).run (w.withObject latest latest)).1 = .ok ()
  rw [Effect.run_bind, Effect.run_ofExcept, hnext, Effect.next_ok, Effect.run_bind,
    Effect.run_modify, Effect.next_ok, Effect.run_bind, Effect.run_get, Effect.next_ok,
    Effect.run_bind, Effect.run_ofExcept]
  show (Effect.next _ (validateState crypto w.keyring.currentHostId w.keyring.identities next,
    w.withObject next latest)).1 = .ok ()
  rw [show validateState crypto w.keyring.currentHostId w.keyring.identities next = .ok () from
    hvalid, Effect.next_ok]
  split
  · rfl
  · rfl

/-- An update with checked arguments is what follows the checks. -/
theorem performUpdate_run (h : ArgumentsChecked crypto w update) :
    (performUpdate crypto update).run w = (updatePersisted crypto (changed update)).run w := by
  cases update with
  | persistActive pin now =>
    obtain ⟨hvalid, hactive⟩ := h
    show (persistActive crypto pin now).run w = _
    unfold persistActive
    rw [Effect.run_bind, Effect.run_get, Effect.next_ok, Effect.run_bind, Effect.run_ofExcept,
      assertValidPin_eq_ok_iff.mpr hvalid, Effect.next_ok, Effect.run_bind, Effect.run_ofExcept,
      throwIf_eq_ok.mpr (decide_eq_false (not_not.mpr hactive))]
    rfl
  | stageActivation pending =>
    show (stageActivation crypto pending).run w = _
    unfold stageActivation
    rw [Effect.run_bind, Effect.run_get, Effect.next_ok, Effect.run_bind, Effect.run_ofExcept,
      show assertValidPending crypto w.keyring.currentHostId w.keyring.identities pending = .ok ()
        from h]
    rfl
  | revokeWatchGeneration watchDeviceId linkGeneration =>
    have hpasses : (!(isNonEmptyString watchDeviceId && isPositiveSafeInteger linkGeneration))
        = false := by
      rw [show (isNonEmptyString watchDeviceId && isPositiveSafeInteger linkGeneration) = true
        from h]
      rfl
    show (revokeWatchGeneration crypto watchDeviceId linkGeneration).run w = _
    unfold revokeWatchGeneration
    rw [Effect.run_bind, Effect.run_ofExcept, throwIf_eq_ok.mpr hpasses]
    rfl

/-- The object holds what an update made of the file, and it is not written: it was not accepted. -/
theorem revocationsAgree_invalid (hsound : KeyringSound crypto (w.withObject next latest))
    (hload : w.Loads crypto latest) (hnext : changed update latest = .ok next)
    (hchecked : ArgumentsChecked crypto w update) (hinvalid : ¬ w.Accepts crypto next) :
    RevocationsAgree crypto (w.withObject next latest) := by
  have hnodup : (latest.pins.map pinKey).Nodup :=
    (validateState_eq_ok_iff.mp hload.accepts).representation.tuples
  have hstored : (w.withObject next latest).stored = latest := hload.stored
  -- A revoked pin of the new state was revoked before.
  have hback : ∀ pin ∈ next.pins, pin.status = .revoked → pin ∈ latest.pins := by
    intro pin hpin hstatus
    cases update with
    | persistActive new now =>
      obtain ⟨-, -, ⟨-, hsame⟩ | ⟨-, hpins⟩⟩ := activated_cases hnext
      · exact hsame ▸ hpin
      · rw [hpins, List.mem_append, List.mem_singleton] at hpin
        rcases hpin with hpin | rfl
        · obtain ⟨item, hitem, rfl⟩ := List.mem_map.mp hpin
          rcases retireFor_cases new now item with hkept | ⟨hretired, -, -⟩
          · exact hkept.symm ▸ hitem
          · rw [hretired] at hstatus
            cases hstatus
        · rw [hchecked.2] at hstatus
          cases hstatus
    | stageActivation pending => exact (staged_cases hnext).1 ▸ hpin
    | revokeWatchGeneration watchDeviceId linkGeneration =>
      cases hnext
      exact absurd (accepts_generationRevoked hload.accepts watchDeviceId linkGeneration) hinvalid
  refine ⟨hsound, fun pin hpin hstatus => ?_, fun pin hpin hstatus pin' hpin' hkey => ?_⟩
  · rw [hstored]
    exact ⟨pin, hback pin hpin hstatus, rfl, hstatus⟩
  · obtain ⟨kept, hkept, hkeptKey, hkeptStatus⟩ := changed_revoked hnext hpin hstatus
    have hsame : pin' = kept :=
      eq_of_pinKey hsound.pins.tuples hkept hpin' (hkey.trans hkeptKey.symm)
    rw [hsame]
    exact hkeptStatus

/-- The world after an update. -/
theorem revocationsAgree_update (h : RevocationsAgree crypto w) (update : KeyringUpdate)
    (hsound : KeyringSound crypto ((performUpdate crypto update).run w).2) :
    RevocationsAgree crypto ((performUpdate crypto update).run w).2 := by
  rcases @performUpdate_cases crypto update w with ⟨e, hrun⟩ | ⟨hchecked, hresult⟩
  · rw [hrun]
    exact h
  · rcases hrun : (performUpdate crypto update).run w with ⟨r, v⟩
    rw [hrun] at hresult hsound
    cases hresult with
    | unreadable e => exact h
    | rejected latest e hload => exact revocationsAgree_of_same hsound rfl hload.stored
    | invalid latest next e hload hnext =>
      refine revocationsAgree_invalid hsound hload hnext hchecked fun hvalid => ?_
      have hok := updatePersisted_accepted hload hnext hvalid
      rw [← performUpdate_run hchecked, hrun] at hok
      cases hok
    | unchanged latest hload hnext hvalid =>
      exact revocationsAgree_of_same hsound rfl hload.stored
    | written latest next hload hnext hvalid => exact revocationsAgree_of_same hsound rfl rfl

/-- The step lemma: the object and the file agree on what is revoked. -/
theorem RevocationsAgree.step (h : RevocationsAgree crypto w) (hstep : KeyringStep crypto w a w') :
    RevocationsAgree crypto w' := by
  have hsound := h.sound.step hstep
  obtain ⟨-, rfl⟩ := hstep
  cases a with
  | update update => exact revocationsAgree_update h update hsound
  | foreign update =>
    refine ⟨hsound, fun pin hpin hstatus => ?_, h.persisted⟩
    obtain ⟨pin', hpin', hkey, hstatus'⟩ := h.object pin hpin hstatus
    rcases @performUpdate_stored crypto w update with hsame | ⟨-, -, hnext, -⟩
    · exact ⟨pin', hsame.symm ▸ hpin', hkey, hstatus'⟩
    · obtain ⟨kept, hkept, hkeptKey, hkeptStatus⟩ := changed_revoked hnext hpin' hstatus'
      exact ⟨kept, hkept, hkeptKey.trans hkey, hkeptStatus⟩
  | revokeWatch watchDeviceId =>
    show RevocationsAgree crypto ((mapPins (watchRevoked watchDeviceId)).run w).2
    change KeyringSound crypto ((mapPins (watchRevoked watchDeviceId)).run w).2 at hsound
    rw [mapPins_run] at hsound ⊢
    dsimp only at hsound ⊢
    split at hsound
    · rwa [if_pos ‹_›]
    · rw [if_neg ‹_›]
      exact revocationsAgree_of_same hsound rfl rfl
  | revokeCompromisedEncryptionKey keyId =>
    show RevocationsAgree crypto ((mapPins (keyRevoked keyId)).run w).2
    change KeyringSound crypto ((mapPins (keyRevoked keyId)).run w).2 at hsound
    rw [mapPins_run] at hsound ⊢
    dsimp only at hsound ⊢
    split at hsound
    · rwa [if_pos ‹_›]
    · rw [if_neg ‹_›]
      exact revocationsAgree_of_same hsound rfl rfl
  | reconcileRecipients snapshot =>
    have hresult := @reconcileRecipients_cases crypto snapshot w
    change RevocationsAgree crypto ((reconcileRecipients crypto snapshot).run w).2
    change KeyringSound crypto ((reconcileRecipients crypto snapshot).run w).2 at hsound
    generalize (reconcileRecipients crypto snapshot).run w = result at hresult hsound
    cases hresult with
    | kept r => exact h
    | refreshed latest r hload => exact revocationsAgree_of_same hsound rfl hload.stored
    | writtenCopy r hload => exact revocationsAgree_of_same hsound rfl rfl
    | writtenLatest latest r hload hknown => exact revocationsAgree_of_same hsound rfl rfl
  | pruneRetiring references now =>
    change KeyringSound crypto ((pruneRetiring references now).final w) at hsound
    change RevocationsAgree crypto ((pruneRetiring references now).final w)
    rcases pruneRetiring_cases references now w with hsame | hpruned
    · rw [hsame]
      exact h
    · rw [hpruned] at hsound ⊢
      exact revocationsAgree_of_same hsound rfl rfl
  | reopen =>
    change KeyringSound crypto ((refreshPersisted crypto).run w).2 at hsound
    change RevocationsAgree crypto ((refreshPersisted crypto).run w).2
    rcases @refreshPersisted_cases crypto w with ⟨latest, hload, hrun⟩ | ⟨e, hrun⟩
    · rw [hrun] at hsound ⊢
      exact revocationsAgree_of_same hsound rfl hload.stored
    · rw [hrun]
      exact h
  | rotate identity => exact ⟨hsound, h.object, h.persisted⟩

end

/-! ### What a reconciliation should do -/

/-- A revoked pin is usable again. -/
def TurnsUsable (before after : List ActiveLinkPinV2) : Prop :=
  ∃ pin ∈ before, pin.status = .revoked ∧
    ∃ pin' ∈ after, pinKey pin' = pinKey pin ∧ pin'.status ≠ .revoked ∧ pin' ∉ before

/-- What a reconciliation should do, where `known` are the pins when the snapshot was requested. The
pins that are active after it are those that were active and that are listed or came since. -/
structure Reconciled (crypto : NodeCrypto) (known : List PinKey)
    (snapshot : E2ERecipientSnapshotV1) (w w' : KeyringWorld) : Prop where
  listed : ∀ recipient ∈ snapshot.recipients,
    ∃ pin ∈ w'.keyring.pins, pin.status = .active ∧ pinKey pin = recipientKey recipient
  active : ∀ pin, pin.status = .active → (pin ∈ w'.keyring.pins ↔
    pin ∈ rewrittenPins crypto snapshot w ∧ (Lists snapshot pin ∨ pinKey pin ∉ known))
  object : ¬ TurnsUsable w.keyring.pins w'.keyring.pins
  file : ¬ TurnsUsable w.stored.pins w'.stored.pins
  unknown : ∀ pin ∈ rewrittenPins crypto snapshot w, pin.status ≠ .revoked →
    pinKey pin ∉ known → pin ∈ w'.keyring.pins
  retiring : ∀ pin ∈ w'.keyring.pins, pin.status = .retiring →
    ∃ newer ∈ w'.keyring.pins, newer.status = .active ∧ newer.watchDeviceId = pin.watchDeviceId ∧
      0 < comparePinTuple (pinTuple newer) (pinTuple pin)
  written : w'.keyring.pins = w.keyring.pins ∨ w'.keyring.pins = w'.stored.pins

/-- Each usable pin that came since is listed, or retires for a pin that is listed. -/
def SnapshotCovers (known : List PinKey) (snapshot : E2ERecipientSnapshotV1)
    (pins : List ActiveLinkPinV2) : Prop :=
  ∀ pin ∈ pins, pin.status ≠ .revoked → pinKey pin ∉ known →
    Lists snapshot pin ∨ (pin.status = .retiring ∧ hasSuccessor snapshot pin = true)

section
variable {crypto : NodeCrypto} {snapshot : E2ERecipientSnapshotV1} {w w' : KeyringWorld}
  {pin : ActiveLinkPinV2}

/-- A list in which no pin of the tuple of a revoked one is usable turns none usable. -/
theorem not_turnsUsable {before after : List ActiveLinkPinV2}
    (h : ∀ pin ∈ before, pin.status = .revoked → ∀ pin' ∈ after, pinKey pin' = pinKey pin →
      pin'.status ≠ .revoked → pin' ∈ before) : ¬ TurnsUsable before after := by
  rintro ⟨pin, hpin, hstatus, pin', hpin', hkey, husable, hnew⟩
  exact hnew (h pin hpin hstatus pin' hpin' hkey husable)

/-- No result of a reconciliation makes a revoked pin usable, in the object or in the file. -/
theorem not_turnsUsable_reconcile (h : RevocationsAgree crypto w) (r : Except Thrown Unit)
    (hresult : ReconcileResult crypto snapshot w (r, w')) :
    ¬ TurnsUsable w.keyring.pins w'.keyring.pins ∧ ¬ TurnsUsable w.stored.pins w'.stored.pins := by
  -- What the object holds revoked is not usable in a file that loads.
  have hobject : ∀ latest, w.Loads crypto latest → ∀ pin ∈ w.keyring.pins, pin.status = .revoked →
      ∀ pin' ∈ latest.pins, pinKey pin' = pinKey pin → pin'.status = .revoked := by
    intro latest hload pin hpin hstatus pin' hpin' hkey
    obtain ⟨kept, hkept, hkeptKey, hkeptStatus⟩ := h.object pin hpin hstatus
    rw [hload.stored] at hkept
    have hnodup := (validateState_eq_ok_iff.mp hload.accepts).representation.tuples
    rw [eq_of_pinKey hnodup hkept hpin' (hkey.trans hkeptKey.symm)]
    exact hkeptStatus
  -- A usable reconciled pin was there before.
  have hleft : ∀ (pins : List ActiveLinkPinV2) pin', pin' ∈ pins.map (reconciledPin snapshot) →
      pin'.status ≠ .revoked → pin' ∈ pins := fun _ _ hmem husable =>
    ((mem_map_reconciledPin husable).mp hmem).1
  cases hresult with
  | kept r =>
    exact ⟨not_turnsUsable fun _ _ _ _ hpin' _ _ => hpin',
      not_turnsUsable fun _ _ _ _ hpin' _ _ => hpin'⟩
  | refreshed latest r hload =>
    refine ⟨not_turnsUsable fun pin hpin hstatus pin' hpin' hkey husable => ?_,
      not_turnsUsable fun _ _ _ _ hpin' _ _ => hpin'⟩
    exact absurd (hobject latest hload pin hpin hstatus pin' hpin' hkey) husable
  | writtenCopy r hload =>
    refine ⟨not_turnsUsable fun _ _ _ pin' hpin' _ husable => hleft _ pin' hpin' husable,
      not_turnsUsable fun pin hpin hstatus pin' hpin' hkey husable => ?_⟩
    rw [hload.stored] at hpin
    exact absurd (h.persisted pin hpin hstatus pin' (hleft _ pin' hpin' husable) hkey) husable
  | writtenLatest latest r hload hknown =>
    refine ⟨not_turnsUsable fun pin hpin hstatus pin' hpin' hkey husable => ?_,
      not_turnsUsable fun _ _ _ pin' hpin' _ husable => ?_⟩
    · exact absurd (hobject latest hload pin hpin hstatus pin' (hleft _ pin' hpin' husable) hkey)
        husable
    · rw [hload.stored]
      exact hleft _ pin' hpin' husable

/-- The pins of the object are as before, or they are in the file. -/
theorem written_of_reconcile (r : Except Thrown Unit)
    (hresult : ReconcileResult crypto snapshot w (r, w')) :
    w'.keyring.pins = w.keyring.pins ∨ w'.keyring.pins = w'.stored.pins := by
  cases hresult with
  | kept r => exact .inl rfl
  | refreshed latest r hload => exact .inr (congrArg PersistedKeyringV2.pins hload.stored.symm)
  | writtenCopy r hload => exact .inr rfl
  | writtenLatest latest r hload hknown => exact .inr rfl

/-- A recipient that was found has its active pin after the reconciliation. -/
theorem listed_of_ok (hok : (reconcileRecipients crypto snapshot).run w = (.ok (), w'))
    {recipient : E2ERecipientV1} (hrecipient : recipient ∈ snapshot.recipients) :
    ∃ pin ∈ w'.keyring.pins, pin.status = .active ∧ pinKey pin = recipientKey recipient ∧
      pin.watchDeviceId = recipient.watchDeviceId := by
  obtain ⟨hpins, hfound⟩ := reconcileRecipients_ok hok
  obtain ⟨pin, hpin, hactive, hkey, hwatch⟩ := exists_of_recipientsFound hfound hrecipient
  have husable : pin.status ≠ .revoked := by
    rw [hactive]
    decide
  have hlists : Lists snapshot pin := List.mem_map.mpr ⟨recipient, hrecipient, hkey.symm⟩
  rw [hpins]
  exact ⟨pin, (mem_map_reconciledPin husable).mpr ⟨hpin, .inl hlists⟩, hactive, hkey, hwatch⟩

/-- A pin that retires after the reconciliation has an active successor. -/
theorem newer_of_retiring (hsound : KeyringSound crypto w')
    (hok : (reconcileRecipients crypto snapshot).run w = (.ok (), w'))
    (hpin : pin ∈ w'.keyring.pins) (hretiring : pin.status = .retiring) :
    ∃ newer ∈ w'.keyring.pins, newer.status = .active ∧ newer.watchDeviceId = pin.watchDeviceId ∧
      0 < comparePinTuple (pinTuple newer) (pinTuple pin) := by
  have husable : pin.status ≠ .revoked := by
    rw [hretiring]
    decide
  have hleft := hpin
  rw [(reconcileRecipients_ok hok).1, mem_map_reconciledPin husable] at hleft
  rcases hleft.2 with hlists | ⟨-, hsuccessor⟩
  · -- A listed pin is active.
    obtain ⟨recipient, hrecipient, hkey⟩ := List.mem_map.mp hlists
    obtain ⟨found, hfound, hactive, hfoundKey, -⟩ := listed_of_ok hok hrecipient
    have hsame := eq_of_pinKey hsound.pins.tuples hpin hfound (hfoundKey.trans hkey)
    rw [hsame, hretiring] at hactive
    cases hactive
  · unfold hasSuccessor at hsuccessor
    rw [Option.any_eq_true] at hsuccessor
    obtain ⟨recipient, hfind, hlater⟩ := hsuccessor
    have hmatches := List.find?_some hfind
    have hwatch := of_decide_eq_true hmatches
    have hrecipient := List.mem_reverse.mp (List.mem_of_find?_eq_some hfind)
    obtain ⟨newer, hnewer, hactive, hkey, hnewerWatch⟩ := listed_of_ok hok hrecipient
    refine ⟨newer, hnewer, hactive, hnewerWatch.trans hwatch, ?_⟩
    have htuple : pinTuple newer = (recipient.linkGeneration, recipient.epoch) :=
      congrArg (fun key : PinKey => (key.linkGeneration, key.epoch)) hkey
    rw [htuple]
    exact of_decide_eq_true hlater

variable {hostId currentKeyId : String} {identities : HostIdentities}
  {file : Option PersistedKeyringV2} {before since : List KeyringAction}
  {requested : KeyringWorld}

/-- The keyring of a new process has nothing revoked. -/
theorem revocationsAgree_start
    (himport : ∀ keyId identity, identities.get? keyId = some identity →
      identity.encryptionKeyId = keyId ∧ crypto.canImportPrivateKey identity = true) :
    RevocationsAgree crypto (.start hostId identities currentKeyId file) where
  sound := ReceiptConstruction.keyringSound_start himport
  object := fun _ hpin => absurd hpin List.not_mem_nil
  persisted := fun _ hpin => absurd hpin List.not_mem_nil

end

/-! ### A late snapshot -/

open Ariava.Proofs.ReceiptConstruction
open Ariava.Proofs.KeyringIsolation (otherPin)

/-- The recipient of a pin. -/
def recipientOf (pin : ActiveLinkPinV2) : E2ERecipientV1 where
  linkId := pin.linkId
  linkGeneration := pin.linkGeneration
  watchDeviceId := pin.watchDeviceId
  epoch := pin.epoch
  watchBinding := pin.watchBinding

/-- The snapshot before the second Watch is activated. -/
def lateSnapshot : E2ERecipientSnapshotV1 := ⟨linkHostId, 1, [recipientOf (linkPin 1)]⟩

/-- The snapshot after it. -/
def newerSnapshot : E2ERecipientSnapshotV1 :=
  ⟨linkHostId, 2, [recipientOf (linkPin 1), recipientOf otherPin]⟩

/-- The keyring of the link with pins, which are also in its file. -/
def worldWith (pins : List ActiveLinkPinV2) : KeyringWorld := linkStart.written ⟨pins, []⟩

/-- The command line activates the pin of the second Watch, in the file. -/
def activatedWorld : KeyringWorld :=
  { worldWith [linkPin 1] with file := some ⟨[linkPin 1, otherPin], []⟩ }

/-- Another pass of the daemon has reconciled with the newer snapshot. -/
def refreshedWorld : KeyringWorld := worldWith [linkPin 1, otherPin]

/-- The keyring after the older snapshot was reconciled too. -/
def outdatedWorld : KeyringWorld := worldWith [linkPin 1, revokedPin otherPin]

/-- A process reads its file. -/
theorem reopen_linkStart : KeyringStep linkCrypto linkStart .reopen (worldWith [linkPin 1]) :=
  ⟨trivial, by decide +kernel⟩

theorem activate_otherPin : KeyringStep linkCrypto (worldWith [linkPin 1])
    (.foreign (.persistActive otherPin (sampleInstant 60000))) activatedWorld :=
  ⟨trivial, by decide +kernel⟩

theorem reconcile_newerSnapshot : KeyringStep linkCrypto activatedWorld
    (.reconcileRecipients newerSnapshot) refreshedWorld :=
  ⟨trivial, by decide +kernel⟩

theorem reconcile_lateSnapshot : (reconcileRecipients linkCrypto lateSnapshot).run refreshedWorld
    = (.ok (), outdatedWorld) := by
  decide +kernel

/-- Every reconciliation that returns does what it should. -/
def AlwaysReconciles (crypto : NodeCrypto) (start : KeyringWorld) : Prop :=
  ∀ (before since : List KeyringAction) (requested w w' : KeyringWorld)
    (snapshot : E2ERecipientSnapshotV1),
    Run (KeyringStep crypto) start before requested → Run (KeyringStep crypto) requested since w →
    (reconcileRecipients crypto snapshot).run w = (.ok (), w') →
    Reconciled crypto (requested.keyring.pins.map pinKey) snapshot w w'

end Ariava.Proofs.RecipientReconciliation
