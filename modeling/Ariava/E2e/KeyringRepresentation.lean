import Ariava.E2e.KeyringCases

/-!
# `Ariava.E2e.KeyringRepresentation`: what an accepted keyring file looks like

`validateState` is three loops over the pins, the pending activations and the Watches.
`KeyringRepresentation` is the relation between the records that they check, without the loops:
tuples differ, a Watch has one active pin at most and no pin of it is newer, and a pending
activation is newer than every pin of its Watch.

* `validateState_eq_ok_iff`: an accepted state is one whose records are valid and that has this
  representation.
* `AcceptedState.mapPins`, `AcceptedState.filterPins`: revoking pins, or dropping pins that are
  not active, keeps a state accepted.

A revoked pin still counts: the active pin of its Watch may not be older.
-/

set_option autoImplicit false

namespace Ariava.E2e

open Ariava.Lib
open Ariava.Protocol

/-! ### The order of the tuples -/

theorem comparePinTuple_nonpos {left right : Nat × Nat} :
    comparePinTuple left right ≤ 0 ↔
      left.1 < right.1 ∨ (left.1 = right.1 ∧ left.2 ≤ right.2) := by
  unfold comparePinTuple
  split <;> omega

theorem comparePinTuple_pos {left right : Nat × Nat} :
    0 < comparePinTuple left right ↔
      right.1 < left.1 ∨ (left.1 = right.1 ∧ right.2 < left.2) := by
  unfold comparePinTuple
  split <;> omega

theorem comparePinTuple_eq_zero {left right : Nat × Nat} :
    comparePinTuple left right = 0 ↔ left = right := by
  unfold comparePinTuple
  rw [Prod.ext_iff]
  split <;> omega

theorem comparePinTuple_trans {a b c : Nat × Nat} (hab : comparePinTuple a b ≤ 0)
    (hbc : comparePinTuple b c ≤ 0) : comparePinTuple a c ≤ 0 := by
  rw [comparePinTuple_nonpos] at hab hbc ⊢
  omega

theorem comparePinTuple_trans_pos {a b c : Nat × Nat} (hab : comparePinTuple a b ≤ 0)
    (hcb : 0 < comparePinTuple c b) : 0 < comparePinTuple c a := by
  rw [comparePinTuple_nonpos] at hab
  rw [comparePinTuple_pos] at hcb ⊢
  omega

/-- `latestPin` is one of the two, and none is later. -/
theorem latestPin_spec (left right : ActiveLinkPinV2) :
    (latestPin left right = left ∨ latestPin left right = right) ∧
      comparePinTuple (pinTuple left) (pinTuple (latestPin left right)) ≤ 0 ∧
      comparePinTuple (pinTuple right) (pinTuple (latestPin left right)) ≤ 0 := by
  unfold latestPin
  split
  · rename_i hle
    refine ⟨Or.inl rfl, ?_, ?_⟩
    · rw [comparePinTuple_nonpos]
      omega
    · rw [comparePinTuple_nonpos]
      unfold comparePinTuple at hle
      split at hle <;> omega
  · rename_i hlt
    refine ⟨Or.inr rfl, by omega, ?_⟩
    rw [comparePinTuple_nonpos]
    omega

/-- A list of pins has a latest one, and the loop finds it. -/
theorem foldl_latestPin (first : ActiveLinkPinV2) (rest : List ActiveLinkPinV2) :
    rest.foldl latestPin first ∈ first :: rest ∧
      ∀ pin ∈ first :: rest,
        comparePinTuple (pinTuple pin) (pinTuple (rest.foldl latestPin first)) ≤ 0 := by
  induction rest generalizing first with
  | nil => simp [comparePinTuple]
  | cons second rest ih =>
    obtain ⟨hmem, hmax⟩ := ih (latestPin first second)
    obtain ⟨hchoice, hfirst, hsecond⟩ := latestPin_spec first second
    have hlatest := hmax _ List.mem_cons_self
    rw [List.foldl_cons]
    constructor
    · rcases List.mem_cons.mp hmem with heq | hrest
      · rw [heq]
        rcases hchoice with hchoice | hchoice <;> rw [hchoice] <;> simp
      · exact List.mem_cons_of_mem _ (List.mem_cons_of_mem _ hrest)
    · intro pin hpin
      rcases List.mem_cons.mp hpin with rfl | hpin
      · exact comparePinTuple_trans hfirst hlatest
      rcases List.mem_cons.mp hpin with rfl | hpin
      · exact comparePinTuple_trans hsecond hlatest
      · exact hmax pin (List.mem_cons_of_mem _ hpin)

/-- A list without duplicates has one element at most when its elements are equal. -/
theorem length_le_one_iff_of_nodup {α : Type} {l : List α} (h : l.Nodup) :
    l.length ≤ 1 ↔ ∀ a ∈ l, ∀ b ∈ l, a = b := by
  match l, h with
  | [], _ => simp
  | [a], _ => simp
  | a :: b :: rest, h =>
    constructor
    · intro hlength
      simp at hlength
    · intro hall
      have heq := hall a List.mem_cons_self b (List.mem_cons_of_mem _ List.mem_cons_self)
      exact absurd (heq ▸ List.mem_cons_self) (List.nodup_cons.mp h).1

/-! ### The representation -/

/-- How the records of an accepted keyring file are related. -/
structure KeyringRepresentation (state : PersistedKeyringV2) : Prop where
  tuples : (state.pins.map pinKey).Nodup
  oneActive : ∀ pin ∈ state.pins, ∀ other ∈ state.pins, pin.status = .active →
    other.status = .active → pin.watchDeviceId = other.watchDeviceId → pin = other
  activeNewest : ∀ pin ∈ state.pins, ∀ other ∈ state.pins, pin.status = .active →
    other.watchDeviceId = pin.watchDeviceId →
      comparePinTuple (pinTuple other) (pinTuple pin) ≤ 0
  pendingTuples : (state.pendingActivations.map fun pending => pinKey pending.pin).Nodup
  pendingFresh : ∀ pending ∈ state.pendingActivations, ∀ pin ∈ state.pins,
    pinKey pending.pin ≠ pinKey pin
  pendingWatches : (state.pendingActivations.map fun pending => pending.pin.watchDeviceId).Nodup
  pendingNewer : ∀ pending ∈ state.pendingActivations, ∀ pin ∈ state.pins,
    pending.pin.watchDeviceId = pin.watchDeviceId →
      0 < comparePinTuple (pinTuple pending.pin) (pinTuple pin)

/-- The records are valid and the representation holds. -/
structure AcceptedState (crypto : NodeCrypto) (hostId : String) (identities : HostIdentities)
    (state : PersistedKeyringV2) : Prop where
  pins : ∀ pin ∈ state.pins, ValidPin crypto hostId identities pin
  pending : ∀ pending ∈ state.pendingActivations,
    assertValidPending crypto hostId identities pending = .ok ()
  representation : KeyringRepresentation state

section
variable {crypto : NodeCrypto} {hostId : String} {identities : HostIdentities}
  {state : PersistedKeyringV2}

/-- The loop over the pins accepts valid pins with new and different tuples. -/
theorem validatePins_eq_ok_iff {tuples : List PinKey} {pins : List ActiveLinkPinV2} :
    validatePins crypto hostId identities tuples pins = .ok () ↔
      SoundPins crypto hostId identities pins ∧ ∀ pin ∈ pins, pinKey pin ∉ tuples := by
  constructor
  · exact soundPins_of_validatePins
  · rintro ⟨hsound, hfresh⟩
    induction pins generalizing tuples with
    | nil => rfl
    | cons pin rest ih =>
      have htuples := List.nodup_cons.mp hsound.tuples
      rw [validatePins, check_bind_eq_ok, check_bind_eq_ok, throwIf_eq_ok,
        decide_eq_false_iff_not, assertValidPin_eq_ok_iff]
      refine ⟨hsound.valid pin List.mem_cons_self, hfresh pin List.mem_cons_self,
        ih ⟨fun other hother => hsound.valid other (List.mem_cons_of_mem _ hother), htuples.2⟩ ?_⟩
      intro other hother hseen
      rcases List.mem_cons.mp hseen with heq | hseen
      · exact htuples.1 (List.mem_map.mpr ⟨other, hother, heq⟩)
      · exact hfresh other (List.mem_cons_of_mem _ hother) hseen

/-- The loop over the pending activations accepts valid ones with new and different tuples and
Watches. -/
theorem validatePending_eq_ok_iff {tuples : List PinKey} {watches : List String}
    {items : List PendingActivationV2} :
    validatePending crypto hostId identities tuples watches items = .ok () ↔
      (∀ item ∈ items, assertValidPending crypto hostId identities item = .ok ()) ∧
      (items.map fun item => pinKey item.pin).Nodup ∧
      (items.map fun item => item.pin.watchDeviceId).Nodup ∧
      ∀ item ∈ items, pinKey item.pin ∉ tuples ∧ item.pin.watchDeviceId ∉ watches := by
  induction items generalizing tuples watches with
  | nil => simp [validatePending]
  | cons item rest ih =>
    rw [validatePending, check_bind_eq_ok, check_bind_eq_ok, throwIf_eq_ok,
      decide_eq_false_iff_not, not_or, ih]
    simp only [List.forall_mem_cons]
    simp only [List.map_cons, List.nodup_cons, List.mem_map, List.mem_cons, not_or, not_exists,
      not_and]
    constructor
    · rintro ⟨hvalid, ⟨htuple, hwatch⟩, hrest, htuples, hwatches, hnew⟩
      refine ⟨⟨hvalid, hrest⟩, ⟨fun other hother heq => (hnew other hother).1.1 heq, htuples⟩,
        ⟨fun other hother heq => (hnew other hother).2.1 heq, hwatches⟩, ⟨htuple, hwatch⟩,
        fun other hother => ⟨(hnew other hother).1.2, (hnew other hother).2.2⟩⟩
    · rintro ⟨⟨hvalid, hrest⟩, ⟨htupleNew, htuples⟩, ⟨hwatchNew, hwatches⟩, ⟨htuple, hwatch⟩, hnew⟩
      exact ⟨hvalid, ⟨htuple, hwatch⟩, hrest, htuples, hwatches, fun other hother =>
        ⟨⟨htupleNew other hother, (hnew other hother).1⟩,
          hwatchNew other hother, (hnew other hother).2⟩⟩

/-- The checks of the pins of one Watch, less the loop. -/
theorem validateWatch_eq_ok_iff {watchDeviceId : String} {first : ActiveLinkPinV2}
    {rest : List ActiveLinkPinV2}
    (hpins : (state.pins.filter fun pin => decide (pin.watchDeviceId = watchDeviceId))
      = first :: rest) :
    validateWatch state watchDeviceId = .ok () ↔
      ((first :: rest).filter fun pin => decide (pin.status = .active)).length ≤ 1 ∧
      (∀ pin ∈ first :: rest, pin.status = .active → ∀ other ∈ first :: rest,
        comparePinTuple (pinTuple other) (pinTuple pin) ≤ 0) ∧
      ∀ pending, (state.pendingActivations.find? fun pending =>
          decide (pending.pin.watchDeviceId = watchDeviceId)) = some pending →
        ∀ other ∈ first :: rest, 0 < comparePinTuple (pinTuple pending.pin) (pinTuple other) := by
  obtain ⟨hmaxMem, hmax⟩ := foldl_latestPin first rest
  unfold validateWatch
  rw [hpins]
  simp only [check_bind_eq_ok, throwIf_eq_ok, decide_eq_false_iff_not, not_lt]
  refine and_congr Iff.rfl (and_congr ?_ ?_)
  · rw [List.any_eq_false]
    constructor
    · intro hnone pin hpin hactive other hother
      have hzero := hnone pin (List.mem_filter.mpr ⟨hpin, decide_eq_true hactive⟩)
      rw [decide_eq_true_eq, not_not, comparePinTuple_eq_zero] at hzero
      rw [hzero]
      exact hmax other hother
    · intro hall pin hpin
      obtain ⟨hmem, hactive⟩ := List.mem_filter.mp hpin
      have hle := hall pin hmem (of_decide_eq_true hactive) _ hmaxMem
      have hge := hmax pin hmem
      rw [decide_eq_true_eq, not_not, comparePinTuple_eq_zero, Prod.ext_iff]
      rw [comparePinTuple_nonpos] at hle hge
      omega
  · cases hfind : state.pendingActivations.find? fun pending =>
        decide (pending.pin.watchDeviceId = watchDeviceId) with
    | none => simp
    | some pending =>
      simp only [Option.any_some, decide_eq_false_iff_not, not_le, Option.some.injEq]
      constructor
      · rintro hlater _ rfl other hother
        exact comparePinTuple_trans_pos (hmax other hother) hlater
      · exact fun h => h pending rfl _ hmaxMem

/-- An accepted state is one whose records are valid and that has the representation. -/
theorem validateState_eq_ok_iff :
    validateState crypto hostId identities state = .ok () ↔
      AcceptedState crypto hostId identities state := by
  rw [validateState, check_bind_eq_ok, check_bind_eq_ok, validatePins_eq_ok_iff,
    validatePending_eq_ok_iff, checkAll_eq_ok]
  constructor
  · rintro ⟨⟨hsound, -⟩, ⟨hpending, htuples, hwatches, hnew⟩, hwatch⟩
    -- A pin of a Watch is in the list of that Watch, which was checked.
    have hchecked : ∀ pin ∈ state.pins, ∃ first rest,
        (state.pins.filter fun other => decide (other.watchDeviceId = pin.watchDeviceId))
          = first :: rest ∧ validateWatch state pin.watchDeviceId = .ok () ∧
        ∀ other ∈ state.pins, other.watchDeviceId = pin.watchDeviceId → other ∈ first :: rest := by
      intro pin hpin
      have hmem : ∀ other ∈ state.pins, other.watchDeviceId = pin.watchDeviceId →
          other ∈ state.pins.filter fun other => decide (other.watchDeviceId = pin.watchDeviceId) :=
        fun other hother heq => List.mem_filter.mpr ⟨hother, decide_eq_true heq⟩
      have hok := hwatch pin.watchDeviceId
        (List.mem_eraseDups.mpr (List.mem_map.mpr ⟨pin, hpin, rfl⟩))
      cases hfilter : state.pins.filter fun other =>
          decide (other.watchDeviceId = pin.watchDeviceId) with
      | nil => exact absurd (hmem pin hpin rfl) (by rw [hfilter]; exact List.not_mem_nil)
      | cons first rest => exact ⟨first, rest, rfl, hok, fun other hother heq =>
          hfilter ▸ hmem other hother heq⟩
    refine ⟨hsound.valid, hpending, hsound.tuples, ?_, ?_, htuples, ?_, hwatches, ?_⟩
    · intro pin hpin other hother hactive hactive' hsame
      obtain ⟨first, rest, hpins, hok, hmem⟩ := hchecked pin hpin
      have hlength := ((validateWatch_eq_ok_iff hpins).mp hok).1
      have hin : ∀ item ∈ state.pins, item.status = .active →
          item.watchDeviceId = pin.watchDeviceId →
            item ∈ (first :: rest).filter fun item => decide (item.status = .active) :=
        fun item hitem h heq => List.mem_filter.mpr ⟨hmem item hitem heq, decide_eq_true h⟩
      have hnodup : ((first :: rest).filter fun item => decide (item.status = .active)).Nodup := by
        rw [← hpins]
        exact ((List.Nodup.of_map _ hsound.tuples).filter _).filter _
      exact (length_le_one_iff_of_nodup hnodup).mp hlength pin (hin pin hpin hactive rfl) other
        (hin other hother hactive' hsame.symm)
    · intro pin hpin other hother hactive hsame
      obtain ⟨first, rest, hpins, hok, hmem⟩ := hchecked pin hpin
      exact ((validateWatch_eq_ok_iff hpins).mp hok).2.1 pin (hmem pin hpin rfl) hactive other
        (hmem other hother hsame)
    · intro pending hmem pin hpin heq
      exact (hnew pending hmem).1 (List.mem_map.mpr ⟨pin, hpin, heq.symm⟩)
    · intro pending hpendingMem pin hpin hsame
      obtain ⟨first, rest, hpins, hok, hmem⟩ := hchecked pin hpin
      have hfind : (state.pendingActivations.find? fun item =>
          decide (item.pin.watchDeviceId = pin.watchDeviceId)) = some pending := by
        cases hfound : state.pendingActivations.find? fun item =>
            decide (item.pin.watchDeviceId = pin.watchDeviceId) with
        | none => exact absurd (decide_eq_true hsame) (List.find?_eq_none.mp hfound pending hpendingMem)
        | some item =>
          have hitem := List.find?_some hfound
          rw [decide_eq_true_eq] at hitem
          rw [List.inj_on_of_nodup_map hwatches (List.mem_of_find?_eq_some hfound) hpendingMem
            (hitem.trans hsame.symm)]
      exact ((validateWatch_eq_ok_iff hpins).mp hok).2.2 pending hfind pin (hmem pin hpin rfl)
  · intro h
    have hrep := h.representation
    refine ⟨⟨⟨h.pins, hrep.tuples⟩, fun _ _ => List.not_mem_nil⟩,
      ⟨h.pending, hrep.pendingTuples, hrep.pendingWatches, ?_⟩, ?_⟩
    · intro pending hpending
      refine ⟨fun hseen => ?_, List.not_mem_nil⟩
      obtain ⟨pin, hpin, heq⟩ := List.mem_map.mp hseen
      exact hrep.pendingFresh pending hpending pin hpin heq.symm
    · intro watchDeviceId _
      cases hpins : state.pins.filter fun pin => decide (pin.watchDeviceId = watchDeviceId) with
      | nil =>
        unfold validateWatch
        rw [hpins]
      | cons first rest =>
        have hof : ∀ pin ∈ first :: rest, pin ∈ state.pins ∧ pin.watchDeviceId = watchDeviceId := by
          intro pin hpin
          rw [← hpins] at hpin
          obtain ⟨hmem, heq⟩ := List.mem_filter.mp hpin
          exact ⟨hmem, of_decide_eq_true heq⟩
        have hnodup : ((first :: rest).filter fun pin => decide (pin.status = .active)).Nodup := by
          rw [← hpins]
          exact ((List.Nodup.of_map _ hrep.tuples).filter _).filter _
        refine (validateWatch_eq_ok_iff hpins).mpr ⟨?_, ?_, ?_⟩
        · rw [length_le_one_iff_of_nodup hnodup]
          intro pin hpin other hother
          obtain ⟨hpin, hactive⟩ := List.mem_filter.mp hpin
          obtain ⟨hother, hactive'⟩ := List.mem_filter.mp hother
          exact hrep.oneActive pin (hof pin hpin).1 other (hof other hother).1
            (of_decide_eq_true hactive) (of_decide_eq_true hactive')
            ((hof pin hpin).2.trans (hof other hother).2.symm)
        · intro pin hpin hactive other hother
          exact hrep.activeNewest pin (hof pin hpin).1 other (hof other hother).1 hactive
            ((hof other hother).2.trans (hof pin hpin).2.symm)
        · intro pending hfind other hother
          have hwatch := List.find?_some hfind
          rw [decide_eq_true_eq] at hwatch
          exact hrep.pendingNewer pending (List.mem_of_find?_eq_some hfind) other
            (hof other hother).1 (hwatch.trans (hof other hother).2.symm)

/-! ### What keeps a state accepted -/

/-- A pin stays, or it is revoked. -/
def RevokesOnly (f : ActiveLinkPinV2 → ActiveLinkPinV2) : Prop :=
  ∀ pin, f pin = pin ∨ f pin = revokedPin pin ∨ f pin = { pin with status := .revoked }

/-- Revoking pins leaves their tuples and Watches, and makes none active. -/
theorem RevokesOnly.cases {f : ActiveLinkPinV2 → ActiveLinkPinV2} (hf : RevokesOnly f)
    (pin : ActiveLinkPinV2) :
    pinKey (f pin) = pinKey pin ∧ pinTuple (f pin) = pinTuple pin ∧
      (f pin).watchDeviceId = pin.watchDeviceId ∧ ((f pin).status = .active → f pin = pin) := by
  rcases hf pin with h | h | h
  · rw [h]
    exact ⟨rfl, rfl, rfl, fun _ => rfl⟩
  · rw [h]
    exact ⟨rfl, rfl, rfl, fun hactive => absurd hactive (by simp [revokedPin])⟩
  · rw [h]
    exact ⟨rfl, rfl, rfl, fun hactive => absurd hactive (by simp)⟩

/-- Revoking pins keeps a state accepted. -/
theorem AcceptedState.mapPins (h : AcceptedState crypto hostId identities state)
    {f : ActiveLinkPinV2 → ActiveLinkPinV2} (hf : RevokesOnly f) :
    AcceptedState crypto hostId identities ⟨state.pins.map f, state.pendingActivations⟩ := by
  have hrep := h.representation
  have hsound : SoundPins crypto hostId identities state.pins := ⟨h.pins, hrep.tuples⟩
  have hmapped := hsound.revoke hf
  refine ⟨hmapped.valid, h.pending, hmapped.tuples, ?_, ?_, hrep.pendingTuples, ?_,
    hrep.pendingWatches, ?_⟩
  · intro pin hpin other hother hactive hactive' hsame
    obtain ⟨old, hold, rfl⟩ := List.mem_map.mp hpin
    obtain ⟨old', hold', rfl⟩ := List.mem_map.mp hother
    have heq := (hf.cases old).2.2.2 hactive
    have heq' := (hf.cases old').2.2.2 hactive'
    rw [heq, heq'] at hsame ⊢
    rw [heq] at hactive
    rw [heq'] at hactive'
    exact hrep.oneActive old hold old' hold' hactive hactive' hsame
  · intro pin hpin other hother hactive hsame
    obtain ⟨old, hold, rfl⟩ := List.mem_map.mp hpin
    obtain ⟨old', hold', rfl⟩ := List.mem_map.mp hother
    have heq := (hf.cases old).2.2.2 hactive
    obtain ⟨-, htuple, hwatch, -⟩ := hf.cases old'
    rw [heq] at hactive hsame ⊢
    rw [hwatch] at hsame
    rw [htuple]
    exact hrep.activeNewest old hold old' hold' hactive hsame
  · intro pending hpending pin hpin
    obtain ⟨old, hold, rfl⟩ := List.mem_map.mp hpin
    rw [(hf.cases old).1]
    exact hrep.pendingFresh pending hpending old hold
  · intro pending hpending pin hpin hsame
    obtain ⟨old, hold, rfl⟩ := List.mem_map.mp hpin
    obtain ⟨-, htuple, hwatch, -⟩ := hf.cases old
    rw [hwatch] at hsame
    rw [htuple]
    exact hrep.pendingNewer pending hpending old hold hsame

/-- Dropping pins keeps a state accepted. -/
theorem AcceptedState.filterPins (h : AcceptedState crypto hostId identities state)
    (p : ActiveLinkPinV2 → Bool) :
    AcceptedState crypto hostId identities ⟨state.pins.filter p, state.pendingActivations⟩ := by
  have hrep := h.representation
  have hof : ∀ pin ∈ state.pins.filter p, pin ∈ state.pins := fun _ => List.mem_of_mem_filter
  exact ⟨fun pin hpin => h.pins pin (hof pin hpin), h.pending,
    hrep.tuples.sublist (List.filter_sublist.map pinKey),
    fun pin hpin other hother => hrep.oneActive pin (hof pin hpin) other (hof other hother),
    fun pin hpin other hother => hrep.activeNewest pin (hof pin hpin) other (hof other hother),
    hrep.pendingTuples,
    fun pending hpending pin hpin => hrep.pendingFresh pending hpending pin (hof pin hpin),
    hrep.pendingWatches,
    fun pending hpending pin hpin => hrep.pendingNewer pending hpending pin (hof pin hpin)⟩

/-- The Host key of a record is still at hand under other identities. -/
def KeepsKey (identities identities' : HostIdentities) (pin : ActiveLinkPinV2) : Prop :=
  ∀ identity, identities.get? pin.hostBinding.encryptionKeyId = some identity →
    identities'.get? pin.hostBinding.encryptionKeyId = some identity

theorem ValidPin.keepsKey {identities' : HostIdentities} {pin : ActiveLinkPinV2}
    (h : ValidPin crypto hostId identities pin) (hkeep : KeepsKey identities identities' pin) :
    ValidPin crypto hostId identities' pin := by
  obtain ⟨identity, hidentity, hmatches⟩ := h.identity
  refine ⟨h.record, h.boundary, h.binding, ?_⟩
  rw [isPinKeyAvailable, hkeep identity hidentity]
  exact hmatches

/-- With the keys of its records at hand a state is still accepted. -/
theorem AcceptedState.keepsKeys {identities' : HostIdentities}
    (h : AcceptedState crypto hostId identities state)
    (hpins : ∀ pin ∈ state.pins, KeepsKey identities identities' pin)
    (hpending : ∀ pending ∈ state.pendingActivations, KeepsKey identities identities' pending.pin) :
    AcceptedState crypto hostId identities' state := by
  refine ⟨fun pin hpin => (h.pins pin hpin).keepsKey (hpins pin hpin), ?_, h.representation⟩
  intro pending hmem
  have hvalid := h.pending pending hmem
  rw [assertValidPending, check_bind_eq_ok, check_bind_eq_ok, assertValidPin_eq_ok_iff] at hvalid ⊢
  exact ⟨hvalid.1, hvalid.2.1.keepsKey (hpending pending hmem), hvalid.2.2⟩

end

/-! ### The keyring of a process -/

open LocalLinkKeyring

/-- The object and the file hold accepted states. -/
structure AcceptedKeyring (crypto : NodeCrypto) (w : KeyringWorld) : Prop where
  object : w.Accepts crypto w.keyring.state
  file : ∀ state, w.file = some state → w.Accepts crypto state

section
variable {crypto : NodeCrypto} {w : KeyringWorld}

/-- The empty state is accepted. -/
theorem accepts_empty (w : KeyringWorld) : w.Accepts crypto ⟨[], []⟩ := rfl

/-- What is loaded is accepted. -/
theorem KeyringWorld.Loads.accepts {state : PersistedKeyringV2} (h : w.Loads crypto state) :
    w.Accepts crypto state := by
  rcases h with ⟨-, rfl⟩ | ⟨-, hvalid⟩
  · exact accepts_empty w
  · exact hvalid

/-- An accepted keyring has a file that loads. -/
theorem AcceptedKeyring.loads (h : AcceptedKeyring crypto w) : ∃ state, w.Loads crypto state := by
  cases hfile : w.file with
  | none => exact ⟨_, Or.inl ⟨hfile, rfl⟩⟩
  | some state => exact ⟨state, Or.inr ⟨hfile, h.file state hfile⟩⟩

/-- Taking over an accepted state. -/
theorem AcceptedKeyring.withObject (h : AcceptedKeyring crypto w) {state : PersistedKeyringV2}
    (hstate : w.Accepts crypto state) (persisted : PersistedKeyringV2) :
    AcceptedKeyring crypto (w.withObject state persisted) :=
  ⟨hstate, h.file⟩

/-- Writing an accepted state. -/
theorem AcceptedKeyring.written {state : PersistedKeyringV2} (hstate : w.Accepts crypto state) :
    AcceptedKeyring crypto (w.written state) := by
  refine ⟨hstate, fun other hother => ?_⟩
  rw [← Option.some.inj hother]
  exact hstate

/-- Revoking pins of an accepted state. -/
theorem accepts_mapPins {state : PersistedKeyringV2} (hstate : w.Accepts crypto state)
    {f : ActiveLinkPinV2 → ActiveLinkPinV2} (hf : RevokesOnly f) :
    w.Accepts crypto ⟨state.pins.map f, state.pendingActivations⟩ :=
  validateState_eq_ok_iff.mpr ((validateState_eq_ok_iff.mp hstate).mapPins hf)

/-- A prune keeps the pins it retains acceptable: their keys are referenced. -/
theorem accepts_prunedPins {references : PinRetentionReferences} {now : CanonicalTimestamp}
    (hstate : w.Accepts crypto w.keyring.state) :
    validateState crypto w.keyring.currentHostId
      (prunedIdentities w.currentKeyId (prunedPins references now w.keyring))
      (prunedPins references now w.keyring).state = .ok () := by
  have haccepted := (validateState_eq_ok_iff.mp hstate).filterPins (isPinRetained references now)
  have hreferenced : ∀ keyId ∈ (prunedPins references now w.keyring).referencedHostEncryptionKeyIds,
      ∀ identity, w.keyring.identities.get? keyId = some identity →
        (prunedIdentities w.currentKeyId (prunedPins references now w.keyring)).get? keyId
          = some identity := by
    intro keyId hmem identity hget
    rw [prunedIdentities, Dict.get?_filter]
    show (w.keyring.identities.get? keyId).filter _ = _
    rw [hget, Option.filter_some, List.contains_iff_mem.mpr hmem, Bool.or_true]
    rfl
  refine validateState_eq_ok_iff.mpr (haccepted.keepsKeys ?_ ?_)
  · intro pin hpin
    exact hreferenced _ (List.mem_append_left _ (List.mem_map.mpr ⟨pin, hpin, rfl⟩))
  · intro pending hpending
    exact hreferenced _ (List.mem_append_right _ (List.mem_map.mpr ⟨pending, hpending, rfl⟩))

/-- The functions that revoke pins. -/
theorem revokesOnly_watchRevoked (watchDeviceId : String) :
    RevokesOnly (watchRevoked watchDeviceId) := by
  intro pin
  rcases watchRevoked_cases watchDeviceId pin with h | ⟨h, -⟩
  · exact Or.inl h
  · exact Or.inr (Or.inl h)

theorem revokesOnly_keyRevoked (keyId : String) : RevokesOnly (keyRevoked keyId) := by
  intro pin
  rcases keyRevoked_cases keyId pin with h | ⟨h, -⟩
  · exact Or.inl h
  · exact Or.inr (Or.inr h)

theorem revokesOnly_reconciledPin (snapshot : E2ERecipientSnapshotV1) :
    RevokesOnly (reconciledPin snapshot) := by
  intro pin
  rcases reconciledPin_cases snapshot pin with h | h
  · exact Or.inl h
  · exact Or.inr (Or.inl h)

/-- The methods, less the rotation of the Host key. -/
def IsKeyringMethod : KeyringAction → Prop
  | .rotate _ => False
  | _ => True

/-- The action is a method of the keyring and returns. -/
def Succeeds (crypto : NodeCrypto) (w : KeyringWorld) (a : KeyringAction) : Prop :=
  IsKeyringMethod a ∧ (perform crypto a).outcome w = .ok ()

/-- A method that revokes in the copy keeps the keyring accepted. -/
theorem AcceptedKeyring.mapPins (h : AcceptedKeyring crypto w)
    {f : ActiveLinkPinV2 → ActiveLinkPinV2} (hf : RevokesOnly f) :
    AcceptedKeyring crypto ((LocalLinkKeyring.mapPins f).final w) := by
  unfold Effect.final
  rw [mapPins_run]
  show AcceptedKeyring crypto (if _ then _ else _)
  split
  · exact h
  · exact AcceptedKeyring.written (accepts_mapPins h.object hf)

/-- A method that returns keeps the keyring accepted. -/
theorem AcceptedKeyring.step (h : AcceptedKeyring crypto w) {a : KeyringAction}
    (hsucceeds : Succeeds crypto w a) : AcceptedKeyring crypto ((perform crypto a).final w) := by
  obtain ⟨hmethod, hok⟩ := hsucceeds
  cases a with
  | update update =>
    unfold Effect.outcome at hok
    unfold Effect.final
    change ((performUpdate crypto update).run w).1 = _ at hok
    show AcceptedKeyring crypto ((performUpdate crypto update).run w).2
    rcases @performUpdate_cases crypto update w with ⟨e, hrun⟩ | ⟨-, hresult⟩
    · rw [hrun] at hok
      exact absurd hok (by simp)
    · generalize (performUpdate crypto update).run w = result at hok hresult
      cases hresult with
      | unreadable e => exact absurd hok (by simp)
      | rejected latest e hload => exact absurd hok (by simp)
      | invalid latest next e hload hnext => exact absurd hok (by simp)
      | unchanged latest hload hnext hvalid => exact h.withObject hvalid latest
      | written latest next hload hnext hvalid => exact AcceptedKeyring.written hvalid
  | foreign update =>
    -- The other process loads, checks and writes; this object keeps its state.
    refine ⟨h.object, fun state hstate => ?_⟩
    change ((performUpdate crypto update).run w).2.file = some state at hstate
    rcases @performUpdate_cases crypto update w with ⟨e, hrun⟩ | ⟨-, hresult⟩
    · rw [hrun] at hstate
      exact h.file state hstate
    · generalize (performUpdate crypto update).run w = result at hstate hresult
      cases hresult with
      | unreadable e => exact h.file state hstate
      | rejected latest e hload => exact h.file state hstate
      | invalid latest next e hload hnext => exact h.file state hstate
      | unchanged latest hload hnext hvalid => exact h.file state hstate
      | written latest next hload hnext hvalid =>
        rw [← Option.some.inj hstate]
        exact hvalid
  | revokeWatch watchDeviceId => exact h.mapPins (revokesOnly_watchRevoked watchDeviceId)
  | revokeCompromisedEncryptionKey keyId => exact h.mapPins (revokesOnly_keyRevoked keyId)
  | reconcileRecipients snapshot =>
    show AcceptedKeyring crypto ((reconcileRecipients crypto snapshot).run w).2
    have hresult := @reconcileRecipients_cases crypto snapshot w
    generalize (reconcileRecipients crypto snapshot).run w = result at hresult
    cases hresult with
    | kept r => exact h
    | refreshed latest r hload => exact h.withObject hload.accepts latest
    | writtenCopy r hload =>
      exact AcceptedKeyring.written
        (accepts_mapPins h.object (revokesOnly_reconciledPin snapshot))
    | writtenLatest latest r hload hknown =>
      exact AcceptedKeyring.written
        (accepts_mapPins hload.accepts (revokesOnly_reconciledPin snapshot))
  | pruneRetiring references now =>
    show AcceptedKeyring crypto ((pruneRetiring references now).final w)
    rcases pruneRetiring_cases references now w with hsame | hpruned
    · rw [hsame]
      exact h
    · rw [hpruned]
      have haccepted := @accepts_prunedPins crypto w references now h.object
      refine ⟨haccepted, fun state hstate => ?_⟩
      rw [← Option.some.inj hstate]
      exact haccepted
  | reopen =>
    show AcceptedKeyring crypto ((refreshPersisted crypto).run w).2
    rcases @refreshPersisted_cases crypto w with ⟨latest, hload, hrun⟩ | ⟨e, hrun⟩
    · rw [hrun]
      exact h.withObject hload.accepts latest
    · rw [hrun]
      exact h
  | rotate identity => exact absurd hmethod (by simp [IsKeyringMethod])

end

end Ariava.E2e
