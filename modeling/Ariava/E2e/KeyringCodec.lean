import Ariava.E2e.LinkKeyring

/-!
# `Ariava.E2e.KeyringCodec`: which keyring states are accepted

`validateState` of `link-keyring.ts` with `assertValidPin` and `assertValidPending`. They run
when a keyring is loaded and before an update is written. All of them throw on the first failed
check.

`ValidPin` is the readable form of `assertValidPin`, and `assertValidPin_eq_ok_iff` connects the
two. `SoundPins` is what `validateState` ensures about the pins one by one: each is valid, and no
two have the same tuple.
-/

set_option autoImplicit false

namespace Ariava.E2e

open Ariava.Lib
open Ariava.Protocol

/-- `PersistedKeyringV2`. -/
structure PersistedKeyringV2 where
  pins : List ActiveLinkPinV2
  pendingActivations : List PendingActivationV2
deriving DecidableEq

/-- The identities that the resolver finds, by key id. -/
abbrev HostIdentities : Type := Dict String HostEncryptionIdentity

/-- `buildLinkTranscriptBytes` of a pin. -/
def linkTranscriptFields (pin : ActiveLinkPinV2) : List BindingField :=
  [.text "ariava-e2e-link-transcript-v1", .text pin.linkId, .text pin.hostId,
    .text pin.watchDeviceId, .number pin.linkGeneration, .number pin.epoch,
    .text pin.hostBindingDigest, .text pin.watchBindingDigest, .text e2eSuiteV1]

/-- `transcriptDigestSync`. -/
def transcriptDigest (hash : ContentHash) (pin : ActiveLinkPinV2) : String :=
  hash.digest (linkTranscriptFields pin)

/-! ### One pin -/

/-- The first check of `assertValidPin`. -/
def isPinRecord (hostId : String) (pin : ActiveLinkPinV2) : Bool :=
  decide (pin.hostId = hostId) && isPositiveSafeInteger pin.linkGeneration
    && isPositiveSafeInteger pin.epoch && isCanonicalDigest pin.transcriptDigest
    && isCanonicalDigest pin.hostBindingDigest && isCanonicalDigest pin.watchBindingDigest
    && isCanonicalDigest pin.peerProofDigest && validateEncryptionKeyBindingV1 pin.hostBinding
    && validateEncryptionKeyBindingV1 pin.watchBinding

/-- The check of the retirement boundary: an active pin has none, a retiring pin has one that is
not before its activation, a revoked pin may have one. -/
def isRetirementBoundary (pin : ActiveLinkPinV2) : Bool :=
  match pin.status, pin.retiringAt with
  | .active, retiringAt => retiringAt.isNone
  | .retiring, none => false
  | .retiring, some retiringAt => decide (pin.activatedAt ≤ retiringAt)
  | .revoked, none => true
  | .revoked, some retiringAt => decide (pin.activatedAt ≤ retiringAt)

/-- The check of the bindings: they belong to the Host and to the Watch, their keys differ, and
the digests are theirs. -/
def isPinBinding (crypto : NodeCrypto) (hostId : String) (pin : ActiveLinkPinV2) : Bool :=
  decide (pin.hostBinding.entityType = .host) && decide (pin.hostBinding.entityId = hostId)
    && decide (pin.watchBinding.entityType = .watch)
    && decide (pin.watchBinding.entityId = pin.watchDeviceId)
    && decide (crypto.deriveHostEncryptionKeyId pin.watchBinding.publicKey
      = pin.watchBinding.encryptionKeyId)
    && decide (pin.hostBinding.encryptionKeyId ≠ pin.watchBinding.encryptionKeyId)
    && decide (pin.hostBindingDigest = bindingDigest crypto.hash pin.hostBinding)
    && decide (pin.watchBindingDigest = bindingDigest crypto.hash pin.watchBinding)
    && decide (pin.transcriptDigest = transcriptDigest crypto.hash pin)

/-- The last check: the identity of the Host key is at hand. -/
def isPinKeyAvailable (crypto : NodeCrypto) (identities : HostIdentities)
    (pin : ActiveLinkPinV2) : Bool :=
  (identities.get? pin.hostBinding.encryptionKeyId).any
    fun identity => bindingMatchesIdentity crypto pin.hostBinding identity

/-- `assertValidPin`. -/
def assertValidPin (crypto : NodeCrypto) (hostId : String) (identities : HostIdentities)
    (pin : ActiveLinkPinV2) : Except Thrown Unit := do
  throwIf (!isPinRecord hostId pin) (.typeError "local E2E pin is invalid")
  throwIf (!isRetirementBoundary pin)
    (.typeError "local E2E pin retirement boundary is invalid")
  throwIf (!isPinBinding crypto hostId pin) (.typeError "local E2E pin binding is invalid")
  throwIf (!isPinKeyAvailable crypto identities pin)
    (.typeError "local E2E pin Host key is unavailable")

/-- The pin passes every check of `assertValidPin`. -/
structure ValidPin (crypto : NodeCrypto) (hostId : String) (identities : HostIdentities)
    (pin : ActiveLinkPinV2) : Prop where
  record : isPinRecord hostId pin = true
  boundary : isRetirementBoundary pin = true
  binding : isPinBinding crypto hostId pin = true
  key : isPinKeyAvailable crypto identities pin = true

section
variable {crypto : NodeCrypto} {hostId : String} {identities : HostIdentities}
  {pin : ActiveLinkPinV2}

/-- `assertValidPin` accepts exactly the valid pins. -/
theorem assertValidPin_eq_ok_iff :
    assertValidPin crypto hostId identities pin = .ok () ↔
      ValidPin crypto hostId identities pin := by
  rw [assertValidPin, check_bind_eq_ok, check_bind_eq_ok, check_bind_eq_ok]
  simp only [throwIf_eq_ok, Bool.not_eq_false']
  constructor
  · rintro ⟨h₁, h₂, h₃, h₄⟩
    exact ⟨h₁, h₂, h₃, h₄⟩
  · rintro ⟨h₁, h₂, h₃, h₄⟩
    exact ⟨h₁, h₂, h₃, h₄⟩

/-- The identity of the Host key of a valid pin. -/
theorem ValidPin.identity (h : ValidPin crypto hostId identities pin) :
    ∃ identity, identities.get? pin.hostBinding.encryptionKeyId = some identity ∧
      bindingMatchesIdentity crypto pin.hostBinding identity = true := by
  have hkey := h.key
  unfold isPinKeyAvailable at hkey
  cases hidentity : identities.get? pin.hostBinding.encryptionKeyId with
  | none =>
    rw [hidentity] at hkey
    exact absurd hkey (by simp)
  | some identity =>
    rw [hidentity] at hkey
    exact ⟨identity, rfl, hkey⟩

/-- A valid pin is still valid with another status and boundary, if these go together. -/
theorem ValidPin.withStatus (h : ValidPin crypto hostId identities pin) {status : LocalPinStatus}
    {retiringAt : Option CanonicalTimestamp}
    (hboundary : isRetirementBoundary { pin with status, retiringAt } = true) :
    ValidPin crypto hostId identities { pin with status, retiringAt } :=
  ⟨h.record, hboundary, h.binding, h.key⟩

/-- Without its boundary a revoked pin is valid. -/
theorem ValidPin.revoked (h : ValidPin crypto hostId identities pin) :
    ValidPin crypto hostId identities { pin with status := .revoked, retiringAt := none } :=
  h.withStatus rfl

/-- With its boundary a revoked pin is valid. -/
theorem ValidPin.revokedAt (h : ValidPin crypto hostId identities pin) :
    ValidPin crypto hostId identities { pin with status := .revoked } := by
  have hboundary := h.boundary
  have hrevoked : isRetirementBoundary
      { pin with status := .revoked, retiringAt := pin.retiringAt } = true := by
    unfold isRetirementBoundary at hboundary ⊢
    split at hboundary <;> simp_all
  exact h.withStatus hrevoked

end

/-! ### The whole state -/

/-- `assertValidPending`. -/
def assertValidPending (crypto : NodeCrypto) (hostId : String) (identities : HostIdentities)
    (pending : PendingActivationV2) : Except Thrown Unit := do
  throwIf (!isCanonicalDigest pending.peerProofDigest) (.typeError "pending activation is invalid")
  assertValidPin crypto hostId identities pending.pin
  throwIf (decide (pending.pin.status ≠ .active ∨ pending.pin.retiringAt.isSome = true
      ∨ pending.linkId ≠ pending.pin.linkId ∨ pending.linkGeneration ≠ pending.pin.linkGeneration
      ∨ pending.epoch ≠ pending.pin.epoch ∨ pending.peerProofDigest ≠ pending.pin.peerProofDigest
      ∨ pending.activatedAt ≠ pending.pin.activatedAt))
    (.typeError "pending activation tuple mismatch")

/-- `comparePinTuple`. -/
def comparePinTuple (left right : Nat × Nat) : Int :=
  if left.1 = right.1 then (left.2 : Int) - right.2 else (left.1 : Int) - right.1

/-- The generation and the epoch of a pin. -/
def pinTuple (pin : ActiveLinkPinV2) : Nat × Nat := (pin.linkGeneration, pin.epoch)

/-- `latestPin`. -/
def latestPin (left right : ActiveLinkPinV2) : ActiveLinkPinV2 :=
  if 0 ≤ comparePinTuple (pinTuple left) (pinTuple right) then left else right

/-- The loop over the pins, with the tuples seen so far. -/
def validatePins (crypto : NodeCrypto) (hostId : String) (identities : HostIdentities)
    (tuples : List PinKey) : List ActiveLinkPinV2 → Except Thrown Unit
  | [] => .ok ()
  | pin :: rest => do
      assertValidPin crypto hostId identities pin
      throwIf (decide (pinKey pin ∈ tuples)) (.typeError "duplicate local E2E pin tuple")
      validatePins crypto hostId identities (pinKey pin :: tuples) rest

/-- The loop over the pending activations, with the tuples and the Watches seen so far. -/
def validatePending (crypto : NodeCrypto) (hostId : String) (identities : HostIdentities)
    (tuples : List PinKey) (watches : List String) : List PendingActivationV2 → Except Thrown Unit
  | [] => .ok ()
  | pending :: rest => do
      assertValidPending crypto hostId identities pending
      throwIf (decide (pinKey pending.pin ∈ tuples ∨ pending.pin.watchDeviceId ∈ watches))
        (.typeError "duplicate pending local E2E activation")
      validatePending crypto hostId identities (pinKey pending.pin :: tuples)
        (pending.pin.watchDeviceId :: watches) rest

/-- The checks of the pins of one Watch: one is active at most, the active one is the latest,
and a pending one comes after all of them. -/
def validateWatch (state : PersistedKeyringV2) (watchDeviceId : String) : Except Thrown Unit :=
  match state.pins.filter fun pin => decide (pin.watchDeviceId = watchDeviceId) with
  | [] => .ok ()
  | first :: rest => do
      let active := (first :: rest).filter fun pin => decide (pin.status = .active)
      let maximalTuple := rest.foldl latestPin first
      throwIf (decide (1 < active.length))
        (.typeError "multiple active local E2E pins for Watch")
      throwIf (active.any fun pin =>
          decide (comparePinTuple (pinTuple pin) (pinTuple maximalTuple) ≠ 0))
        (.typeError "local E2E pin rollback detected")
      throwIf ((state.pendingActivations.find? fun pending =>
          decide (pending.pin.watchDeviceId = watchDeviceId)).any fun pending =>
          decide (comparePinTuple (pinTuple pending.pin) (pinTuple maximalTuple) ≤ 0))
        (.typeError "pending local E2E activation rollback detected")

/-- `validateState`. -/
def validateState (crypto : NodeCrypto) (hostId : String) (identities : HostIdentities)
    (state : PersistedKeyringV2) : Except Thrown Unit := do
  validatePins crypto hostId identities [] state.pins
  validatePending crypto hostId identities (state.pins.map pinKey) [] state.pendingActivations
  checkAll (state.pins.map fun pin => pin.watchDeviceId).eraseDups (validateWatch state)

/-- Each pin is valid, and no two pins have the same tuple. -/
structure SoundPins (crypto : NodeCrypto) (hostId : String) (identities : HostIdentities)
    (pins : List ActiveLinkPinV2) : Prop where
  valid : ∀ pin ∈ pins, ValidPin crypto hostId identities pin
  tuples : (pins.map pinKey).Nodup

section
variable {crypto : NodeCrypto} {hostId : String} {identities : HostIdentities}
  {pins : List ActiveLinkPinV2} {state : PersistedKeyringV2}

/-- The loop over the pins ensures that the rest is sound and that its tuples are new. -/
theorem soundPins_of_validatePins {tuples : List PinKey}
    (h : validatePins crypto hostId identities tuples pins = .ok ()) :
    SoundPins crypto hostId identities pins ∧ ∀ pin ∈ pins, pinKey pin ∉ tuples := by
  induction pins generalizing tuples with
  | nil => exact ⟨⟨fun _ hpin => absurd hpin List.not_mem_nil, List.nodup_nil⟩,
      fun _ hpin => absurd hpin List.not_mem_nil⟩
  | cons pin rest ih =>
    rw [validatePins, check_bind_eq_ok, check_bind_eq_ok, throwIf_eq_ok,
      decide_eq_false_iff_not, assertValidPin_eq_ok_iff] at h
    obtain ⟨hvalid, hnew, hrest⟩ := h
    obtain ⟨hsound, hfresh⟩ := ih hrest
    refine ⟨⟨List.forall_mem_cons.mpr ⟨hvalid, hsound.valid⟩, ?_⟩,
      List.forall_mem_cons.mpr ⟨hnew, fun other hother hseen => ?_⟩⟩
    · rw [List.map_cons, List.nodup_cons]
      refine ⟨fun hmem => ?_, hsound.tuples⟩
      obtain ⟨other, hother, heq⟩ := List.mem_map.mp hmem
      exact hfresh other hother (heq ▸ List.mem_cons_self)
    · exact hfresh other hother (List.mem_cons_of_mem _ hseen)

/-- The pins of an accepted state are sound. -/
theorem soundPins_of_validateState (h : validateState crypto hostId identities state = .ok ()) :
    SoundPins crypto hostId identities state.pins := by
  rw [validateState, check_bind_eq_ok] at h
  exact (soundPins_of_validatePins h.1).1

/-- Changing pins one by one, with their tuples kept, keeps them sound. -/
theorem SoundPins.map (h : SoundPins crypto hostId identities pins)
    {f : ActiveLinkPinV2 → ActiveLinkPinV2}
    (hvalid : ∀ pin ∈ pins, ValidPin crypto hostId identities (f pin))
    (hkey : ∀ pin, pinKey (f pin) = pinKey pin) :
    SoundPins crypto hostId identities (pins.map f) := by
  refine ⟨fun pin hpin => ?_, ?_⟩
  · obtain ⟨old, hold, rfl⟩ := List.mem_map.mp hpin
    exact hvalid old hold
  · have hkeys : pinKey ∘ f = pinKey := funext hkey
    rw [List.map_map, hkeys]
    exact h.tuples

/-- Fewer pins are sound. -/
theorem SoundPins.filter (h : SoundPins crypto hostId identities pins)
    (p : ActiveLinkPinV2 → Bool) : SoundPins crypto hostId identities (pins.filter p) :=
  ⟨fun pin hpin => h.valid pin (List.mem_of_mem_filter hpin),
    h.tuples.sublist (List.filter_sublist.map pinKey)⟩

/-- A valid pin with a new tuple may be added. -/
theorem SoundPins.append (h : SoundPins crypto hostId identities pins) {pin : ActiveLinkPinV2}
    (hvalid : ValidPin crypto hostId identities pin) (hnew : ∀ other ∈ pins, pinKey other ≠ pinKey pin) :
    SoundPins crypto hostId identities (pins ++ [pin]) := by
  refine ⟨fun other hother => ?_, ?_⟩
  · rcases List.mem_append.mp hother with hold | hpin
    · exact h.valid other hold
    · rw [List.mem_singleton.mp hpin]
      exact hvalid
  · rw [List.map_append, List.map_cons, List.map_nil, List.nodup_append]
    refine ⟨h.tuples, List.nodup_singleton _, fun k hk k' hk' heq => ?_⟩
    obtain ⟨other, hother, rfl⟩ := List.mem_map.mp hk
    rw [List.mem_singleton.mp hk'] at heq
    exact hnew other hother heq

/-- With the same keys at hand the pins stay sound. -/
theorem SoundPins.identities_mono {identities' : HostIdentities}
    (h : SoundPins crypto hostId identities pins)
    (hkeep : ∀ pin ∈ pins, ∀ identity,
      identities.get? pin.hostBinding.encryptionKeyId = some identity →
        identities'.get? pin.hostBinding.encryptionKeyId = some identity) :
    SoundPins crypto hostId identities' pins := by
  refine ⟨fun pin hpin => ?_, h.tuples⟩
  have hvalid := h.valid pin hpin
  refine ⟨hvalid.record, hvalid.boundary, hvalid.binding, ?_⟩
  obtain ⟨identity, hidentity, hmatches⟩ := hvalid.identity
  rw [isPinKeyAvailable, hkeep pin hpin identity hidentity]
  exact hmatches

/-- A tuple has one pin. -/
theorem SoundPins.eq_of_key (h : SoundPins crypto hostId identities pins)
    {pin pin' : ActiveLinkPinV2} (hpin : pin ∈ pins) (hpin' : pin' ∈ pins)
    (hkey : pinKey pin = pinKey pin') : pin = pin' :=
  List.inj_on_of_nodup_map h.tuples hpin hpin' hkey

end

end Ariava.E2e
