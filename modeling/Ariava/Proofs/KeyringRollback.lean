import Ariava.E2e.KeyringStored
import Ariava.Proofs.ReceiptConstruction

/-!
# `Ariava.Proofs.KeyringRollback`: no tuple comes back

`persistActive` compares a new pin with the pins that are stored for its Watch. `seen` is the
history it does not have: the tuples of every pin that was active in the file at some point.

* `rollback_after_prune`: a Watch is revoked, its pin is pruned, and the same pin is activated
  again. So the tuples that are accepted are not always newer than all that were active.
* `noRollback_of_keepsNewest`: they are, in every run whose prunes keep, for every pin they drop,
  a pin of the same Watch that is at least as new, and whose methods do not write a stale copy.

The invariant is `Covers`: every tuple of the history is at most as new as some stored pin of its
Watch.
-/

set_option autoImplicit false

namespace Ariava.Proofs.KeyringRollback

open Ariava.Lib
open Ariava.Protocol
open Ariava.E2e
open Ariava.E2e.LocalLinkKeyring

/-- A tuple of a Watch. -/
structure WatchTuple where
  watchDeviceId : String
  tuple : Nat × Nat
deriving DecidableEq

/-- The tuples of the active pins of a state. -/
def activeTuples (state : PersistedKeyringV2) : List WatchTuple :=
  (state.pins.filter fun pin => decide (pin.status = .active)).map fun pin =>
    ⟨pin.watchDeviceId, pinTuple pin⟩

/-- The keyring with the tuples that were active in its file. -/
structure KeyringHistory where
  world : KeyringWorld
  seen : List WatchTuple

/-- A step, with the tuples that it leaves active. -/
structure HistoryStep (crypto : NodeCrypto) (s : KeyringHistory) (a : KeyringAction)
    (s' : KeyringHistory) : Prop where
  step : KeyringStep crypto s.world a s'.world
  seen : s'.seen = s.seen ++ activeTuples s'.world.stored

/-- The keyring when it is first looked at. -/
def KeyringHistory.start (w : KeyringWorld) : KeyringHistory := ⟨w, activeTuples w.stored⟩

/-- The pin is newer than every tuple that was active for its Watch, or it is the active pin that
is stored. -/
def NewerThanSeen (s : KeyringHistory) (pin : ActiveLinkPinV2) : Prop :=
  (∀ t ∈ s.seen, t.watchDeviceId = pin.watchDeviceId →
      0 < comparePinTuple (pinTuple pin) t.tuple) ∨
    (pin ∈ s.world.stored.pins ∧ pin.status = .active)

/-- In every state that a run reaches, `persistActive` accepts only pins that are newer than
everything that was active before. -/
def NoRollback (crypto : NodeCrypto)
    (step : KeyringHistory → KeyringAction → KeyringHistory → Prop) : Prop :=
  ∀ w actions s, Run step (KeyringHistory.start w) actions s →
    ∀ pin now, (persistActive crypto pin now).outcome s.world = .ok () → NewerThanSeen s pin

/-! ### The counterexample -/

open Ariava.Proofs.ReceiptConstruction

/-- Nothing refers to a pin. -/
def noReferences : PinRetentionReferences := ⟨∅, ∅, ∅, ∅, ∅, ∅⟩

/-- The Watch is revoked, then its pin is pruned. -/
def forgetting : List KeyringAction :=
  [.revokeWatch linkWatchId, .pruneRetiring noReferences (sampleInstant 60000)]

/-- The world after the Watch was revoked. -/
def revokedWorld : KeyringWorld :=
  (perform linkCrypto (.revokeWatch linkWatchId)).final linkWorld

/-- The world after its pin was pruned. -/
def forgottenWorld : KeyringWorld :=
  (perform linkCrypto (.pruneRetiring noReferences (sampleInstant 60000))).final revokedWorld

set_option maxRecDepth 20000 in
/-- A revoked and pruned pin is activated again. -/
theorem rollback_after_prune : ¬ NoRollback linkCrypto (HistoryStep linkCrypto) := by
  intro h
  have hrun : Run (HistoryStep linkCrypto) (KeyringHistory.start linkWorld) forgetting
      ⟨forgottenWorld, activeTuples linkWorld.stored ++ activeTuples revokedWorld.stored
        ++ activeTuples forgottenWorld.stored⟩ :=
    Run.snoc (t := ⟨revokedWorld, activeTuples linkWorld.stored ++ activeTuples revokedWorld.stored⟩)
      (Run.single ⟨⟨trivial, rfl⟩, rfl⟩) ⟨⟨trivial, rfl⟩, rfl⟩
  have haccepted : (persistActive linkCrypto (linkPin 1) (sampleInstant 60000)).outcome
      forgottenWorld = .ok () := by
    decide +kernel
  have hseen : (⟨linkWatchId, (1, 1)⟩ : WatchTuple) ∈ activeTuples linkWorld.stored := by
    decide +kernel
  have hempty : forgottenWorld.stored.pins = [] := by decide +kernel
  rcases h _ _ _ hrun (linkPin 1) (sampleInstant 60000) haccepted with hnewer | ⟨hstored, -⟩
  · have hpos := hnewer ⟨linkWatchId, (1, 1)⟩
      (List.mem_append_left _ (List.mem_append_left _ hseen)) rfl
    exact absurd hpos (by decide)
  · rw [hempty] at hstored
    exact absurd hstored List.not_mem_nil

/-! ### Runs that keep the newest pins -/

/-- A prune that drops a pin keeps one of its Watch that is at least as new. -/
def KeepsNewest (w : KeyringWorld) : KeyringAction → Prop
  | .pruneRetiring references now => ∀ pin ∈ w.stored.pins, isPinRetained references now pin = false →
      ∃ other ∈ w.stored.pins, isPinRetained references now other = true ∧
        other.watchDeviceId = pin.watchDeviceId ∧
          comparePinTuple (pinTuple pin) (pinTuple other) ≤ 0
  | _ => True

/-- The condition on a step. -/
def Remembers (s : KeyringHistory) (a : KeyringAction) : Prop :=
  CopyCurrent s.world a ∧ KeepsNewest s.world a

/-- Some stored pin of the Watch is at least as new as the tuple. -/
def CoveredBy (state : PersistedKeyringV2) (t : WatchTuple) : Prop :=
  ∃ pin ∈ state.pins, pin.watchDeviceId = t.watchDeviceId ∧
    comparePinTuple t.tuple (pinTuple pin) ≤ 0

/-- Every tuple of the history is covered by the file. -/
def Covers (s : KeyringHistory) : Prop := ∀ t ∈ s.seen, CoveredBy s.world.stored t

section
variable {crypto : NodeCrypto} {state : PersistedKeyringV2} {t : WatchTuple}

/-- The active tuples of a state are covered by it. -/
theorem coveredBy_of_active (h : t ∈ activeTuples state) : CoveredBy state t := by
  obtain ⟨pin, hpin, rfl⟩ := List.mem_map.mp h
  refine ⟨pin, List.mem_of_mem_filter hpin, rfl, ?_⟩
  rw [comparePinTuple_nonpos]
  exact Or.inr ⟨rfl, le_refl _⟩

/-- Changing pins one by one, with their tuples and Watches kept, keeps what is covered. -/
theorem CoveredBy.map (h : CoveredBy state t) {f : ActiveLinkPinV2 → ActiveLinkPinV2}
    (hf : ∀ pin, pinTuple (f pin) = pinTuple pin ∧ (f pin).watchDeviceId = pin.watchDeviceId)
    {next : PersistedKeyringV2} (hnext : ∀ pin ∈ state.pins, f pin ∈ next.pins) :
    CoveredBy next t := by
  obtain ⟨pin, hpin, hwatch, hle⟩ := h
  refine ⟨f pin, hnext pin hpin, (hf pin).2.trans hwatch, ?_⟩
  rw [(hf pin).1]
  exact hle

/-- Revoking pins keeps what is covered. -/
theorem CoveredBy.revoke (h : CoveredBy state t) {f : ActiveLinkPinV2 → ActiveLinkPinV2}
    (hf : RevokesOnly f) {pending : List PendingActivationV2} :
    CoveredBy ⟨state.pins.map f, pending⟩ t :=
  h.map (fun pin => ⟨(hf.cases pin).2.1, (hf.cases pin).2.2.1⟩)
    fun pin hpin => List.mem_map.mpr ⟨pin, hpin, rfl⟩

theorem revokesOnly_generationRevokedPin (watchDeviceId : String) (linkGeneration : Nat) :
    RevokesOnly (generationRevokedPin watchDeviceId linkGeneration) := by
  intro pin
  rcases generationRevokedPin_cases watchDeviceId linkGeneration pin with h | ⟨h, -⟩
  · exact Or.inl h
  · exact Or.inr (Or.inl h)

/-- An update keeps what is covered. -/
theorem CoveredBy.changed (h : CoveredBy state t) {update : KeyringUpdate}
    {next : PersistedKeyringV2} (hnext : LocalLinkKeyring.changed update state = .ok next) :
    CoveredBy next t := by
  cases update with
  | persistActive pin now =>
    obtain ⟨-, -, ⟨-, hpins⟩ | ⟨-, hpins⟩⟩ := activated_cases hnext
    · unfold CoveredBy
      rw [hpins]
      exact h
    · refine h.map (f := retireFor pin now) (fun item => ?_) fun item hitem => ?_
      · rcases retireFor_cases pin now item with hf | ⟨hf, -, -⟩ <;> rw [hf] <;> exact ⟨rfl, rfl⟩
      · rw [hpins]
        exact List.mem_append_left _ (List.mem_map.mpr ⟨item, hitem, rfl⟩)
  | stageActivation pending =>
    unfold CoveredBy
    rw [(staged_cases hnext).1]
    exact h
  | revokeWatchGeneration watchDeviceId linkGeneration =>
    rw [← Except.ok.inj hnext]
    exact h.revoke (revokesOnly_generationRevokedPin watchDeviceId linkGeneration)

/-- A change that keeps the newest pins keeps what is covered. -/
theorem CoveredBy.storedChange {w : KeyringWorld} {a : KeyringAction} {next : PersistedKeyringV2}
    (h : CoveredBy w.stored t) (hchange : StoredChange crypto w next a) (hkeeps : KeepsNewest w a) :
    CoveredBy next t := by
  cases a with
  | update update => exact h.changed hchange.2.2.1
  | foreign update => exact h.changed hchange.2.2.1
  | revokeWatch watchDeviceId =>
    rw [show next = _ from hchange]
    exact h.revoke (revokesOnly_watchRevoked watchDeviceId)
  | revokeCompromisedEncryptionKey keyId =>
    rw [show next = _ from hchange]
    exact h.revoke (revokesOnly_keyRevoked keyId)
  | reconcileRecipients snapshot =>
    rw [hchange.1]
    exact h.revoke (revokesOnly_reconciledPin snapshot)
  | pruneRetiring references now =>
    rw [show next = _ from hchange]
    obtain ⟨pin, hpin, hwatch, hle⟩ := h
    by_cases hretained : isPinRetained references now pin = true
    · exact ⟨pin, List.mem_filter.mpr ⟨hpin, hretained⟩, hwatch, hle⟩
    · rw [Bool.not_eq_true] at hretained
      obtain ⟨other, hother, hkept, hsame, hnewer⟩ := hkeeps pin hpin hretained
      exact ⟨other, List.mem_filter.mpr ⟨hother, hkept⟩, hsame.trans hwatch,
        comparePinTuple_trans hle hnewer⟩
  | reopen => exact absurd hchange id
  | rotate identity => exact absurd hchange id

/-- A step that meets the condition keeps the history covered. -/
theorem Covers.step {s s' : KeyringHistory} {a : KeyringAction} (h : Covers s)
    (hremembers : Remembers s a) (hstep : HistoryStep crypto s a s') : Covers s' := by
  obtain ⟨⟨-, hworld⟩, hseen⟩ := hstep
  have hstored := @perform_stored crypto s.world a hremembers.1
  rw [← hworld] at hstored
  intro t ht
  rw [hseen] at ht
  rcases List.mem_append.mp ht with hold | hnew
  · rcases hstored with hsame | hchange
    · rw [hsame]
      exact h t hold
    · exact (h t hold).storedChange hchange hremembers.2
  · exact coveredBy_of_active hnew

/-- A pin that is not rejected is newer than a stored pin of its Watch, or has its tuple. -/
theorem newer_or_same {pin item : ActiveLinkPinV2} (h : rejectsRollback pin item = false) :
    0 < comparePinTuple (pinTuple pin) (pinTuple item) ∨ pinKey item = pinKey pin := by
  simp only [rejectsRollback, Bool.or_eq_false_iff, decide_eq_false_iff_not] at h
  obtain ⟨⟨⟨hgeneration, hepoch⟩, -⟩, -⟩ := h
  rw [comparePinTuple_pos]
  by_cases hnewer : (pinTuple item).1 < (pinTuple pin).1 ∨
      ((pinTuple pin).1 = (pinTuple item).1 ∧ (pinTuple item).2 < (pinTuple pin).2)
  · exact Or.inl hnewer
  · right
    simp only [pinTuple] at hnewer
    have hgen : item.linkGeneration = pin.linkGeneration := by omega
    have hep : item.epoch = pin.epoch := by omega
    have hlink : item.linkId = pin.linkId := by
      by_contra hne
      exact hepoch ⟨hgen, Or.inr ⟨hep, hne⟩⟩
    rw [pinKey, pinKey, hlink, hgen, hep]

/-- What `persistActive` has found when it returns. -/
theorem persistActive_eq_ok {w : KeyringWorld} {pin : ActiveLinkPinV2} {now : CanonicalTimestamp}
    (h : (persistActive crypto pin now).outcome w = .ok ()) :
    pin.status = .active ∧ ∃ next, activated pin now w.stored = .ok next := by
  rcases @performUpdate_cases crypto (.persistActive pin now) w with ⟨e, hrun⟩ | ⟨hchecked, hresult⟩
  · change (persistActive crypto pin now).run w = _ at hrun
    unfold Effect.outcome at h
    rw [hrun] at h
    exact absurd h (by simp)
  · change UpdateResult crypto _ w ((persistActive crypto pin now).run w) at hresult
    unfold Effect.outcome at h
    refine ⟨hchecked.2, ?_⟩
    generalize (persistActive crypto pin now).run w = result at h hresult
    cases hresult with
    | unreadable e => exact absurd h (by simp)
    | rejected latest e hload => exact absurd h (by simp)
    | invalid latest next e hload hnext => exact absurd h (by simp)
    | unchanged latest hload hnext hvalid =>
      rw [hload.stored]
      exact ⟨_, hnext⟩
    | written latest next hload hnext hvalid =>
      rw [hload.stored]
      exact ⟨_, hnext⟩

/-- While the history is covered, an accepted pin is newer than all of it. -/
theorem Covers.newerThanSeen {s : KeyringHistory} {pin : ActiveLinkPinV2}
    {now : CanonicalTimestamp} (h : Covers s)
    (hok : (persistActive crypto pin now).outcome s.world = .ok ()) : NewerThanSeen s pin := by
  obtain ⟨hactive, next, hnext⟩ := persistActive_eq_ok hok
  obtain ⟨hfresh, -, ⟨hstored, -⟩ | ⟨hnew, -⟩⟩ := activated_cases hnext
  · exact Or.inr ⟨hstored, hactive⟩
  · refine Or.inl fun t ht hwatch => ?_
    obtain ⟨item, hitem, hsame, hle⟩ := h t ht
    rcases newer_or_same (hfresh item hitem (hsame.trans hwatch)) with hnewer | hkey
    · exact comparePinTuple_trans_pos hle hnewer
    · exact absurd hkey (hnew item hitem)

/-- No tuple comes back in a run whose steps keep the newest pins. -/
theorem noRollback_of_keepsNewest (crypto : NodeCrypto) :
    NoRollback crypto (Guarded (HistoryStep crypto) Remembers) := by
  intro w actions s hrun pin now hok
  have hcovers : Covers s := by
    refine hrun.invariant (I := Covers) ?_ fun t ht => coveredBy_of_active ht
    rintro s a s' hs ⟨hremembers, hstep⟩
    exact hs.step hremembers hstep
  exact hcovers.newerThanSeen hok

end

end Ariava.Proofs.KeyringRollback
