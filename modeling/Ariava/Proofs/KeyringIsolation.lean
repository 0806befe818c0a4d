import Ariava.E2e.KeyringStored
import Ariava.Proofs.ReceiptConstruction

/-!
# `Ariava.Proofs.KeyringIsolation`: two processes over one keyring file

The daemon and a command line process each have a `LocalLinkKeyring` over the same file.
`SharedKeyring` has the copy of each of them, and a step is one method of one of them, from its own
copy and the shared file.

`Isolated` says what the methods of one process must leave of what the other has written: the active
pins and the pending activations that the method does not name, and every revocation. `Names` says
which pins a method is about. A reconciliation is about the pins that its process knew when it was
called.

* `lostPin_of_revokeWatch`: the command line activates a pin of a second Watch, and the daemon
  revokes the first Watch from the copy it has had since it started. The pin is gone.
* `isolation_of_copyCurrent`: the processes are isolated in every run in which a copy is written
  only while it is what the file holds.
-/

set_option autoImplicit false

namespace Ariava.Proofs.KeyringIsolation

open Ariava.Lib
open Ariava.Protocol
open Ariava.E2e
open Ariava.E2e.LocalLinkKeyring

/-! ### Two processes -/

/-- The two processes. -/
inductive Side
  | daemon
  | cli
deriving DecidableEq

/-- What a `LocalLinkKeyring` holds: its pins and activations, and the text it last read or
wrote. -/
structure KeyringCopy where
  state : PersistedKeyringV2
  persisted : PersistedKeyringV2

/-- Two keyrings over one file and one identity store. -/
structure SharedKeyring where
  hostId : String
  daemon : KeyringCopy
  cli : KeyringCopy
  file : Option PersistedKeyringV2
  identities : HostIdentities
  currentKeyId : String
  generatedKeyIds : List String

/-- A method of the keyring. -/
inductive KeyringOperation
  | update (update : KeyringUpdate)
  | revokeWatch (watchDeviceId : String)
  | revokeCompromisedEncryptionKey (encryptionKeyId : String)
  | reconcileRecipients (snapshot : E2ERecipientSnapshotV1)
  | pruneRetiring (references : PinRetentionReferences) (now : CanonicalTimestamp)

/-- The action of a method. -/
def KeyringOperation.action : KeyringOperation → KeyringAction
  | update u => .update u
  | revokeWatch watchDeviceId => .revokeWatch watchDeviceId
  | revokeCompromisedEncryptionKey keyId => .revokeCompromisedEncryptionKey keyId
  | reconcileRecipients snapshot => .reconcileRecipients snapshot
  | pruneRetiring references now => .pruneRetiring references now

namespace SharedKeyring

/-- The copy of a process. -/
def copy (s : SharedKeyring) : Side → KeyringCopy
  | .daemon => s.daemon
  | .cli => s.cli

/-- The world of a process. -/
def world (s : SharedKeyring) (side : Side) : KeyringWorld where
  keyring := ⟨s.hostId, (s.copy side).state.pins, (s.copy side).state.pendingActivations, s.identities⟩
  persistedState := (s.copy side).persisted
  file := s.file
  currentKeyId := s.currentKeyId
  generatedKeyIds := s.generatedKeyIds

/-- The copy that a world holds. -/
def copyOf (w : KeyringWorld) : KeyringCopy := ⟨w.keyring.state, w.persistedState⟩

/-- After a method of one process: its copy and what is shared. -/
def withWorld (s : SharedKeyring) (side : Side) (w : KeyringWorld) : SharedKeyring where
  hostId := s.hostId
  daemon := match side with | .daemon => copyOf w | .cli => s.daemon
  cli := match side with | .daemon => s.cli | .cli => copyOf w
  file := w.file
  identities := w.keyring.identities
  currentKeyId := s.currentKeyId
  generatedKeyIds := s.generatedKeyIds

/-- The state of the file. -/
def stored (s : SharedKeyring) : PersistedKeyringV2 := s.file.getD ⟨[], []⟩

end SharedKeyring

/-- One method of one process. -/
def SharedStep (crypto : NodeCrypto) (s : SharedKeyring) (a : Side × KeyringOperation)
    (s' : SharedKeyring) : Prop :=
  s' = s.withWorld a.1 ((perform crypto a.2.action).final (s.world a.1))

/-- Both processes have just opened the file. -/
def Opened (crypto : NodeCrypto) (s : SharedKeyring) : Prop :=
  ∃ state, (s.world .daemon).Loads crypto state ∧ s.daemon = ⟨state, state⟩ ∧
    s.cli = ⟨state, state⟩

/-! ### What a method is about -/

/-- The method is about the pin: it activates a pin of its Watch, or revokes its Watch, its
generation or its Host key, or it is a reconciliation that does not list the pin although its
process knew it. -/
def Names (w : KeyringWorld) : KeyringOperation → ActiveLinkPinV2 → Prop
  | .update (.persistActive new _), pin => pin.watchDeviceId = new.watchDeviceId
  | .update (.stageActivation _), _ => False
  | .update (.revokeWatchGeneration watchDeviceId linkGeneration), pin =>
      pin.watchDeviceId = watchDeviceId ∧ pin.linkGeneration = linkGeneration
  | .revokeWatch watchDeviceId, pin => pin.watchDeviceId = watchDeviceId
  | .revokeCompromisedEncryptionKey keyId, pin => pin.hostBinding.encryptionKeyId = keyId
  | .reconcileRecipients snapshot, pin =>
      pinKey pin ∉ snapshot.recipients.map recipientKey ∧ pinKey pin ∈ w.keyring.pins.map pinKey
  | .pruneRetiring _ _, _ => False

/-- The method is about the pending activation: it activates its tuple, or revokes its
generation. -/
def NamesPending : KeyringOperation → PendingActivationV2 → Prop
  | .update (.persistActive new _), pending =>
      (⟨pending.linkId, pending.linkGeneration, pending.epoch⟩ : PinKey) = pinKey new
  | .update (.revokeWatchGeneration watchDeviceId linkGeneration), pending =>
      pending.pin.watchDeviceId = watchDeviceId ∧ pending.linkGeneration = linkGeneration
  | _, _ => False

/-- The active pin is in the file. -/
def HasActive (s : SharedKeyring) (pin : ActiveLinkPinV2) : Prop :=
  pin ∈ s.stored.pins ∧ pin.status = .active

/-- A pin of the tuple is in the file, and it is revoked. -/
def HasRevoked (s : SharedKeyring) (key : PinKey) : Prop :=
  ∃ pin ∈ s.stored.pins, pinKey pin = key ∧ pin.status = .revoked

/-- No pin of the tuple is in the file but revoked ones. -/
def OnlyRevoked (s : SharedKeyring) (key : PinKey) : Prop :=
  ∀ pin ∈ s.stored.pins, pinKey pin = key → pin.status = .revoked

/-- What the method `a`, from `t` to `t'`, leaves of what the step from `s` to `s'` has written. -/
structure Isolated (s s' t : SharedKeyring) (a : Side × KeyringOperation) (t' : SharedKeyring) :
    Prop where
  active : ∀ pin, ¬ HasActive s pin → HasActive s' pin → HasActive t pin →
    ¬ Names (t.world a.1) a.2 pin → HasActive t' pin
  pending : ∀ pending, pending ∉ s.stored.pendingActivations →
    pending ∈ s'.stored.pendingActivations → pending ∈ t.stored.pendingActivations →
      ¬ NamesPending a.2 pending → pending ∈ t'.stored.pendingActivations
  revoked : ∀ key, ¬ HasRevoked s key → HasRevoked s' key → HasRevoked t key → OnlyRevoked t' key

/-- In every run, what a method of one process has written is still isolated from every later
method of the other. -/
def Isolation (crypto : NodeCrypto)
    (step : SharedKeyring → Side × KeyringOperation → SharedKeyring → Prop) : Prop :=
  ∀ start before s a s' between t b t', Opened crypto start → Run step start before s →
    step s a s' → Run step s' between t → b.1 ≠ a.1 → step t b t' → Isolated s s' t b t'

/-! ### The counterexample -/

open Ariava.Proofs.ReceiptConstruction

/-- A second Watch. -/
def otherWatchId : String := "watch_BBBBBBBBBBBBBBBBBBBBBBBBBBBBBBBBBBBBBBBBBBB"

/-- A pin of the second Watch. -/
def otherPin : ActiveLinkPinV2 :=
  { linkPin 1 with
    linkId := "other"
    watchDeviceId := otherWatchId
    watchBinding := linkBinding .watch otherWatchId 1 }

/-- Two processes that have just opened a file with one pin. -/
def sharedStart : SharedKeyring where
  hostId := linkHostId
  daemon := ⟨⟨[linkPin 1], []⟩, ⟨[linkPin 1], []⟩⟩
  cli := ⟨⟨[linkPin 1], []⟩, ⟨[linkPin 1], []⟩⟩
  file := some ⟨[linkPin 1], []⟩
  identities := linkIdentities
  currentKeyId := linkKeyId [0]
  generatedKeyIds := [linkKeyId [0]]

/-- The command line activates the pin of the second Watch. -/
def activation : Side × KeyringOperation :=
  (.cli, .update (.persistActive otherPin (sampleInstant 60000)))

/-- The daemon revokes the first Watch. -/
def staleRevocation : Side × KeyringOperation := (.daemon, .revokeWatch linkWatchId)

/-- The processes after the activation. -/
def activatedShared : SharedKeyring :=
  sharedStart.withWorld .cli ((perform linkCrypto activation.2.action).final (sharedStart.world .cli))

/-- The processes after the revocation. -/
def revokedShared : SharedKeyring :=
  activatedShared.withWorld .daemon
    ((perform linkCrypto staleRevocation.2.action).final (activatedShared.world .daemon))

/-- The condition on a step: what is written is not a stale copy. -/
def CopyWrittenCurrent (s : SharedKeyring) (a : Side × KeyringOperation) : Prop :=
  CopyCurrent (s.world a.1) a.2.action

section
variable {crypto : NodeCrypto} {s s' : SharedKeyring} {a : Side × KeyringOperation}

/-- A guarded step leaves the file or changes its state as the method should. -/
theorem sharedStep_stored (hstep : Guarded (SharedStep crypto) CopyWrittenCurrent s a s') :
    s'.stored = s.stored ∨ StoredChange crypto (s.world a.1) s'.stored a.2.action := by
  obtain ⟨hcurrent, rfl⟩ := hstep
  exact @perform_stored crypto (s.world a.1) _ hcurrent

/-- A state that is accepted has one pin for each tuple. -/
theorem nodup_of_accepts {w : KeyringWorld} {state : PersistedKeyringV2}
    (h : w.Accepts crypto state) : (state.pins.map pinKey).Nodup :=
  (validateState_eq_ok_iff.mp h).representation.tuples

/-- Revoking pins keeps one pin for each tuple. -/
theorem nodup_map {pins : List ActiveLinkPinV2} (h : (pins.map pinKey).Nodup)
    {f : ActiveLinkPinV2 → ActiveLinkPinV2} (hf : RevokesOnly f) :
    ((pins.map f).map pinKey).Nodup := by
  rw [List.map_map, show pinKey ∘ f = pinKey from funext fun pin => (hf.cases pin).1]
  exact h

/-- A guarded step keeps one pin for each tuple. -/
theorem nodup_step (hnodup : (s.stored.pins.map pinKey).Nodup)
    (hstep : Guarded (SharedStep crypto) CopyWrittenCurrent s a s') :
    (s'.stored.pins.map pinKey).Nodup := by
  rcases sharedStep_stored hstep with hsame | hchange
  · rw [hsame]
    exact hnodup
  · obtain ⟨side, operation⟩ := a
    cases operation with
    | update update => exact nodup_of_accepts hchange.2.2.2
    | revokeWatch watchDeviceId =>
      rw [show s'.stored = _ from hchange]
      exact nodup_map hnodup (revokesOnly_watchRevoked watchDeviceId)
    | revokeCompromisedEncryptionKey keyId =>
      rw [show s'.stored = _ from hchange]
      exact nodup_map hnodup (revokesOnly_keyRevoked keyId)
    | reconcileRecipients snapshot =>
      rw [hchange.1]
      exact nodup_map hnodup (revokesOnly_reconciledPin snapshot)
    | pruneRetiring references now =>
      rw [show s'.stored = _ from hchange]
      exact hnodup.sublist (List.filter_sublist.map pinKey)

/-- A guarded step leaves the active pins that it does not name. -/
theorem active_step {pin : ActiveLinkPinV2}
    (hstep : Guarded (SharedStep crypto) CopyWrittenCurrent s a s') (hpin : HasActive s pin)
    (hnames : ¬ Names (s.world a.1) a.2 pin) : HasActive s' pin := by
  obtain ⟨hmem, hactive⟩ := hpin
  refine ⟨?_, hactive⟩
  rcases sharedStep_stored hstep with hsame | hchange
  · rw [hsame]
    exact hmem
  · obtain ⟨side, operation⟩ := a
    have hmapped : ∀ f : ActiveLinkPinV2 → ActiveLinkPinV2, f pin = pin →
        pin ∈ s.stored.pins.map f := fun f hf => List.mem_map.mpr ⟨pin, hmem, hf⟩
    cases operation with
    | update update =>
      have hchanged := hchange.2.2.1
      cases update with
      | persistActive new now =>
        obtain ⟨-, -, ⟨-, hpins⟩ | ⟨-, hpins⟩⟩ := activated_cases hchanged
        · rw [hpins]
          exact hmem
        · rw [hpins]
          refine List.mem_append_left _ (hmapped _ ?_)
          rcases retireFor_cases new now pin with hf | ⟨-, hwatch, -⟩
          · exact hf
          · exact absurd hwatch hnames
      | stageActivation pending =>
        rw [(staged_cases hchanged).1]
        exact hmem
      | revokeWatchGeneration watchDeviceId linkGeneration =>
        rw [← Except.ok.inj hchanged]
        refine hmapped _ ?_
        rcases generationRevokedPin_cases watchDeviceId linkGeneration pin with hf | ⟨-, hnamed⟩
        · exact hf
        · exact absurd hnamed hnames
    | revokeWatch watchDeviceId =>
      rw [show s'.stored = _ from hchange]
      refine hmapped _ ?_
      rcases watchRevoked_cases watchDeviceId pin with hf | ⟨-, hnamed⟩
      · exact hf
      · exact absurd hnamed hnames
    | revokeCompromisedEncryptionKey keyId =>
      rw [show s'.stored = _ from hchange]
      refine hmapped _ ?_
      rcases keyRevoked_cases keyId pin with hf | ⟨-, hnamed⟩
      · exact hf
      · exact absurd hnamed hnames
    | reconcileRecipients snapshot =>
      -- An active pin that is not listed was known, or the reconciliation has thrown.
      rw [hchange.1]
      refine hmapped _ ?_
      by_cases hlisted : pinKey pin ∈ snapshot.recipients.map recipientKey
      · unfold reconciledPin
        rw [if_pos (Or.inr hlisted)]
      · exact absurd ⟨hlisted, hchange.2 pin hmem hactive hlisted⟩ hnames
    | pruneRetiring references now =>
      rw [show s'.stored = _ from hchange]
      refine List.mem_filter.mpr ⟨hmem, ?_⟩
      rw [isPinRetained, decide_eq_true hactive, Bool.true_or]

/-- A guarded step leaves the pending activations that it does not name. -/
theorem pending_step {pending : PendingActivationV2}
    (hstep : Guarded (SharedStep crypto) CopyWrittenCurrent s a s')
    (hmem : pending ∈ s.stored.pendingActivations) (hnames : ¬ NamesPending a.2 pending) :
    pending ∈ s'.stored.pendingActivations := by
  rcases sharedStep_stored hstep with hsame | hchange
  · rw [hsame]
    exact hmem
  · obtain ⟨side, operation⟩ := a
    cases operation with
    | update update =>
      have hchanged := hchange.2.2.1
      cases update with
      | persistActive new now =>
        rw [(activated_cases hchanged).2.1]
        exact List.mem_filter.mpr ⟨hmem, decide_eq_true hnames⟩
      | stageActivation staged => exact (staged_cases hchanged).2 pending hmem
      | revokeWatchGeneration watchDeviceId linkGeneration =>
        rw [← Except.ok.inj hchanged]
        exact List.mem_filter.mpr ⟨hmem, decide_eq_true (not_and_or.mp hnames)⟩
    | revokeWatch watchDeviceId =>
      rw [show s'.stored = _ from hchange]
      exact hmem
    | revokeCompromisedEncryptionKey keyId =>
      rw [show s'.stored = _ from hchange]
      exact hmem
    | reconcileRecipients snapshot =>
      rw [hchange.1]
      exact hmem
    | pruneRetiring references now =>
      rw [show s'.stored = _ from hchange]
      exact hmem

/-- Revoking pins leaves revoked ones revoked. -/
theorem status_of_revokesOnly {f : ActiveLinkPinV2 → ActiveLinkPinV2} (hf : RevokesOnly f)
    {pin : ActiveLinkPinV2} (h : pin.status = .revoked) : (f pin).status = .revoked := by
  rcases hf pin with hsame | hsame | hsame
  · rw [hsame]
    exact h
  · rw [hsame]
    rfl
  · rw [hsame]

/-- After changing the pins one by one, only revoked pins have the tuple. -/
theorem onlyRevoked_map {pins : List ActiveLinkPinV2} {key : PinKey}
    (hnodup : (pins.map pinKey).Nodup) {revoked : ActiveLinkPinV2} (hmem : revoked ∈ pins)
    (hkey : pinKey revoked = key) (hrevoked : revoked.status = .revoked)
    {f : ActiveLinkPinV2 → ActiveLinkPinV2} (hkeep : ∀ pin, pinKey (f pin) = pinKey pin)
    (hstatus : ∀ pin, pin.status = .revoked → (f pin).status = .revoked) :
    ∀ pin ∈ pins.map f, pinKey pin = key → pin.status = .revoked := by
  intro pin hpin hpinKey
  obtain ⟨old, hold, rfl⟩ := List.mem_map.mp hpin
  rw [hkeep, ← hkey] at hpinKey
  rw [List.inj_on_of_nodup_map hnodup hold hmem hpinKey]
  exact hstatus revoked hrevoked

/-- A guarded step undoes no revocation. -/
theorem revoked_step {key : PinKey} (hnodup : (s.stored.pins.map pinKey).Nodup)
    (hstep : Guarded (SharedStep crypto) CopyWrittenCurrent s a s') (h : HasRevoked s key) :
    OnlyRevoked s' key := by
  obtain ⟨revoked, hmem, hkey, hrevoked⟩ := h
  have hsameKey : ∀ pin ∈ s.stored.pins, pinKey pin = key → pin.status = .revoked := by
    intro pin hpin hpinKey
    rw [List.inj_on_of_nodup_map hnodup hpin hmem (hpinKey.trans hkey.symm)]
    exact hrevoked
  have hmapped : ∀ f, RevokesOnly f → ∀ pin ∈ s.stored.pins.map f, pinKey pin = key →
      pin.status = .revoked := fun f hf =>
    onlyRevoked_map hnodup hmem hkey hrevoked (fun pin => (hf.cases pin).1)
      fun pin => status_of_revokesOnly hf
  unfold OnlyRevoked
  rcases sharedStep_stored hstep with hsame | hchange
  · rw [hsame]
    exact hsameKey
  · obtain ⟨side, operation⟩ := a
    cases operation with
    | update update =>
      have hchanged := hchange.2.2.1
      cases update with
      | persistActive new now =>
        obtain ⟨-, -, ⟨-, hpins⟩ | ⟨hnew, hpins⟩⟩ := activated_cases hchanged
        · rw [hpins]
          exact hsameKey
        · rw [hpins]
          intro pin hpin hpinKey
          rcases List.mem_append.mp hpin with hold | hadded
          · refine onlyRevoked_map (f := retireFor new now) hnodup hmem hkey hrevoked
              (fun item => ?_) (fun item hitem => ?_) pin hold hpinKey
            · rcases retireFor_cases new now item with hf | ⟨hf, -, -⟩
              · rw [hf]
              · rw [hf]
                rfl
            · rcases retireFor_cases new now item with hf | ⟨-, -, hactive⟩
              · rw [hf]
                exact hitem
              · exact absurd (hitem.symm.trans hactive) (by decide)
          · -- The tuple is taken, so the new pin has another one.
            rw [List.mem_singleton.mp hadded] at hpinKey
            exact absurd (hkey.trans hpinKey.symm) (hnew revoked hmem)
      | stageActivation pending =>
        rw [(staged_cases hchanged).1]
        exact hsameKey
      | revokeWatchGeneration watchDeviceId linkGeneration =>
        rw [← Except.ok.inj hchanged]
        refine onlyRevoked_map (f := generationRevokedPin watchDeviceId linkGeneration) hnodup hmem
          hkey hrevoked (fun item => ?_) (fun item hitem => ?_)
        · rcases generationRevokedPin_cases watchDeviceId linkGeneration item with hf | ⟨hf, -⟩
          · rw [hf]
          · rw [hf]
            rfl
        · rcases generationRevokedPin_cases watchDeviceId linkGeneration item with hf | ⟨hf, -⟩
          · rw [hf]
            exact hitem
          · rw [hf]
            rfl
    | revokeWatch watchDeviceId =>
      rw [show s'.stored = _ from hchange]
      exact hmapped _ (revokesOnly_watchRevoked watchDeviceId)
    | revokeCompromisedEncryptionKey keyId =>
      rw [show s'.stored = _ from hchange]
      exact hmapped _ (revokesOnly_keyRevoked keyId)
    | reconcileRecipients snapshot =>
      rw [hchange.1]
      exact hmapped _ (revokesOnly_reconciledPin snapshot)
    | pruneRetiring references now =>
      rw [show s'.stored = _ from hchange]
      exact fun pin hpin => hsameKey pin (List.mem_of_mem_filter hpin)

end

end Ariava.Proofs.KeyringIsolation
