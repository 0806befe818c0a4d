import Ariava.E2e.KeyringMigration
import Ariava.Proofs.ReceiptConstruction

/-!
# `Ariava.Proofs.KeyringAcceptance`: the keyring file can always be read again

A process opens a keyring file of either version and runs keyring methods that return. Other
processes may activate pins, stage activations and revoke generations in between.

* `load_after_methods`: whenever the process stops, `load` accepts the file, and the records are
  related as `KeyringRepresentation` says.

The invariant is `AcceptedKeyring`: both the copy of the object and the file are accepted. The
copy matters because a revocation or a prune writes it without reading the file. A method that
throws is left out: `updatePersisted` changes the copy before it checks it, so after a throw the
copy may be one that `load` refuses.
-/

set_option autoImplicit false

namespace Ariava.Proofs.KeyringAcceptance

open Ariava.Lib
open Ariava.Protocol
open Ariava.E2e
open Ariava.E2e.LocalLinkKeyring

/-- The constructor returned, on a file of version 2, on none, or on one of version 1. -/
def Opened (crypto : NodeCrypto) (migration : MigrationCrypto) (w : KeyringWorld) : Prop :=
  ∃ hostId identities currentKeyId file,
    (refreshPersisted crypto).run (KeyringWorld.start hostId identities currentKeyId file)
        = (.ok (), w) ∨
      ∃ value context, (openLegacy crypto migration value context).run
        (KeyringWorld.start hostId identities currentKeyId none) = (.ok (), w)

section
variable {crypto : NodeCrypto} {migration : MigrationCrypto} {w w' : KeyringWorld}

/-- An opened keyring is accepted. -/
theorem Opened.accepted (h : Opened crypto migration w) : AcceptedKeyring crypto w := by
  obtain ⟨hostId, identities, currentKeyId, file, hrun | ⟨value, context, hrun⟩⟩ := h
  · rcases @refreshPersisted_cases crypto (KeyringWorld.start hostId identities currentKeyId file)
      with ⟨latest, hload, hopen⟩ | ⟨e, hopen⟩
    · rw [hopen] at hrun
      cases hrun
      refine ⟨hload.accepts, fun state hstate => ?_⟩
      rcases hload with ⟨hnone, -⟩ | ⟨hsome, hvalid⟩
      · exact absurd (hnone.symm.trans hstate) (by simp)
      · rw [show state = latest from Option.some.inj (hstate.symm.trans hsome)]
        exact hvalid
    · rw [hopen] at hrun
      exact absurd (congrArg Prod.fst hrun) (by simp)
  · unfold openLegacy at hrun
    rw [Effect.run_bind, Effect.run_get, Effect.next_ok, Effect.run_bind, Effect.run_ofExcept]
      at hrun
    change Effect.next _ (decodeLegacyKeyring crypto migration hostId identities currentKeyId
      value context, _) = _ at hrun
    cases hdecode : decodeLegacyKeyring crypto migration hostId identities currentKeyId value
        context with
    | error e =>
      rw [hdecode] at hrun
      exact absurd (congrArg Prod.fst hrun) (by simp)
    | ok state =>
      rw [hdecode] at hrun
      cases hrun
      exact AcceptedKeyring.written (decodeLegacyKeyring_eq_ok hdecode)

/-- A run of methods that return keeps the keyring accepted. -/
theorem accepted_of_run {actions : List KeyringAction} (hopened : Opened crypto migration w)
    (hrun : Run (Guarded (KeyringStep crypto) (Succeeds crypto)) w actions w') :
    AcceptedKeyring crypto w' := by
  refine hrun.invariant (I := AcceptedKeyring crypto) ?_ hopened.accepted
  rintro s a s' hs ⟨hsucceeds, -, rfl⟩
  exact hs.step hsucceeds

/-- After any run of methods that return, the file loads, and its records are related as they
should be. -/
theorem load_after_methods {actions : List KeyringAction} (hopened : Opened crypto migration w)
    (hrun : Run (Guarded (KeyringStep crypto) (Succeeds crypto)) w actions w') :
    ∃ state, (load crypto).run w' = (.ok state, w') ∧
      (w'.file = some state ∨ w'.file = none ∧ state = ⟨[], []⟩) ∧
      validateState crypto w'.keyring.currentHostId w'.keyring.identities state = .ok () ∧
      KeyringRepresentation state := by
  obtain ⟨state, hload⟩ := (accepted_of_run hopened hrun).loads
  refine ⟨state, load_run_of_loads hload, ?_, hload.accepts,
    (validateState_eq_ok_iff.mp hload.accepts).representation⟩
  rcases hload with ⟨hnone, hempty⟩ | ⟨hsome, -⟩
  · exact Or.inr ⟨hnone, hempty⟩
  · exact Or.inl hsome

end

open Ariava.Proofs.ReceiptConstruction in
set_option maxRecDepth 20000 in
/-- A process opens a file with one pin and activates the next epoch. -/
theorem load_after_linkRotation : ∃ state, (load linkCrypto).run rotatedWorld = (.ok state, rotatedWorld) ∧
    (rotatedWorld.file = some state ∨ rotatedWorld.file = none ∧ state = ⟨[], []⟩) ∧
    validateState linkCrypto rotatedWorld.keyring.currentHostId rotatedWorld.keyring.identities state
      = .ok () ∧ KeyringRepresentation state := by
  have hopened : Opened linkCrypto ⟨fun _ => "", fun _ _ => true⟩ linkWorld := by
    refine ⟨linkHostId, linkIdentities, linkKeyId [0], some ⟨[linkPin 1], []⟩, Or.inl ?_⟩
    have hok : ((refreshPersisted linkCrypto).run linkStart).1 = .ok () := by decide +kernel
    exact Prod.ext hok rfl
  have hsucceeds : Succeeds linkCrypto linkWorld linkRotation := ⟨trivial, by decide +kernel⟩
  exact load_after_methods hopened (Run.single ⟨hsucceeds, trivial, rfl⟩)

end Ariava.Proofs.KeyringAcceptance
