import Ariava.Daemon.CommandRuntime
import Ariava.Proofs.ReceiptConstruction

/-!
# `Ariava.Proofs.CommandPins`: the records find their pins when the Bridge starts

`startupCheck` succeeds if each record finds its pin in the keyring file, where a terminal record
may find a revoked one or none. A pin that a record refers to is never pruned, because the prune of
the keyring gets a reference from each record. It may be revoked, though, and a record that is not
terminal must find a pin that is not revoked.

- `startupCheck_of_unrevoked`: in every run in which no step revokes the pin of a record that is
  not terminal, and no pull claims a command under a pin that is revoked in the file already, the
  check succeeds after every step.
- `startupCheck_fails_of_unlink`: a Watch whose command is in progress is unlinked, the next
  recipient snapshot revokes its pin, and the check fails.
-/

set_option autoImplicit false

namespace Ariava.Proofs.CommandPins

open Ariava.Lib
open Ariava.Protocol
open Ariava.StateStore
open Ariava.E2e
open Ariava.Daemon
open Ariava.Proofs.ReceiptConstruction (linkCrypto linkHostId linkIdentities linkPin linkStart
  linkWorld linkWorld_keyring linkCommand linkRecord linkPrepared)

/-- The pins hold the one of the record, not revoked unless the record is terminal. -/
def HeldIn (x : PersistedCommandExecutionV4) (pins : List ActiveLinkPinV2) : Prop :=
  ∃ pin ∈ pins, pinReference pin = x.pinReference ∧
    (isTerminalRecord x = false → pin.status ≠ .revoked)

/-- Every record has its pin, in the keyring object and in the keyring file. -/
def RecordsHeld (w : CommandRuntime) : Prop :=
  ∀ id x, w.journal.state.commandExecutions.get? id = some x →
    HeldIn x w.keyring.keyring.pins ∧ HeldIn x w.keyring.filePins

/-- The action revokes the pin. -/
def RevokesPin : KeyringAction → ActiveLinkPinV2 → Prop
  | .update (.revokeWatchGeneration watchDeviceId linkGeneration), pin
  | .foreign (.revokeWatchGeneration watchDeviceId linkGeneration), pin =>
      pin.watchDeviceId = watchDeviceId ∧ pin.linkGeneration = linkGeneration
  | .revokeWatch watchDeviceId, pin => pin.watchDeviceId = watchDeviceId
  | .revokeCompromisedEncryptionKey keyId, pin => pin.hostBinding.encryptionKeyId = keyId
  | .reconcileRecipients snapshot, pin =>
      pinKey pin ∉ snapshot.recipients.map recipientKey ∧
        ¬ (pin.status = .retiring ∧ LocalLinkKeyring.hasSuccessor snapshot pin = true)
  | _, _ => False

/-- The condition of a step: it does not revoke the pin of a record that is not terminal, and a
pull finds the usable pin of its command also in the file, not revoked. -/
def KeepsPinsUsable (w : CommandRuntime) : RuntimeAction → Prop
  | .command (.pull _ command _ _) =>
      ∀ pin, w.keyring.keyring.getUsable (commandPinKey command) = some pin →
        ∃ pin' ∈ w.keyring.filePins, pinReference pin' = pinReference pin ∧ pin'.status ≠ .revoked
  | .keyring action =>
      ∀ id x, w.journal.state.commandExecutions.get? id = some x → isTerminalRecord x = false →
        ∀ pin, (pin ∈ w.keyring.keyring.pins ∨ pin ∈ w.keyring.filePins) →
          pinReference pin = x.pinReference → ¬ RevokesPin action pin
  | _ => True

section
variable {crypto : NodeCrypto} {x x' : PersistedCommandExecutionV4}
  {pins : List ActiveLinkPinV2} {w w' : CommandRuntime}

/-- A record that keeps its pin is held as before. -/
theorem HeldIn.keepsPin (h : HeldIn x pins) (hkeeps : KeepsPin x x') : HeldIn x' pins := by
  obtain ⟨pin, hpin, hreference, husable⟩ := h
  refine ⟨pin, hpin, hreference.trans hkeeps.pinReference.symm, fun hnot => husable ?_⟩
  cases hterminal : isTerminalRecord x with
  | false => rfl
  | true => exact absurd (hkeeps.terminal hterminal) (by simp [hnot])

/-! ### What an action does to the pin of a record -/

/-- The pins hold the one of the record, and the action does not revoke it. -/
def SafelyHeld (x : PersistedCommandExecutionV4) (action : KeyringAction)
    (pins : List ActiveLinkPinV2) : Prop :=
  ∃ pin ∈ pins, pinReference pin = x.pinReference ∧
    (isTerminalRecord x = false → pin.status ≠ .revoked ∧ ¬ RevokesPin action pin)

theorem SafelyHeld.heldIn {action : KeyringAction} (h : SafelyHeld x action pins) :
    HeldIn x pins := by
  obtain ⟨pin, hpin, hreference, husable⟩ := h
  exact ⟨pin, hpin, hreference, fun hnot => (husable hnot).1⟩

/-- A change of the pins one by one keeps the pin of a record, if it keeps the reference of a pin
and leaves those alone that it does not revoke. -/
theorem SafelyHeld.map {action : KeyringAction} {f : ActiveLinkPinV2 → ActiveLinkPinV2}
    (hreference : ∀ pin, pinReference (f pin) = pinReference pin)
    (hsame : ∀ pin, pin.status ≠ .revoked → ¬ RevokesPin action pin → f pin = pin)
    (h : SafelyHeld x action pins) : SafelyHeld x action (pins.map f) := by
  obtain ⟨pin, hpin, hpinReference, husable⟩ := h
  refine ⟨f pin, List.mem_map.mpr ⟨pin, hpin, rfl⟩, (hreference pin).trans hpinReference, ?_⟩
  intro hnot
  obtain ⟨hstatus, hrevokes⟩ := husable hnot
  rw [hsame pin hstatus hrevokes]
  exact ⟨hstatus, hrevokes⟩

open LocalLinkKeyring in
/-- An update keeps the pin of a record that it does not revoke. -/
theorem safelyHeld_changed {update : KeyringUpdate} {action : KeyringAction}
    (haction : action = .update update ∨ action = .foreign update)
    {state next : PersistedKeyringV2} (hnext : changed update state = .ok next)
    (h : SafelyHeld x action state.pins) : SafelyHeld x action next.pins := by
  cases update with
  | persistActive pin now =>
    have hnever : ∀ item, ¬ RevokesPin action item := by
      rcases haction with rfl | rfl <;> exact fun _ hrevokes => hrevokes
    obtain ⟨held, hheld, hreference, husable⟩ := h
    change activated pin now state = .ok next at hnext
    unfold activated at hnext
    split at hnext
    · exact absurd hnext (by simp)
    · split at hnext
      · split at hnext
        · exact absurd hnext (by simp)
        · cases hnext
          exact ⟨held, hheld, hreference, husable⟩
      · cases hnext
        -- An older active pin begins to retire, and none is revoked.
        refine ⟨retireFor pin now held,
          List.mem_append_left _ (List.mem_map.mpr ⟨held, hheld, rfl⟩), ?_, fun hnot => ?_⟩
        · rw [← hreference]
          unfold retireFor
          split <;> rfl
        · refine ⟨?_, hnever _⟩
          unfold retireFor
          split
          · simp
          · exact (husable hnot).1
  | stageActivation pending =>
    rw [staged_pins hnext]
    exact h
  | revokeWatchGeneration watchDeviceId linkGeneration =>
    cases hnext
    refine h.map (fun pin => ?_) fun pin _ hrevokes => ?_
    · rcases generationRevokedPin_cases watchDeviceId linkGeneration pin with hf | ⟨hf, -⟩
      · rw [hf]
      · rw [hf]
        rfl
    · rcases generationRevokedPin_cases watchDeviceId linkGeneration pin with hf | ⟨-, hf⟩
      · exact hf
      · rcases haction with rfl | rfl <;> exact absurd hf hrevokes

open LocalLinkKeyring in
/-- An action keeps the pin of a record that it does not revoke. A prune is not among them. -/
theorem safelyHeld_keptBy {kw : KeyringWorld} {action : KeyringAction}
    (hprune : ∀ references now, action ≠ .pruneRetiring references now) :
    KeptBy crypto kw (SafelyHeld x action) action := by
  cases action with
  | update update => exact fun _ state next hnext h => safelyHeld_changed (Or.inl rfl) hnext h
  | foreign update => exact fun _ state next hnext h => safelyHeld_changed (Or.inr rfl) hnext h
  | revokeWatch watchDeviceId =>
    refine fun pins h => h.map (fun pin => ?_) fun pin _ hrevokes => ?_
    · rcases watchRevoked_cases watchDeviceId pin with hf | ⟨hf, -⟩
      · rw [hf]
      · rw [hf]
        rfl
    · rcases watchRevoked_cases watchDeviceId pin with hf | ⟨-, hf⟩
      · exact hf
      · exact absurd hf hrevokes
  | revokeCompromisedEncryptionKey keyId =>
    refine fun pins h => h.map (fun pin => ?_) fun pin _ hrevokes => ?_
    · rcases keyRevoked_cases keyId pin with hf | ⟨hf, -⟩
      · rw [hf]
      · rw [hf]
        rfl
    · rcases keyRevoked_cases keyId pin with hf | ⟨-, hf⟩
      · exact hf
      · exact absurd hf hrevokes
  | reconcileRecipients snapshot =>
    refine fun pins h => h.map (fun pin => ?_) fun pin hstatus hrevokes => ?_
    · rcases reconciledPin_cases snapshot pin with hf | hf
      · rw [hf]
      · rw [hf]
        rfl
    · unfold reconciledPin
      by_cases hlisted : pinKey pin ∈ snapshot.recipients.map recipientKey
      · rw [if_pos (Or.inr hlisted)]
      · rw [if_neg (not_or.mpr ⟨hstatus, hlisted⟩), if_pos]
        by_contra hnot
        exact hrevokes ⟨hlisted, hnot⟩
  | pruneRetiring references now => exact absurd rfl (hprune references now)
  | reopen => trivial
  | rotate identity => trivial

/-- What was loaded is what the file holds. -/
theorem pins_of_load {kw : KeyringWorld} {state : PersistedKeyringV2}
    (h : (LocalLinkKeyring.load crypto).outcome kw = .ok state) : state.pins = kw.filePins := by
  unfold LocalLinkKeyring.load Effect.outcome at h
  rw [Effect.run_bind, Effect.run_get, Effect.next_ok] at h
  unfold KeyringWorld.filePins
  cases hfile : kw.file with
  | none =>
    rw [hfile] at h
    cases (Except.ok.inj h : (⟨[], []⟩ : PersistedKeyringV2) = state)
    rfl
  | some stored =>
    rw [hfile] at h
    change ((_ >>= _ : KeyringEffect _).run kw).1 = _ at h
    rw [Effect.run_bind, Effect.run_ofExcept] at h
    cases hvalid : validateState crypto kw.keyring.currentHostId kw.keyring.identities stored with
    | error e => rw [hvalid] at h; exact absurd h (by simp)
    | ok u =>
      rw [hvalid] at h
      cases (Except.ok.inj h : stored = state)
      rfl

/-- An action that does not revoke the pin of a record leaves the record its pin, in the object and
in the file. -/
theorem held_perform {kw : KeyringWorld} {action : KeyringAction}
    (hprune : ∀ references now, action ≠ .pruneRetiring references now)
    (hobject : HeldIn x kw.keyring.pins) (hfile : HeldIn x kw.filePins)
    (hkeeps : isTerminalRecord x = false → ∀ pin, (pin ∈ kw.keyring.pins ∨ pin ∈ kw.filePins) →
      pinReference pin = x.pinReference → ¬ RevokesPin action pin) :
    HeldIn x ((LocalLinkKeyring.perform crypto action).final kw).keyring.pins ∧
      HeldIn x ((LocalLinkKeyring.perform crypto action).final kw).filePins := by
  have hsafe : ∀ pins, (∀ pin ∈ pins, pin ∈ kw.keyring.pins ∨ pin ∈ kw.filePins) →
      HeldIn x pins → SafelyHeld x action pins := by
    rintro pins hmem ⟨pin, hpin, hreference, husable⟩
    exact ⟨pin, hpin, hreference, fun hnot =>
      ⟨husable hnot, hkeeps hnot pin (hmem pin hpin) hreference⟩⟩
  have hload : ∀ state, (LocalLinkKeyring.load crypto).outcome kw = .ok state →
      SafelyHeld x action state.pins := by
    intro state hstate
    rw [pins_of_load hstate]
    exact hsafe _ (fun _ hpin => Or.inr hpin) hfile
  obtain ⟨hobject', hfile'⟩ := LocalLinkKeyring.perform_pins hload (safelyHeld_keptBy hprune)
    (hsafe _ (fun _ hpin => Or.inl hpin) hobject)
  refine ⟨hobject'.heldIn, ?_⟩
  rcases hfile' with hsame | hwritten
  · rw [KeyringWorld.filePins, hsame]
    exact hfile
  · exact hwritten.heldIn

/-- A prune with the references of the records leaves each of them its pin. -/
theorem held_prune {kw : KeyringWorld} {references input : PinRetentionReferences}
    {now : CanonicalTimestamp} {state : PersistedBridgeState} {id : String}
    (hinput : readCommandExecutionPinRetentionReferences state = .ok input)
    (hget : state.commandExecutions.get? id = some x)
    (hnow : ∀ through, commandExecutionRetainedThrough x = .ok through →
      ¬ through < now.toIsoText)
    (hobject : HeldIn x kw.keyring.pins) (hfile : HeldIn x kw.filePins) :
    HeldIn x ((LocalLinkKeyring.pruneRetiring
        (mergePinRetentionReferences [references, input]) now).final kw).keyring.pins ∧
      HeldIn x ((LocalLinkKeyring.pruneRetiring
        (mergePinRetentionReferences [references, input]) now).final kw).filePins := by
  have hpruned : HeldIn x (kw.keyring.pins.filter (LocalLinkKeyring.isPinRetained
      (mergePinRetentionReferences [references, input]) now)) := by
    obtain ⟨pin, hpin, hreference, husable⟩ := hobject
    exact ⟨pin, List.mem_filter.mpr ⟨hpin, retains_of_mem hinput hget hnow hreference⟩, hreference,
      husable⟩
  rcases LocalLinkKeyring.pruneRetiring_cases (mergePinRetentionReferences [references, input]) now
    kw with hsame | hwritten
  · rw [hsame]
    exact ⟨hobject, hfile⟩
  · rw [hwritten]
    exact ⟨hpruned, hpruned⟩

/-! ### Steps and runs -/

/-- A step of the journal that keeps the pins of the records leaves them held. -/
theorem RecordsHeld.keepsPins (h : RecordsHeld w) {journal : CommandJournal}
    (hkeeps : KeepsPins w.journal.state journal.state) :
    RecordsHeld { w with journal := journal } := by
  intro id x' hget
  obtain ⟨x, hold, hpin⟩ := hkeeps id x' hget
  obtain ⟨hobject, hfile⟩ := h id x hold
  exact ⟨hobject.keepsPin hpin, hfile.keepsPin hpin⟩

/-- `pruneCommandRuntime` leaves the records held. -/
theorem RecordsHeld.prune (h : RecordsHeld w) (references : PinRetentionReferences)
    (now : CanonicalTimestamp) : RecordsHeld (w.pruneCommandRuntime references now) := by
  unfold CommandRuntime.pruneCommandRuntime
  split
  · exact h
  · rename_i t ht
    have hrecords := pruneEligibleCommandExecutions_cases ht
    have hkeeps : KeepsPins w.journal.state (t.stateFrom w.journal.state) := fun id x hget =>
      ⟨x, ((hrecords id x).mp hget).1, KeepsPin.refl x⟩
    unfold CommandRuntime.pruneKeyring
    split
    · exact h.keepsPins hkeeps
    · rename_i input hinput
      intro id x hget
      obtain ⟨hold, hnow⟩ := (hrecords id x).mp hget
      obtain ⟨hobject, hfile⟩ := h id x hold
      exact held_prune hinput hget hnow hobject hfile

/-- A step that meets the condition leaves the records held. -/
theorem RecordsHeld.step (h : RecordsHeld w) {action : RuntimeAction}
    (hcondition : KeepsPinsUsable w action) (hstep : RuntimeStep crypto w action w') :
    RecordsHeld w' := by
  obtain ⟨hwired, rfl⟩ := hstep
  cases action with
  | command action =>
    show RecordsHeld { w with journal := w.journal.apply crypto action }
    by_cases hpull : ∃ keyring command observedAt claimedAt,
        action = .pull keyring command observedAt claimedAt
    · obtain ⟨keyring, command, observedAt, claimedAt, rfl⟩ := hpull
      cases (hwired : keyring = some w.keyring.keyring)
      intro id x' hget
      rcases pull_record hget with ⟨x, hold, hkeeps⟩ | ⟨pin, husable, hreference⟩
      · obtain ⟨hobject, hfile⟩ := h id x hold
        exact ⟨hobject.keepsPin hkeeps, hfile.keepsPin hkeeps⟩
      · obtain ⟨pin', hpin', hreference', hstatus'⟩ := hcondition pin husable
        have hstatus := List.find?_some husable
        rw [Bool.and_eq_true, decide_eq_true_eq] at hstatus
        exact ⟨⟨pin, List.mem_of_find?_eq_some husable, hreference.symm, fun _ => hstatus.1⟩,
          ⟨pin', hpin', hreference'.trans hreference.symm, fun _ => hstatus'⟩⟩
    · exact h.keepsPins (keepsPins_apply fun keyring command observedAt claimedAt heq =>
        hpull ⟨keyring, command, observedAt, claimedAt, heq⟩)
  | keyring action =>
    have hprune : ∀ references now, action ≠ .pruneRetiring references now := by
      rintro references now rfl
      exact hwired
    intro id x hget
    obtain ⟨hobject, hfile⟩ := h id x hget
    exact held_perform hprune hobject hfile (hcondition id x hget)
  | pruneCommandRuntime references now => exact h.prune references now

/-- When the records are held, the check succeeds on what the file gives. -/
theorem startupCheck_of_recordsHeld (h : RecordsHeld w) {state : PersistedKeyringV2}
    (hload : (LocalLinkKeyring.load crypto).outcome w.keyring = .ok state) :
    w.startupCheck crypto = .ok () := by
  rw [CommandRuntime.startupCheck, bind_eq_ok_iff]
  refine ⟨state, hload, ?_⟩
  unfold validateCommandExecutionPinsState
  rw [checkAll_eq_ok]
  intro x hx
  obtain ⟨id, hget⟩ := Dict.mem_values_iff.mp hx
  obtain ⟨pin, hpin, hreference, husable⟩ := (h id x hget).2
  rw [← pins_of_load hload] at hpin
  have hsound := soundPins_of_load hload
  have hkey : referenceKey x.pinReference = pinKey pin := by
    rw [← hreference]
    rfl
  unfold validateCommandExecutionPin LocalLinkKeyring.resolvePinReference
  rw [hkey]
  cases hfound : (w.keyring.keyring.withState state).getUsable (pinKey pin) with
  | some found =>
    -- A tuple has one pin in a file that was loaded.
    have hstatus := List.find?_some hfound
    rw [Bool.and_eq_true, decide_eq_true_eq, decide_eq_true_eq] at hstatus
    have hsame := hsound.eq_of_key (List.mem_of_find?_eq_some hfound) hpin hstatus.2
    rw [Option.map_some, throwIf_eq_ok, decide_eq_false_iff_not, not_not, hsame, hreference]
  | none =>
    have hnone := List.find?_eq_none.mp hfound pin hpin
    have hrevoked : pin.status = .revoked := by simpa using hnone
    rw [Option.map_none, throwIf_eq_ok, Bool.true_and, Bool.not_eq_false']
    cases hterminal : isTerminalRecord x with
    | true => rfl
    | false => exact absurd hrevoked (husable hterminal)

/-- Take a run that starts without records and whose steps all meet the condition. If the keyring
file can be loaded, the check of the records at the start of the Bridge succeeds. -/
theorem startupCheck_of_unrevoked {state : PersistedBridgeState} {now : CanonicalTimestamp}
    {keyring : KeyringWorld} {actions : List RuntimeAction}
    (hstate : state.commandExecutions = ∅)
    (hrun : Run (Guarded (RuntimeStep crypto) KeepsPinsUsable)
      (CommandRuntime.start state now keyring) actions w)
    {persisted : PersistedKeyringV2}
    (hload : (LocalLinkKeyring.load crypto).outcome w.keyring = .ok persisted) :
    w.startupCheck crypto = .ok () := by
  have hstart : RecordsHeld (CommandRuntime.start state now keyring) := by
    intro id x hget
    change state.commandExecutions.get? id = some x at hget
    rw [hstate] at hget
    exact absurd hget (by simp)
  have hheld : RecordsHeld w :=
    hrun.invariant (fun _ _ _ hheld hguarded => hheld.step hguarded.1 hguarded.2) hstart
  exact startupCheck_of_recordsHeld hheld hload

end

/-! ### A Watch that is unlinked while its command is in progress -/

/-- The pull of the command of the link. -/
def linkPull : RuntimeAction :=
  .command (.pull (some linkWorld.keyring) linkCommand (sampleInstant 60000) (sampleInstant 60000))

/-- The runtime before the keyring is read. -/
def runtimeStart : CommandRuntime :=
  .start (emptyState "epoch") (sampleInstant 60000) linkStart

/-- The runtime after the keyring was read and the command was pulled. -/
def pulledRuntime : CommandRuntime where
  journal := ⟨withCommandExecution (emptyState "epoch") "command" linkRecord, sampleInstant 60000,
    [linkCommand], []⟩
  keyring := linkWorld

/-- A recipient snapshot without the Watch. -/
def unlinkSnapshot : E2ERecipientSnapshotV1 := ⟨linkHostId, 1, []⟩

/-- The keyring after the snapshot was reconciled. -/
def unlinkedWorld : KeyringWorld :=
  (LocalLinkKeyring.perform linkCrypto (.reconcileRecipients unlinkSnapshot)).final linkWorld

theorem linkWorld_filePins : linkWorld.filePins = [linkPin 1] := by
  rfl

theorem apply_pull (crypto : NodeCrypto) (w : CommandRuntime) (keyring : Option LocalLinkKeyring)
    (command : EncryptedCommandEnvelopeV1) (observedAt claimedAt : CanonicalTimestamp) :
    w.apply crypto (.command (.pull keyring command observedAt claimedAt))
      = { w with journal := w.journal.pull crypto keyring command observedAt claimedAt } := rfl

set_option maxRecDepth 20000 in
/-- The pull claims the command. -/
theorem pull_effect : pulledRuntime = CommandRuntime.apply linkCrypto
    ⟨(runtimeStart).journal, linkWorld⟩ linkPull := by
  have hprepared : prepareCommandForExecution linkCrypto (some linkWorld.keyring) linkCommand
      (sampleInstant 60000) = .ok linkPrepared := by
    rw [linkWorld_keyring]
    rfl
  have hjournal : CommandJournal.pull linkCrypto runtimeStart.journal (some linkWorld.keyring)
      linkCommand (sampleInstant 60000) (sampleInstant 60000) = pulledRuntime.journal := by
    unfold CommandJournal.pull
    rw [hprepared]
    rfl
  rw [linkPull, apply_pull, hjournal]
  rfl

/-- The run in which the process reads its keyring and pulls the command. -/
theorem run_pull (C : CommandRuntime → RuntimeAction → Prop)
    (hreopen : C runtimeStart (.keyring .reopen))
    (hpull : C ⟨runtimeStart.journal, linkWorld⟩ linkPull) :
    Run (Guarded (RuntimeStep linkCrypto) C) runtimeStart [.keyring .reopen, linkPull]
      pulledRuntime :=
  .cons ⟨hreopen, trivial, rfl⟩ (Run.single ⟨hpull, rfl, pull_effect⟩)

set_option maxRecDepth 20000 in
theorem linkWorld_load :
    (LocalLinkKeyring.load linkCrypto).outcome linkWorld = .ok ⟨[linkPin 1], []⟩ := by
  decide +kernel

/-- After the pull the check succeeds: the file still holds the pin of the command. -/
theorem startupCheck_of_unrevoked_pulled : pulledRuntime.startupCheck linkCrypto = .ok () := by
  have hrun := run_pull KeepsPinsUsable (fun _ _ _ _ _ _ _ h => h) (by
    intro pin hfound
    change linkWorld.keyring.getUsable (commandPinKey linkCommand) = some pin at hfound
    rw [linkWorld_keyring] at hfound
    have hpin : linkPin 1 = pin := Option.some.inj ((by decide :
      LocalLinkKeyring.getUsable ⟨linkHostId, [linkPin 1], [], linkIdentities⟩
        (commandPinKey linkCommand) = some (linkPin 1)).symm.trans hfound)
    subst hpin
    exact ⟨linkPin 1, List.mem_cons_self, rfl, by decide⟩)
  exact startupCheck_of_unrevoked rfl hrun linkWorld_load

/-- In every run, the check of the records succeeds whenever the keyring can be loaded. -/
def StartupNeverBlocked (crypto : NodeCrypto) (start : CommandRuntime) : Prop :=
  ∀ (actions : List RuntimeAction) (w : CommandRuntime) (state : PersistedKeyringV2),
    Run (RuntimeStep crypto) start actions w →
    (LocalLinkKeyring.load crypto).outcome w.keyring = .ok state →
    w.startupCheck crypto = .ok ()

set_option maxRecDepth 20000 in
theorem unlinkedWorld_load :
    (LocalLinkKeyring.load linkCrypto).outcome unlinkedWorld
      = .ok ⟨[revokedPin (linkPin 1)], []⟩ := by
  decide +kernel

set_option maxRecDepth 20000 in
theorem unlinkedWorld_keyring : unlinkedWorld.keyring
    = ⟨linkHostId, [revokedPin (linkPin 1)], [], linkIdentities⟩ := by
  decide +kernel

/-- The Watch is unlinked after its command was pulled: the pin is revoked, the record stays, and
the check fails. -/
theorem startupCheck_fails_of_unlink : ¬ StartupNeverBlocked linkCrypto runtimeStart := by
  intro h
  have hpulled : Run (RuntimeStep linkCrypto) runtimeStart [.keyring .reopen, linkPull]
      pulledRuntime :=
    (run_pull (fun _ _ => True) trivial trivial).mono fun _ _ _ hguarded => hguarded.2
  have hunlinked : Run (RuntimeStep linkCrypto) runtimeStart
      ([.keyring .reopen, linkPull] ++ [.keyring (.reconcileRecipients unlinkSnapshot)])
      { pulledRuntime with keyring := unlinkedWorld } :=
    .snoc hpulled ⟨trivial, rfl⟩
  have hchecked := h _ _ _ hunlinked unlinkedWorld_load
  rw [CommandRuntime.startupCheck, bind_eq_ok_iff] at hchecked
  obtain ⟨state, hload, hchecked⟩ := hchecked
  have hstate : state = ⟨[revokedPin (linkPin 1)], []⟩ :=
    Except.ok.inj (hload.symm.trans unlinkedWorld_load)
  subst hstate
  change validateCommandExecutionPinsState _
    (unlinkedWorld.keyring.withState _).resolvePinReference true = _ at hchecked
  rw [unlinkedWorld_keyring] at hchecked
  exact absurd hchecked (by decide)

end Ariava.Proofs.CommandPins
