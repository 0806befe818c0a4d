import Ariava.Daemon.CommandJournal
import Ariava.E2e.KeyringInvariants
import Ariava.StateStore.PinReferences

/-!
# `Ariava.Daemon.CommandRuntime`: the execution records and the keyring together

The records live in the state file and the pins in the keyring file. `RuntimeAction` collects what
changes one of them, and `pruneCommandRuntime`, which changes both. A pull prepares its envelope
with the keyring of this process. `KeyringAction.foreign` is a command line tool that changes the
keyring file, and `KeyringAction.reopen` is a restart.

`startupCheck` is what `activateBridgeRuntime` does after a restart: it loads the keyring from its
file and calls `validateCommandExecutionPins` with `allowUnavailableForTerminal`.

`keepsPins_apply` and `pull_record` say where a record after a step comes from: it was there
before, with the same pin, or a pull claimed it under a usable pin of the keyring.
-/

set_option autoImplicit false

namespace Ariava.Daemon

open Ariava.Lib
open Ariava.Protocol
open Ariava.StateStore
open Ariava.E2e

/-- The journal of the commands and the keyring. -/
structure CommandRuntime where
  journal : CommandJournal
  keyring : KeyringWorld

/-- One step of the runtime. The content references of a prune are arbitrary. -/
inductive RuntimeAction
  | command (action : CommandAction)
  | keyring (action : KeyringAction)
  | pruneCommandRuntime (contentReferences : PinRetentionReferences) (now : CanonicalTimestamp)

namespace CommandRuntime

variable (crypto : NodeCrypto)

/-- The second half of `pruneCommandRuntime`: prune the pins that nothing refers to. -/
def pruneKeyring (w : CommandRuntime) (contentReferences : PinRetentionReferences)
    (now : CanonicalTimestamp) : CommandRuntime :=
  match readCommandExecutionPinRetentionReferences w.journal.state with
  | .error _ => w
  | .ok references =>
      { w with
          keyring := (LocalLinkKeyring.pruneRetiring
            (mergePinRetentionReferences [contentReferences, references]) now).final w.keyring }

/-- `pruneCommandRuntime`. A throw leaves what was pruned before it. -/
def pruneCommandRuntime (w : CommandRuntime) (contentReferences : PinRetentionReferences)
    (now : CanonicalTimestamp) : CommandRuntime :=
  match pruneEligibleCommandExecutionsTransition w.journal.state now with
  | .error _ => { w with journal := w.journal.at_ now }
  | .ok t => pruneKeyring
      { w with journal := { w.journal with state := t.stateFrom w.journal.state, now := now } }
      contentReferences now

/-- The effect of an action. -/
def apply (w : CommandRuntime) : RuntimeAction → CommandRuntime
  | .command action => { w with journal := w.journal.apply crypto action }
  | .keyring action =>
      { w with keyring := (LocalLinkKeyring.perform crypto action).final w.keyring }
  | .pruneCommandRuntime contentReferences now => w.pruneCommandRuntime contentReferences now

/-- The command workflow uses the keyring of its process, and the keyring is pruned by
`pruneCommandRuntime` only. -/
def IsWired (w : CommandRuntime) : RuntimeAction → Prop
  | .command (.pull keyring _ _ _) => keyring = some w.keyring.keyring
  | .keyring (.pruneRetiring _ _) => False
  | .keyring action => IsGenerated crypto w.keyring action
  | _ => True

/-- The check of the records when the Bridge starts: load the keyring, then find the pin of each
record in it. -/
def startupCheck (w : CommandRuntime) : Except Thrown Unit := do
  let state ← (LocalLinkKeyring.load crypto).outcome w.keyring
  validateCommandExecutionPinsState w.journal.state
    (w.keyring.keyring.withState state).resolvePinReference true

/-- The runtime before the first command, in a process that has not read its keyring yet. -/
def start (state : PersistedBridgeState) (now : CanonicalTimestamp) (keyring : KeyringWorld) :
    CommandRuntime :=
  ⟨CommandJournal.start state now, keyring⟩

end CommandRuntime

/-- One step of a run of the runtime. -/
structure RuntimeStep (crypto : NodeCrypto) (w : CommandRuntime) (action : RuntimeAction)
    (w' : CommandRuntime) : Prop where
  wired : w.IsWired crypto action
  effect : w' = w.apply crypto action

/-! ### Where the records come from -/

/-- A record keeps its pin, and a terminal record stays terminal. -/
structure KeepsPin (x x' : PersistedCommandExecutionV4) : Prop where
  pinReference : x'.pinReference = x.pinReference
  terminal : isTerminalRecord x = true → isTerminalRecord x' = true

theorem KeepsPin.refl (x : PersistedCommandExecutionV4) : KeepsPin x x := ⟨rfl, fun h => h⟩

/-- Each record of the second state was in the first one, with its pin. -/
def KeepsPins (state state' : PersistedBridgeState) : Prop :=
  ∀ id x', state'.commandExecutions.get? id = some x' →
    ∃ x, state.commandExecutions.get? id = some x ∧ KeepsPin x x'

theorem KeepsPins.refl (state : PersistedBridgeState) : KeepsPins state state :=
  fun _ x' hget => ⟨x', hget, KeepsPin.refl x'⟩

section
variable {crypto : NodeCrypto} {state : PersistedBridgeState}

/-- A transition of one record that keeps its pin. -/
theorem keepsPins_withCommandExecution {id : String} {current next : PersistedCommandExecutionV4}
    (hcurrent : state.commandExecutions.get? id = some current) (hkeeps : KeepsPin current next) :
    KeepsPins state (withCommandExecution state id next) := by
  intro id' x' hget
  rcases Dict.get?_set_cases hget with ⟨rfl, rfl⟩ | ⟨-, hold⟩
  · exact ⟨current, hcurrent, hkeeps⟩
  · exact ⟨x', hold, KeepsPin.refl x'⟩

theorem isOrphaned_not_terminal {x : PersistedCommandExecutionV4} (h : isOrphaned x = true) :
    isTerminalRecord x = false := by
  unfold isOrphaned at h
  unfold isTerminalRecord
  cases hstate : x.state <;> simp [hstate] at h ⊢

/-- The transitions other than a claim keep the pins of the records. -/
theorem keepsPins_apply {w : CommandJournal} {action : CommandAction}
    (hpull : ∀ keyring command observedAt claimedAt,
      action ≠ .pull keyring command observedAt claimedAt) :
    KeepsPins w.state (w.apply crypto action).state := by
  cases action with
  | pull keyring command observedAt claimedAt => exact absurd rfl (hpull _ _ _ _)
  | dispatchStarted id now =>
    show KeepsPins w.state (CommandJournal.commitDispatch _ _ _).state
    unfold CommandJournal.commitDispatch
    split
    · rename_i t ht
      obtain ⟨current, hcurrent, hstate, next, rfl, -, rfl⟩ := markCommandDispatchStarted_cases ht
      have hnot : isTerminalRecord current = false := by simp [isTerminalRecord, hstate]
      exact keepsPins_withCommandExecution hcurrent ⟨rfl, fun h => absurd h (by simp [hnot])⟩
    · exact KeepsPins.refl _
  | outcomeUnknown id =>
    show KeepsPins w.state (CommandJournal.commit _ _).state
    unfold CommandJournal.commit
    split
    · rename_i t ht
      obtain ⟨current, hcurrent, horphan, next, rfl, -, rfl⟩ := markCommandOutcomeUnknown_cases ht
      have hnot := isOrphaned_not_terminal horphan
      exact keepsPins_withCommandExecution hcurrent ⟨rfl, fun h => absurd h (by simp [hnot])⟩
    · exact KeepsPins.refl _
  | terminalReceiptBlocked id result =>
    show KeepsPins w.state (CommandJournal.commit _ _).state
    unfold CommandJournal.commit
    split
    · rename_i t ht
      obtain ⟨current, hcurrent, -, next, rfl, -, rfl⟩ := persistTerminalReceiptBlocked_cases ht
      exact keepsPins_withCommandExecution hcurrent ⟨rfl, fun _ => by simp [isTerminalRecord]⟩
    · exact KeepsPins.refl _
  | terminalReceipt id result outbox =>
    show KeepsPins w.state (CommandJournal.commit _ _).state
    unfold CommandJournal.commit
    split
    · rename_i t ht
      obtain ⟨current, hcurrent, -, next, rfl, -, rfl⟩ := persistTerminalCommandReceipt_cases ht
      exact keepsPins_withCommandExecution hcurrent ⟨rfl, fun _ => by simp [isTerminalRecord]⟩
    · exact KeepsPins.refl _
  | receiptOutbox id mark =>
    show KeepsPins w.state (CommandJournal.commit _ _).state
    unfold CommandJournal.commit
    split
    · rename_i t ht
      obtain ⟨current, outbox, hcurrent, hstate, -, -, next, rfl, -, rfl⟩ :=
        markCommandReceiptOutbox_cases ht
      exact keepsPins_withCommandExecution hcurrent ⟨rfl, fun h => h⟩
    · exact KeepsPins.refl _
  | prune now =>
    show KeepsPins w.state (CommandJournal.commit _ _).state
    unfold CommandJournal.commit
    split
    · rename_i t ht
      exact fun id x' hget =>
        ⟨x', ((pruneEligibleCommandExecutions_cases ht id x').mp hget).1, KeepsPin.refl x'⟩
    · exact KeepsPins.refl _
  | recoverOrphaned =>
    intro id x' hget
    change ((recoverOrphanedCommandExecutionsTransition w.state).stateFrom
      w.state).commandExecutions.get? id = some x' at hget
    rw [recoverOrphanedCommandExecutions_get?, Option.map_eq_some_iff] at hget
    obtain ⟨x, hx, rfl⟩ := hget
    refine ⟨x, hx, ?_⟩
    split
    · rename_i horphan
      have hnot := isOrphaned_not_terminal horphan
      exact ⟨rfl, fun h => absurd h (by simp [hnot])⟩
    · exact KeepsPin.refl x

/-- A pull keeps the pins of the records and may add one, under a usable pin of its keyring. -/
theorem pull_record {w : CommandJournal} {keyring : LocalLinkKeyring}
    {command : EncryptedCommandEnvelopeV1} {observedAt claimedAt : CanonicalTimestamp} {id : String}
    {x' : PersistedCommandExecutionV4}
    (h : (w.pull crypto (some keyring) command observedAt claimedAt).state.commandExecutions.get? id
      = some x') :
    (∃ x, w.state.commandExecutions.get? id = some x ∧ KeepsPin x x') ∨
      ∃ pin, keyring.getUsable (commandPinKey command) = some pin ∧
        x'.pinReference = pinReference pin := by
  unfold CommandJournal.pull at h
  split at h
  · exact Or.inl ⟨x', h, KeepsPin.refl x'⟩
  rename_i prepared hprepared
  unfold CommandJournal.commitClaim at h
  split at h
  · rename_i t ht
    obtain ⟨-, ⟨result, rfl, hresult⟩ | ⟨-, -, rfl⟩⟩ := claimCommandExecution_cases ht
    · split at h
      · rename_i execution heq
        exact absurd heq (hresult execution)
      · exact Or.inl ⟨x', h, KeepsPin.refl x'⟩
    · simp only [StateTransition.result, StateTransition.stateFrom] at h
      rcases Dict.get?_set_cases h with ⟨rfl, rfl⟩ | ⟨-, hold⟩
      · obtain ⟨-, -, ring, hring, hprepare, -⟩ := prepareCommandForExecution_eq_ok hprepared
        cases hring
        obtain ⟨material, hmaterial, -, -, hreference⟩ := LocalLinkKeyring.prepare_eq_ok hprepare
        unfold LocalLinkKeyring.resolvePinMaterial at hmaterial
        split at hmaterial
        · exact absurd hmaterial (by simp)
        rename_i pin hfound
        refine Or.inr ⟨pin, hfound, hreference.trans ?_⟩
        split at hmaterial
        · exact absurd hmaterial (by simp)
        split at hmaterial
        · cases hmaterial
          rfl
        · exact absurd hmaterial (by simp)
      · exact Or.inl ⟨x', hold, KeepsPin.refl x'⟩
  · exact Or.inl ⟨x', h, KeepsPin.refl x'⟩

end

end Ariava.Daemon
