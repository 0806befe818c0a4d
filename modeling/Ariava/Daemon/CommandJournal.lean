import Ariava.Lib.Run
import Ariava.E2e.CommandExecution
import Ariava.StateStore.CommandTransitions

/-!
# `Ariava.Daemon.CommandJournal`: runs of the durable command journal

The command steps of the daemon, as the durable state sees them: a pulled envelope that is
prepared and claimed, the mark before dispatch, the terminal results, the receipt outbox,
the prune and the recovery after a restart. `CommandStep` allows them in every order, at
clock readings that do not go back.

A pull is `prepareCommandForExecution` and then `claimCommandExecution`, as in
`performCommandPullAndDispatch`. That pass is single-flight and is the only caller of the
prune apart from startup, so no prune runs between the two. The keyring of a pull is
arbitrary. A restart by itself changes nothing, because every transition is committed to
disk before it is visible; `recoverOrphaned` is what its recovery does.

`claimed` and `dispatched` are histories: the envelopes that were claimed, and the ids whose
dispatch was marked, which is what releases a command to its adapter.
-/

set_option autoImplicit false

namespace Ariava.Daemon

open Ariava.Lib
open Ariava.Protocol
open Ariava.StateStore
open Ariava.E2e

/-- The durable state, the last clock reading and the two histories, newest first. -/
structure CommandJournal where
  state : PersistedBridgeState
  now : CanonicalTimestamp
  claimed : List EncryptedCommandEnvelopeV1
  dispatched : List String
deriving DecidableEq

/-- One step on the journal. -/
inductive CommandAction
  | pull (keyring : Option LocalLinkKeyring) (command : EncryptedCommandEnvelopeV1)
      (observedAt claimedAt : CanonicalTimestamp)
  | dispatchStarted (commandId : String) (now : CanonicalTimestamp)
  | outcomeUnknown (commandId : String)
  | terminalReceiptBlocked (commandId : String) (result : CommandResult)
  | terminalReceipt (commandId : String) (result : CommandResult)
      (outbox : CommandReceiptOutboxInputV1)
  | receiptOutbox (commandId : String) (mark : ReceiptOutboxMark)
  | prune (now : CanonicalTimestamp)
  | recoverOrphaned

namespace CommandJournal

/-- The journal after a transition: a throw changes nothing. -/
def commit {α : Type} (w : CommandJournal) (transition : Except Thrown (StateTransition α)) :
    CommandJournal :=
  match transition with
  | .ok t => { w with state := t.stateFrom w.state }
  | .error _ => w

/-- The journal after a claim: a new claim enters the history. -/
def commitClaim (w : CommandJournal) (transition : Except Thrown (StateTransition CommandClaim)) :
    CommandJournal :=
  match transition with
  | .ok t =>
      match t.result with
      | .claimed execution =>
          { w with
              state := t.stateFrom w.state
              claimed := execution.originalEncryptedCommand :: w.claimed }
      | _ => { w with state := t.stateFrom w.state }
  | .error _ => w

/-- The journal after a dispatch mark: a mark that succeeds releases the command. -/
def commitDispatch (w : CommandJournal) (commandId : String)
    (transition : Except Thrown (StateTransition PersistedCommandExecutionV4)) :
    CommandJournal :=
  match transition with
  | .ok t =>
      { w with state := t.stateFrom w.state, dispatched := commandId :: w.dispatched }
  | .error _ => w

/-- Set the clock. -/
def at_ (w : CommandJournal) (now : CanonicalTimestamp) : CommandJournal := { w with now := now }

/-- The pull of one envelope: prepare, then claim. -/
def pull (crypto : NodeCrypto) (w : CommandJournal) (keyring : Option LocalLinkKeyring)
    (command : EncryptedCommandEnvelopeV1) (observedAt claimedAt : CanonicalTimestamp) :
    CommandJournal :=
  match prepareCommandForExecution crypto keyring command observedAt with
  | .error _ => w.at_ claimedAt
  | .ok prepared =>
      (w.at_ claimedAt).commitClaim
        (claimCommandExecutionTransition crypto.hash w.state
          { originalEncryptedCommand := prepared.originalEncryptedCommand
            commandDigest := prepared.commandDigest
            pinReference := prepared.pinReference
            claimedAt := claimedAt })

/-- The effect of an action. -/
def apply (crypto : NodeCrypto) (w : CommandJournal) : CommandAction → CommandJournal
  | .pull keyring command observedAt claimedAt => w.pull crypto keyring command observedAt claimedAt
  | .dispatchStarted commandId now =>
      (w.at_ now).commitDispatch commandId
        (markCommandDispatchStartedTransition crypto.hash w.state commandId now)
  | .outcomeUnknown commandId =>
      w.commit (markCommandOutcomeUnknownTransition crypto.hash w.state commandId)
  | .terminalReceiptBlocked commandId result =>
      w.commit (persistTerminalReceiptBlockedTransition crypto.hash w.state commandId result)
  | .terminalReceipt commandId result outbox =>
      w.commit (persistTerminalCommandReceiptTransition crypto.hash w.state commandId result outbox)
  | .receiptOutbox commandId mark =>
      w.commit (markCommandReceiptOutboxTransition crypto.hash w.state commandId mark)
  | .prune now => (w.at_ now).commit (pruneEligibleCommandExecutionsTransition w.state now)
  | .recoverOrphaned =>
      { w with state := (recoverOrphanedCommandExecutionsTransition w.state).stateFrom w.state }

/-- The clock readings of an action do not go back. -/
def ClockAdvances (w : CommandJournal) : CommandAction → Prop
  | .pull _ _ observedAt claimedAt => w.now ≤ observedAt ∧ observedAt ≤ claimedAt
  | .dispatchStarted _ now => w.now ≤ now
  | .prune now => w.now ≤ now
  | _ => True

instance (w : CommandJournal) : (action : CommandAction) → Decidable (w.ClockAdvances action)
  | .pull _ _ observedAt claimedAt =>
      inferInstanceAs (Decidable (w.now ≤ observedAt ∧ observedAt ≤ claimedAt))
  | .dispatchStarted _ now => inferInstanceAs (Decidable (w.now ≤ now))
  | .prune now => inferInstanceAs (Decidable (w.now ≤ now))
  | .outcomeUnknown _ => inferInstanceAs (Decidable True)
  | .terminalReceiptBlocked _ _ => inferInstanceAs (Decidable True)
  | .terminalReceipt _ _ _ => inferInstanceAs (Decidable True)
  | .receiptOutbox _ _ => inferInstanceAs (Decidable True)
  | .recoverOrphaned => inferInstanceAs (Decidable True)

/-- The envelope that an action pulls is one of those that were issued. -/
def PullsIssued (issued : EncryptedCommandEnvelopeV1 → Prop) : CommandAction → Prop
  | .pull _ command _ _ => issued command
  | _ => True

end CommandJournal

/-- One step of a run: the action pulls issued envelopes only, and time does not go back.
The same envelope may be pulled again, at any later time and in any order. -/
structure CommandStep (crypto : NodeCrypto) (issued : EncryptedCommandEnvelopeV1 → Prop)
    (w : CommandJournal) (action : CommandAction) (w' : CommandJournal) : Prop where
  clock : w.ClockAdvances action
  issuedOnly : CommandJournal.PullsIssued issued action
  effect : w' = w.apply crypto action

/-- The journal before the first command. -/
def CommandJournal.start (state : PersistedBridgeState) (now : CanonicalTimestamp) :
    CommandJournal :=
  ⟨state, now, [], []⟩

end Ariava.Daemon
