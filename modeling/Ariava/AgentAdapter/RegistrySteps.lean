import Ariava.AgentAdapter.RegistryMoves

/-!
# `Ariava.AgentAdapter.RegistrySteps`: the registry refines leases and mailboxes

`RegistryStep.refines`: every step of the registry is a run of owner moves, or one step of the
mailboxes that leaves the leases alone. The theorem also says which actions such a move can
come from. An owner is lost only where `LosesOwner` says so, only `register` grants a lease, and
commands are enqueued, accepted and abandoned only by the actions of these names. The
properties of the registry are proved from this theorem.
-/

set_option autoImplicit false

namespace Ariava.AgentAdapter

open Ariava.Lib
open Ariava.Protocol
open Ariava.StateStore

/-! ### Where a move can come from -/

/-- The action takes a Session from the owner it has: the owner unregisters it, or the action
reads its lease after the time to live. -/
def RegistryAction.Loses {ω : Type} (checkedAt now : Nat) (sessionId : String)
    (session : RegisteredSession) : RegistryAction ω → Prop
  | .register input =>
      input.sessionId = sessionId ∧ LeaseLapsed session.lastOwnerLeaseMonotonic now
  | .request r =>
      r.sessionId = sessionId ∧ ∃ headers ∈ r.headers,
        LeaseLapsed session.lastOwnerLeaseMonotonic checkedAt ∨
          (r.operation = .unregister ∧
            headers = (session.driverInstanceId, session.ownerLease))
  | .listSessions => LeaseLapsed session.lastOwnerLeaseMonotonic now
  | _ => False

instance {ω : Type} (checkedAt now : Nat) (sessionId : String) (session : RegisteredSession) :
    (action : RegistryAction ω) → Decidable (action.Loses checkedAt now sessionId session)
  | .register _ => instDecidableAnd
  | .request _ => instDecidableAnd
  | .listSessions => Nat.decLt _ _
  | .enqueueCommand _ | .waitForResult _ _ | .waitTimerFires _ _ | .pollTimerFires _
  | .abandonCommand _ | .cancelCommandPolls _ | .terminalRetryTimerFires _ | .storeChanges _
  | .dispose => instDecidableFalse

/-- The action takes a Session from its owner. -/
def LosesOwner {ω : Type} (w : RegistryWorld ω) (a : TimedAction ω) (sessionId : String) : Prop :=
  ∃ session, w.registry.sessions.get? sessionId = some session ∧
    a.action.Loses a.checkedAt.monotonicNow a.at_.monotonicNow sessionId session

/-- The conditions under which an action moves the leases in a view. The parked polls are
still those before the action. -/
def OwnerArises {ω : Type} (w : RegistryWorld ω) (a : TimedAction ω) (v : RegistryView) :
    OwnerEvent → Prop
  | .grant sessionId tenure => ∃ input, a.action = .register input ∧
      input.sessionId = sessionId ∧ tenure.holder = input.driverInstanceId
  | .renew _ checkedAt _ => a.checkedAt.monotonicNow ≤ checkedAt
  | .release sessionId => LosesOwner w a sessionId ∧ v.mail.parked = w.view.mail.parked
  | .expire sessionId _ => LosesOwner w a sessionId ∧ v.mail.parked = w.view.mail.parked

/-- The actions that a step of the mailboxes comes from. A command is enqueued when the registry
takes it, and a result is accepted when it matches. -/
def MailArises {ω : Type} (w : RegistryWorld ω) (a : TimedAction ω) : CommandMailEvent → Prop
  | .grant _ _ => False
  | .lose _ => False
  | .enqueue command => a.action = .enqueueCommand command ∧
      (AgentAdapterRegistry.dispatchTarget w.registry command).isOk = true
  | .accept commandId result => ∃ request, a.action = .request request ∧
      request.operation = .result commandId result ∧
      (AgentAdapterRegistry.resultMatches w.registry commandId request.sessionId result).isSome
        = true
  | .abandon commandId => a.action = .abandonCommand commandId
  | _ => True

/-- A step of the mailboxes that the action gives rise to. The leases stay. -/
structure Mails {ω : Type} (a : TimedAction ω) (w w' : RegistryWorld ω) : Prop where
  leases : w'.leases = w.leases
  step : ∃ e, MailArises w a e ∧ MailStep commandScheme w.view.mail e w'.view.mail
  keys : SessionKeys w → SessionKeys w'

/-- What a step of the registry is: a run of owner moves, or a step of the mailboxes. -/
def Refines {ω : Type} (a : TimedAction ω) (w w' : RegistryWorld ω) : Prop :=
  Moves (OwnerArises w a) w w' ∨ Mails a w w'

/-! ### The command maps as mailboxes -/

namespace CommandTables

variable (owner : String → Option String) (t : CommandTables)

/-- The lists of a dictionary after one was written or deleted. -/
theorem getD_setOrDelete {α : Type} (d : Dict String (List α)) (key : String) (items : List α) :
    (fun k => ((setOrDelete d key items).get? k).getD [])
      = Function.update (fun k => (d.get? k).getD []) key items := by
  funext k
  rw [Function.update_apply, setOrDelete]
  by_cases hitems : items.isEmpty = true
  · rw [if_pos hitems, Dict.get?_erase]
    by_cases hk : k = key
    · rw [if_pos hk, if_pos hk, List.isEmpty_iff.mp hitems]
      rfl
    · rw [if_neg hk, if_neg hk]
  · rw [if_neg hitems, Dict.get?_set]
    by_cases hk : k = key
    · rw [if_pos hk, if_pos hk]
      rfl
    · rw [if_neg hk, if_neg hk]

/-- The lists of a dictionary after one was written. -/
theorem getD_set {α : Type} (d : Dict String (List α)) (key : String) (items : List α) :
    (fun k => ((d.set key items).get? k).getD [])
      = Function.update (fun k => (d.get? k).getD []) key items := by
  funext k
  rw [Function.update_apply, Dict.get?_set]
  by_cases hk : k = key
  · rw [if_pos hk, if_pos hk]
    rfl
  · rw [if_neg hk, if_neg hk]

/-- A recorded occurrence is noted. -/
theorem mail_record (occurrence : CommandOccurrence) :
    (t.record occurrence).mail owner = (t.mail owner).note occurrence.mailEntry.toList := by
  refine Mailbox.ext rfl rfl rfl rfl rfl rfl ?_
  show (occurrence :: t.occurrences).filterMap _ = occurrence.mailEntry.toList ++ _
  rw [List.filterMap_cons]
  rcases occurrence.mailEntry <;> rfl

/-- Binding a command binds its message. -/
theorem mail_bind (command : CommandEnvelope) (provider : String) :
    (t.bind command provider).mail owner
      = (t.mail owner).bindTo command.commandId command.sessionId := by
  refine Mailbox.ext rfl rfl rfl rfl (funext fun id => ?_) rfl rfl
  show ((t.commandSessions.set command.commandId _).get? id).map _
    = Function.update (t.mail owner).bound _ _ id
  rw [Dict.get?_set, Function.update_apply]
  by_cases hid : id = command.commandId
  · rw [if_pos hid, if_pos hid]
    rfl
  · rw [if_neg hid, if_neg hid]
    rfl

/-- A command that is put in flight is taken off. -/
theorem mail_addInFlight (command : CommandEnvelope) :
    (t.addInFlight command).mail owner
      = (t.mail owner).takeOff command.sessionId command.commandId := by
  refine Mailbox.ext rfl rfl rfl (funext fun k => funext fun id => ?_) rfl rfl rfl
  have hlists : (t.addInFlight command).inFlight = Function.update t.inFlight command.sessionId
      (if command.commandId ∈ t.inFlight command.sessionId then t.inFlight command.sessionId
        else t.inFlight command.sessionId ++ [command.commandId]) :=
    getD_set t.inFlightCommands command.sessionId _
  show (id ∈ (t.addInFlight command).inFlight k)
    = (id ∈ t.inFlight k ∨ (k = command.sessionId ∧ id = command.commandId))
  rw [hlists, Function.update_apply]
  by_cases hk : k = command.sessionId
  · subst hk
    by_cases hmem : command.commandId ∈ t.inFlight command.sessionId
    · have hid : id = command.commandId → id ∈ t.inFlight command.sessionId := fun h => h ▸ hmem
      simpa [hmem] using hid
    · simp [hmem]
  · rw [if_neg hk]
    simp [hk]

/-- A command that is removed from those in flight lands. -/
theorem mail_removeInFlight (sessionId commandId : String) :
    (t.removeInFlight sessionId commandId).mail owner
      = (t.mail owner).land sessionId commandId := by
  refine Mailbox.ext rfl rfl rfl (funext fun k => funext fun id => ?_) rfl rfl rfl
  show (id ∈ (t.removeInFlight sessionId commandId).inFlight k)
    = (id ∈ t.inFlight k ∧ ¬ (k = sessionId ∧ id = commandId))
  rcases hcurrent : t.inFlightCommands.get? sessionId with _ | current
  · have hnone : k = sessionId → id ∉ t.inFlight k := by
      rintro rfl
      rw [inFlight, hcurrent]
      simp
    have hsame : (t.removeInFlight sessionId commandId).inFlight = t.inFlight := by
      unfold removeInFlight
      rw [hcurrent]
    rw [hsame, eq_iff_iff]
    constructor
    · intro hmem
      exact ⟨hmem, fun h => hnone h.1 hmem⟩
    · exact And.left
  · have hinFlight : t.inFlight sessionId = current := by
      rw [inFlight, hcurrent]
      rfl
    have hlists : (t.removeInFlight sessionId commandId).inFlight
        = Function.update t.inFlight sessionId
          (current.filter fun other => decide (other ≠ commandId)) := by
      unfold removeInFlight
      rw [hcurrent]
      exact getD_setOrDelete t.inFlightCommands sessionId _
    rw [hlists, Function.update_apply]
    by_cases hk : k = sessionId
    · rw [if_pos hk, hk, hinFlight]
      simp
    · rw [if_neg hk]
      simp [hk]

/-- Writing a queue. -/
theorem mail_queue (sessionId : String) (commands : List CommandEnvelope) :
    CommandTables.mail owner { t with
        commandQueues := setOrDelete t.commandQueues sessionId commands }
      = (t.mail owner).setQueue sessionId commands :=
  Mailbox.ext rfl (getD_setOrDelete t.commandQueues sessionId commands) rfl rfl rfl rfl rfl

/-- Writing a queue that is not empty. -/
theorem mail_setQueue (sessionId : String) (commands : List CommandEnvelope) :
    CommandTables.mail owner { t with commandQueues := t.commandQueues.set sessionId commands }
      = (t.mail owner).setQueue sessionId commands :=
  Mailbox.ext rfl (getD_set t.commandQueues sessionId commands) rfl rfl rfl rfl rfl

/-- The parked polls after one was settled. -/
theorem waiters_settlePoll (poll : PollRequest) (command : Option CommandEnvelope) :
    (t.settlePoll poll command).waiters
      = Function.update t.waiters poll.sessionId ((t.waiters poll.sessionId).erase poll) :=
  getD_setOrDelete t.commandWaiters poll.sessionId _

/-- Writing the parked polls of a Session. -/
theorem mail_parked (sessionId : String) (polls : List PollRequest) :
    CommandTables.mail owner { t with
        commandWaiters := setOrDelete t.commandWaiters sessionId polls }
      = (t.mail owner).setParked sessionId polls :=
  Mailbox.ext rfl rfl (getD_setOrDelete t.commandWaiters sessionId polls) rfl rfl rfl rfl

/-- Settling a poll takes it from the parked polls and notes what it got. -/
theorem mail_settlePoll (poll : PollRequest) (command : Option CommandEnvelope) :
    (t.settlePoll poll command).mail owner
      = ((t.mail owner).setParked poll.sessionId ((t.waiters poll.sessionId).erase poll)).note
          (CommandOccurrence.pollSettled poll command).mailEntry.toList := by
  rw [← mail_parked, ← mail_record]
  rfl

/-- Settling the waiters of every command of a list without a result notes nothing. -/
theorem mail_settle_nones (ids : List String) :
    (ids.foldl (fun u id => u.settleResultWaiters id none) t).mail owner = t.mail owner := by
  induction ids generalizing t with
  | nil => rfl
  | cons commandId rest ih => rw [List.foldl_cons, ih, mail_settle_none]

/-- Settling the waiters of a command with a result notes their answers. -/
theorem mail_settle_some (commandId : String) (result : CommandResult) :
    ∃ waiters : List Unit, (t.settleResultWaiters commandId (some result)).mail owner
      = (t.mail owner).note (waiters.map fun _ => .answered commandId result) := by
  refine ⟨(t.waitsFor commandId).reverse.map fun _ => (), ?_⟩
  refine Mailbox.ext rfl rfl rfl rfl rfl rfl ?_
  show ((_ : List CommandOccurrence) ++ t.occurrences).filterMap _ = _ ++ t.occurrences.filterMap _
  rw [List.filterMap_append, ← List.map_reverse, List.filterMap_map, List.map_map]
  simp [Function.comp_def, CommandOccurrence.mailEntry]

end CommandTables

/-! ### The methods about commands -/

namespace AgentAdapterRegistry

section
variable {ω : Type} {a : TimedAction ω} {w : RegistryWorld ω} (text : ProtocolText)
  (store : RegistryStateStore ω) (at_ : RegistryReadings)

/-- A change of the command maps that is a step of the mailboxes. -/
theorem mails_of_commands {t : CommandTables} {e : CommandMailEvent} (harises : MailArises w a e)
    (hstep : MailStep commandScheme (w.registry.commands.mail (ownerOf w.leases)) e
      (t.mail (ownerOf w.leases))) :
    Mails a w (w.withCommands t) :=
  ⟨rfl, ⟨e, harises, hstep⟩, id⟩

/-- A change of the command maps that the mailboxes do not see. -/
theorem moves_of_commands {A : RegistryView → OwnerEvent → Prop} {t : CommandTables}
    (hsame : t.mail (ownerOf w.leases) = w.registry.commands.mail (ownerOf w.leases)) :
    Moves A w (w.withCommands t) :=
  .of_view (congrArg (RegistryView.mk w.leases) hsame) id

/-- A change of the command maps that only ends polls, without a command. -/
theorem mails_unpark {t : CommandTables}
    (hparked : ∀ k, ∀ poll ∈ t.waiters k, poll ∈ w.registry.commands.waiters k)
    (hrest : t.mail (ownerOf w.leases)
      = { w.registry.commands.mail (ownerOf w.leases) with parked := t.waiters }) :
    Mails a w (w.withCommands t) := by
  refine mails_of_commands (e := .unpark) trivial ?_
  rw [hrest]
  exact MailStep.unpark hparked

theorem mails_pollTimerFires (poll : PollRequest) :
    Mails a w ((pollTimerFires poll).run w).2 := by
  refine mails_unpark (fun k other hother => ?_) ?_
  · dsimp only at hother
    split at hother
    · -- The poll that is settled leaves the list of its Session.
      rw [CommandTables.waiters_settlePoll, Function.update_apply] at hother
      by_cases hk : k = poll.sessionId
      · rw [if_pos hk] at hother
        exact hk ▸ List.mem_of_mem_erase hother
      · rw [if_neg hk] at hother
        exact hother
    · exact hother
  · dsimp only
    split
    · rw [CommandTables.mail_settlePoll, CommandTables.waiters_settlePoll]
      rfl
    · rfl

/-- No answer of a cancelled poll is a delivery. -/
theorem cancelledPolls_log (cancelled : List PollRequest) (occurrences : List CommandOccurrence) :
    ((cancelled.map fun poll => CommandOccurrence.pollSettled poll none).reverse
      ++ occurrences).filterMap CommandOccurrence.mailEntry
      = occurrences.filterMap CommandOccurrence.mailEntry := by
  rw [List.filterMap_append, List.filterMap_reverse, List.filterMap_map]
  simp [Function.comp_def, CommandOccurrence.mailEntry]

theorem mails_cancelCommandPolls (sessionId : Option String) :
    Mails a w ((cancelCommandPolls sessionId).run w).2 := by
  refine mails_unpark (fun k poll hpoll => ?_)
    (Mailbox.ext rfl rfl rfl rfl rfl rfl (cancelledPolls_log _ _))
  rcases sessionId with _ | id
  · exact absurd hpoll (by simp [CommandTables.waiters])
  · change poll ∈ ((w.registry.commands.commandWaiters.erase id).get? k).getD [] at hpoll
    rw [Dict.get?_erase] at hpoll
    by_cases hk : k = id
    · rw [if_pos hk] at hpoll
      exact absurd hpoll (by simp)
    · rw [if_neg hk] at hpoll
      exact hpoll

theorem moves_waitTimerFires {A : RegistryView → OwnerEvent → Prop} (token : Nat)
    (commandId : String) : Moves A w ((waitTimerFires token commandId).run w).2 := by
  refine moves_of_commands ?_
  dsimp only
  split <;> rfl

/-- `waitForResult` answers from a stored result, or parks the waiter. -/
theorem refines_waitForResult (token : Nat) (commandId : String) :
    Refines a w ((waitForResult token commandId).run w).2 := by
  unfold waitForResult
  rw [Effect.run_bind, run_read, Effect.next_ok]
  split
  · refine Or.inl (moves_of_commands ?_)
    exact CommandTables.mail_record _ _ _
  · split
    · rename_i result hresult
      refine Or.inr (mails_of_commands (e := .answer commandId result) trivial ?_)
      rw [CommandTables.mail_record]
      exact MailStep.answer hresult
    · exact Or.inl (moves_of_commands rfl)

/-- What `dispatchTarget` checks. -/
theorem dispatchTarget_ok {registry : AgentAdapterRegistry} {command : CommandEnvelope}
    {session : RegisteredSession} (hok : dispatchTarget registry command = .ok session) :
    registry.sessions.get? command.sessionId = some session := by
  unfold dispatchTarget at hok
  split at hok
  · exact absurd hok (by simp)
  · split at hok
    · exact absurd hok (by simp)
    · rename_i found hfound
      split at hok
      · rw [hfound, Except.ok.inj hok]
      · exact absurd hok (by simp)

/-- `markCommandInFlight` of a command for a registered Session. -/
theorem run_markCommandInFlight {command : CommandEnvelope} {session : RegisteredSession}
    (hsession : w.registry.sessions.get? command.sessionId = some session) (t : CommandTables) :
    (markCommandInFlight command).run (w.withCommands t)
      = (.ok (), w.withCommands ((t.bind command session.provider).addInFlight command)) := by
  unfold markCommandInFlight
  rw [Effect.run_bind, run_read, Effect.next_ok, RegistryWorld.withCommands_sessions, hsession]
  rfl

/-- `enqueueCommand` refuses the command, or enqueues it. -/
theorem refines_enqueueCommand {command : CommandEnvelope}
    (ha : a.action = .enqueueCommand command) (haddressed : Addressed commandScheme w.view.mail) :
    Refines a w ((enqueueCommand command).run w).2 := by
  unfold enqueueCommand
  rw [Effect.run_bind, run_read, Effect.next_ok, Effect.run_bind, Effect.run_ofExcept]
  rcases htarget : dispatchTarget w.registry command with thrown | session
  · exact Or.inl (Moves.refl w)
  rw [Effect.next_ok, Effect.run_bind, run_setCommands, Effect.next_ok]
  have hsession := dispatchTarget_ok htarget
  have howner : ownerOf w.leases command.sessionId ≠ none := by
    show (w.leases.held command.sessionId).map _ ≠ none
    rw [held_of_get hsession]
    simp
  refine Or.inr ?_
  rcases hwaiters : w.registry.commands.waiters command.sessionId with _ | ⟨poll, rest⟩
  · -- Nothing is parked, so the command is queued.
    dsimp only
    rw [run_setCommands]
    simp only [RegistryWorld.withCommands_commands, RegistryWorld.withCommands_withCommands]
    refine mails_of_commands (e := .enqueue command) ⟨ha, by rw [htarget]; rfl⟩ ?_
    refine Eq.subst (motive := fun m => MailStep commandScheme _ _ m) ?_
      (MailStep.enqueue (x := command) howner)
    refine Eq.symm (Eq.trans (CommandTables.mail_setQueue _ _ _ _) ?_)
    rw [CommandTables.mail_record, CommandTables.mail_bind]
    rfl
  · -- The oldest parked poll gets the command. Settling it leaves the other ones.
    have hpoll : poll.sessionId = command.sessionId :=
      haddressed.parked command.sessionId poll (by
        show poll ∈ w.registry.commands.waiters command.sessionId
        rw [hwaiters]
        exact List.mem_cons_self ..)
    dsimp only
    rw [Effect.run_bind, run_setCommands, Effect.next_ok, Effect.run_bind,
      RegistryWorld.withCommands_withCommands, run_markCommandInFlight hsession, Effect.next_ok,
      run_setCommands]
    simp only [RegistryWorld.withCommands_commands, RegistryWorld.withCommands_withCommands]
    refine mails_of_commands (e := .enqueue command) ⟨ha, by rw [htarget]; rfl⟩ ?_
    refine Eq.subst (motive := fun m => MailStep commandScheme _ _ m) ?_
      (MailStep.enqueueParked (x := command) howner hwaiters (List.erase_subset (a := poll)))
    refine Eq.symm (Eq.trans (CommandTables.mail_settlePoll _ _ _ _) ?_)
    rw [CommandTables.mail_addInFlight, CommandTables.mail_bind, CommandTables.mail_parked,
      CommandTables.mail_record, CommandTables.mail_bind, hpoll]
    have hleft : ((CommandTables.setOrDelete w.registry.commands.commandWaiters command.sessionId
        rest).get? command.sessionId).getD [] = rest :=
      (congrFun (CommandTables.getD_setOrDelete _ command.sessionId rest) command.sessionId).trans
        (Function.update_self ..)
    refine Mailbox.ext rfl rfl ?_ rfl rfl rfl rfl
    show Function.update (Function.update w.registry.commands.waiters command.sessionId rest)
      command.sessionId (List.erase (Option.getD _ []) poll) = _
    rw [Function.update_idem]
    exact congrArg (fun left : List PollRequest =>
      Function.update w.registry.commands.waiters command.sessionId (left.erase poll)) hleft

/-- `dequeueCommand`, for a poll of the current owner, hands over a queued command, parks the
poll, or ends it without a command. -/
theorem refines_dequeueCommand (poll : PollRequest) {session : RegisteredSession}
    (hsession : w.registry.sessions.get? poll.sessionId = some session)
    (hlease : session.ownerLease = poll.ownerLease)
    (haddressed : Addressed commandScheme w.view.mail) (timeoutMs : Nat) :
    Refines a w ((dequeueCommand poll timeoutMs).run w).2 := by
  have howner : ownerOf w.leases poll.sessionId = some poll.ownerLease := by
    show (w.leases.held poll.sessionId).map _ = _
    rw [held_of_get hsession, ← hlease]
    rfl
  unfold dequeueCommand
  rw [Effect.run_bind, run_read, Effect.next_ok]
  split
  · refine Or.inl (moves_of_commands ?_)
    exact CommandTables.mail_record _ _ _
  rcases hqueue : w.registry.commands.queue poll.sessionId with _ | ⟨command, rest⟩
  · dsimp only
    split
    · refine Or.inl (moves_of_commands ?_)
      exact CommandTables.mail_record _ _ _
    · refine Or.inr (mails_of_commands (e := .park poll) trivial ?_)
      refine Eq.subst (motive := fun m => MailStep commandScheme _ _ m) ?_
        (MailStep.park (p := poll) howner)
      exact Mailbox.ext rfl rfl (CommandTables.getD_set _ poll.sessionId _).symm rfl rfl rfl rfl
  · -- A queued command is for the Session whose queue it is in.
    have hcommand : command.sessionId = poll.sessionId :=
      haddressed.queue poll.sessionId command (by
        show command ∈ w.registry.commands.queue poll.sessionId
        rw [hqueue]
        exact List.mem_cons_self ..)
    have htarget : w.registry.sessions.get? command.sessionId = some session := by
      rw [hcommand]
      exact hsession
    dsimp only
    rw [Effect.run_bind, run_setCommands, Effect.next_ok, Effect.run_bind,
      run_markCommandInFlight htarget, Effect.next_ok, run_setCommands]
    simp only [RegistryWorld.withCommands_commands, RegistryWorld.withCommands_withCommands]
    refine Or.inr (mails_of_commands (e := .handOver poll command) trivial ?_)
    refine Eq.subst (motive := fun m => MailStep commandScheme _ _ m) ?_
      (MailStep.handOver (p := poll) howner hqueue)
    rw [CommandTables.mail_record, CommandTables.mail_addInFlight, CommandTables.mail_bind,
      CommandTables.mail_queue]
    rfl

/-- Parsing a result does not change it. -/
theorem parseAgentAdapterCommandResult_ok {value result : CommandResult}
    (hparse : parseAgentAdapterCommandResult value = .ok result) : result = value := by
  unfold parseAgentAdapterCommandResult throwIf at hparse
  split at hparse
  · exact absurd hparse (by simp [Bind.bind, Except.bind])
  · exact (Except.ok.inj hparse).symm

/-- What a match of `resolveCommand` says. -/
theorem resultMatches_some {registry : AgentAdapterRegistry} {commandId sessionId : String}
    {result : CommandResult} {binding : CommandBinding}
    (hmatch : resultMatches registry commandId sessionId result = some binding) :
    registry.commands.commandSessions.get? commandId = some binding ∧
      binding.sessionId = sessionId ∧ result.commandId = commandId ∧
      registry.sessions.contains sessionId = true := by
  unfold resultMatches at hmatch
  split at hmatch
  · rename_i found session hbinding hsession
    split at hmatch
    · rename_i hchecks
      obtain ⟨hid, hresult, -, hbound, -⟩ := hchecks
      cases hmatch
      refine ⟨hbinding, hbound.trans hresult.symm, hid.symm, ?_⟩
      rw [Dict.contains_eq_true]
      exact ⟨session, hsession⟩
    · exact absurd hmatch (by simp)
  · exact absurd hmatch (by simp)

/-- A change of the command maps that is a step of the mailboxes, and then something
quiet. -/
theorem mails_of_quiet {t : CommandTables} {v : RegistryWorld ω} {e : CommandMailEvent}
    (hquiet : Quiet (w.withCommands t) v) (harises : MailArises w a e)
    (hstep : MailStep commandScheme (w.registry.commands.mail (ownerOf w.leases)) e
      (t.mail (ownerOf w.leases))) :
    Mails a w v := by
  refine ⟨hquiet.leases, ⟨e, harises, ?_⟩, fun hkeys => hquiet.keys hkeys⟩
  rw [hquiet.view]
  exact hstep

/-- A change of the command maps that is a step of the mailboxes, with something quiet in
between. -/
theorem mails_after_quiet {t t' : CommandTables} {v : RegistryWorld ω} {e : CommandMailEvent}
    (hquiet : Quiet (w.withCommands t) v) (harises : MailArises w a e)
    (hstep : MailStep commandScheme (w.registry.commands.mail (ownerOf w.leases)) e
      (t'.mail (ownerOf w.leases))) :
    Mails a w (v.withCommands t') := by
  refine ⟨hquiet.leases, ⟨e, harises, ?_⟩, fun hkeys => hquiet.keys hkeys⟩
  show MailStep commandScheme _ e (t'.mail (ownerOf v.leases))
  rw [hquiet.leases]
  exact hstep

/-- `clearCommandInFlight` removes the command from those in flight, and the rest is quiet. -/
theorem quiet_clearCommandInFlight (sessionId commandId : String) (t : CommandTables) :
    Quiet (w.withCommands (t.removeInFlight sessionId commandId))
      ((clearCommandInFlight text store at_ sessionId commandId).run (w.withCommands t)).2 :=
  quiet_flushDelayedTerminalEvent text store at_ sessionId _

/-- `clearCommandInFlight` of a registered Session does not throw. -/
theorem clearCommandInFlight_ok {sessionId : String} (commandId : String) (t : CommandTables)
    (hregistered : w.registry.sessions.contains sessionId = true) :
    ((clearCommandInFlight text store at_ sessionId commandId).run (w.withCommands t)).1
      = .ok () :=
  flushDelayedTerminalEvent_ok text store at_ (w := w.withCommands _) hregistered

/-- `resolveCommand` refuses the result, or accepts it. -/
theorem refines_resolveCommand {commandId sessionId : String} {value : CommandResult}
    (ha : (resultMatches w.registry commandId sessionId value).isSome = true →
      MailArises w a (.accept commandId value)) :
    Refines a w ((resolveCommand text store at_ commandId value sessionId).run w).2 := by
  unfold resolveCommand
  rw [Effect.run_bind, Effect.run_ofExcept]
  rcases hparse : parseAgentAdapterCommandResult value with thrown | result
  · exact Or.inl (Moves.refl w)
  cases parseAgentAdapterCommandResult_ok hparse
  rw [Effect.next_ok, Effect.run_bind, run_read, Effect.next_ok]
  split
  · exact Or.inl (Moves.refl w)
  rcases hmatch : resultMatches w.registry commandId sessionId value with _ | binding
  · exact Or.inl (Moves.refl w)
  obtain ⟨hbinding, hsession, hid, hregistered⟩ := resultMatches_some hmatch
  dsimp only
  rw [Effect.run_bind, run_setCommands, Effect.next_ok, Effect.run_bind]
  rw [hsession]
  -- The flush in `clearCommandInFlight` changes nothing that the mailboxes show.
  generalize ht : ({ w.registry.commands with
    results := w.registry.commands.results.set commandId value
    occurrences := .resultAccepted commandId value :: w.registry.commands.occurrences } :
      CommandTables) = t
  have hok := clearCommandInFlight_ok text store at_ commandId t hregistered
  have hquiet := quiet_clearCommandInFlight (w := w) text store at_ sessionId commandId t
  rcases hclear : (clearCommandInFlight text store at_ sessionId commandId).run
    (w.withCommands t) with ⟨r, v⟩
  rw [hclear] at hok hquiet
  cases hok
  rw [Effect.next_ok, run_setCommands, hquiet.commands]
  refine Or.inr (mails_after_quiet hquiet (ha (by rw [hmatch]; rfl)) ?_)
  obtain ⟨waiters, hwaiters⟩ := CommandTables.mail_settle_some (ownerOf w.leases)
    (t.removeInFlight sessionId commandId) commandId value
  have hbound : (w.registry.commands.mail (ownerOf w.leases)).bound commandId = some sessionId := by
    show (w.registry.commands.commandSessions.get? commandId).map _ = _
    rw [hbinding, Option.map_some, hsession]
  have hstep : MailStep commandScheme (w.registry.commands.mail (ownerOf w.leases))
      (.accept commandId value)
      ((w.registry.commands.mail (ownerOf w.leases)).acceptResult sessionId commandId value
        waiters) := .accept hbound hid
  refine Eq.subst (motive := fun m => MailStep commandScheme _ _ m) ?_ hstep
  rw [CommandTables.mail_unbind, RegistryWorld.withCommands_commands, hwaiters,
    CommandTables.mail_removeInFlight]
  subst ht
  refine Mailbox.ext rfl rfl rfl rfl rfl (funext fun id => ?_) (List.append_assoc ..)
  show Function.update w.registry.commands.results.get? commandId (some value) id
    = (w.registry.commands.results.set commandId value).get? id
  rw [Function.update_apply, Dict.get?_set]

/-- `abandonCommand` abandons the command. When the flush throws, the command stays bound. -/
theorem mails_abandonCommand {commandId : String} (ha : a.action = .abandonCommand commandId) :
    Mails a w ((abandonCommand text store at_ commandId).run w).2 := by
  unfold abandonCommand
  rw [Effect.run_bind, run_setCommands, Effect.next_ok, Effect.run_bind, run_read, Effect.next_ok]
  have hrecord := CommandTables.mail_record (ownerOf w.leases) w.registry.commands
    (.abandoned commandId)
  rcases hbinding : w.registry.commands.commandSessions.get? commandId with _ | binding
  · have hbound : (w.registry.commands.mail (ownerOf w.leases)).bound commandId = none := by
      show (w.registry.commands.commandSessions.get? commandId).map _ = _
      rw [hbinding]
      rfl
    rw [show (w.withCommands (w.registry.commands.record (.abandoned commandId))
      ).registry.commands.commandSessions.get? commandId = none from hbinding]
    refine mails_of_commands (e := .abandon commandId) ha ?_
    rw [hrecord]
    exact MailStep.abandonUnbound hbound
  · have hbound : (w.registry.commands.mail (ownerOf w.leases)).bound commandId
        = some binding.sessionId := by
      show (w.registry.commands.commandSessions.get? commandId).map _ = _
      rw [hbinding]
      rfl
    rw [show (w.withCommands (w.registry.commands.record (.abandoned commandId))
      ).registry.commands.commandSessions.get? commandId = some binding from hbinding]
    dsimp only
    rw [Effect.run_bind, run_setCommands, Effect.next_ok, Effect.run_bind,
      RegistryWorld.withCommands_withCommands, RegistryWorld.withCommands_commands]
    generalize ht : ({ w.registry.commands.record (.abandoned commandId) with
      results := (w.registry.commands.record (.abandoned commandId)).results.erase commandId } :
        CommandTables) = t
    have hquiet := quiet_clearCommandInFlight (w := w) text store at_ binding.sessionId commandId t
    have hlanded : (t.removeInFlight binding.sessionId commandId).mail (ownerOf w.leases)
        = (((w.registry.commands.mail (ownerOf w.leases)).setResult commandId none).land
          binding.sessionId commandId).note [.abandoned commandId] := by
      rw [CommandTables.mail_removeInFlight]
      subst ht
      refine Mailbox.ext rfl rfl rfl rfl rfl (funext fun id => ?_) rfl
      show (w.registry.commands.results.erase commandId).get? id
        = Function.update w.registry.commands.results.get? commandId none id
      rw [Function.update_apply, Dict.get?_erase]
    rcases hclear : (clearCommandInFlight text store at_ binding.sessionId commandId).run
      (w.withCommands t) with ⟨r, v⟩
    rw [hclear] at hquiet
    cases r with
    | error thrown =>
      refine mails_of_quiet (e := .abandon commandId) hquiet ha ?_
      rw [hlanded]
      exact MailStep.abandon hbound (Or.inl rfl)
    | ok _ =>
      rw [Effect.next_ok, run_setCommands, hquiet.commands]
      refine mails_after_quiet (e := .abandon commandId) hquiet ha ?_
      rw [CommandTables.mail_unbind, CommandTables.mail_settle_none,
        RegistryWorld.withCommands_commands, hlanded]
      exact MailStep.abandon hbound (Or.inr rfl)

/-- `dispose` clears the mailboxes, unless they were. -/
theorem refines_dispose : Refines a w ((dispose : RegistryEffect ω Unit).run w).2 := by
  unfold dispose
  rw [Effect.run_bind, run_read, Effect.next_ok]
  split
  · exact Or.inl (Moves.refl w)
  refine Or.inr ⟨rfl, ⟨.clear, trivial, ?_⟩, id⟩
  refine Eq.subst (motive := fun m => MailStep commandScheme _ _ m) ?_ MailStep.clear
  -- Ending the polls and the waits shows in the mailboxes as polls that are gone.
  have hpolls := cancelledPolls_log w.registry.commands.commandWaiters.values.flatten
    w.registry.commands.occurrences
  have hwaits := CommandTables.mail_settle_nones (ownerOf w.leases)
    { w.registry.commands with
      commandWaiters := ∅
      occurrences := (w.registry.commands.commandWaiters.values.flatten.map fun poll =>
        CommandOccurrence.pollSettled poll none).reverse ++ w.registry.commands.occurrences }
    w.registry.commands.resultWaiters.keys
  have hparked := congrArg Mailbox.parked hwaits
  have hlog := (congrArg Mailbox.log hwaits).trans hpolls
  refine Mailbox.ext rfl rfl hparked.symm (funext fun k => funext fun id => ?_) rfl rfl hlog.symm
  show False = (id ∈ Option.getD (Dict.get? ∅ k) [])
  simp

/-! ### Owner routes -/

/-- What the owner check of a route does: it refuses and changes nothing, it loses a lapsed
owner and refuses, or it accepts the current owner. -/
theorem assertCurrentOwner_cases (sessionId driverInstanceId ownerLease : String) :
    ((∃ thrown, (assertCurrentOwner text store at_ sessionId driverInstanceId ownerLease).run w
        = (.error thrown, w)) ∨
      (∃ session, w.registry.sessions.get? sessionId = some session ∧
        LeaseLapsed session.lastOwnerLeaseMonotonic at_.monotonicNow ∧
        (∃ thrown, ((assertCurrentOwner text store at_ sessionId driverInstanceId
          ownerLease).run w).1 = .error thrown) ∧
        ((assertCurrentOwner text store at_ sessionId driverInstanceId ownerLease).run w).2
          = ((loseOwnership text store at_ session .ttl).run w).2)) ∨
      ∃ session, w.registry.sessions.get? sessionId = some session ∧
        ¬ LeaseLapsed session.lastOwnerLeaseMonotonic at_.monotonicNow ∧
        session.driverInstanceId = driverInstanceId ∧ session.ownerLease = ownerLease ∧
        (assertCurrentOwner text store at_ sessionId driverInstanceId ownerLease).run w
          = (.ok (), w) := by
  unfold assertCurrentOwner
  rw [Effect.run_bind, run_read, Effect.next_ok]
  rcases hsession : w.registry.sessions.get? sessionId with _ | session
  · exact Or.inl (Or.inl ⟨_, rfl⟩)
  dsimp only
  split
  · rename_i hexpired
    refine Or.inl (Or.inr ⟨session, rfl, leaseExpired_iff.mp hexpired, ?_, ?_⟩)
    all_goals
      rw [Effect.run_bind]
      rcases (loseOwnership text store at_ session .ttl).run w with ⟨r, v⟩
    · cases r <;> exact ⟨_, rfl⟩
    · cases r <;> rfl
  · rename_i hexpired
    split
    · exact Or.inl (Or.inl ⟨_, rfl⟩)
    · rename_i howner
      rw [not_or, not_not, not_not] at howner
      exact Or.inr ⟨session, rfl, fun h => hexpired (leaseExpired_iff.mpr h), howner.1, howner.2,
        rfl⟩

end

end AgentAdapterRegistry

namespace AgentAdapterServer

open AgentAdapterRegistry

section
variable {ω : Type} {a : TimedAction ω} {w : RegistryWorld ω} (text : ProtocolText)
  (store : RegistryStateStore ω)

/-- The method of an owner route, after the owner check. -/
theorem refines_performOperation {request : OwnerRequest} {headers : String × String}
    {session : RegisteredSession} (ha : a.action = .request request)
    (hheaders : request.headers = some headers)
    (hsession : w.registry.sessions.get? request.sessionId = some session)
    (hlive : ¬ LeaseLapsed session.lastOwnerLeaseMonotonic a.checkedAt.monotonicNow)
    (hinstance : session.driverInstanceId = headers.1) (hlease : session.ownerLease = headers.2)
    (hkeys : SessionKeys w) (haddressed : Addressed commandScheme w.view.mail) :
    Refines a w ((performOperation text store a.at_ request.sessionId headers.2
      request.operation).run w).2 := by
  have hid : session.sessionId = request.sessionId := hkeys _ _ hsession
  rcases hoperation : request.operation with _ | event | handle | input | ⟨id, timeoutMs⟩ |
    ⟨commandId, value⟩ | message
  · -- The current owner unregisters.
    have hloses : LosesOwner w a request.sessionId := by
      refine ⟨session, hsession, ?_⟩
      rw [ha]
      exact ⟨rfl, headers, hheaders, Or.inr ⟨hoperation, Prod.ext hinstance.symm hlease.symm⟩⟩
    left
    unfold performOperation unregister
    refine Moves.bind_at ?_ fun _ _ => Moves.refl _
    rw [Effect.run_bind, run_read, Effect.next_ok, hsession]
    refine Moves.bind_at ?_ fun _ _ => Moves.refl _
    refine (sheds_loseOwnership text store a.at_ (e := .release session.sessionId) rfl
      LeaseStep.release ?_ .unregister).moves
    exact ⟨hid.symm ▸ hloses, rfl⟩
  · exact Or.inl (Moves.bind_at (.of_quiet (quiet_pushEventSource text store a.at_ _ _ w))
      fun _ _ => Moves.refl _)
  · exact Or.inl (.of_quiet (quiet_handleSession store a.at_ _ _ w))
  · exact Or.inl (Moves.bind_at (moves_heartbeat text store a.at_ input hsession hkeys hlive
      fun _ => Nat.le_refl _) fun _ _ => Moves.refl _)
  · exact refines_dequeueCommand ⟨id, request.sessionId, headers.2⟩ hsession hlease
      haddressed timeoutMs
  · unfold performOperation submitResult
    rw [Effect.run_bind, run_read, Effect.next_ok]
    split
    · exact Or.inl (Moves.refl w)
    · split
      · exact Or.inl (Moves.refl w)
      · rename_i result hparse
        cases parseAgentAdapterCommandResult_ok hparse
        split
        · exact Or.inl (Moves.refl w)
        · exact refines_resolveCommand text store a.at_
            fun hmatch => ⟨request, ha, hoperation, hmatch⟩
  · exact Or.inl (Moves.refl w)

/-- An owner route: the check refuses, or loses a lapsed owner, or the method runs. -/
theorem refines_handleOwnerRequest {request : OwnerRequest} (ha : a.action = .request request)
    (hkeys : SessionKeys w) (haddressed : Addressed commandScheme w.view.mail) :
    Refines a w ((handleOwnerRequest text store a.checkedAt a.at_ request).run w).2 := by
  unfold handleOwnerRequest requireCurrentOwner
  rcases hheaders : request.headers with _ | headers
  · exact Or.inl (Moves.refl w)
  dsimp only
  rw [Effect.run_bind, Effect.run_bind]
  rcases assertCurrentOwner_cases (w := w) text store a.checkedAt request.sessionId headers.1
    headers.2 with (⟨thrown, hrun⟩ | ⟨session, hsession, hexpired, ⟨thrown, hthrown⟩, hfinal⟩) |
    ⟨session, hsession, hlive, hinstance, hlease, hrun⟩
  · rw [hrun]
    exact Or.inl (Moves.refl w)
  · left
    have hid : session.sessionId = request.sessionId := hkeys _ _ hsession
    have hloses : LosesOwner w a session.sessionId := by
      refine ⟨session, hid ▸ hsession, ?_⟩
      rw [ha]
      exact ⟨hid.symm, headers, hheaders, Or.inl hexpired⟩
    have hsheds := sheds_expired (A := OwnerArises w a) text store a.checkedAt
      (hid ▸ held_of_get hsession) hexpired ⟨hloses, rfl⟩ .ttl
    rcases hrun : (assertCurrentOwner text store a.checkedAt request.sessionId headers.1
      headers.2).run w with ⟨r, v⟩
    rw [hrun] at hthrown hfinal
    cases hthrown
    cases hfinal
    exact hsheds.moves
  · rw [hrun]
    exact refines_performOperation text store ha hheaders hsession hlive hinstance hlease hkeys
      haddressed

end

end AgentAdapterServer

/-! ### Every step -/

section
variable {ω : Type} {text : ProtocolText} {store : RegistryStateStore ω}
  {s s' : RegistrySystem ω} {a : TimedAction ω}

open AgentAdapterRegistry

/-- Every step of the registry is a run of owner moves, or one step of the mailboxes. -/
theorem RegistryStep.refines (hstep : RegistryStep text store s a s')
    (hkeys : SessionKeys s.world) (haddressed : Addressed commandScheme s.world.view.mail) :
    Refines a s.world s'.world := by
  rw [hstep.world]
  have hfresh := hstep.freshLease
  have hclock := hstep.clock
  generalize s.world = w at hkeys haddressed hfresh ⊢
  rcases ha : a.action with input | request | _ | command | ⟨token, commandId⟩ |
    ⟨token, commandId⟩ | poll | commandId | sessionId | sessionId | next | _
  · left
    refine Moves.bind_at (moves_register text store a.at_ hkeys hfresh (fun _ tenure hholder => ?_)
      (fun _ => ?_) fun live hlive hexpired => ?_) fun _ _ => Moves.refl _
    · exact ⟨input, ha, rfl, hholder⟩
    · exact hclock.2
    · refine ⟨⟨live, hlive, ?_⟩, rfl⟩
      rw [ha]
      exact ⟨rfl, hexpired⟩
  · exact AgentAdapterServer.refines_handleOwnerRequest text store ha hkeys haddressed
  · left
    refine Moves.bind_at (moves_listSessions text store a.at_ hkeys
      fun v id session hsession hexpired hparked => ?_) fun _ _ => Moves.refl _
    refine ⟨⟨session, hsession, ?_⟩, hparked⟩
    rw [ha]
    exact hexpired
  · exact refines_enqueueCommand ha haddressed
  · exact refines_waitForResult token commandId
  · exact Or.inl (moves_waitTimerFires token commandId)
  · exact Or.inr (mails_pollTimerFires poll)
  · exact Or.inr (mails_abandonCommand text store a.at_ ha)
  · exact Or.inr (mails_cancelCommandPolls sessionId)
  · exact Or.inl (.of_quiet (quiet_terminalRetryTimerFires text store a.at_ sessionId w))
  · exact Or.inl (.of_quiet ⟨rfl, rfl, rfl, id⟩)
  · exact refines_dispose

end

end Ariava.AgentAdapter
