import Ariava.AgentAdapter.RegistryInvariants

/-!
# `Ariava.Proofs.CommandDelivery`: what happens to a command

Three properties of the steps of the registry, each for every step of every run.

- `ExclusiveDelivery`: a command is delivered at most once, to a poll of the current owner, and a
  lost owner has no poll left.
- `AbandonmentIsFinal`: an abandoned command is not delivered any more, and is not pending.
- `ResultIntegrity`: a result is accepted after the delivery of its command to the current
  owner, once, and waiters get that result or none.

None of them holds in every run. `loseOwnership` leaves the parked polls of the lost owner,
`abandonCommand` leaves a queued command in its queue, and `resolveCommand` does not ask whether
the command was delivered. Each property holds in the runs whose steps avoid the defect, and
these conditions (`NoPollLost`, `AbandonsKnown`, `AcceptsKnown`) are read off the state before
the step.
-/

set_option autoImplicit false

namespace Ariava.Proofs

open Ariava.Lib
open Ariava.Protocol
open Ariava.StateStore
open Ariava.AgentAdapter

section
variable {ω : Type}

/-! ### What has happened -/

/-- The commands that were enqueued, newest first. -/
def enqueuedCommands (w : RegistryWorld ω) : List CommandEnvelope :=
  w.registry.commands.occurrences.filterMap fun
    | .enqueued command => some command
    | _ => none

/-- The polls that were settled with a command, newest first. -/
def deliveries (w : RegistryWorld ω) : List (PollRequest × CommandEnvelope) :=
  w.registry.commands.occurrences.filterMap fun
    | .pollSettled poll (some command) => some (poll, command)
    | _ => none

/-- The results that were accepted, newest first. -/
def acceptedResults (w : RegistryWorld ω) : List (String × CommandResult) :=
  w.registry.commands.occurrences.filterMap fun
    | .resultAccepted commandId result => some (commandId, result)
    | _ => none

/-- The commands that were abandoned, newest first. -/
def abandonedCommands (w : RegistryWorld ω) : List String :=
  w.registry.commands.occurrences.filterMap fun
    | .abandoned commandId => some commandId
    | _ => none

/-- The results that the waiters of a command got, newest first. -/
def waiterResults (w : RegistryWorld ω) : List (String × CommandResult) :=
  w.registry.commands.occurrences.filterMap fun
    | .waitSettled _ commandId (some result) => some (commandId, result)
    | _ => none

/-- The lease of the current owner of a Session. -/
def currentLease (w : RegistryWorld ω) (sessionId : String) : Option String :=
  (w.registry.sessions.get? sessionId).map fun session => session.ownerLease

section
variable (w : RegistryWorld ω)

/-- Reading the mail log is reading the occurrences. -/
theorem filterMap_log {β : Type}
    {f : MailEntry String CommandEnvelope PollRequest CommandResult → Option β}
    {g : CommandOccurrence → Option β} (h : ∀ occurrence, occurrence.mailEntry.bind f = g occurrence) :
    w.view.mail.log.filterMap f = w.registry.commands.occurrences.filterMap g := by
  show (w.registry.commands.occurrences.filterMap _).filterMap f = _
  rw [List.filterMap_filterMap]
  exact List.filterMap_congr fun occurrence _ => h occurrence

theorem view_sent : w.view.mail.sent = enqueuedCommands w :=
  filterMap_log w fun occurrence => by
    rcases occurrence with _ | ⟨_, _ | _⟩ | _ | ⟨_, _, _ | _⟩ | _ <;> rfl

theorem view_deliveries : w.view.mail.deliveries = deliveries w :=
  filterMap_log w fun occurrence => by
    rcases occurrence with _ | ⟨_, _ | _⟩ | _ | ⟨_, _, _ | _⟩ | _ <;> rfl

theorem view_acceptances : w.view.mail.acceptances = acceptedResults w :=
  filterMap_log w fun occurrence => by
    rcases occurrence with _ | ⟨_, _ | _⟩ | _ | ⟨_, _, _ | _⟩ | _ <;> rfl

theorem view_abandonments : w.view.mail.abandonments = abandonedCommands w :=
  filterMap_log w fun occurrence => by
    rcases occurrence with _ | ⟨_, _ | _⟩ | _ | ⟨_, _, _ | _⟩ | _ <;> rfl

theorem view_answers : w.view.mail.answers = waiterResults w :=
  filterMap_log w fun occurrence => by
    rcases occurrence with _ | ⟨_, _ | _⟩ | _ | ⟨_, _, _ | _⟩ | _ <;> rfl

theorem view_owner (sessionId : String) :
    w.view.mail.owner sessionId = currentLease w sessionId := by
  show ((w.registry.sessions.get? sessionId).map tenureOf).map _ = _
  rw [Option.map_map]
  rfl

end

/-! ### The properties -/

/-- A command goes to one poll, a poll of the current owner, and losing a Session settles the
polls of the lost owner. -/
structure ExclusiveDelivery (w w' : RegistryWorld ω) : Prop where
  atMostOnce : ∀ command,
    ((deliveries w').map Prod.snd).count command ≤ (enqueuedCommands w').count command
  toOwner : ∀ new, deliveries w' = new ++ deliveries w → ∀ poll command, (poll, command) ∈ new →
    poll.sessionId = command.sessionId ∧
      currentLease w' command.sessionId = some poll.ownerLease
  settled : ∀ sessionId, ∀ poll ∈ w.registry.commands.waiters sessionId,
    currentLease w sessionId = some poll.ownerLease →
    currentLease w' sessionId ≠ some poll.ownerLease →
    .pollSettled poll none ∈ w'.registry.commands.occurrences
  outstanding : ∀ sessionId, ∀ poll ∈ w'.registry.commands.waiters sessionId,
    currentLease w' sessionId = some poll.ownerLease

/-- An abandoned command is not delivered any more, and it is neither queued nor in flight. -/
structure AbandonmentIsFinal (w w' : RegistryWorld ω) : Prop where
  notDelivered : ∀ new, deliveries w' = new ++ deliveries w →
    ∀ poll command, (poll, command) ∈ new → command.commandId ∉ abandonedCommands w
  notPending : ∀ commandId ∈ abandonedCommands w', ∀ sessionId,
    (∀ command ∈ w'.registry.commands.queue sessionId, command.commandId ≠ commandId) ∧
      commandId ∉ w'.registry.commands.inFlight sessionId

/-- A result is accepted after its command was delivered to the current owner, and once. Waiters
get accepted results of their own command. An answered command is over. -/
structure ResultIntegrity (w w' : RegistryWorld ω) : Prop where
  afterDelivery : ∀ new, acceptedResults w' = new ++ acceptedResults w →
    ∀ commandId result, (commandId, result) ∈ new → ∃ poll command,
      (poll, command) ∈ deliveries w ∧ command.commandId = commandId ∧
        poll.sessionId = command.sessionId ∧
        currentLease w command.sessionId = some poll.ownerLease
  atMostOnce : ((acceptedResults w').map Prod.fst).Nodup
  answers : ∀ commandId result, (commandId, result) ∈ waiterResults w' →
    (commandId, result) ∈ acceptedResults w' ∧ result.commandId = commandId
  notDelivered : ∀ new, deliveries w' = new ++ deliveries w → ∀ poll command,
    (poll, command) ∈ new → ∀ result, (command.commandId, result) ∉ acceptedResults w
  notInFlight : ∀ commandId result, (commandId, result) ∈ acceptedResults w' → ∀ sessionId,
    commandId ∉ w'.registry.commands.inFlight sessionId

/-! ### The conditions -/

/-- A step does not take a Session from its owner while a poll is parked for the Session. -/
def NoPollLost (s : RegistrySystem ω) (a : TimedAction ω) : Prop :=
  ∀ sessionId, LosesOwner s.world a sessionId →
    s.world.registry.commands.waiters sessionId = []

/-- No queue holds the command, and it is in flight only at the Session that it is bound to. -/
def Known (t : CommandTables) (commandId : String) : Prop :=
  (∀ sessionId, ∀ command ∈ t.queue sessionId, command.commandId ≠ commandId) ∧
    ∀ sessionId, commandId ∈ t.inFlight sessionId →
      (t.commandSessions.get? commandId).map (fun binding => binding.sessionId) = some sessionId

instance (s : RegistrySystem ω) (a : TimedAction ω) : Decidable (NoPollLost s a) :=
  decidable_of_iff (∀ e ∈ s.world.registry.sessions.entries,
    a.action.Loses a.checkedAt.monotonicNow a.at_.monotonicNow e.1 e.2 →
      s.world.registry.commands.waiters e.1 = []) (by
    rw [← Dict.forall_get?_iff (p := fun k session =>
      a.action.Loses a.checkedAt.monotonicNow a.at_.monotonicNow k session →
        s.world.registry.commands.waiters k = [])]
    exact ⟨fun h k ⟨session, hsession, hloses⟩ => h k session hsession hloses,
      fun h k session hsession hloses => h k ⟨session, hsession, hloses⟩⟩)

instance (t : CommandTables) (commandId : String) : Decidable (Known t commandId) :=
  decidable_of_iff
    ((∀ e ∈ t.commandQueues.entries, ∀ command ∈ e.2, command.commandId ≠ commandId) ∧
      ∀ e ∈ t.inFlightCommands.entries, ∀ id ∈ e.2, id = commandId →
        (t.commandSessions.get? commandId).map (fun binding => binding.sessionId) = some e.1)
    (and_congr
      (Dict.forall_getD_nil_iff
        (p := fun _ (command : CommandEnvelope) => command.commandId ≠ commandId)).symm
      ((Dict.forall_getD_nil_iff (p := fun k id => id = commandId →
        (t.commandSessions.get? commandId).map (fun binding => binding.sessionId) = some k)).symm.trans
        ⟨fun h k hk => h k commandId hk rfl, fun h k _ hid heq => h k (heq ▸ hid)⟩))

/-- A command is abandoned when it is known, and no abandoned command is enqueued again. -/
def AbandonsKnown (s : RegistrySystem ω) (a : TimedAction ω) : Prop :=
  match a.action with
  | .abandonCommand commandId => Known s.world.registry.commands commandId
  | .enqueueCommand command =>
      (AgentAdapterRegistry.dispatchTarget s.world.registry command).isOk = true →
        command.commandId ∉ abandonedCommands s.world
  | _ => True

/-- A matching result is submitted when its command is known. No answered command is enqueued
again, and the poll that a command goes to at once is the current owner's. -/
def AcceptsKnown (s : RegistrySystem ω) (a : TimedAction ω) : Prop :=
  match a.action with
  | .request ⟨sessionId, _, .result commandId value⟩ =>
      (AgentAdapterRegistry.resultMatches s.world.registry commandId sessionId value).isSome
          = true →
        Known s.world.registry.commands commandId
  | .enqueueCommand command =>
      (AgentAdapterRegistry.dispatchTarget s.world.registry command).isOk = true →
        command.commandId ∉ (acceptedResults s.world).map Prod.fst ∧
          ∀ poll ∈ (s.world.registry.commands.waiters command.sessionId).head?,
            currentLease s.world command.sessionId = some poll.ownerLease
  | _ => True

instance (s : RegistrySystem ω) (a : TimedAction ω) : Decidable (AbandonsKnown s a) := by
  unfold AbandonsKnown
  split <;> infer_instance

instance (s : RegistrySystem ω) (a : TimedAction ω) : Decidable (AcceptsKnown s a) := by
  unfold AcceptsKnown
  split <;> infer_instance

/-! ### What is new in a step -/

section
variable {w w' : RegistryWorld ω} {a : TimedAction ω}

/-- What is delivered in a step is delivered in one step of the mailboxes. -/
theorem mailStep_of_delivery (h : Refines a w w') {new : List (PollRequest × CommandEnvelope)}
    (hnew : deliveries w' = new ++ deliveries w) {poll : PollRequest} {command : CommandEnvelope}
    (hmem : (poll, command) ∈ new) :
    w'.leases = w.leases ∧ ∃ e, MailArises w a e ∧
      MailStep commandScheme w.view.mail e w'.view.mail ∧
      w'.view.mail.deliveries = (poll, command) :: w.view.mail.deliveries := by
  rw [← view_deliveries, ← view_deliveries] at hnew
  rcases h.log_cases with hlog | ⟨hleases, e, harises, hstep⟩
  · have hsame : w'.view.mail.deliveries = w.view.mail.deliveries :=
      congrArg (List.filterMap _) hlog
    rw [hsame, List.self_eq_append_left] at hnew
    rw [hnew] at hmem
    exact absurd hmem (by simp)
  · refine ⟨hleases, e, harises, hstep, ?_⟩
    rcases hstep.deliveries_cases with hsame | ⟨p, x, hone, -⟩
    · rw [hsame, List.self_eq_append_left] at hnew
      rw [hnew] at hmem
      exact absurd hmem (by simp)
    · rw [hone] at hnew
      have hsingle : [(p, x)] = new := List.append_cancel_right hnew
      rw [← hsingle, List.mem_singleton] at hmem
      rw [hmem]
      exact hone

/-- What is accepted in a step is accepted in one step of the mailboxes. -/
theorem mailStep_of_acceptance (h : Refines a w w') {new : List (String × CommandResult)}
    (hnew : acceptedResults w' = new ++ acceptedResults w) {commandId : String}
    {result : CommandResult} (hmem : (commandId, result) ∈ new) :
    MailArises w a (.accept commandId result) ∧
      MailStep commandScheme w.view.mail (.accept commandId result) w'.view.mail := by
  rw [← view_acceptances, ← view_acceptances] at hnew
  rcases h.log_cases with hlog | ⟨-, e, harises, hstep⟩
  · have hsame : w'.view.mail.acceptances = w.view.mail.acceptances :=
      congrArg (List.filterMap _) hlog
    rw [hsame, List.self_eq_append_left] at hnew
    rw [hnew] at hmem
    exact absurd hmem (by simp)
  · rcases hstep.acceptances_cases with hsame | ⟨i, r, rfl, hone⟩
    · rw [hsame, List.self_eq_append_left] at hnew
      rw [hnew] at hmem
      exact absurd hmem (by simp)
    · rw [hone] at hnew
      have hsingle : [(i, r)] = new := List.append_cancel_right hnew
      rw [← hsingle, List.mem_singleton, Prod.mk.injEq] at hmem
      obtain ⟨rfl, rfl⟩ := hmem
      exact ⟨harises, hstep⟩

end

variable {text : ProtocolText} {store : RegistryStateStore ω} {s s' : RegistrySystem ω}
  {a : TimedAction ω} {as : List (TimedAction ω)} {hostId : String} {nowMs : Int} {st : ω}

/-! ### Exclusive delivery -/

/-- A step keeps every parked poll the current owner's. -/
theorem parkedCurrent_step (hinv : RegistryInvariant s)
    (hparked : ParkedCurrent commandScheme s.world.view.mail)
    (hstep : Guarded (RegistryStep text store) NoPollLost s a s') :
    ParkedCurrent commandScheme s'.world.view.mail := by
  refine (hinv.refines hstep.2).mail_rule (G := QuietLoss)
    (fun m e m' hm hguard hmail => hm.step hguard hmail) (fun _ _ _ => trivial)
    (fun m id hloses hsame => ?_) (fun e harises => ?_) hparked
  · show m.parked id = []
    rw [hsame]
    exact hstep.1 id hloses
  · cases e <;> trivial

/-- An owner with a parked poll stays the owner. -/
theorem currentLease_kept (hinv : RegistryInvariant s)
    (hstep : Guarded (RegistryStep text store) NoPollLost s a s') {sessionId lease : String}
    {poll : PollRequest} (hpoll : poll ∈ s.world.registry.commands.waiters sessionId)
    (hcurrent : currentLease s.world sessionId = some lease) :
    currentLease s'.world sessionId = some lease := by
  obtain ⟨session, hsession, rfl⟩ := Option.map_eq_some_iff.mp hcurrent
  rcases (hinv.refines hstep.2).kept_cases (AgentAdapterRegistry.held_of_get hsession) with
    ⟨next, hnext, hlease, -⟩ | hloses
  · obtain ⟨session', hsession', rfl⟩ := Option.map_eq_some_iff.mp hnext
    rw [currentLease, hsession', Option.map_some]
    exact congrArg some hlease
  · rw [hstep.1 sessionId hloses] at hpoll
    exact absurd hpoll (by simp)

/-- In a run whose steps never take a Session with a parked poll from its owner, every step
delivers exclusively. -/
theorem exclusiveDelivery_of_noPollLost
    (hrun : Run (Guarded (RegistryStep text store) NoPollLost) (.start hostId nowMs st) as s)
    (hstep : Guarded (RegistryStep text store) NoPollLost s a s') :
    ExclusiveDelivery s.world s'.world := by
  have hinv : RegistryInvariant s := .of_run (hrun.mono fun _ _ _ h => h.2)
  have hparked := hrun.invariant
    (I := fun t => RegistryInvariant t ∧ ParkedCurrent commandScheme t.world.view.mail)
    (fun t b t' ht hguarded => ⟨ht.1.step hguarded.2, parkedCurrent_step ht.1 ht.2 hguarded⟩)
    ⟨.start hostId nowMs st, fun k p hp => absurd hp (by
      simp [RegistryWorld.view, CommandTables.mail, RegistrySystem.start,
        AgentAdapterRegistry.new, CommandTables.empty, CommandTables.waiters])⟩
  refine ⟨fun command => ?_, fun new hnew poll command hmem => ?_,
    fun sessionId poll hpoll hcurrent hlost => ?_, fun sessionId poll hpoll => ?_⟩
  · have hcount := (hinv.step hstep.2).conserved.count command
    rw [Mailbox.delivered, view_deliveries, view_sent] at hcount
    omega
  · obtain ⟨hleases, e, -, hmail, hone⟩ := mailStep_of_delivery (hinv.refines hstep.2) hnew hmem
    obtain ⟨haddress, howner⟩ :=
      hparked.2.delivers hinv.conserved.toAddressed hmail hone
    refine ⟨haddress, ?_⟩
    rw [← view_owner]
    show ownerOf s'.world.leases command.sessionId = _
    rw [hleases]
    exact howner
  · exact absurd (currentLease_kept hinv hstep hpoll hcurrent) hlost
  · rw [← view_owner]
    exact parkedCurrent_step hinv hparked.2 hstep sessionId poll hpoll

end

/-- The instance `a` leaves with a parked poll, and `b` takes the Session. -/
def samplePollLeft : List (TimedAction Unit) :=
  [atSecond 1 "lease-1" (sampleRegistration "a"),
    atSecond 2 "" (sampleRequest "a" "lease-1" (.poll 1 30000)),
    atSecond 3 "" (sampleRequest "a" "lease-1" .unregister),
    atSecond 4 "lease-2" (sampleRegistration "b")]

set_option maxRecDepth 10000 in
/-- The command goes to the poll that `a` left parked. -/
theorem not_exclusiveDelivery_of_left_poll :
    ¬ ∀ as s a s', Run (RegistryStep sampleText idleStore) sampleStart as s →
      RegistryStep sampleText idleStore s a s' → ExclusiveDelivery s.world s'.world := by
  intro h
  have hrun : Run (RegistryStep sampleText idleStore) sampleStart samplePollLeft
    (sampleStart.after sampleText idleStore samplePollLeft) := run_of_admissible (by decide)
  have hstep : Admissible (sampleStart.after sampleText idleStore samplePollLeft)
    (atSecond 5 "" (.enqueueCommand sampleCommand)) := by decide
  have hdelivery := h _ _ _ _ hrun hstep.step
  have howner := hdelivery.toOwner [(⟨1, "session", "lease-1"⟩, sampleCommand)] (by decide) _ _
    (List.mem_singleton_self _)
  exact absurd howner.2 (by decide)

/-- The instance `a` polls for commands. -/
def samplePollParked : List (TimedAction Unit) :=
  [atSecond 1 "lease-1" (sampleRegistration "a"),
    atSecond 2 "" (sampleRequest "a" "lease-1" (.poll 1 30000))]

set_option maxRecDepth 10000 in
/-- The command goes to the parked poll of `a`. -/
theorem exclusiveDelivery_of_noPollLost_parked :
    let s := sampleStart.after sampleText idleStore samplePollParked
    let s' := s.next sampleText idleStore (atSecond 3 "" (.enqueueCommand sampleCommand))
    deliveries s'.world = [(⟨1, "session", "lease-1"⟩, sampleCommand)] ∧
      ExclusiveDelivery s.world s'.world := by
  intro s s'
  have hrun : Run (Guarded (RegistryStep sampleText idleStore) NoPollLost) sampleStart
    samplePollParked s := AllAdmissible.run (by decide)
  have hstep : Admissible s (atSecond 3 "" (.enqueueCommand sampleCommand)) := by decide
  exact ⟨by decide, exclusiveDelivery_of_noPollLost hrun ⟨by decide, hstep.step⟩⟩

section
variable {ω : Type} {text : ProtocolText} {store : RegistryStateStore ω} {s s' : RegistrySystem ω}
  {a : TimedAction ω} {as : List (TimedAction ω)} {hostId : String} {nowMs : Int} {st : ω}

/-! ### Final abandonment -/

/-- A known command, in terms of the mailboxes. -/
theorem Known.onlyBound {w : RegistryWorld ω} {commandId : String}
    (h : Known w.registry.commands commandId) : OnlyBound commandScheme w.view.mail commandId :=
  ⟨h.1, h.2⟩

/-- The guard of an abandonment follows from the condition on the step. -/
theorem abandonsBound_of_known {w : RegistryWorld ω} {s : RegistrySystem ω} (hs : s.world = w)
    (hguard : AbandonsKnown s a) {e : CommandMailEvent} (harises : MailArises w a e) :
    AbandonsBound commandScheme w.view.mail e := by
  subst hs
  cases e with
  | enqueue command =>
    obtain ⟨haction, htaken⟩ := harises
    show command.commandId ∉ s.world.view.mail.abandonments
    rw [view_abandonments]
    unfold AbandonsKnown at hguard
    rw [haction] at hguard
    exact hguard htaken
  | abandon commandId =>
    unfold AbandonsKnown at hguard
    rw [show a.action = .abandonCommand commandId from harises] at hguard
    exact hguard.onlyBound
  | _ => trivial

/-- A step keeps the abandoned commands gone. -/
theorem abandonedGone_step (hinv : RegistryInvariant s)
    (hgone : AbandonedGone commandScheme s.world.view.mail)
    (hstep : Guarded (RegistryStep text store) AbandonsKnown s a s') :
    AbandonedGone commandScheme s'.world.view.mail :=
  (hinv.refines hstep.2).mail_rule (G := AbandonsBound commandScheme)
    (fun _ _ _ hm hguard hmail => hm.step hguard hmail) (fun _ _ _ => trivial)
    (fun _ _ _ _ => trivial) (fun _ harises => abandonsBound_of_known rfl hstep.1 harises) hgone

/-- In a run whose steps abandon only known commands and enqueue no abandoned one, abandonment
is final in every step. -/
theorem abandonmentIsFinal_of_known
    (hrun : Run (Guarded (RegistryStep text store) AbandonsKnown) (.start hostId nowMs st) as s)
    (hstep : Guarded (RegistryStep text store) AbandonsKnown s a s') :
    AbandonmentIsFinal s.world s'.world := by
  have hboth := hrun.invariant
    (I := fun t => RegistryInvariant t ∧ AbandonedGone commandScheme t.world.view.mail)
    (fun t b t' ht hguarded => ⟨ht.1.step hguarded.2, abandonedGone_step ht.1 ht.2 hguarded⟩)
    ⟨.start hostId nowMs st, fun i hi => absurd hi (by
      rw [view_abandonments]
      simp [abandonedCommands, RegistrySystem.start, AgentAdapterRegistry.new,
        CommandTables.empty])⟩
  obtain ⟨hinv, hgone⟩ := hboth
  refine ⟨fun new hnew poll command hmem => ?_, fun commandId hid sessionId => ?_⟩
  · obtain ⟨-, e, harises, hmail, hone⟩ := mailStep_of_delivery (hinv.refines hstep.2) hnew hmem
    rw [← view_abandonments]
    exact hgone.not_delivered (abandonsBound_of_known rfl hstep.1 harises) hmail hone
  · rw [← view_abandonments] at hid
    have hover := abandonedGone_step hinv hgone hstep commandId hid
    exact ⟨hover.unqueued sessionId, hover.landed sessionId⟩

end

/-- A command is queued and abandoned before the owner polls. -/
def sampleAbandonQueued : List (TimedAction Unit) :=
  [atSecond 1 "lease-1" (sampleRegistration "a"),
    atSecond 2 "" (.enqueueCommand sampleCommand),
    atSecond 3 "" (.abandonCommand "command")]

set_option maxRecDepth 10000 in
/-- The abandoned command is delivered to the next poll. -/
theorem not_abandonmentIsFinal_of_queued :
    ¬ ∀ as s a s', Run (RegistryStep sampleText idleStore) sampleStart as s →
      RegistryStep sampleText idleStore s a s' → AbandonmentIsFinal s.world s'.world := by
  intro h
  have hrun : Run (RegistryStep sampleText idleStore) sampleStart sampleAbandonQueued
    (sampleStart.after sampleText idleStore sampleAbandonQueued) := run_of_admissible (by decide)
  have hstep : Admissible (sampleStart.after sampleText idleStore sampleAbandonQueued)
    (atSecond 4 "" (sampleRequest "a" "lease-1" (.poll 1 30000))) := by decide
  have hfinal := h _ _ _ _ hrun hstep.step
  exact hfinal.notDelivered [(⟨1, "session", "lease-1"⟩, sampleCommand)] (by decide) _ _
    (List.mem_singleton_self _) (by decide)

/-- A command is delivered and then abandoned. -/
def sampleAbandonDelivered : List (TimedAction Unit) :=
  [atSecond 1 "lease-1" (sampleRegistration "a"),
    atSecond 2 "" (.enqueueCommand sampleCommand),
    atSecond 3 "" (sampleRequest "a" "lease-1" (.poll 1 30000)),
    atSecond 4 "" (.abandonCommand "command")]

set_option maxRecDepth 10000 in
/-- The next poll gets nothing. -/
theorem abandonmentIsFinal_of_known_delivered :
    let s := sampleStart.after sampleText idleStore sampleAbandonDelivered
    let s' := s.next sampleText idleStore
      (atSecond 5 "" (sampleRequest "a" "lease-1" (.poll 2 30000)))
    abandonedCommands s.world = ["command"] ∧ AbandonmentIsFinal s.world s'.world := by
  intro s s'
  have hrun : Run (Guarded (RegistryStep sampleText idleStore) AbandonsKnown) sampleStart
    sampleAbandonDelivered s := AllAdmissible.run (by decide)
  have hstep : Admissible s (atSecond 5 "" (sampleRequest "a" "lease-1" (.poll 2 30000))) := by
    decide
  exact ⟨by decide, abandonmentIsFinal_of_known hrun ⟨by decide, hstep.step⟩⟩

section
variable {ω : Type} {text : ProtocolText} {store : RegistryStateStore ω} {s s' : RegistrySystem ω}
  {a : TimedAction ω} {as : List (TimedAction ω)} {hostId : String} {nowMs : Int} {st : ω}

/-! ### Result integrity -/

/-- The guard of an acceptance follows from the condition on the step. -/
theorem acceptsBound_of_known {w : RegistryWorld ω} {s : RegistrySystem ω} (hs : s.world = w)
    (hguard : AcceptsKnown s a) {e : CommandMailEvent} (harises : MailArises w a e) :
    AcceptsBound commandScheme w.view.mail e := by
  subst hs
  cases e with
  | enqueue command =>
    obtain ⟨haction, htaken⟩ := harises
    unfold AcceptsKnown at hguard
    rw [haction] at hguard
    obtain ⟨hfresh, hhead⟩ := hguard htaken
    refine ⟨fun result hmem => hfresh ?_, fun poll rest hparked => ?_⟩
    · rw [view_acceptances] at hmem
      exact List.mem_map.mpr ⟨_, hmem, rfl⟩
    · show s.world.view.mail.owner command.sessionId = _
      rw [view_owner]
      refine hhead poll ?_
      rw [show s.world.registry.commands.waiters command.sessionId = poll :: rest from hparked]
      rfl
  | accept commandId result =>
    obtain ⟨⟨sessionId, headers, operation⟩, haction, rfl, hmatch⟩ := harises
    unfold AcceptsKnown at hguard
    rw [haction] at hguard
    exact (hguard hmatch).onlyBound
  | _ => trivial

/-- What is known about accepted results in every state of a run. -/
structure ResultInvariant (w : RegistryWorld ω) : Prop where
  bound : BoundCurrent commandScheme w.view.mail
  once : AcceptedOnce commandScheme w.view.mail
  answers : AnswersAccepted commandScheme w.view.mail

/-- Before the first command nothing is bound and nothing was accepted. -/
theorem ResultInvariant.start :
    ResultInvariant (RegistrySystem.start hostId nowMs st : RegistrySystem ω).world := by
  have hlog : (RegistrySystem.start hostId nowMs st : RegistrySystem ω).world.view.mail.log = [] :=
    rfl
  have hnone : ∀ a, a ∉ (RegistrySystem.start hostId nowMs st :
      RegistrySystem ω).world.view.mail.acceptances := by
    intro a
    rw [Mailbox.acceptances, hlog]
    exact List.not_mem_nil
  refine ⟨⟨fun k i h => absurd h (by simp [RegistryWorld.view, CommandTables.mail,
    RegistrySystem.start, AgentAdapterRegistry.new, CommandTables.empty]),
    fun k i h => absurd h (by simp [RegistryWorld.view, CommandTables.mail,
    RegistrySystem.start, AgentAdapterRegistry.new, CommandTables.empty])⟩,
    ⟨fun a ha => absurd ha (hnone a), fun a ha => absurd ha (hnone a), ?_⟩,
    ⟨fun i r h => absurd h (by simp [RegistryWorld.view, CommandTables.mail,
    RegistrySystem.start, AgentAdapterRegistry.new, CommandTables.empty]), fun a ha => ?_,
    fun a ha => absurd ha (hnone a)⟩⟩
  · rw [Mailbox.acceptances, hlog]
    exact List.nodup_nil
  · rw [Mailbox.answers, hlog] at ha
    exact absurd ha List.not_mem_nil

/-- A step keeps what is known about accepted results. -/
theorem ResultInvariant.step (hinv : RegistryInvariant s) (hresults : ResultInvariant s.world)
    (hstep : Guarded (RegistryStep text store) AcceptsKnown s a s') :
    ResultInvariant s'.world := by
  have hrefines := hinv.refines hstep.2
  have hmail : ∀ e, MailArises s.world a e → AcceptsBound commandScheme s.world.view.mail e :=
    fun e harises => acceptsBound_of_known rfl hstep.1 harises
  refine ⟨?_, ?_, ?_⟩
  · -- The addresses are kept along, since a binding is about the queue of its address.
    have hboth := hrefines.mail_rule (G := AcceptsBound commandScheme)
      (I := fun m => Addressed commandScheme m ∧ BoundCurrent commandScheme m)
      (fun m e m' hm hguard hmail => ⟨hm.1.step hmail, hm.2.step hm.1 hguard hmail⟩)
      (fun _ _ _ => trivial) (fun _ _ _ _ => trivial) hmail
      ⟨hinv.conserved.toAddressed, hresults.bound⟩
    exact hboth.2
  · exact hrefines.mail_rule (G := AcceptsBound commandScheme)
      (fun _ _ _ hm hguard hmail => hm.step hguard hmail) (fun _ _ _ => trivial)
      (fun _ _ _ _ => trivial) hmail hresults.once
  · exact hrefines.mail_invariant (fun _ _ _ hm hmail => hm.step hmail) hresults.answers

/-- In a run whose steps accept results of known commands only, every step keeps the integrity
of results. -/
theorem resultIntegrity_of_known
    (hrun : Run (Guarded (RegistryStep text store) AcceptsKnown) (.start hostId nowMs st) as s)
    (hstep : Guarded (RegistryStep text store) AcceptsKnown s a s') :
    ResultIntegrity s.world s'.world := by
  obtain ⟨hinv, hresults⟩ := hrun.invariant
    (I := fun t => RegistryInvariant t ∧ ResultInvariant t.world)
    (fun t b t' ht hguarded => ⟨ht.1.step hguarded.2, ResultInvariant.step ht.1 ht.2 hguarded⟩)
    ⟨.start hostId nowMs st, .start⟩
  have hrefines := hinv.refines hstep.2
  have hnext := ResultInvariant.step hinv hresults hstep
  refine ⟨fun new hnew commandId result hmem => ?_, ?_, fun commandId result hmem => ?_,
    fun new hnew poll command hmem result => ?_, fun commandId result hmem sessionId => ?_⟩
  · obtain ⟨harises, hmail⟩ := mailStep_of_acceptance hrefines hnew hmem
    have honly : OnlyBound commandScheme s.world.view.mail commandId :=
      acceptsBound_of_known rfl hstep.1 harises
    obtain ⟨poll, command, hdelivered, hid, haddress, howner⟩ :=
      hresults.bound.accepts honly.unqueued hmail
    rw [view_deliveries] at hdelivered
    rw [view_owner] at howner
    exact ⟨poll, command, hdelivered, hid, haddress, howner⟩
  · rw [← view_acceptances]
    exact hnext.once.once
  · rw [← view_answers] at hmem
    have haccepted := hnext.answers.answers _ hmem
    have hown := hnext.answers.own _ haccepted
    rw [view_acceptances] at haccepted
    exact ⟨haccepted, hown⟩
  · obtain ⟨-, e, harises, hmail, hone⟩ := mailStep_of_delivery hrefines hnew hmem
    rw [← view_acceptances]
    exact hresults.once.not_delivered (acceptsBound_of_known rfl hstep.1 harises) hmail hone result
  · rw [← view_acceptances] at hmem
    exact (hnext.once.gone _ hmem).landed sessionId

end

/-- A command is queued, and the owner has not polled. -/
def sampleResultQueued : List (TimedAction Unit) :=
  [atSecond 1 "lease-1" (sampleRegistration "a"),
    atSecond 2 "" (.enqueueCommand sampleCommand)]

set_option maxRecDepth 10000 in
/-- The result of a command that was never delivered is accepted. -/
theorem not_resultIntegrity_of_queued :
    ¬ ∀ as s a s', Run (RegistryStep sampleText idleStore) sampleStart as s →
      RegistryStep sampleText idleStore s a s' → ResultIntegrity s.world s'.world := by
  intro h
  have hrun : Run (RegistryStep sampleText idleStore) sampleStart sampleResultQueued
    (sampleStart.after sampleText idleStore sampleResultQueued) := run_of_admissible (by decide)
  have hstep : Admissible (sampleStart.after sampleText idleStore sampleResultQueued)
    (atSecond 3 "" (sampleRequest "a" "lease-1" (.result "command" sampleResult))) := by decide
  have hresult := h _ _ _ _ hrun hstep.step
  obtain ⟨poll, command, hdelivered, -⟩ := hresult.afterDelivery [("command", sampleResult)]
    (by decide) _ _ (List.mem_singleton_self _)
  have hnone : deliveries
    (sampleStart.after sampleText idleStore sampleResultQueued).world = [] := by decide
  rw [hnone] at hdelivered
  exact absurd hdelivered List.not_mem_nil

/-- A command is delivered, and somebody waits for its result. -/
def sampleResultAwaited : List (TimedAction Unit) :=
  [atSecond 1 "lease-1" (sampleRegistration "a"),
    atSecond 2 "" (.enqueueCommand sampleCommand),
    atSecond 2 "" (.waitForResult 1 "command"),
    atSecond 3 "" (sampleRequest "a" "lease-1" (.poll 1 30000))]

set_option maxRecDepth 10000 in
/-- The result of the delivered command is accepted and goes to the waiter. -/
theorem resultIntegrity_of_known_awaited :
    let s := sampleStart.after sampleText idleStore sampleResultAwaited
    let s' := s.next sampleText idleStore
      (atSecond 4 "" (sampleRequest "a" "lease-1" (.result "command" sampleResult)))
    waiterResults s'.world = [("command", sampleResult)] ∧ ResultIntegrity s.world s'.world := by
  intro s s'
  have hrun : Run (Guarded (RegistryStep sampleText idleStore) AcceptsKnown) sampleStart
    sampleResultAwaited s := AllAdmissible.run (by decide)
  have hstep : Admissible s
    (atSecond 4 "" (sampleRequest "a" "lease-1" (.result "command" sampleResult))) := by decide
  exact ⟨by decide, resultIntegrity_of_known hrun ⟨by decide, hstep.step⟩⟩

end Ariava.Proofs
