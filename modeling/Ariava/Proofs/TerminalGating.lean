import Ariava.E2e.CommandExecution
import Ariava.Proofs.ProducerOrder
import Ariava.Proofs.TerminalMoves

/-!
# `Ariava.Proofs.TerminalGating`: is a terminal event queued when its Session becomes idle?

The actions of one Session are pushes of terminal events, commands and their results,
heartbeats, and the retry timer. Anything else may happen in between, as long as it leaves the
Session alone. Every action plays moves of the gate of `TerminalMoves`, so the properties of a
gate are those of the Session: a tuple is queued only while the Session is idle, only when it
is the newest staged one, and once for each time it was staged.

A push stages its tuple before the store accepts it. When the store refuses and the Session is
idle, the tuple stays staged and no retry timer is armed, although `promotePendingTerminal`
arms one when the next write fails. Nothing queues the tuple then.

- `terminalGating_of_sound`: in a run without such a push, terminal events are gated.
- `not_terminalEventsGated`: a run in which a tuple is left behind.
-/

set_option autoImplicit false

namespace Ariava.Proofs.TerminalGating

open Ariava.Lib
open Ariava.Protocol
open Ariava.StateStore
open Ariava.AgentAdapter
open Ariava.AgentAdapter.AgentAdapterRegistry
open Ariava.E2e (sampleInstant)
open Ariava.Proofs.ProducerOrder (parityText doneRequest)
open Ariava.Proofs.TerminalMoves

/-! ### The actions of a Session -/

/-- An action of a Session, with the method it calls. -/
inductive SessionAction
  | pushEvent (value : AgentAdapterEventInput)
  | pushEventSource (request : AgentAdapterEventRequest)
  | enqueueCommand (command : CommandEnvelope)
  | dequeueCommand (poll : PollRequest) (timeoutMs : Nat)
  | resolveCommand (commandId : String) (value : CommandResult)
  | abandonCommand (commandId : String)
  | heartbeat (input : HeartbeatInput)
  | terminalRetryTimerFires

/-- An action at its readings, or something that leaves the Session alone. -/
inductive SessionEvent
  | act (at_ : RegistryReadings) (action : SessionAction)
  | elsewhere

/-- The action is a push. -/
def SessionEvent.isPush : SessionEvent → Bool
  | act _ (.pushEvent _) => true
  | act _ (.pushEventSource _) => true
  | _ => false

section
variable {ω : Type} (text : ProtocolText) (store : RegistryStateStore ω) (sessionId : String)

/-- The method that an action calls. -/
def perform (at_ : RegistryReadings) : SessionAction → RegistryEffect ω Unit
  | .pushEvent value => do
      let _ ← AgentAdapterRegistry.pushEvent text store at_ sessionId value
  | .pushEventSource request => do
      let _ ← AgentAdapterRegistry.pushEventSource text store at_ sessionId request
  | .enqueueCommand command => AgentAdapterRegistry.enqueueCommand command
  | .dequeueCommand poll timeoutMs => AgentAdapterRegistry.dequeueCommand poll timeoutMs
  | .resolveCommand commandId value =>
      AgentAdapterRegistry.resolveCommand text store at_ commandId value sessionId
  | .abandonCommand commandId => AgentAdapterRegistry.abandonCommand text store at_ commandId
  | .heartbeat input => do
      let _ ← AgentAdapterRegistry.heartbeat text store at_ sessionId input
  | .terminalRetryTimerFires =>
      AgentAdapterRegistry.terminalRetryTimerFires text store at_ sessionId

/-- The action is one of the Session: its command or its poll is, and only an armed timer
fires. -/
def SessionAction.OfSession (w : RegistryWorld ω) : SessionAction → Prop
  | enqueueCommand command => command.sessionId = sessionId
  | dequeueCommand poll _ => poll.sessionId = sessionId
  | abandonCommand commandId => ∀ binding ∈ w.registry.commands.commandSessions.get? commandId,
      binding.sessionId = sessionId
  | terminalRetryTimerFires => w.registry.terminals.terminalRetryTimers.contains sessionId = true
  | _ => True

instance (w : RegistryWorld ω) : ∀ action, Decidable (SessionAction.OfSession sessionId w action)
  | .enqueueCommand command => inferInstanceAs (Decidable (command.sessionId = sessionId))
  | .dequeueCommand poll _ => inferInstanceAs (Decidable (poll.sessionId = sessionId))
  | .abandonCommand commandId => inferInstanceAs (Decidable
      (∀ binding ∈ w.registry.commands.commandSessions.get? commandId,
        binding.sessionId = sessionId))
  | .terminalRetryTimerFires => inferInstanceAs (Decidable
      (w.registry.terminals.terminalRetryTimers.contains sessionId = true))
  | .pushEvent _ => .isTrue trivial
  | .pushEventSource _ => .isTrue trivial
  | .resolveCommand _ _ => .isTrue trivial
  | .heartbeat _ => .isTrue trivial

/-- A step of a Session over a recorded store. -/
inductive SessionStep : RecordedWorld ω → SessionEvent → RecordedWorld ω → Prop
  | act {w : RecordedWorld ω} {at_ : RegistryReadings} {action : SessionAction}
      (ofSession : action.OfSession sessionId w) :
      SessionStep w (.act at_ action)
        ((perform text (recordedStore store) sessionId at_ action).run w).2
  | elsewhere {w w' : RecordedWorld ω} (unmoved : Unmoved sessionId w w') :
      SessionStep w .elsewhere w'

/-- A step of a Session, with the moves of its gate. -/
def PlayedStep (w : RecordedWorld ω) (played : SessionEvent × List (GateMove PendingTerminal))
    (w' : RecordedWorld ω) : Prop :=
  SessionStep text store sessionId w played.1 w' ∧
    Run (Gate.Step eventName) (gateOf sessionId w) played.2 (gateOf sessionId w')

/-- Terminal events are gated in a run, whose steps play these moves.
- Each step plays moves of the gate, so the gate has the command work, the staged tuple and the
  retry timer that the registry has. Only a push stages a tuple, and it stages one.
- `calls`: the store is called as the moves say.
- `newest`: a tuple is queued only while the Session is idle, and only when it is the newest
  one that was staged and neither cancelled nor queued.
- `once`: what is queued after a tuple was queued was staged after that.
- `cleared`: what is staged when the command work clears is queued at once, or refused.
- `staged`, `waiting`: what is staged is the newest tuple, and while the Session is idle, a
  retry timer is armed for it. -/
structure Gated (w w' : RecordedWorld ω) (events : List SessionEvent)
    (segments : List (List (GateMove PendingTerminal))) : Prop where
  length : segments.length = events.length
  played : Run (PlayedStep text store sessionId) w (events.zip segments) w'
  pushes : segments.flatten.countP GateMove.isStage ≤ events.countP SessionEvent.isPush
  calls : w'.store.calls
    = (segments.flatten.filterMap (GateMove.call eventName)).reverse ++ w.store.calls
  newest : ∀ pre post tuple taken, segments.flatten = pre ++ .offer tuple taken :: post →
    newest (gateOf sessionId w).staged pre = some tuple ∧
      busyAfter (gateOf sessionId w).busy pre = false
  once : ∀ pre mid post tuple other taken,
    segments.flatten = pre ++ .offer tuple true :: mid ++ .offer other taken :: post →
      ∃ staged, GateMove.stage staged ∈ mid
  cleared : ∀ pre post tuple, segments.flatten = pre ++ .clear :: post →
    Lib.newest (gateOf sessionId w).staged pre = some tuple →
      ∃ taken rest, post = .offer tuple taken :: rest
  staged : w'.registry.terminals.delayedTerminalEvents.get? sessionId
    = Lib.newest (gateOf sessionId w).staged segments.flatten
  waiting : w'.registry.terminals.delayedTerminalEvents.contains sessionId = true →
    w'.registry.commands.hasPendingCommandWork sessionId = false →
      w'.registry.terminals.terminalRetryTimers.contains sessionId = true

/-- A registered Session, with a retry timer if it is idle and has a staged tuple. -/
structure Ready (w : RecordedWorld ω) : Prop where
  attended : Attended text sessionId w
  waiting : (gateOf sessionId w).Waiting

/-- Terminal events are gated in every run of a Session. -/
def TerminalEventsGated : Prop :=
  ∀ (w w' : RecordedWorld ω) (events : List SessionEvent), Ready text sessionId w →
    Run (SessionStep text store sessionId) w events w' →
      ∃ segments, Gated text store sessionId w w' events segments

/-- The condition on a step: what a push is about to stage is sound. When the Session is idle
and no retry timer is armed, the store does not refuse the tuple. -/
def SoundPush (w : RecordedWorld ω) : SessionEvent → Prop
  | .act at_ (.pushEvent value) => Stages text store sessionId
      (eventStaging text (recordedStore store) at_ sessionId value) w
  | .act at_ (.pushEventSource request) => Stages text store sessionId
      (sourceStaging text (recordedStore store) at_ sessionId request) w
  | _ => True

end

/-! ### Every run -/

section
variable {ω : Type} {text : ProtocolText} {store : RegistryStateStore ω} {sessionId : String}
  {w w' : RecordedWorld ω}

/-- Every sound step plays moves, and only a push stages a tuple. -/
theorem plays_step {event : SessionEvent}
    (hstep : Guarded (SessionStep text store sessionId) (SoundPush text store sessionId) w event
      w') :
    Plays text sessionId (if event.isPush then 1 else 0) w w' := by
  obtain ⟨hsound, hstep⟩ := hstep
  cases hstep with
  | elsewhere hunmoved => exact Plays.of_unmoved hunmoved
  | act hsession =>
    rename_i at_ action
    cases action with
    | pushEvent value =>
      unfold perform
      rw [final_bind_pure]
      exact plays_pushEvent hsound
    | pushEventSource request =>
      unfold perform
      rw [final_bind_pure]
      exact plays_pushEventSource hsound
    | enqueueCommand command => exact plays_enqueueCommand hsession
    | dequeueCommand poll timeoutMs => exact plays_dequeueCommand timeoutMs hsession
    | resolveCommand commandId value => exact plays_resolveCommand store at_ commandId value
    | abandonCommand commandId => exact plays_abandonCommand store at_ hsession
    | heartbeat input =>
      unfold perform
      rw [final_bind_pure]
      exact plays_heartbeat store at_ input
    | terminalRetryTimerFires => exact plays_terminalRetryTimerFires store at_

/-- A sound run plays moves, step by step. -/
theorem plays_run {events : List SessionEvent} (hattended : Attended text sessionId w)
    (hrun : Run (Guarded (SessionStep text store sessionId) (SoundPush text store sessionId)) w
      events w') :
    Attended text sessionId w' ∧ ∃ segments : List (List (GateMove PendingTerminal)),
      segments.length = events.length ∧
      Run (PlayedStep text store sessionId) w (events.zip segments) w' ∧
      segments.flatten.countP GateMove.isStage ≤ events.countP SessionEvent.isPush := by
  induction hrun with
  | nil => exact ⟨hattended, [], rfl, Run.nil _, Nat.le_refl 0⟩
  | @snoc t u events event _ hlast ih =>
    obtain ⟨hmiddle, segments, hlength, hplayed, hcount⟩ := ih
    obtain ⟨hend, moves, hmoves, hstages⟩ := plays_step hlast hmiddle
    refine ⟨hend, segments ++ [moves], ?_, ?_, ?_⟩
    · rw [List.length_append, List.length_append, hlength]
      rfl
    · rw [List.zip_append hlength.symm]
      exact Run.snoc hplayed ⟨hlast.2, hmoves⟩
    · rw [List.flatten_append, List.countP_append, List.countP_append, List.flatten_singleton,
        List.countP_singleton]
      exact Nat.add_le_add hcount hstages

/-- The moves of a played run are a run of the gate. -/
theorem gate_run {events : List SessionEvent} {segments : List (List (GateMove PendingTerminal))}
    (hlength : segments.length = events.length)
    (hrun : Run (PlayedStep text store sessionId) w (events.zip segments) w') :
    Run (Gate.Step eventName) (gateOf sessionId w) segments.flatten (gateOf sessionId w') := by
  have hflat : segments = (events.zip segments).map Prod.snd :=
    (List.map_snd_zip hlength.le).symm
  rw [hflat]
  generalize events.zip segments = played at hrun
  induction hrun with
  | nil => exact Run.nil _
  | snoc _ hlast ih =>
    rw [List.map_append, List.flatten_append]
    refine ih.append ?_
    rw [List.map_singleton, List.flatten_singleton]
    exact hlast.2

/-- In every run in which no push leaves a refused tuple to an idle Session without a retry
timer, terminal events are gated. -/
theorem terminalGating_of_sound {events : List SessionEvent} (hready : Ready text sessionId w)
    (hrun : Run (Guarded (SessionStep text store sessionId) (SoundPush text store sessionId)) w
      events w') :
    ∃ segments, Gated text store sessionId w w' events segments := by
  obtain ⟨-, segments, hlength, hplayed, hcount⟩ := plays_run hready.attended hrun
  have hgate := gate_run hlength hplayed
  refine ⟨segments, hlength, hplayed, hcount, Gate.run_calls hgate, ?_, ?_, ?_,
    Gate.run_staged hgate, ?_⟩
  · exact fun pre post tuple taken hmoves => Gate.offered_newest hgate hmoves
  · exact fun pre mid post tuple other taken hmoves => Gate.staged_again hgate hmoves
  · exact fun pre post tuple hmoves hstaged => Gate.offered_after_clear hgate hmoves hstaged rfl
  · intro hstaged hidle
    rcases Gate.Waiting.run hgate hready.waiting hstaged hidle with harmed | hdue
    · exact harmed
    · cases hdue

end

/-! ### A turn that ends during a command -/

/-- The store of the Bridge. -/
def sampleStore : RegistryStateStore BridgeStore := bridgeStateStore parityText

/-- The readings at a second of the monotonic clock, with the lease or the event id that would
be drawn. -/
def readAt (second : Nat) (drawn : String) : RegistryReadings :=
  ⟨second * 1000000000, 0, "2026-01-01T00:00:00.000Z", drawn, drawn⟩

/-- A Bridge whose writes have these outcomes, with a Session that has just registered. The
registration is the first write. -/
def started (writes : List WriteOutcome) : RecordedWorld BridgeStore :=
  let fresh : RecordedWorld BridgeStore :=
    ⟨.new "host" 0, ⟨.opened ⟨emptyState "epoch", []⟩ true writes, []⟩, [], []⟩
  ((register parityText (recordedStore sampleStore) (readAt 1 "lease") {
    sessionId := "session"
    provider := "pi"
    projectName := "project"
    cwd := "/project"
    nameText := "name"
    openingText := none
    latestActivityText := none
    harnessProvider := none
    pid := none
    status := some .working
    driverInstanceId := "AAAAAAAAAAAAAAAAAAAAAA" }).run fresh).2

/-- A command for the Session. -/
def goCommand : CommandEnvelope where
  commandId := "command"
  hostId := "host"
  sessionId := "session"
  type := .reply
  text := some "go"
  targetAlertEventId := none
  issuedAt := sampleInstant 0
  expiresAt := sampleInstant 60000
  nonce := "nonce"
  watchDeviceId := "watch"

/-- The world after actions of the Session. -/
def after (w : RecordedWorld BridgeStore) :
    List (RegistryReadings × SessionAction) → RecordedWorld BridgeStore
  | [] => w
  | (at_, action) :: rest =>
      after ((perform parityText (recordedStore sampleStore) "session" at_ action).run w).2 rest

/-- The events of actions. -/
def eventsOf (actions : List (RegistryReadings × SessionAction)) : List SessionEvent :=
  actions.map fun a => .act a.1 a.2

/-- The actions are those of the Session. -/
def AllOfSession (w : RecordedWorld BridgeStore) :
    List (RegistryReadings × SessionAction) → Prop
  | [] => True
  | (at_, action) :: rest => action.OfSession "session" w ∧
      AllOfSession ((perform parityText (recordedStore sampleStore) "session" at_ action).run w).2
        rest

instance decidableAllOfSession : ∀ (actions : List (RegistryReadings × SessionAction))
    (w : RecordedWorld BridgeStore), Decidable (AllOfSession w actions)
  | [], _ => .isTrue trivial
  | (at_, action) :: rest, w =>
      have := decidableAllOfSession rest
        ((perform parityText (recordedStore sampleStore) "session" at_ action).run w).2
      inferInstanceAs (Decidable (_ ∧ _))

/-- A command is handed over, a turn ends meanwhile, and the command is abandoned. -/
def turnEnds : List (RegistryReadings × SessionAction) :=
  [(readAt 2 "", .enqueueCommand goCommand),
    (readAt 2 "", .dequeueCommand ⟨0, "session", "lease"⟩ 0),
    (readAt 3 "event-1", .pushEventSource (doneRequest "00000000000000000000000000000001" "Done")),
    (readAt 4 "", .abandonCommand "command")]

/-- A registered Session without commands and without a staged tuple is ready. -/
theorem ready_of_check {w : RecordedWorld BridgeStore}
    (h : (w.registry.sessions.contains "session" && !w.registry.disposed
      && (w.registry.commands.queue "session").isEmpty
      && !(w.registry.terminals.delayedTerminalEvents.contains "session")) = true) :
    Ready parityText "session" w := by
  simp only [Bool.and_eq_true, Bool.not_eq_true', List.isEmpty_iff] at h
  obtain ⟨⟨⟨hregistered, hlive⟩, hqueue⟩, hstaged⟩ := h
  have hnone : (gateOf "session" w).staged = none :=
    Option.isNone_iff_eq_none.mp (Option.isSome_eq_false_iff.mp hstaged)
  refine ⟨⟨hregistered, hlive, ?_, ?_⟩, ?_⟩
  · intro _ hmem
    rw [hqueue] at hmem
    cases hmem
  · intro _ hsome
    rw [hnone] at hsome
    cases hsome
  · intro hsome
    rw [hnone] at hsome
    cases hsome

/-- Every push of the actions is sound. -/
def AllSound (w : RecordedWorld BridgeStore) : List (RegistryReadings × SessionAction) → Prop
  | [] => True
  | (at_, action) :: rest => SoundPush parityText sampleStore "session" w (.act at_ action) ∧
      AllSound ((perform parityText (recordedStore sampleStore) "session" at_ action).run w).2 rest

theorem sound_run_after {w : RecordedWorld BridgeStore}
    {actions : List (RegistryReadings × SessionAction)} (h : AllOfSession w actions)
    (hsound : AllSound w actions) :
    Run (Guarded (SessionStep parityText sampleStore "session")
      (SoundPush parityText sampleStore "session")) w (eventsOf actions) (after w actions) := by
  induction actions generalizing w with
  | nil => exact Run.nil w
  | cons action rest ih => exact Run.cons ⟨hsound.1, .act h.1⟩ (ih h.2 hsound.2)

/-- A staging of a busy Session is sound when its tuple has a fingerprint. -/
theorem stages_of_busy {staging : RegistryEffect (Recorded BridgeStore) (Option Staging)}
    {w : RecordedWorld BridgeStore}
    (h : (match staging.run w with
      | (.ok (some staged), v) =>
          (producerEventFingerprint parityText (producerPart staged.tuple.event)).isOk
            && v.registry.commands.hasPendingCommandWork "session"
      | _ => false) = true) :
    Stages parityText sampleStore "session" staging w := by
  intro staged v hrun
  rw [hrun, Bool.and_eq_true] at h
  obtain ⟨hprinted, hbusy⟩ := h
  refine ⟨?_, fun hidle => ?_⟩
  · unfold Printable
    rcases hfingerprint : producerEventFingerprint parityText (producerPart staged.tuple.event)
      with thrown | fingerprint
    · rw [hfingerprint] at hprinted
      cases hprinted
    · exact ⟨fingerprint, rfl⟩
  · rw [hbusy] at hidle
    cases hidle

set_option maxRecDepth 20000 in
theorem sound_turnEnds : AllSound (started []) turnEnds :=
  ⟨trivial, trivial, stages_of_busy (by decide +kernel), trivial, trivial⟩

set_option maxRecDepth 20000 in
/-- Without failing writes, the event of a turn that ends during a command is queued when the
command is abandoned. -/
theorem terminalGating_of_sound_turnEnds :
    ∃ segments, Gated parityText sampleStore "session" (started []) (after (started []) turnEnds)
      (eventsOf turnEnds) segments :=
  terminalGating_of_sound (ready_of_check (by decide +kernel))
    (sound_run_after (by decide +kernel) sound_turnEnds)

/-! ### The tuple that is left behind -/

/-- The next turn ends as well. -/
def twoTurns : List (RegistryReadings × SessionAction) :=
  turnEnds ++ [(readAt 5 "event-2",
    .pushEventSource (doneRequest "00000000000000000000000000000002" "Done!"))]

/-- The write that queues the first event fails, and so does the one that accepts the second
event. -/
def failingWrites : List WriteOutcome :=
  [.written, .written, .written, .failed, .written, .written, .written, .written, .written,
    .failed]

theorem run_after {w : RecordedWorld BridgeStore}
    {actions : List (RegistryReadings × SessionAction)} (h : AllOfSession w actions) :
    Run (SessionStep parityText sampleStore "session") w (eventsOf actions) (after w actions) := by
  induction actions generalizing w with
  | nil => exact Run.nil w
  | cons action rest ih => exact Run.cons (.act h.1) (ih h.2)

set_option maxRecDepth 20000 in
theorem failing_run :
    Run (SessionStep parityText sampleStore "session") (started failingWrites)
      (eventsOf twoTurns) (after (started failingWrites) twoTurns) :=
  run_after (by decide +kernel)

set_option maxRecDepth 20000 in
/-- The first event is cancelled, and the second one is staged without a retry timer. -/
theorem failing_leftBehind :
    let w := after (started failingWrites) twoTurns
    w.registry.terminals.delayedTerminalEvents.contains "session" = true ∧
      w.registry.commands.hasPendingCommandWork "session" = false ∧
      w.registry.terminals.terminalRetryTimers.contains "session" = false := by
  decide +kernel

set_option maxRecDepth 20000 in
/-- The command work has cleared, and the newest tuple waits for nothing. -/
theorem not_terminalEventsGated :
    ¬TerminalEventsGated parityText sampleStore "session" := by
  intro h
  obtain ⟨segments, hgated⟩ :=
    h _ _ _ (ready_of_check (by decide +kernel)) failing_run
  obtain ⟨hstaged, hidle, hunarmed⟩ := failing_leftBehind
  rw [hgated.waiting hstaged hidle] at hunarmed
  cases hunarmed

end Ariava.Proofs.TerminalGating
