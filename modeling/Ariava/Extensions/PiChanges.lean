import Ariava.Extensions.PiExtension
import Ariava.Lib.Run

/-!
# `Ariava.Extensions.PiChanges`: what one action does to the reducer

`Change` lists all that an action can do to the state, the timers and the calls, one constructor
for each outcome, and `perform_change` shows that every action does one of these. What holds
along a run of the extension is proved from this list, and no later proof unfolds a callback.

The session, the status of the heartbeat and the emitted fingerprints only decide which texts an
alert has and whether there is one. `retext` puts any values for them.

`Consistent` says that the state belongs to the session of the heartbeat, so `ensureLoopState`
never replaces it.
-/

set_option autoImplicit false

namespace Ariava.Extensions

open Ariava.Lib
open Ariava.Protocol
open Ariava.AgentAdapter

/-- The texts of the extension. -/
structure PiTexts where
  session : Option PiSessionInfo
  heartbeatStatus : SessionStatus
  emittedFingerprints : List String

/-- The state of a new session. -/
def PiReducerState.fresh (id : Nat) (sessionId : String) (activeLeafId : Option String) :
    PiReducerState where
  id
  sessionId
  rootSessionActive := true
  loopRunning := false
  terminalEmittedForCurrentLoop := false
  flowRevision := 0
  latestAgentEndResult := none
  latestPendingAlert := none
  pendingHandleCandidate := none
  quietTimer := none
  terminalDeliveryInFlight := false
  lastInputAt := none
  inputCursor := 0
  activeLeafId
  generationSequence := 0
  currentRunGeneration := none
  settledRunGeneration := none

/-- The candidate that an input at a clock reading reports. -/
def PiReducerState.reports? (s : PiReducerState) (now : Int) : Option PendingHandleCandidate :=
  s.pendingHandleCandidate.filter fun candidate =>
    !candidate.reported && decide (now ≠ 0) &&
      decide (candidate.observedUserInputCursor < s.inputCursor + 1)

/-- The state after an input: the cursor is ahead, and a candidate that was reported says so. -/
def PiReducerState.received (s : PiReducerState) (now : Int) : PiReducerState :=
  { s with
    lastInputAt := some now
    inputCursor := s.inputCursor + 1
    pendingHandleCandidate :=
      match s.reports? now with
      | some candidate => some { candidate with reported := true }
      | none => s.pendingHandleCandidate }

/-- The call of `handleSession` for a candidate. -/
def PendingHandleCandidate.call (candidate : PendingHandleCandidate) (handledAt : Option Int) :
    HandleCall where
  push := candidate.push
  sessionId := candidate.sessionId
  handledThroughEventId := candidate.eventId
  handledThroughEventCreatedAt := candidate.eventCreatedAt
  handledAt
  outcome := .inFlight

/-- The candidate of a push call that was acknowledged. -/
def PushCall.candidate (call : PushCall) (push : Nat) (eventId : String) :
    PendingHandleCandidate where
  push
  sessionId := call.event.sessionId
  eventId
  eventCreatedAt := call.event.createdAt
  observedUserInputCursor := call.observedUserInputCursor
  reported := false

/-- The state after the `finally` of a push. -/
def PiReducerState.delivered (s : PiReducerState) (call : PushCall) : PiReducerState :=
  { s with
    terminalDeliveryInFlight :=
      if s.latestPendingAlert = some call.alert then false else s.terminalDeliveryInFlight }

/-- The state after the end of a report. -/
def PiReducerState.answered (s : PiReducerState) (call : HandleCall)
    (f : PendingHandleCandidate → Option PendingHandleCandidate) : PiReducerState :=
  { s with
    pendingHandleCandidate := s.pendingHandleCandidate.bind fun candidate =>
      if candidate.push = call.push then f candidate else some candidate }

namespace PiExtension

/-- Other texts. -/
def retext (w : PiExtension) (texts : PiTexts) : PiExtension :=
  { w with
    session := texts.session
    heartbeatStatus := texts.heartbeatStatus
    emittedFingerprints := texts.emittedFingerprints }

/-- The texts. -/
def texts (w : PiExtension) : PiTexts := ⟨w.session, w.heartbeatStatus, w.emittedFingerprints⟩

/-- The timers that are left when the quiet timer is cleared. -/
def clearedTimers (w : PiExtension) : List QuietTimer :=
  w.timers.filter fun t => w.state.bind (·.quietTimer) ≠ some t.id

/-! ### Equations of the helpers -/

variable {w : PiExtension} {s : PiReducerState}

theorem clearQuietTimer_eq (w : PiExtension) :
    w.clearQuietTimer =
      { w with
        state := w.state.map fun s => { s with quietTimer := none }
        timers := w.clearedTimers } := by
  obtain ⟨_, state, _, _, _, _, _, _, timers, _, _⟩ := w
  rcases state with _ | s
  · simp [clearQuietTimer, clearedTimers]
  · rcases htimer : s.quietTimer with _ | timer
    · have hsame : ({ s with quietTimer := none } : PiReducerState) = s := by rw [← htimer]
      simp [clearQuietTimer, clearedTimers, htimer, hsame]
    · simp [clearQuietTimer, clearedTimers, updateState, htimer, eq_comm]

theorem invalidatePendingTerminal_eq (w : PiExtension) :
    w.invalidatePendingTerminal =
      { w with
        state := w.state.map fun s =>
          { s with
            quietTimer := none, latestPendingAlert := none, terminalDeliveryInFlight := false }
        timers := w.clearedTimers } := by
  unfold invalidatePendingTerminal
  rw [clearQuietTimer_eq]
  simp [updateState, Function.comp_def]

theorem schedulePendingTerminal_eq (hstate : w.state = some s) :
    w.schedulePendingTerminal =
      { w with
        state := some { s with quietTimer := some w.created }
        created := w.created + 1
        timers := w.clearedTimers ++ [⟨w.created, s.sessionId, s.flowRevision⟩] } := by
  unfold schedulePendingTerminal
  rw [clearQuietTimer_eq]
  simp [updateState, hstate]

theorem beginNewLowLevelRun_eq (hstate : w.state = some s) :
    w.beginNewLowLevelRun =
      { w with
        state := some
          { s with
            quietTimer := none
            latestPendingAlert := none
            terminalDeliveryInFlight := false
            latestAgentEndResult := none
            terminalEmittedForCurrentLoop := false
            flowRevision := s.flowRevision + 1
            generationSequence := s.generationSequence + 1
            currentRunGeneration := some (s.generationSequence + 1)
            settledRunGeneration := none
            loopRunning := true }
        timers := w.clearedTimers } := by
  unfold beginNewLowLevelRun
  rw [invalidatePendingTerminal_eq]
  simp [updateState, hstate]

/-- The state belongs to the session of the heartbeat. -/
structure Consistent (w : PiExtension) : Prop where
  session : ∀ s, w.state = some s → s.sessionId = w.heartbeatSessionId
  none : w.state = none → w.heartbeatSessionId = ""

/-- A callback that the reducer takes no notice of: one of another session manager, or one
without a session. -/
def Ignored (w : PiExtension) : PiAction → Prop
  | .input _ _ => w.state = none
  | .agentStart ctx => w.isActive ctx = false
  | .agentEnd ctx _ => w.isActive ctx = false
  | .agentSettled ctx _ => w.isActive ctx = false
  | .sessionTree ctx _ => w.isActive ctx = false
  | _ => False

/-- The timers when one has fired. -/
def firedTimers (w : PiExtension) (timer : Nat) : List QuietTimer :=
  w.timers.filter fun t => t.id ≠ timer

/-- The push calls when one has ended. -/
def endedPushes (w : PiExtension) (push : Nat) (outcome : PushOutcome) : List PushCall :=
  w.pushes.modify push fun call => { call with outcome }

/-- The calls of `handleSession` when one has ended. -/
def endedHandles (w : PiExtension) (handle : Nat) (outcome : HandleOutcome) : List HandleCall :=
  w.handles.modify handle fun call => { call with outcome }

/-! ### The changes -/

/-- What an action can do, but for the texts. -/
inductive Change (eventPublicationEnabled : Bool) (w : PiExtension) :
    PiAction → PiExtension → Prop
  | restart (ctx : PiContext) :
      Change eventPublicationEnabled w (.sessionStart ctx)
        { w with
          deliverySequence := w.deliverySequence + 1
          timers := w.clearedTimers
          activeSessionManager := some ctx.sessionManager
          heartbeatSessionId := ctx.sessionId
          created := w.created + 1
          state := some (PiReducerState.fresh w.created ctx.sessionId ctx.activeLeafId) }
  | restartFails (ctx : PiContext) :
      Change eventPublicationEnabled w (.sessionStart ctx)
        { w with
          deliverySequence := w.deliverySequence + 1
          timers := w.clearedTimers
          state := w.state.map fun s => { s with quietTimer := none } }
  | shutdown (ctx : PiContext) :
      Change eventPublicationEnabled w (.sessionShutdown ctx)
        { w with
          deliverySequence := w.deliverySequence + 1
          timers := w.clearedTimers
          heartbeatSessionId := ""
          activeSessionManager := none
          state := none }
  | ignored (a : PiAction) (h : w.Ignored a) : Change eventPublicationEnabled w a w
  | steering (s : PiReducerState) (hstate : w.state = some s) (now : Int) :
      Change eventPublicationEnabled w (.input now true)
        { w with
          state := some (s.received now)
          handles := w.handles ++ (s.reports? now).toList.map (·.call (some now)) }
  | typed (s : PiReducerState) (hstate : w.state = some s) (now : Int) :
      Change eventPublicationEnabled w (.input now false)
        { w with
          state := some
            { s.received now with
              quietTimer := none
              latestPendingAlert := none
              terminalDeliveryInFlight := false
              latestAgentEndResult := none
              flowRevision := s.flowRevision + 1
              loopRunning := false
              currentRunGeneration := none
              settledRunGeneration := none }
          timers := w.clearedTimers
          handles := w.handles ++ (s.reports? now).toList.map (·.call (some now)) }
  | start (s : PiReducerState) (hstate : w.state = some s) (ctx : PiContext)
      (hactive : w.isActive ctx = true) :
      Change eventPublicationEnabled w (.agentStart ctx)
        { w with
          state := some
            { s with
              activeLeafId := ctx.activeLeafId <|> s.activeLeafId
              quietTimer := none
              latestPendingAlert := none
              terminalDeliveryInFlight := false
              latestAgentEndResult := none
              terminalEmittedForCurrentLoop := false
              flowRevision := s.flowRevision + 1
              generationSequence := s.generationSequence + 1
              currentRunGeneration := some (s.generationSequence + 1)
              settledRunGeneration := none
              loopRunning := true }
          timers := w.clearedTimers }
  | ended (s : PiReducerState) (hstate : w.state = some s) (ctx : PiContext)
      (hactive : w.isActive ctx = true) (messages : List AgentMessage)
      (result : LatestAgentEndResult)
      (hcurrent : s.currentRunGeneration = some result.runGeneration) :
      Change eventPublicationEnabled w (.agentEnd ctx messages)
        { w with
          state := some
            { s with
              activeLeafId := ctx.activeLeafId <|> s.activeLeafId
              loopRunning := false
              latestAgentEndResult := some result } }
  | notRunning (s : PiReducerState) (hstate : w.state = some s) (ctx : PiContext)
      (hactive : w.isActive ctx = true) (messages : List AgentMessage) :
      Change eventPublicationEnabled w (.agentEnd ctx messages)
        { w with state := some { s with activeLeafId := ctx.activeLeafId <|> s.activeLeafId } }
  | unsettled (ctx : PiContext) (hactive : w.isActive ctx = true) (createdAt : String) :
      Change eventPublicationEnabled w (.agentSettled ctx createdAt) w
  | dropped (s : PiReducerState) (hstate : w.state = some s) (ctx : PiContext)
      (hactive : w.isActive ctx = true) (createdAt : String) :
      Change eventPublicationEnabled w (.agentSettled ctx createdAt)
        { w with
          state := some
            { s with
              loopRunning := false
              currentRunGeneration := none
              latestAgentEndResult := none } }
  | settled (s : PiReducerState) (hstate : w.state = some s) (ctx : PiContext)
      (hactive : w.isActive ctx = true) (createdAt : String) (result : LatestAgentEndResult)
      (hresult : s.latestAgentEndResult = some result)
      (hcurrent : s.currentRunGeneration = some result.runGeneration)
      (hpending : s.latestPendingAlert = none) (emitted : Bool) :
      Change eventPublicationEnabled w (.agentSettled ctx createdAt)
        { w with
          state := some
            { s with
              currentRunGeneration := none
              latestAgentEndResult := none
              settledRunGeneration := some result.runGeneration
              terminalEmittedForCurrentLoop := emitted } }
  | submitted (s : PiReducerState) (hstate : w.state = some s) (ctx : PiContext)
      (hactive : w.isActive ctx = true) (createdAt : String) (result : LatestAgentEndResult)
      (hresult : s.latestAgentEndResult = some result)
      (hcurrent : s.currentRunGeneration = some result.runGeneration)
      (hpending : s.latestPendingAlert = none) (alert : PendingTerminalAlert)
      (hid : alert.id = w.created) (hflow : alert.flowRevision = s.flowRevision)
      (hgeneration : alert.runGeneration = result.runGeneration) :
      Change eventPublicationEnabled w (.agentSettled ctx createdAt)
        { w with
          state := some
            { s with
              currentRunGeneration := none
              latestAgentEndResult := none
              settledRunGeneration := some result.runGeneration
              latestPendingAlert := some alert
              quietTimer := some (w.created + 1) }
          created := w.created + 2
          timers := w.clearedTimers ++ [⟨w.created + 1, s.sessionId, s.flowRevision⟩] }
  | switched (s : PiReducerState) (hstate : w.state = some s) (ctx : PiContext)
      (hactive : w.isActive ctx = true) (newLeafId : Option String) :
      Change eventPublicationEnabled w (.sessionTree ctx newLeafId)
        { w with
          deliverySequence := w.deliverySequence + 1
          state := some
            { s with
              activeLeafId := newLeafId <|> ctx.activeLeafId <|> s.activeLeafId
              quietTimer := none
              latestPendingAlert := none
              terminalDeliveryInFlight := false
              latestAgentEndResult := none
              terminalEmittedForCurrentLoop := false
              pendingHandleCandidate := none
              flowRevision := s.flowRevision + 1
              loopRunning := false
              currentRunGeneration := none
              settledRunGeneration := none }
          timers := w.clearedTimers }
  | fired (timer : Nat) (newWork : Bool) :
      Change eventPublicationEnabled w (.timerFires timer newWork)
        { w with timers := w.firedTimers timer }
  | skipped (s : PiReducerState) (hstate : w.state = some s) (timer : Nat) (newWork : Bool) :
      Change eventPublicationEnabled w (.timerFires timer newWork)
        { w with
          state := some { s with quietTimer := none }
          timers := (w.firedTimers timer).filter fun t => s.quietTimer ≠ some t.id }
  | interrupted (s : PiReducerState) (hstate : w.state = some s) (timer : Nat) (newWork : Bool) :
      Change eventPublicationEnabled w (.timerFires timer newWork)
        { w with
          state := some
            { s with
              quietTimer := none
              latestPendingAlert := none
              terminalDeliveryInFlight := false }
          timers := (w.firedTimers timer).filter fun t => s.quietTimer ≠ some t.id }
  | unpublished (s : PiReducerState) (hstate : w.state = some s) (timer : Nat) (newWork : Bool)
      (hdisabled : eventPublicationEnabled = false) :
      Change eventPublicationEnabled w (.timerFires timer newWork)
        { w with
          state := some
            { s with
              quietTimer := none
              terminalEmittedForCurrentLoop := true
              latestPendingAlert := none
              terminalDeliveryInFlight := false
              pendingHandleCandidate := none }
          timers := (w.firedTimers timer).filter fun t => s.quietTimer ≠ some t.id }
  | pushed (s : PiReducerState) (hstate : w.state = some s) (timer : Nat) (newWork : Bool)
      (htimer : timer ∈ w.timers.map (·.id)) (call : PushCall) (hemit : mayEmit s call.alert = true)
      (hlifetime : call.lifetime = s.id) (htoken : call.deliveryToken = w.deliverySequence)
      (hsession : call.deliveredSessionId = s.sessionId)
      (hleaf : call.deliveredLeafId = s.activeLeafId)
      (hflow : call.deliveredFlowRevision = s.flowRevision)
      (hsettled : call.deliveredRunGeneration = s.settledRunGeneration)
      (hcursor : call.observedUserInputCursor = s.inputCursor)
      (houtcome : call.outcome = .inFlight) (henabled : eventPublicationEnabled = true) :
      Change eventPublicationEnabled w (.timerFires timer newWork)
        { w with
          state := some { s with quietTimer := none, terminalDeliveryInFlight := true }
          timers := (w.firedTimers timer).filter fun t => s.quietTimer ≠ some t.id
          pushes := w.pushes ++ [call] }
  | acknowledgedLate (push : Nat) (eventId : String) (call : PushCall)
      (hcall : w.pushes[push]? = some call)
      (hlate : ∀ s, w.state = some s → w.stillDelivered s call = true →
        s.inputCursor ≤ call.observedUserInputCursor ∧ stillPending s call = false) :
      Change eventPublicationEnabled w (.pushResolves push eventId)
        { w with
          state := w.state.map (·.delivered call)
          pushes := w.endedPushes push (.acknowledged eventId) }
  | acknowledgedAnswered (push : Nat) (eventId : String) (call : PushCall)
      (hcall : w.pushes[push]? = some call) (s : PiReducerState) (hstate : w.state = some s)
      (hdelivered : w.stillDelivered s call = true)
      (hinput : call.observedUserInputCursor < s.inputCursor) :
      Change eventPublicationEnabled w (.pushResolves push eventId)
        { w with
          state := some
            { s.delivered call with
              pendingHandleCandidate := some
                { call.candidate push eventId with reported := true } }
          pushes := w.endedPushes push (.acknowledged eventId)
          handles := w.handles ++ [(call.candidate push eventId).call s.lastInputAt] }
  | acknowledged (push : Nat) (eventId : String) (call : PushCall)
      (hcall : w.pushes[push]? = some call) (s : PiReducerState) (hstate : w.state = some s)
      (hdelivered : w.stillDelivered s call = true)
      (hinput : s.inputCursor ≤ call.observedUserInputCursor)
      (hpending : stillPending s call = true) :
      Change eventPublicationEnabled w (.pushResolves push eventId)
        { w with
          state := some
            { s with
              terminalEmittedForCurrentLoop := true
              latestPendingAlert := none
              pendingHandleCandidate := some (call.candidate push eventId) }
          pushes := w.endedPushes push (.acknowledged eventId) }
  | failed (push : Nat) (call : PushCall) (hcall : w.pushes[push]? = some call) :
      Change eventPublicationEnabled w (.pushRejects push)
        { w with
          state := w.state.map (·.delivered call)
          pushes := w.endedPushes push .failed }
  | failedAgain (push : Nat) (call : PushCall) (hcall : w.pushes[push]? = some call)
      (s : PiReducerState) (hstate : w.state = some s)
      (hdelivered : w.stillDelivered s call = true) (hpending : stillPending s call = true) :
      Change eventPublicationEnabled w (.pushRejects push)
        { w with
          state := some
            { s with
              terminalDeliveryInFlight := false
              quietTimer := some w.created }
          created := w.created + 1
          timers := w.clearedTimers ++ [⟨w.created, s.sessionId, s.flowRevision⟩]
          pushes := w.endedPushes push .failed }
  | handled (handle : Nat) (call : HandleCall) (hcall : w.handles[handle]? = some call) :
      Change eventPublicationEnabled w (.handleResolves handle)
        { w with
          state := w.state.map (·.answered call fun _ => none)
          handles := w.endedHandles handle .succeeded }
  | unhandled (handle : Nat) (call : HandleCall) (hcall : w.handles[handle]? = some call) :
      Change eventPublicationEnabled w (.handleRejects handle)
        { w with
          state := w.state.map (·.answered call fun candidate =>
            some { candidate with reported := false })
          handles := w.endedHandles handle .failed }

/-- An action does a change, whatever it does to the texts. -/
def Does (eventPublicationEnabled : Bool) (w : PiExtension) (a : PiAction) (w' : PiExtension) :
    Prop :=
  ∃ x, Change eventPublicationEnabled w a x ∧ w' = x.retext w'.texts

variable {eventPublicationEnabled : Bool} {a : PiAction} {x w' : PiExtension}

theorem Change.does (h : Change eventPublicationEnabled w a x) (heq : w' = x.retext w'.texts) :
    w.Does eventPublicationEnabled a w' := ⟨x, h, heq⟩

theorem Does.retext (h : w.Does eventPublicationEnabled a w') (texts : PiTexts) :
    w.Does eventPublicationEnabled a (w'.retext texts) := by
  obtain ⟨x, hchange, heq⟩ := h
  refine ⟨x, hchange, ?_⟩
  rw [heq]
  rfl

/-! ### Every action does a change -/

section
variable (text : PiText)

theorem pushWorking_retext (ctx : PiContext) (agentText : Option String) (w : PiExtension) :
    ∃ texts, w.pushWorking text ctx agentText = w.retext texts := by
  unfold pushWorking
  split
  · split
    · exact ⟨w.texts, rfl⟩
    · exact ⟨⟨_, _, _⟩, rfl⟩
  · exact ⟨w.texts, rfl⟩

theorem sessionStart_does (ctx : PiContext) (w : PiExtension) :
    w.Does eventPublicationEnabled (.sessionStart ctx) (w.sessionStart text ctx) := by
  unfold sessionStart
  rw [clearQuietTimer_eq]
  split
  · exact (Change.restartFails ctx).does rfl
  · exact (Change.restart ctx).does rfl

theorem sessionShutdown_does (ctx : PiContext) (w : PiExtension) :
    w.Does eventPublicationEnabled (.sessionShutdown ctx) w.sessionShutdown := by
  unfold sessionShutdown
  rw [clearQuietTimer_eq]
  exact (Change.shutdown ctx).does rfl

/-- `ensureLoopState` keeps the state of the session. -/
theorem ensureLoopState_eq (hstate : w.state = some s) (hsession : s.sessionId = w.heartbeatSessionId)
    (activeLeafId : Option String) (session : Option PiSessionInfo) :
    ({ w with session } : PiExtension).ensureLoopState w.heartbeatSessionId activeLeafId =
      { w with
        session
        state := some { s with activeLeafId := activeLeafId <|> s.activeLeafId } } := by
  unfold ensureLoopState
  simp only [hstate]
  rw [if_neg (not_not.mpr hsession)]
  simp [updateState]

theorem Consistent.active (hw : w.Consistent) {ctx : PiContext} (hactive : w.isActive ctx = true) :
    ∃ s, w.state = some s ∧ s.sessionId = w.heartbeatSessionId := by
  cases hstate : w.state with
  | none => simp [isActive, hw.none hstate] at hactive
  | some s => exact ⟨s, rfl, hw.session s hstate⟩

theorem agentStart_does (hw : w.Consistent) (ctx : PiContext) :
    w.Does eventPublicationEnabled (.agentStart ctx) (w.agentStart text ctx) := by
  unfold agentStart
  cases hactive : w.isActive ctx with
  | false => exact (Change.ignored (.agentStart ctx) hactive).does rfl
  | true =>
    obtain ⟨s, hstate, hsession⟩ := hw.active hactive
    simp only [Bool.not_true, Bool.false_eq_true, if_false]
    rw [ensureLoopState_eq hstate hsession, beginNewLowLevelRun_eq rfl]
    obtain ⟨texts, htexts⟩ := pushWorking_retext text ctx ctx.latestActivityText _
    rw [htexts]
    refine Does.retext ((Change.start s hstate ctx hactive).does ?_) texts
    simp [retext, PiExtension.texts, clearedTimers, hstate]

theorem agentEnd_does (hw : w.Consistent) (ctx : PiContext) (messages : List AgentMessage) :
    w.Does eventPublicationEnabled (.agentEnd ctx messages) (w.agentEnd text ctx messages) := by
  unfold agentEnd
  cases hactive : w.isActive ctx with
  | false => exact (Change.ignored (.agentEnd ctx messages) hactive).does rfl
  | true =>
    obtain ⟨s, hstate, hsession⟩ := hw.active hactive
    simp only [Bool.not_true, Bool.false_eq_true, if_false]
    rw [ensureLoopState_eq hstate hsession]
    dsimp only
    split
    · next runGeneration hrunning hcurrent =>
      obtain ⟨texts, htexts⟩ := pushWorking_retext text ctx
        (extractLatestAssistantEnd text messages runGeneration).agentText _
      rw [htexts]
      have hgeneration :
          (extractLatestAssistantEnd text messages runGeneration).runGeneration = runGeneration := by
        unfold extractLatestAssistantEnd
        split <;> rfl
      exact Does.retext ((Change.ended s hstate ctx hactive messages _
        (hgeneration.symm ▸ hcurrent)).does rfl) texts
    · exact (Change.notRunning s hstate ctx hactive messages).does rfl

theorem sessionTree_does (hw : w.Consistent) (ctx : PiContext) (newLeafId : Option String) :
    w.Does eventPublicationEnabled (.sessionTree ctx newLeafId)
      (w.sessionTree text ctx newLeafId) := by
  unfold sessionTree
  cases hactive : w.isActive ctx with
  | false =>
    split
    · exact (Change.ignored (.sessionTree ctx newLeafId) hactive).does rfl
    · exact (Change.ignored (.sessionTree ctx newLeafId) hactive).does rfl
  | true =>
    obtain ⟨s, hstate, hsession⟩ := hw.active hactive
    simp only [hstate, Bool.not_true, Bool.false_eq_true, if_false]
    refine (Change.switched s hstate ctx hactive newLeafId).does ?_
    unfold clearBranchSensitiveState
    rw [invalidatePendingTerminal_eq]
    simp [retext, texts, updateState, clearedTimers, hstate]

/-- What an input reports of the candidate. -/
theorem received_eq (hstate : w.state = some s) (now : Int) :
    (w.updateState fun s => { s with
        lastInputAt := some now
        inputCursor := s.inputCursor + 1 }).reportPendingHandleAfterLocalInput =
      { w with
        state := some (s.received now)
        handles := w.handles ++ (s.reports? now).toList.map (·.call (some now)) } := by
  have hupdated : (w.updateState fun s =>
      { s with lastInputAt := some now, inputCursor := s.inputCursor + 1 }) =
      { w with
        state := some { s with lastInputAt := some now, inputCursor := s.inputCursor + 1 } } := by
    simp [updateState, hstate]
  rw [hupdated]
  unfold reportPendingHandleAfterLocalInput
  cases hcandidate : s.pendingHandleCandidate with
  | none =>
    have hnone : s.reports? now = none := by
      unfold PiReducerState.reports?
      rw [hcandidate]
      rfl
    simp [hcandidate, PiReducerState.received, hnone]
  | some candidate =>
    have hreports : s.reports? now =
        if candidate.reported = false ∧ now ≠ 0 ∧
            candidate.observedUserInputCursor < s.inputCursor + 1 then some candidate
        else none := by
      unfold PiReducerState.reports?
      rw [hcandidate]
      simp [Option.filter, and_assoc]
    dsimp only
    by_cases hreported : candidate.reported = false ∧ now ≠ 0
    · by_cases hcursor : candidate.observedUserInputCursor < s.inputCursor + 1
      · rw [if_pos ⟨hreported.1, hreported.2, hcursor⟩] at hreports
        rw [if_neg (by simp [hreported.1, hreported.2]), if_neg (by omega)]
        simp [hreports, PiReducerState.received, reportHandledEvent, updateState,
          PendingHandleCandidate.call]
      · rw [if_neg (fun h => hcursor h.2.2)] at hreports
        rw [if_neg (by simp [hreported.1, hreported.2]), if_pos (by omega)]
        simp [hreports, PiReducerState.received, hcandidate]
    · rw [if_neg (fun h => hreported ⟨h.1, h.2.1⟩)] at hreports
      rw [if_pos]
      · simp [hreports, PiReducerState.received, hcandidate]
      · by_cases hfalse : candidate.reported = false
        · have hzero : now = 0 := by
            by_contra hnow
            exact hreported ⟨hfalse, hnow⟩
          simp [hzero]
        · simp [hfalse]

theorem input_does (w : PiExtension) (now : Int) (steering : Bool) :
    w.Does eventPublicationEnabled (.input now steering) (w.input now steering) := by
  unfold input
  cases hstate : w.state with
  | none => exact (Change.ignored (.input now steering) hstate).does rfl
  | some s =>
    dsimp only
    rw [received_eq hstate]
    cases steering with
    | true => exact (Change.steering s hstate now).does rfl
    | false =>
      refine (Change.typed s hstate now).does ?_
      rw [if_neg (by simp), invalidatePendingTerminal_eq]
      simp [PiExtension.retext, texts, updateState, clearedTimers, hstate, PiReducerState.received]
      exact List.filter_congr fun t _ => decide_not

/-- An alert becomes the pending one, with a quiet timer. -/
theorem submitAlert_eq (hstate : w.state = some s) (kind : EventKind) (agentText : String)
    (fingerprint humanText : Option String) (createdAt : String) (runGeneration : Nat) :
    w.submitAlert kind agentText fingerprint humanText createdAt runGeneration =
      { w with
        state := some
          { s with
            latestPendingAlert := some ⟨w.created, kind, agentText, fingerprint, humanText,
              createdAt, s.flowRevision, runGeneration⟩
            quietTimer := some (w.created + 1) }
        created := w.created + 2
        timers := w.clearedTimers ++ [⟨w.created + 1, s.sessionId, s.flowRevision⟩] } := by
  unfold submitAlert
  rw [schedulePendingTerminal_eq (s := { s with latestPendingAlert := some ⟨w.created, kind,
    agentText, fingerprint, humanText, createdAt, s.flowRevision, runGeneration⟩ })
    (by simp [updateState, hstate])]
  simp [updateState, clearedTimers, hstate]

variable (eventPublicationEnabled) in
/-- The submission of the alert of a result. -/
theorem submitAlert_does (hstate : w.state = some s) {ctx : PiContext}
    (hactive : w.isActive ctx = true) (createdAt : String) {result : LatestAgentEndResult}
    (hresult : s.latestAgentEndResult = some result)
    (hcurrent : s.currentRunGeneration = some result.runGeneration)
    (hpending : s.latestPendingAlert = none) (kind : EventKind) (agentText : String)
    (fingerprint humanText : Option String) :
    w.Does eventPublicationEnabled (.agentSettled ctx createdAt)
      (({ w with
          state := some
            { s with
              latestAgentEndResult := none
              currentRunGeneration := none
              settledRunGeneration := some result.runGeneration } } : PiExtension).submitAlert
        kind agentText fingerprint humanText createdAt result.runGeneration) := by
  rw [submitAlert_eq rfl]
  refine (Change.submitted s hstate ctx hactive createdAt result hresult hcurrent hpending
    ⟨w.created, kind, agentText, fingerprint, humanText, createdAt, s.flowRevision,
      result.runGeneration⟩ rfl rfl rfl).does ?_
  simp [PiExtension.retext, texts, clearedTimers, hstate]

variable (eventPublicationEnabled) in
/-- A settled result submits an alert, or only says whether the run has had its event. -/
theorem settleResult_does (hstate : w.state = some s) {ctx : PiContext}
    (hactive : w.isActive ctx = true) (createdAt : String) {result : LatestAgentEndResult}
    (hresult : s.latestAgentEndResult = some result)
    (hcurrent : s.currentRunGeneration = some result.runGeneration)
    (hpending : s.latestPendingAlert = none) :
    w.Does eventPublicationEnabled (.agentSettled ctx createdAt)
      (({ w with
          state := some
            { s with
              latestAgentEndResult := none
              currentRunGeneration := none
              settledRunGeneration := some result.runGeneration } } : PiExtension).settleResult
        text ctx result createdAt) := by
  have hsettled : ∀ emitted, Change eventPublicationEnabled w (.agentSettled ctx createdAt) _ :=
    Change.settled s hstate ctx hactive createdAt result hresult hcurrent hpending
  have hsubmitted := submitAlert_does eventPublicationEnabled hstate hactive createdAt hresult hcurrent hpending
  unfold settleResult
  split
  case h_2 => exact (hsettled s.terminalEmittedForCurrentLoop).does rfl
  case h_1 session t hsession ht =>
    cases ht
    split
    · exact (hsettled s.terminalEmittedForCurrentLoop).does rfl
    · split
      · exact (hsettled true).does rfl
      · split
        · unfold submitErrorCandidate
          split
          · exact (hsettled s.terminalEmittedForCurrentLoop).does rfl
          · exact hsubmitted _ _ _ _
        · dsimp only
          split
          · exact (hsettled s.terminalEmittedForCurrentLoop).does rfl
          · unfold submitTerminalCandidate
            split
            · exact (hsettled s.terminalEmittedForCurrentLoop).does rfl
            · split
              · exact (hsettled s.terminalEmittedForCurrentLoop).does rfl
              · exact hsubmitted _ _ _ _

theorem agentSettled_does (hw : w.Consistent) (ctx : PiContext) (createdAt : String) :
    w.Does eventPublicationEnabled (.agentSettled ctx createdAt)
      (w.agentSettled text ctx createdAt) := by
  unfold agentSettled
  cases hactive : w.isActive ctx with
  | false =>
    have hignored : Change eventPublicationEnabled w (.agentSettled ctx createdAt) w :=
      Change.ignored _ hactive
    split
    · exact hignored.does rfl
    · rw [if_pos (by simp)]
      exact hignored.does rfl
  | true =>
    have hnothing : Change eventPublicationEnabled w (.agentSettled ctx createdAt) w :=
      Change.unsettled ctx hactive createdAt
    obtain ⟨s, hstate, -⟩ := hw.active hactive
    simp only [hstate]
    split
    · exact hnothing.does rfl
    · split
      · exact hnothing.does rfl
      · next hready =>
        have hpending : s.latestPendingAlert = none := by
          by_contra h
          exact hready (Or.inr h)
        split
        · exact hnothing.does rfl
        · next runGeneration hcurrent =>
          split
          · refine (Change.dropped s hstate ctx hactive createdAt).does ?_
            simp [PiExtension.retext, texts, updateState, hstate]
          · next hidle =>
            have hnotRunning : s.loopRunning = false := by simpa using hidle
            have htaken : (w.updateState fun s =>
                { s with latestAgentEndResult := none, currentRunGeneration := none }) =
                ({ w with
                  state := some
                    { s with
                      loopRunning := false
                      currentRunGeneration := none
                      latestAgentEndResult := none } } : PiExtension) := by
              simp [updateState, hstate, hnotRunning]
            split
            · rw [htaken]
              exact (Change.dropped s hstate ctx hactive createdAt).does rfl
            · next result hresult =>
              split
              · rw [htaken]
                exact (Change.dropped s hstate ctx hactive createdAt).does rfl
              · next hsame =>
                have hgeneration : result.runGeneration = runGeneration := not_not.mp hsame
                have hdoes := settleResult_does eventPublicationEnabled text hstate hactive createdAt hresult (hgeneration ▸ hcurrent) hpending
                simpa [updateState, hstate, hgeneration] using hdoes

/-! ### Timers and calls -/

theorem settleTerminalWithoutPublication_eq (hstate : w.state = some s)
    (alert : PendingTerminalAlert) (terminalSession : PiSessionInfo) :
    w.settleTerminalWithoutPublication text alert terminalSession =
      ({ w with
          state := some
            { s with
              terminalEmittedForCurrentLoop := true
              latestPendingAlert := none
              terminalDeliveryInFlight := false
              pendingHandleCandidate := none } } : PiExtension).retext
        (w.settleTerminalWithoutPublication text alert terminalSession).texts := by
  simp [settleTerminalWithoutPublication, updateState, hstate, PiExtension.retext, texts]

variable (eventPublicationEnabled) in
/-- What `emitTerminalAlert` does: nothing, or it settles the alert without an event, or it
pushes the event. -/
theorem emitTerminalAlert_cases (hstate : w.state = some s) (alert : PendingTerminalAlert) :
    w.emitTerminalAlert text eventPublicationEnabled alert = w ∨
    (eventPublicationEnabled = false ∧
      w.emitTerminalAlert text eventPublicationEnabled alert =
        ({ w with
            state := some
              { s with
                terminalEmittedForCurrentLoop := true
                latestPendingAlert := none
                terminalDeliveryInFlight := false
                pendingHandleCandidate := none } } : PiExtension).retext
          (w.emitTerminalAlert text eventPublicationEnabled alert).texts) ∨
    ∃ event terminalSession, eventPublicationEnabled = true ∧ mayEmit s alert = true ∧
      w.emitTerminalAlert text eventPublicationEnabled alert =
        { w with
          state := some { s with terminalDeliveryInFlight := true }
          pushes := w.pushes ++ [⟨s.id, alert, event, terminalSession, w.deliverySequence,
            s.sessionId, s.activeLeafId, s.flowRevision, s.settledRunGeneration, s.inputCursor,
            .inFlight⟩] } := by
  unfold emitTerminalAlert
  split
  · next session t hsession ht =>
    cases hstate.symm.trans ht
    cases hemit : mayEmit s alert with
    | false => exact Or.inl rfl
    | true =>
      cases eventPublicationEnabled with
      | false =>
        exact Or.inr (Or.inl ⟨rfl, settleTerminalWithoutPublication_eq text hstate alert _⟩)
      | true =>
        let agentText := normalizeAssistantTextForEvent text alert.kind session alert.agentText
        let terminalSession :=
          withSessionStatus text session (alertStatus alert.kind) (some agentText)
        refine Or.inr (Or.inr ⟨buildEvent text terminalSession alert agentText, terminalSession,
          rfl, rfl, ?_⟩)
        simp [updateState, hstate, agentText, terminalSession]
  · exact Or.inl rfl

theorem timerFires_does (timer : Nat) (newWork : Bool) (htimer : timer ∈ w.timers.map (·.id)) :
    w.Does eventPublicationEnabled (.timerFires timer newWork)
      (w.timerFires text eventPublicationEnabled timer newWork) := by
  have hfired : Change eventPublicationEnabled w (.timerFires timer newWork) _ :=
    Change.fired timer newWork
  unfold timerFires
  split
  · next hnone =>
    obtain ⟨t, ht, hid⟩ := List.mem_map.mp htimer
    exact absurd (List.find?_eq_none.mp hnone t ht) (by simp [hid])
  · next quietTimer hfound =>
    unfold flushPendingTerminalIfStable
    dsimp only
    split
    · exact hfired.does rfl
    · next s hstate =>
      split
      · exact hfired.does rfl
      · split
        · exact hfired.does rfl
        · next alert halert =>
          split
          · exact hfired.does rfl
          · split
            · rw [invalidatePendingTerminal_eq]
              refine (Change.interrupted s hstate timer newWork).does ?_
              simp [PiExtension.retext, texts, clearedTimers, hstate, firedTimers]
            · rw [clearQuietTimer_eq]
              have hcleared : ({ w with timers := w.timers.filter fun t => t.id ≠ timer } :
                  PiExtension).clearedTimers =
                  (w.firedTimers timer).filter fun t => s.quietTimer ≠ some t.id := by
                simp [clearedTimers, hstate, firedTimers]
              dsimp only
              rw [hcleared, hstate, Option.map_some]
              rcases emitTerminalAlert_cases eventPublicationEnabled text (w := { w with
                  state := some { s with quietTimer := none }
                  timers := (w.firedTimers timer).filter fun t => s.quietTimer ≠ some t.id })
                rfl alert with hsame | ⟨hdisabled, hsettled⟩ |
                  ⟨event, terminalSession, henabled, hemit, hpushed⟩
              · exact (Change.skipped s hstate timer newWork).does (by rw [hsame]; rfl)
              · exact (Change.unpublished s hstate timer newWork hdisabled).does hsettled
              · exact (Change.pushed s hstate timer newWork htimer
                  ⟨s.id, alert, event, terminalSession, w.deliverySequence, s.sessionId,
                    s.activeLeafId, s.flowRevision, s.settledRunGeneration, s.inputCursor,
                    .inFlight⟩ hemit rfl rfl rfl rfl rfl rfl rfl rfl henabled).does
                  (by rw [hpushed]; rfl)

theorem finishDelivery_eq (w : PiExtension) (call : PushCall) :
    w.finishDelivery call = { w with state := w.state.map (·.delivered call) } := by
  unfold finishDelivery updateState
  congr 1
  refine Option.map_congr fun s _ => ?_
  unfold PiReducerState.delivered
  split
  · rfl
  · rfl

theorem pushResolves_does {push : Nat} {call : PushCall} (hcall : w.pushes[push]? = some call)
    (eventId : String) :
    w.Does eventPublicationEnabled (.pushResolves push eventId) (w.pushResolves push eventId) := by
  unfold pushResolves
  rw [hcall]
  dsimp only
  rw [finishDelivery_eq]
  unfold pushAcknowledged
  split
  · next hnone =>
    refine (Change.acknowledgedLate push eventId call hcall ?_).does rfl
    intro s hs
    rw [hnone] at hs
    cases hs
  · next s hstate =>
    cases hdelivered : w.stillDelivered s call with
    | false =>
      refine (Change.acknowledgedLate push eventId call hcall ?_).does rfl
      intro t ht htrue
      cases hstate.symm.trans ht
      rw [hdelivered] at htrue
      cases htrue
    | true =>
      simp only [Bool.not_true, Bool.false_eq_true, if_false]
      split
      · next hinput =>
        refine (Change.acknowledgedAnswered push eventId call hcall s hstate hdelivered
          hinput).does ?_
        simp [updateState, reportHandledEvent, hstate, endPush, endedPushes, PiExtension.retext,
          texts, PiReducerState.delivered, PendingHandleCandidate.call, PushCall.candidate]
      · next hinput =>
        cases hpending : stillPending s call with
        | false =>
          refine (Change.acknowledgedLate push eventId call hcall ?_).does rfl
          intro t ht _
          cases hstate.symm.trans ht
          exact ⟨by omega, hpending⟩
        | true =>
          refine (Change.acknowledged push eventId call hcall s hstate hdelivered (by omega)
            hpending).does ?_
          simp [updateState, hstate, endPush, endedPushes, PiExtension.retext, texts,
            PiReducerState.delivered, PushCall.candidate]

theorem pushRejects_does {push : Nat} {call : PushCall} (hcall : w.pushes[push]? = some call) :
    w.Does eventPublicationEnabled (.pushRejects push) (w.pushRejects push) := by
  have hfailed : Change eventPublicationEnabled w (.pushRejects push) _ :=
    Change.failed push call hcall
  unfold pushRejects
  rw [hcall]
  dsimp only
  rw [finishDelivery_eq]
  unfold pushFailed
  split
  · exact hfailed.does rfl
  · next s hstate =>
    split
    · next hboth =>
      rw [Bool.and_eq_true] at hboth
      refine (Change.failedAgain push call hcall s hstate hboth.1 hboth.2).does ?_
      have hpending : s.latestPendingAlert = some call.alert := by
        have hstill := hboth.2
        unfold stillPending at hstill
        simp only [Bool.and_eq_true, decide_eq_true_eq] at hstill
        exact hstill.1.1
      rw [schedulePendingTerminal_eq hstate]
      simp [PiExtension.retext, texts, endPush, endedPushes, PiReducerState.delivered, hpending]
    · exact hfailed.does rfl

theorem updateCandidate_eq (w : PiExtension) (call : HandleCall)
    (f : PendingHandleCandidate → Option PendingHandleCandidate) :
    w.updateCandidate call.push f = { w with state := w.state.map (·.answered call f) } := by
  unfold updateCandidate updateState
  congr 1
  refine Option.map_congr fun s _ => ?_
  have hkept : ∀ candidate, s.pendingHandleCandidate = candidate →
      s = { s with pendingHandleCandidate := candidate } := by
    rintro _ rfl
    rfl
  unfold PiReducerState.answered
  split
  · next hnone => exact hkept _ (by simp [hnone])
  · next candidate hsome =>
    split
    · next hsame => simp [hsome, hsame]
    · next hother => exact hkept _ (by simp [hsome, hother])

theorem handleResolves_does {handle : Nat} {call : HandleCall}
    (hcall : w.handles[handle]? = some call) :
    w.Does eventPublicationEnabled (.handleResolves handle) (w.handleResolves handle) := by
  unfold handleResolves
  rw [hcall]
  dsimp only
  rw [updateCandidate_eq]
  exact (Change.handled handle call hcall).does rfl

theorem handleRejects_does {handle : Nat} {call : HandleCall}
    (hcall : w.handles[handle]? = some call) :
    w.Does eventPublicationEnabled (.handleRejects handle) (w.handleRejects handle) := by
  unfold handleRejects
  rw [hcall]
  dsimp only
  rw [updateCandidate_eq]
  exact (Change.unhandled handle call hcall).does rfl

variable (eventPublicationEnabled) in
/-- Every action that can be taken does one of the changes. -/
theorem perform_does (hw : w.Consistent) (hallowed : w.Allowed a) :
    w.Does eventPublicationEnabled a (w.perform text eventPublicationEnabled a) := by
  cases a with
  | sessionStart ctx => exact sessionStart_does text ctx w
  | sessionShutdown ctx => exact sessionShutdown_does ctx w
  | input now steering => exact input_does w now steering
  | agentStart ctx => exact agentStart_does text hw ctx
  | agentEnd ctx messages => exact agentEnd_does text hw ctx messages
  | agentSettled ctx createdAt => exact agentSettled_does text hw ctx createdAt
  | sessionTree ctx newLeafId => exact sessionTree_does text hw ctx newLeafId
  | timerFires timer newWork => exact timerFires_does text timer newWork hallowed
  | pushResolves push eventId =>
    obtain ⟨call, hcall, -⟩ := hallowed
    exact pushResolves_does hcall eventId
  | pushRejects push =>
    obtain ⟨call, hcall, -⟩ := hallowed
    exact pushRejects_does hcall
  | handleResolves handle =>
    obtain ⟨call, hcall, -⟩ := hallowed
    exact handleResolves_does hcall
  | handleRejects handle =>
    obtain ⟨call, hcall, -⟩ := hallowed
    exact handleRejects_does hcall

/-- A state with the same session keeps the extension consistent. -/
theorem Consistent.of_state (hw : w.Consistent) {t : PiReducerState} (hstate : w.state = some s)
    (hx : x.state = some t) (hsession : t.sessionId = s.sessionId)
    (hheartbeat : x.heartbeatSessionId = w.heartbeatSessionId) : x.Consistent where
  session u hu := by
    cases hx.symm.trans hu
    rw [hsession, hheartbeat]
    exact hw.session s hstate
  none hnone := by
    rw [hx] at hnone
    cases hnone

/-- A change within the state, if there is one, keeps the extension consistent. -/
theorem Consistent.of_map (hw : w.Consistent) {f : PiReducerState → PiReducerState}
    (hx : x.state = w.state.map f) (hf : ∀ s, (f s).sessionId = s.sessionId)
    (hheartbeat : x.heartbeatSessionId = w.heartbeatSessionId) : x.Consistent := by
  cases hstate : w.state with
  | some s => exact hw.of_state hstate (by rw [hx, hstate]; rfl) (hf s) hheartbeat
  | none =>
    refine ⟨?_, fun _ => hheartbeat.trans (hw.none hstate)⟩
    intro t ht
    rw [hx, hstate] at ht
    cases ht

/-- A change keeps the state with the session. -/
theorem Consistent.change (hw : w.Consistent) (h : Change eventPublicationEnabled w a x) :
    x.Consistent := by
  cases h with
  | restart ctx =>
    refine ⟨?_, fun h => by cases h⟩
    rintro s hs
    cases hs
    rfl
  | restartFails ctx => exact hw.of_map rfl (fun _ => rfl) rfl
  | shutdown ctx =>
    refine ⟨?_, fun _ => rfl⟩
    rintro s hs
    cases hs
  | ignored a hignored => exact hw
  | steering s hstate now => exact hw.of_state hstate rfl rfl rfl
  | typed s hstate now => exact hw.of_state hstate rfl rfl rfl
  | start s hstate ctx hactive => exact hw.of_state hstate rfl rfl rfl
  | ended s hstate ctx hactive messages result hcurrent => exact hw.of_state hstate rfl rfl rfl
  | notRunning s hstate ctx hactive messages => exact hw.of_state hstate rfl rfl rfl
  | unsettled ctx hactive createdAt => exact hw
  | dropped s hstate ctx hactive createdAt => exact hw.of_state hstate rfl rfl rfl
  | settled s hstate => exact hw.of_state hstate rfl rfl rfl
  | submitted s hstate => exact hw.of_state hstate rfl rfl rfl
  | switched s hstate ctx hactive newLeafId => exact hw.of_state hstate rfl rfl rfl
  | fired timer newWork => exact ⟨hw.session, hw.none⟩
  | skipped s hstate timer newWork => exact hw.of_state hstate rfl rfl rfl
  | interrupted s hstate timer newWork => exact hw.of_state hstate rfl rfl rfl
  | unpublished s hstate timer newWork hdisabled => exact hw.of_state hstate rfl rfl rfl
  | pushed s hstate => exact hw.of_state hstate rfl rfl rfl
  | acknowledgedLate push eventId call hcall hlate => exact hw.of_map rfl (fun _ => rfl) rfl
  | acknowledgedAnswered push eventId call hcall s hstate => exact hw.of_state hstate rfl rfl rfl
  | acknowledged push eventId call hcall s hstate => exact hw.of_state hstate rfl rfl rfl
  | failed push call hcall => exact hw.of_map rfl (fun _ => rfl) rfl
  | failedAgain push call hcall s hstate => exact hw.of_state hstate rfl rfl rfl
  | handled handle call hcall => exact hw.of_map rfl (fun _ => rfl) rfl
  | unhandled handle call hcall => exact hw.of_map rfl (fun _ => rfl) rfl

/-- The extension after a list of actions. -/
def after (text : PiText) (eventPublicationEnabled : Bool) (as : List PiAction) : PiExtension :=
  as.foldl (perform text eventPublicationEnabled) initial

theorem after_snoc (as : List PiAction) (a : PiAction) :
    after text eventPublicationEnabled (as ++ [a]) =
      (after text eventPublicationEnabled as).perform text eventPublicationEnabled a := by
  unfold after
  rw [List.foldl_append]
  rfl

/-- The rule for runs whose steps meet a condition: what holds of no action and the initial state,
and is kept by every change with the action that makes it, holds of every such run. -/
theorem guarded_history {C : PiExtension → PiAction → Prop}
    {I : List PiAction → PiExtension → Prop} (hinitial : I [] initial)
    (hchange : ∀ as w a x texts, w = after text eventPublicationEnabled as → w.Consistent →
      w.Allowed a → C w a → I as w → Change eventPublicationEnabled w a x →
      after text eventPublicationEnabled (as ++ [a]) = x.retext texts →
      I (as ++ [a]) (x.retext texts)) {w : PiExtension} {as : List PiAction}
    (hrun : Run (Guarded (Step text eventPublicationEnabled) C) initial as w) :
    w = after text eventPublicationEnabled as ∧ w.Consistent ∧ I as w := by
  generalize hstart : initial = start at hrun
  induction hrun with
  | nil =>
    subst hstart
    exact ⟨rfl, ⟨fun s (hs : none = some s) => (by cases hs), fun _ => rfl⟩, hinitial⟩
  | @snoc w u as a run last ih =>
    obtain ⟨hafter, hconsistent, hi⟩ := ih
    obtain ⟨hcondition, hallowed, rfl⟩ := last
    obtain ⟨x, hx, heq⟩ := perform_does eventPublicationEnabled text hconsistent hallowed
    have hnext : after text eventPublicationEnabled (as ++ [a]) =
        x.retext (w.perform text eventPublicationEnabled a).texts := by
      rw [after_snoc, ← hafter]
      exact heq
    have hkept := hconsistent.change hx
    rw [heq]
    exact ⟨hnext.symm, ⟨hkept.session, hkept.none⟩,
      hchange as w a x _ hafter hconsistent hallowed hcondition hi hx hnext⟩

/-- The rule for all runs. -/
theorem run_history {I : List PiAction → PiExtension → Prop} (hinitial : I [] initial)
    (hchange : ∀ as w a x texts, w = after text eventPublicationEnabled as → w.Consistent →
      w.Allowed a → I as w → Change eventPublicationEnabled w a x →
      after text eventPublicationEnabled (as ++ [a]) = x.retext texts →
      I (as ++ [a]) (x.retext texts)) {w : PiExtension} {as : List PiAction}
    (hrun : Run (Step text eventPublicationEnabled) initial as w) :
    w = after text eventPublicationEnabled as ∧ w.Consistent ∧ I as w := by
  have hguarded : Run (Guarded (Step text eventPublicationEnabled) fun _ _ => True) initial as w :=
    hrun.mono fun _ _ _ hstep => ⟨trivial, hstep⟩
  refine guarded_history text hinitial ?_ hguarded
  intro as w a x texts hafter hconsistent hallowed _ hi hx hnext
  exact hchange as w a x texts hafter hconsistent hallowed hi hx hnext

end

end PiExtension

end Ariava.Extensions
