import Ariava.AgentAdapter.RegistryTypes
import Ariava.Protocol.JsonValue

/-!
# `Ariava.Extensions.PiExtension`: the reducer of the Pi extension

`ariavaPiExtension` follows one Pi session through callbacks: a run starts, ends and settles,
the user gives input, the tree of messages is switched. A run that has settled leaves a pending
alert. After a quiet window a timer pushes it as an event, and input from the user reports the
event as handled.

The callbacks run without interruption up to the calls of the adapter. So each callback is one
function on `PiExtension`, and what follows an `await` is a function of its own, with the values
that the source keeps in its closure (`PushCall`, `HandleCall`). `PiExtension.perform` takes
them in any order.

- `state` and `session` are the variables of the closure. A new session replaces the state.
- The source compares alerts and candidates by identity. An alert has a number for it (`id`), a
  candidate has the number of the push call that it came from. A state has a number too, so that
  the runs of two lifetimes can be told apart.
- Timers that are not cleared stand in `timers`. `clearTimeout` takes one away.
- `pushes` and `handles` are all calls of `pushEvent` and `handleSession`, in order, with how
  they have ended. No code reads them except for the closure of a call that ends.
- The heartbeats, the registration and the command poller are left out: the reducer reads
  nothing of them but the session id and the status of the heartbeat.
-/

set_option autoImplicit false

namespace Ariava.Extensions

open Ariava.Protocol
open Ariava.AgentAdapter

/-! ### Texts -/

/-- The functions on texts: `String.prototype.trim`, the two lists of patterns, the first 16
digits of a SHA-256 digest, and `extractNeedHumanError`. -/
structure PiText where
  trim : String → String
  isQuestionPattern : String → Bool
  isBlockedPattern : String → Bool
  digest : String → String
  extractNeedHumanError : Option String → Option JsonValue → Option JsonValue → NeedHumanError

/-- `PiSessionInfo`. -/
structure PiSessionInfo where
  sessionId : String
  projectName : String
  cwd : String
  nameText : String
  openingText : Option String
  latestActivityText : Option String
  status : SessionStatus
deriving DecidableEq

/-- What the callbacks read of an `ExtensionContext`: the session manager, compared by identity,
its session id and leaf, and the texts of its messages. -/
structure PiContext where
  sessionManager : Nat
  sessionId : String
  activeLeafId : Option String
  projectName : String
  cwd : String
  sessionName : Option String
  firstUserText : Option String
  latestUserText : Option String
  latestActivityText : Option String
deriving DecidableEq

/-- A message of a run. Its `texts` are the text parts of its content. -/
structure AgentMessage where
  role : String
  stopReason : Option String
  texts : List String
  errorMessage : Option JsonValue
  error : Option JsonValue

/-- A text that is not empty. -/
def textOrNone (text : String) : Option String := if text = "" then none else some text

section
variable (text : PiText)

/-- `clampAssistantText`. -/
def clampAssistantText (value : Option String) : Option String :=
  value.bind fun value => textOrNone (text.trim value)

/-- `deriveSession`. -/
def deriveSession (ctx : PiContext) (sessionId : String) : PiSessionInfo where
  sessionId
  projectName := ctx.projectName
  cwd := ctx.cwd
  nameText := (clampAssistantText text ctx.sessionName).getD ctx.projectName
  openingText := clampAssistantText text ctx.firstUserText
  latestActivityText := ctx.latestActivityText
  status := .idle

/-- `withSessionStatus`. -/
def withSessionStatus (session : PiSessionInfo) (status : SessionStatus)
    (latestActivityText : Option String) : PiSessionInfo :=
  { session with
    status
    latestActivityText := clampAssistantText text latestActivityText <|> session.latestActivityText }

/-- `fallbackAssistantForEventType`. -/
def fallbackAssistantForEventType : EventKind → String
  | .done => "Task complete"
  | .needHuman _ => "Needs attention"

/-- `normalizeAssistantTextForEvent`. -/
def normalizeAssistantTextForEvent (kind : EventKind) (session : PiSessionInfo)
    (agentText : String) : String :=
  (clampAssistantText text (some agentText) <|>
    clampAssistantText text session.latestActivityText).getD (fallbackAssistantForEventType kind)

/-- `extractTextContent`. -/
def extractTextContent (message : AgentMessage) : Option String :=
  textOrNone (text.trim (String.join message.texts))

/-- `StoredTerminalCandidate`. -/
structure StoredTerminalCandidate where
  kind : EventKind
  agentText : String
  fingerprint : String
deriving DecidableEq

/-- `looksLikeQuestion` of a trimmed text. -/
def looksLikeQuestion (normalized : String) : Bool :=
  decide (normalized ≠ "") && (normalized.endsWith "?" || text.isQuestionPattern normalized)

/-- The type and the reason of an event, as a fingerprint has them. -/
def fingerprintKind : EventKind → String
  | .done => "done:none"
  | .needHuman .question => "need_human:question"
  | .needHuman .blocked => "need_human:blocked"
  | .needHuman (.error _) => "need_human:error"

/-- `classifyStoredAssistantText`, without the look at the emitted fingerprints. -/
def classifyStoredAssistantText (agentText : Option String) (sessionId : String)
    (activeLeafId : Option String) : StoredTerminalCandidate :=
  let normalizedText := (agentText.map text.trim).getD ""
  let kind : EventKind :=
    if looksLikeQuestion text normalizedText then .needHuman .question
    else if normalizedText ≠ "" ∧ text.isBlockedPattern normalizedText then .needHuman .blocked
    else .done
  { kind
    agentText :=
      match kind with
      | .done => (textOrNone normalizedText).getD "Task complete"
      | .needHuman _ => normalizedText
    fingerprint := text.digest
      (sessionId ++ ":" ++ activeLeafId.getD "no-leaf" ++ ":" ++ fingerprintKind kind ++ ":" ++
        normalizedText) }

end

/-! ### The state of the reducer -/

/-- `LatestAgentEndResult`. -/
structure LatestAgentEndResult where
  assistantFound : Bool
  stopReason : Option String
  agentText : Option String
  errorMessage : Option JsonValue
  error : Option JsonValue
  runGeneration : Nat

/-- `PendingTerminalAlert`, with its identity. -/
structure PendingTerminalAlert where
  id : Nat
  kind : EventKind
  agentText : String
  fingerprint : Option String
  humanText : Option String
  createdAt : String
  flowRevision : Nat
  runGeneration : Nat
deriving DecidableEq

/-- `PendingHandleCandidate`. Its identity is the push call that it came from. -/
structure PendingHandleCandidate where
  push : Nat
  sessionId : String
  eventId : String
  eventCreatedAt : String
  observedUserInputCursor : Nat
  reported : Bool
deriving DecidableEq

/-- `PiReducerState`, with its identity: the lifetime of a session. -/
structure PiReducerState where
  id : Nat
  sessionId : String
  rootSessionActive : Bool
  loopRunning : Bool
  terminalEmittedForCurrentLoop : Bool
  flowRevision : Nat
  latestAgentEndResult : Option LatestAgentEndResult
  latestPendingAlert : Option PendingTerminalAlert
  pendingHandleCandidate : Option PendingHandleCandidate
  quietTimer : Option Nat
  terminalDeliveryInFlight : Bool
  lastInputAt : Option Int
  inputCursor : Nat
  activeLeafId : Option String
  generationSequence : Nat
  currentRunGeneration : Option Nat
  settledRunGeneration : Option Nat

/-- A timer of `schedulePendingTerminal`. -/
structure QuietTimer where
  id : Nat
  scheduledSessionId : String
  scheduledFlowRevision : Nat
deriving DecidableEq

/-- How a call of `pushEvent` has ended. -/
inductive PushOutcome
  | inFlight
  | acknowledged (eventId : String)
  | failed
deriving DecidableEq

/-- A call of `pushEvent` and the closure that waits for it. The closure does not keep the
`lifetime`, the identity of the state at the call. -/
structure PushCall where
  lifetime : Nat
  alert : PendingTerminalAlert
  event : AgentAdapterEventInput
  terminalSession : PiSessionInfo
  deliveryToken : Nat
  deliveredSessionId : String
  deliveredLeafId : Option String
  deliveredFlowRevision : Nat
  deliveredRunGeneration : Option Nat
  observedUserInputCursor : Nat
  outcome : PushOutcome
deriving DecidableEq

/-- How a call of `handleSession` has ended. -/
inductive HandleOutcome
  | inFlight
  | succeeded
  | failed
deriving DecidableEq

/-- A call of `handleSession`. -/
structure HandleCall where
  push : Nat
  sessionId : String
  handledThroughEventId : String
  handledThroughEventCreatedAt : String
  handledAt : Option Int
  outcome : HandleOutcome
deriving DecidableEq

/-- The variables of the extension, its timers, and its calls of the adapter. -/
structure PiExtension where
  session : Option PiSessionInfo
  state : Option PiReducerState
  heartbeatSessionId : String
  heartbeatStatus : SessionStatus
  deliverySequence : Nat
  activeSessionManager : Option Nat
  emittedFingerprints : List String
  created : Nat
  timers : List QuietTimer
  pushes : List PushCall
  handles : List HandleCall

/-- The extension before its first callback. -/
def PiExtension.initial : PiExtension where
  session := none
  state := none
  heartbeatSessionId := ""
  heartbeatStatus := .idle
  deliverySequence := 0
  activeSessionManager := none
  emittedFingerprints := []
  created := 0
  timers := []
  pushes := []
  handles := []

namespace PiExtension

/-- Change the state, when there is one. -/
def updateState (f : PiReducerState → PiReducerState) (w : PiExtension) : PiExtension :=
  { w with state := w.state.map f }

/-! ### Timers and invalidation -/

/-- `clearQuietTimer`. -/
def clearQuietTimer (w : PiExtension) : PiExtension :=
  match w.state.bind (·.quietTimer) with
  | none => w
  | some timer =>
    { w.updateState fun s => { s with quietTimer := none } with
      timers := w.timers.filter fun t => t.id ≠ timer }

/-- `invalidatePendingTerminal`. -/
def invalidatePendingTerminal (w : PiExtension) : PiExtension :=
  w.clearQuietTimer.updateState fun s =>
    { s with latestPendingAlert := none, terminalDeliveryInFlight := false }

/-- `schedulePendingTerminal`. -/
def schedulePendingTerminal (w : PiExtension) : PiExtension :=
  match w.state with
  | none => w
  | some s =>
    let cleared := w.clearQuietTimer
    { cleared.updateState fun s => { s with quietTimer := some w.created } with
      created := w.created + 1
      timers := cleared.timers ++ [⟨w.created, s.sessionId, s.flowRevision⟩] }

/-! ### Reports of handled events -/

/-- `reportHandledEvent`, up to the call of `handleSession`. -/
def reportHandledEvent (candidate : PendingHandleCandidate) (w : PiExtension) : PiExtension :=
  { w with
    handles := w.handles ++ [{
      push := candidate.push
      sessionId := candidate.sessionId
      handledThroughEventId := candidate.eventId
      handledThroughEventCreatedAt := candidate.eventCreatedAt
      handledAt := w.state.bind (·.lastInputAt)
      outcome := .inFlight }] }

/-- `reportPendingHandleAfterLocalInput`. The source takes a clock reading of 0 for no input. -/
def reportPendingHandleAfterLocalInput (w : PiExtension) : PiExtension :=
  match w.state with
  | none => w
  | some s =>
    match s.pendingHandleCandidate with
    | none => w
    | some candidate =>
      if candidate.reported ∨ s.lastInputAt = none ∨ s.lastInputAt = some 0 then w
      else if s.inputCursor ≤ candidate.observedUserInputCursor then w
      else
        (w.updateState fun s =>
          { s with pendingHandleCandidate := some { candidate with reported := true } })
          |>.reportHandledEvent candidate

/-- The candidate of a push call, if it is still the one of the state, changes. -/
def updateCandidate (push : Nat)
    (f : PendingHandleCandidate → Option PendingHandleCandidate) (w : PiExtension) : PiExtension :=
  w.updateState fun s =>
    match s.pendingHandleCandidate with
    | none => s
    | some candidate =>
      if candidate.push = push then { s with pendingHandleCandidate := f candidate } else s

/-- The end of a call of `handleSession`. -/
def endHandle (handle : Nat) (outcome : HandleOutcome) (w : PiExtension) : PiExtension :=
  { w with handles := w.handles.modify handle fun call => { call with outcome } }

/-- `handleSession` has returned. -/
def handleResolves (handle : Nat) (w : PiExtension) : PiExtension :=
  match w.handles[handle]? with
  | none => w
  | some call => (w.updateCandidate call.push fun _ => none).endHandle handle .succeeded

/-- `handleSession` has thrown. -/
def handleRejects (handle : Nat) (w : PiExtension) : PiExtension :=
  match w.handles[handle]? with
  | none => w
  | some call =>
    (w.updateCandidate call.push fun candidate => some { candidate with reported := false })
      |>.endHandle handle .failed

section
variable (text : PiText) (eventPublicationEnabled : Bool)

/-! ### Terminal alerts -/

/-- `settleTerminalWithoutPublication`. -/
def settleTerminalWithoutPublication (alert : PendingTerminalAlert)
    (terminalSession : PiSessionInfo) (w : PiExtension) : PiExtension :=
  { w.updateState fun s =>
      { s with
        terminalEmittedForCurrentLoop := true
        latestPendingAlert := none
        terminalDeliveryInFlight := false
        pendingHandleCandidate := none } with
    emittedFingerprints := alert.fingerprint.toList ++ w.emittedFingerprints
    session := w.session.map fun session =>
      withSessionStatus text session session.status terminalSession.latestActivityText }

/-- `buildDoneEvent` and `buildNeedHumanEvent`. -/
def buildEvent (terminalSession : PiSessionInfo) (alert : PendingTerminalAlert)
    (normalizedAgentText : String) : AgentAdapterEventInput where
  sessionId := terminalSession.sessionId
  provider := "pi"
  agentText := normalizeAssistantTextForEvent text alert.kind terminalSession normalizedAgentText
  humanText := alert.humanText
  projectName := some terminalSession.projectName
  workingDirectory := some terminalSession.cwd
  harnessProvider := some "pi"
  createdAt := alert.createdAt
  kind := alert.kind

/-- The status of a session with the alert. -/
def alertStatus : EventKind → SessionStatus
  | .done => .idle
  | .needHuman _ => .needHuman

/-- The test at the head of `emitTerminalAlert`. -/
def mayEmit (s : PiReducerState) (alert : PendingTerminalAlert) : Bool :=
  s.rootSessionActive &&
  decide (s.latestPendingAlert = some alert) &&
  !s.terminalDeliveryInFlight &&
  decide (s.flowRevision = alert.flowRevision) &&
  decide (s.settledRunGeneration = some alert.runGeneration)

/-- `emitTerminalAlert`, up to the call of `pushEvent`. -/
def emitTerminalAlert (alert : PendingTerminalAlert) (w : PiExtension) : PiExtension :=
  match w.session, w.state with
  | some session, some s =>
    if !mayEmit s alert then w
    else
      let normalizedAgentText :=
        normalizeAssistantTextForEvent text alert.kind session alert.agentText
      let terminalSession :=
        withSessionStatus text session (alertStatus alert.kind) (some normalizedAgentText)
      if !eventPublicationEnabled then w.settleTerminalWithoutPublication text alert terminalSession
      else
        { w.updateState fun s => { s with terminalDeliveryInFlight := true } with
          pushes := w.pushes ++ [{
            lifetime := s.id
            alert
            event := buildEvent text terminalSession alert normalizedAgentText
            terminalSession
            deliveryToken := w.deliverySequence
            deliveredSessionId := s.sessionId
            deliveredLeafId := s.activeLeafId
            deliveredFlowRevision := s.flowRevision
            deliveredRunGeneration := s.settledRunGeneration
            observedUserInputCursor := s.inputCursor
            outcome := .inFlight }] }
  | _, _ => w

/-- The state in which a push was delivered is still there. -/
def stillDelivered (w : PiExtension) (s : PiReducerState) (call : PushCall) : Bool :=
  decide (call.deliveryToken = w.deliverySequence) &&
  decide (s.sessionId = call.deliveredSessionId) &&
  decide (s.activeLeafId = call.deliveredLeafId)

/-- The alert of a push is still the pending one, and the run is the same. -/
def stillPending (s : PiReducerState) (call : PushCall) : Bool :=
  decide (s.latestPendingAlert = some call.alert) &&
  decide (s.flowRevision = call.deliveredFlowRevision) &&
  decide (s.settledRunGeneration = call.deliveredRunGeneration)

/-- The end of a call of `pushEvent`. -/
def endPush (push : Nat) (outcome : PushOutcome) (w : PiExtension) : PiExtension :=
  { w with pushes := w.pushes.modify push fun call => { call with outcome } }

/-- The `finally` of `emitTerminalAlert`. -/
def finishDelivery (call : PushCall) (w : PiExtension) : PiExtension :=
  w.updateState fun s =>
    if s.latestPendingAlert = some call.alert then { s with terminalDeliveryInFlight := false }
    else s

/-- What follows `pushEvent` in the `try`. -/
def pushAcknowledged (push : Nat) (call : PushCall) (eventId : String) (w : PiExtension) :
    PiExtension :=
  match w.state with
  | none => w
  | some s =>
    if !w.stillDelivered s call then w
    else
      let marked :=
        { w with emittedFingerprints := call.alert.fingerprint.toList ++ w.emittedFingerprints }
      let candidate : PendingHandleCandidate := {
        push
        sessionId := call.event.sessionId
        eventId
        eventCreatedAt := call.event.createdAt
        observedUserInputCursor := call.observedUserInputCursor
        reported := false }
      if call.observedUserInputCursor < s.inputCursor then
        (marked.updateState fun s =>
          { s with pendingHandleCandidate := some { candidate with reported := true } })
          |>.reportHandledEvent candidate
      else if !stillPending s call then marked
      else
        { marked.updateState fun s =>
            { s with
              terminalEmittedForCurrentLoop := true
              latestPendingAlert := none
              pendingHandleCandidate := some candidate } with
          session := some call.terminalSession
          heartbeatStatus := call.terminalSession.status }

/-- `pushEvent` has returned. -/
def pushResolves (push : Nat) (eventId : String) (w : PiExtension) : PiExtension :=
  match w.pushes[push]? with
  | none => w
  | some call =>
    (w.pushAcknowledged push call eventId).finishDelivery call
      |>.endPush push (.acknowledged eventId)

/-- The `catch` of `emitTerminalAlert`. -/
def pushFailed (call : PushCall) (w : PiExtension) : PiExtension :=
  match w.state with
  | none => w
  | some s =>
    if w.stillDelivered s call && stillPending s call then w.schedulePendingTerminal else w

/-- `pushEvent` has thrown. -/
def pushRejects (push : Nat) (w : PiExtension) : PiExtension :=
  match w.pushes[push]? with
  | none => w
  | some call => (w.pushFailed call).finishDelivery call |>.endPush push .failed

/-- `flushPendingTerminalIfStable`. -/
def flushPendingTerminalIfStable (timer : QuietTimer) (newWork : Bool) (w : PiExtension) :
    PiExtension :=
  match w.state with
  | none => w
  | some s =>
    if s.sessionId ≠ timer.scheduledSessionId ∨ s.flowRevision ≠ timer.scheduledFlowRevision then w
    else
      match s.latestPendingAlert with
      | none => w
      | some alert =>
        if s.settledRunGeneration ≠ some alert.runGeneration ∨ s.loopRunning then w
        else if newWork then w.invalidatePendingTerminal
        else w.clearQuietTimer.emitTerminalAlert text eventPublicationEnabled alert

/-- A timer fires. It reads of its context whether the runtime has new work. -/
def timerFires (timer : Nat) (newWork : Bool) (w : PiExtension) : PiExtension :=
  match w.timers.find? fun t => t.id = timer with
  | none => w
  | some quietTimer =>
    { w with timers := w.timers.filter fun t => t.id ≠ timer }
      |>.flushPendingTerminalIfStable text eventPublicationEnabled quietTimer newWork

/-- The alert of a submission becomes the pending one. -/
def submitAlert (kind : EventKind) (agentText : String) (fingerprint humanText : Option String)
    (createdAt : String) (runGeneration : Nat) (w : PiExtension) : PiExtension :=
  { w.updateState fun s =>
      { s with
        latestPendingAlert := some {
          id := w.created
          kind
          agentText
          fingerprint
          humanText
          createdAt
          flowRevision := s.flowRevision
          runGeneration } } with
    created := w.created + 1 }
    |>.schedulePendingTerminal

/-- The test at the head of the two submissions. -/
def maySubmit (w : PiExtension) : Bool :=
  match w.session, w.state with
  | some _, some s =>
    s.rootSessionActive && !s.terminalEmittedForCurrentLoop && s.latestPendingAlert.isNone
  | _, _ => false

/-- `submitTerminalCandidate`. -/
def submitTerminalCandidate (candidate : StoredTerminalCandidate) (ctx : PiContext)
    (createdAt : String) (runGeneration : Nat) (w : PiExtension) : PiExtension :=
  match w.session with
  | none => w
  | some session =>
    if !w.maySubmit then w
    else
      w.submitAlert candidate.kind
        (normalizeAssistantTextForEvent text candidate.kind session candidate.agentText)
        (some candidate.fingerprint) ctx.latestUserText createdAt runGeneration

/-- `submitErrorCandidate`. -/
def submitErrorCandidate (ctx : PiContext) (result : LatestAgentEndResult) (createdAt : String)
    (runGeneration : Nat) (w : PiExtension) : PiExtension :=
  if !w.maySubmit then w
  else
    let error := text.extractNeedHumanError result.stopReason result.errorMessage result.error
    w.submitAlert (.needHuman (.error error)) error.message none ctx.latestUserText createdAt
      runGeneration

/-! ### The state of a session -/

/-- `resetLoopState`. -/
def resetLoopState (nextSessionId : String) (activeLeafId : Option String) (w : PiExtension) :
    PiExtension :=
  { w with
    created := w.created + 1
    state := some {
      id := w.created
      sessionId := nextSessionId
      rootSessionActive := true
      loopRunning := false
      terminalEmittedForCurrentLoop := false
      flowRevision := 0
      latestAgentEndResult := none
      latestPendingAlert := none
      pendingHandleCandidate := none
      quietTimer := none
      terminalDeliveryInFlight := false
      lastInputAt := none
      inputCursor := 0
      activeLeafId
      generationSequence := 0
      currentRunGeneration := none
      settledRunGeneration := none } }

/-- `ensureLoopState`. -/
def ensureLoopState (nextSessionId : String) (activeLeafId : Option String) (w : PiExtension) :
    PiExtension :=
  match w.state with
  | none => w.resetLoopState nextSessionId activeLeafId
  | some s =>
    if s.sessionId ≠ nextSessionId then w.resetLoopState nextSessionId activeLeafId
    else w.updateState fun s => { s with activeLeafId := activeLeafId <|> s.activeLeafId }

/-- `pushWorking`, without the heartbeat. -/
def pushWorking (ctx : PiContext) (agentText : Option String) (w : PiExtension) : PiExtension :=
  match w.session, w.state with
  | some session, some s =>
    if !s.rootSessionActive then w
    else
      let latestActivityText := clampAssistantText text (agentText <|> ctx.latestActivityText)
      { w with
        session := some (withSessionStatus text session .working latestActivityText)
        heartbeatStatus := .working }
  | _, _ => w

/-- `clearBranchSensitiveState`. -/
def clearBranchSensitiveState (w : PiExtension) : PiExtension :=
  { w with deliverySequence := w.deliverySequence + 1 }.invalidatePendingTerminal.updateState
    fun s =>
      { s with
        latestAgentEndResult := none
        terminalEmittedForCurrentLoop := false
        pendingHandleCandidate := none
        flowRevision := s.flowRevision + 1
        loopRunning := false
        currentRunGeneration := none
        settledRunGeneration := none }

/-- `beginNewLowLevelRun`. -/
def beginNewLowLevelRun (w : PiExtension) : PiExtension :=
  w.invalidatePendingTerminal.updateState fun s =>
    { s with
      latestAgentEndResult := none
      terminalEmittedForCurrentLoop := false
      flowRevision := s.flowRevision + 1
      generationSequence := s.generationSequence + 1
      currentRunGeneration := some (s.generationSequence + 1)
      settledRunGeneration := none
      loopRunning := true }

/-! ### Callbacks -/

/-- `session_start`. The callback throws when the manager has no session id. -/
def sessionStart (ctx : PiContext) (w : PiExtension) : PiExtension :=
  let cleared := { w with deliverySequence := w.deliverySequence + 1 }.clearQuietTimer
  if text.trim ctx.sessionId = "" then cleared
  else
    { cleared with
      activeSessionManager := some ctx.sessionManager
      session := some (deriveSession text ctx ctx.sessionId)
      heartbeatSessionId := ctx.sessionId
      heartbeatStatus := .idle }
      |>.resetLoopState ctx.sessionId ctx.activeLeafId

/-- `session_shutdown`. -/
def sessionShutdown (w : PiExtension) : PiExtension :=
  { { w with deliverySequence := w.deliverySequence + 1 }.clearQuietTimer with
    heartbeatSessionId := ""
    heartbeatStatus := .idle
    session := none
    activeSessionManager := none
    state := none
    emittedFingerprints := [] }

/-- `input` with a clock reading. A steering or a follow-up input belongs to the current run. -/
def input (now : Int) (steering : Bool) (w : PiExtension) : PiExtension :=
  match w.state with
  | none => w
  | some _ =>
    let reported := (w.updateState fun s =>
      { s with lastInputAt := some now, inputCursor := s.inputCursor + 1 })
      |>.reportPendingHandleAfterLocalInput
    if steering then reported
    else
      reported.invalidatePendingTerminal.updateState fun s =>
        { s with
          latestAgentEndResult := none
          flowRevision := s.flowRevision + 1
          loopRunning := false
          currentRunGeneration := none
          settledRunGeneration := none }

/-- A callback of the session manager of the session. -/
def isActive (w : PiExtension) (ctx : PiContext) : Bool :=
  decide (w.heartbeatSessionId ≠ "") &&
  decide (some ctx.sessionManager = w.activeSessionManager)

/-- `agent_start`. -/
def agentStart (ctx : PiContext) (w : PiExtension) : PiExtension :=
  if !w.isActive ctx then w
  else
    { w with session := some (deriveSession text ctx w.heartbeatSessionId) }
      |>.ensureLoopState w.heartbeatSessionId ctx.activeLeafId
      |>.beginNewLowLevelRun
      |>.pushWorking text ctx ctx.latestActivityText

/-- `extractLatestAssistantEnd`. -/
def extractLatestAssistantEnd (messages : List AgentMessage) (runGeneration : Nat) :
    LatestAgentEndResult :=
  match messages.reverse.find? fun message => message.role = "assistant" with
  | none => ⟨false, none, none, none, none, runGeneration⟩
  | some message =>
    ⟨true, message.stopReason, extractTextContent text message, message.errorMessage,
      message.error, runGeneration⟩

/-- `agent_end`. -/
def agentEnd (ctx : PiContext) (messages : List AgentMessage) (w : PiExtension) : PiExtension :=
  if !w.isActive ctx then w
  else
    let ensured :=
      { w with session := some (deriveSession text ctx w.heartbeatSessionId) }
        |>.ensureLoopState w.heartbeatSessionId ctx.activeLeafId
    match ensured.state with
    | none => ensured
    | some s =>
      match s.loopRunning, s.currentRunGeneration with
      | true, some runGeneration =>
        let result := extractLatestAssistantEnd text messages runGeneration
        (ensured.updateState fun s =>
          { s with loopRunning := false, latestAgentEndResult := some result })
          |>.pushWorking text ctx result.agentText
      | _, _ => ensured

/-- What `agent_settled` does with the result of the run. -/
def settleResult (ctx : PiContext) (result : LatestAgentEndResult) (createdAt : String)
    (w : PiExtension) : PiExtension :=
  match w.session, w.state with
  | some session, some s =>
    if !result.assistantFound || s.terminalEmittedForCurrentLoop then w
    else if result.stopReason = some "aborted" then
      { w.updateState fun s => { s with terminalEmittedForCurrentLoop := true } with
        session := some (withSessionStatus text session .idle
          (session.latestActivityText <|> ctx.latestActivityText))
        heartbeatStatus := .idle }
    else if result.stopReason ≠ none ∧ result.stopReason ≠ some "stop" then
      w.submitErrorCandidate text ctx result createdAt result.runGeneration
    else
      let candidate :=
        classifyStoredAssistantText text result.agentText s.sessionId s.activeLeafId
      if w.emittedFingerprints.contains candidate.fingerprint then w
      else w.submitTerminalCandidate text candidate ctx createdAt result.runGeneration
  | _, _ => w

/-- `agent_settled`, at the time `createdAt`. -/
def agentSettled (ctx : PiContext) (createdAt : String) (w : PiExtension) : PiExtension :=
  match w.state with
  | none => w
  | some s =>
    if !w.isActive ctx ∨ w.session = none then w
    else if s.sessionId ≠ w.heartbeatSessionId ∨ s.latestPendingAlert ≠ none then w
    else
      match s.currentRunGeneration with
      | none => w
      | some runGeneration =>
        if s.loopRunning then
          w.updateState fun s =>
            { s with loopRunning := false, currentRunGeneration := none,
                     latestAgentEndResult := none }
        else
          let taken := w.updateState fun s =>
            { s with latestAgentEndResult := none, currentRunGeneration := none }
          match s.latestAgentEndResult with
          | none => taken
          | some result =>
            if result.runGeneration ≠ runGeneration then taken
            else
              (taken.updateState fun s => { s with settledRunGeneration := some runGeneration })
                |>.settleResult text ctx result createdAt

/-- `session_tree`. -/
def sessionTree (ctx : PiContext) (newLeafId : Option String) (w : PiExtension) : PiExtension :=
  match w.state with
  | none => w
  | some _ =>
    if !w.isActive ctx then w
    else
      { (w.updateState fun s =>
            { s with activeLeafId := newLeafId <|> ctx.activeLeafId <|> s.activeLeafId })
          |>.clearBranchSensitiveState with
        session := some (withSessionStatus text (deriveSession text ctx w.heartbeatSessionId)
          w.heartbeatStatus ctx.latestActivityText) }

end

end PiExtension

/-! ### Runs -/

/-- A callback of Pi, a timer, or the end of a call of the adapter. -/
inductive PiAction
  | sessionStart (ctx : PiContext)
  | sessionShutdown (ctx : PiContext)
  | input (now : Int) (steering : Bool)
  | agentStart (ctx : PiContext)
  | agentEnd (ctx : PiContext) (messages : List AgentMessage)
  | agentSettled (ctx : PiContext) (createdAt : String)
  | sessionTree (ctx : PiContext) (newLeafId : Option String)
  | timerFires (timer : Nat) (newWork : Bool)
  | pushResolves (push : Nat) (eventId : String)
  | pushRejects (push : Nat)
  | handleResolves (handle : Nat)
  | handleRejects (handle : Nat)

namespace PiExtension

/-- A timer fires when it is set, and a call ends once. -/
def Allowed (w : PiExtension) : PiAction → Prop
  | .timerFires timer _ => timer ∈ w.timers.map (·.id)
  | .pushResolves push _ => ∃ call ∈ w.pushes[push]?, call.outcome = .inFlight
  | .pushRejects push => ∃ call ∈ w.pushes[push]?, call.outcome = .inFlight
  | .handleResolves handle => ∃ call ∈ w.handles[handle]?, call.outcome = .inFlight
  | .handleRejects handle => ∃ call ∈ w.handles[handle]?, call.outcome = .inFlight
  | _ => True

instance (w : PiExtension) (a : PiAction) : Decidable (w.Allowed a) :=
  match a with
  | .sessionStart _ | .sessionShutdown _ | .input _ _ | .agentStart _ | .agentEnd _ _
  | .agentSettled _ _ | .sessionTree _ _ => inferInstanceAs (Decidable True)
  | .timerFires timer _ => inferInstanceAs (Decidable (timer ∈ w.timers.map (·.id)))
  | .pushResolves push _ | .pushRejects push =>
    inferInstanceAs (Decidable (∃ call ∈ w.pushes[push]?, call.outcome = .inFlight))
  | .handleResolves handle | .handleRejects handle =>
    inferInstanceAs (Decidable (∃ call ∈ w.handles[handle]?, call.outcome = .inFlight))

/-- What an action does. -/
def perform (text : PiText) (eventPublicationEnabled : Bool) (w : PiExtension) :
    PiAction → PiExtension
  | .sessionStart ctx => w.sessionStart text ctx
  | .sessionShutdown _ => w.sessionShutdown
  | .input now steering => w.input now steering
  | .agentStart ctx => w.agentStart text ctx
  | .agentEnd ctx messages => w.agentEnd text ctx messages
  | .agentSettled ctx createdAt => w.agentSettled text ctx createdAt
  | .sessionTree ctx newLeafId => w.sessionTree text ctx newLeafId
  | .timerFires timer newWork => w.timerFires text eventPublicationEnabled timer newWork
  | .pushResolves push eventId => w.pushResolves push eventId
  | .pushRejects push => w.pushRejects push
  | .handleResolves handle => w.handleResolves handle
  | .handleRejects handle => w.handleRejects handle

/-- The steps of the extension, in any order. -/
def Step (text : PiText) (eventPublicationEnabled : Bool) (w : PiExtension) (a : PiAction)
    (w' : PiExtension) : Prop :=
  w.Allowed a ∧ w' = w.perform text eventPublicationEnabled a

end PiExtension

end Ariava.Extensions
