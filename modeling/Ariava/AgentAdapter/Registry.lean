import Ariava.AgentAdapter.SessionTransitions
import Ariava.AgentAdapter.TerminalEventPlan

/-!
# `Ariava.AgentAdapter.Registry`: the live registry of adapter Sessions

The class `AgentAdapterRegistry` of `registry.ts`. Its private maps are the fields of
`AgentAdapterRegistry`, grouped by what they are about: the Sessions, the commands and the
delayed terminal events. Its methods are programs over the registry and its store, so a
throw of the store leaves what was already changed.

A promise that a method hands out is a token. `PollRequest` stands for the resolver of a
long poll and carries, for the properties only, the Session and the owner lease under
which the poll was issued. A settled promise is an entry of `occurrences`, and so is each
command that is enqueued or abandoned and each result that is accepted. `mutations` are the
calls of `onMutation`.
-/

set_option autoImplicit false

namespace Ariava.AgentAdapter

open Ariava.Lib
open Ariava.Protocol
open Ariava.StateStore

/-- A long poll, issued for a Session under an owner lease. -/
structure PollRequest where
  id : Nat
  sessionId : String
  ownerLease : String
deriving DecidableEq

/-- The value of `commandSessions`. -/
structure CommandBinding where
  hostId : String
  sessionId : String
  provider : String
deriving DecidableEq

/-- What happens to commands, as the callers of the registry see it. -/
inductive CommandOccurrence
  | enqueued (command : CommandEnvelope)
  | pollSettled (poll : PollRequest) (command : Option CommandEnvelope)
  | resultAccepted (commandId : String) (result : CommandResult)
  | waitSettled (token : Nat) (commandId : String) (result : Option CommandResult)
  | abandoned (commandId : String)
deriving DecidableEq

/-- The maps about commands. -/
structure CommandTables where
  commandQueues : Dict String (List CommandEnvelope)
  commandWaiters : Dict String (List PollRequest)
  results : Dict String CommandResult
  resultWaiters : Dict String (List Nat)
  commandSessions : Dict String CommandBinding
  inFlightCommands : Dict String (List String)
  orphanedCommandIds : List String
  occurrences : List CommandOccurrence
deriving DecidableEq

/-- The maps about delayed terminal events. An armed retry timer is its Session id. -/
structure TerminalTables where
  delayedTerminalEvents : Dict String PendingTerminal
  terminalRetryAttempts : Dict String Nat
  terminalRetryTimers : Dict String Unit
deriving DecidableEq

/-- The registry. -/
structure AgentAdapterRegistry where
  hostId : String
  recoveryDeadlineMs : Int
  sessions : Dict String RegisteredSession
  commands : CommandTables
  terminals : TerminalTables
  disposed : Bool
deriving DecidableEq

/-- The registry with its store, the reasons given to `onMutation` and the lease ids drawn so
far. -/
structure RegistryWorld (ω : Type) where
  registry : AgentAdapterRegistry
  store : ω
  mutations : List RegistryMutationReason
  drawnLeases : List String

/-- The maps about commands before the first command. -/
def CommandTables.empty : CommandTables := ⟨∅, ∅, ∅, ∅, ∅, ∅, [], []⟩

/-- The maps about terminal events before the first event. -/
def TerminalTables.empty : TerminalTables := ⟨∅, ∅, ∅⟩

/-- A new registry: the constructor reads the clock once. -/
def AgentAdapterRegistry.new (hostId : String) (nowMs : Int) : AgentAdapterRegistry where
  hostId := hostId
  recoveryDeadlineMs := nowMs + sessionTtlMs
  sessions := ∅
  commands := .empty
  terminals := .empty
  disposed := false

/-- A program of the registry. -/
abbrev RegistryEffect (ω α : Type) : Type := Effect Thrown (RegistryWorld ω) α

namespace AgentAdapterRegistry

variable {ω α : Type}

/-- The registry now. -/
def read : RegistryEffect ω AgentAdapterRegistry := do
  let world ← get
  return world.registry

/-- Call the store. -/
def storeCall (p : Effect Thrown ω α) : RegistryEffect ω α :=
  Effect.zoom (fun w => w.store) (fun store w => { w with store := store }) p

/-- `onMutation(reason)`. -/
def onMutation (reason : RegistryMutationReason) : RegistryEffect ω Unit :=
  modify fun w => { w with mutations := reason :: w.mutations }

/-- Change the Sessions. -/
def setSessions (f : Dict String RegisteredSession → Dict String RegisteredSession) :
    RegistryEffect ω Unit :=
  modify fun w => { w with registry := { w.registry with sessions := f w.registry.sessions } }

/-- Change the command maps. -/
def setCommands (f : CommandTables → CommandTables) : RegistryEffect ω Unit :=
  modify fun w => { w with registry := { w.registry with commands := f w.registry.commands } }

/-- Change the terminal maps. -/
def setTerminals (f : TerminalTables → TerminalTables) : RegistryEffect ω Unit :=
  modify fun w => { w with registry := { w.registry with terminals := f w.registry.terminals } }

/-- `createOwnerLease()`: the lease id of the readings becomes drawn. -/
def createOwnerLease (at_ : RegistryReadings) : RegistryEffect ω String := do
  modify fun w => { w with drawnLeases := at_.ownerLease :: w.drawnLeases }
  return at_.ownerLease

end AgentAdapterRegistry

/-! ### The command maps -/

namespace CommandTables

/-- The queue of a Session. -/
def queue (t : CommandTables) (sessionId : String) : List CommandEnvelope :=
  (t.commandQueues.get? sessionId).getD []

/-- The parked polls of a Session. -/
def waiters (t : CommandTables) (sessionId : String) : List PollRequest :=
  (t.commandWaiters.get? sessionId).getD []

/-- The commands in flight at a Session. -/
def inFlight (t : CommandTables) (sessionId : String) : List String :=
  (t.inFlightCommands.get? sessionId).getD []

/-- The parked waiters of a command's result. -/
def waitsFor (t : CommandTables) (commandId : String) : List Nat :=
  (t.resultWaiters.get? commandId).getD []

/-- `hasPendingCommandWork`. -/
def hasPendingCommandWork (t : CommandTables) (sessionId : String) : Bool :=
  !(t.queue sessionId).isEmpty || !(t.inFlight sessionId).isEmpty

/-- Write a list at a key, or delete the key when the list is empty. -/
def setOrDelete {α : Type} (d : Dict String (List α)) (key : String) (items : List α) :
    Dict String (List α) :=
  if items.isEmpty then d.erase key else d.set key items

/-- Record an occurrence. -/
def record (t : CommandTables) (occurrence : CommandOccurrence) : CommandTables :=
  { t with occurrences := occurrence :: t.occurrences }

/-- Settle a poll: it is no longer parked, and its answer is given. -/
def settlePoll (t : CommandTables) (poll : PollRequest) (command : Option CommandEnvelope) :
    CommandTables :=
  { t with
      commandWaiters :=
        setOrDelete t.commandWaiters poll.sessionId ((t.waiters poll.sessionId).erase poll)
      occurrences := .pollSettled poll command :: t.occurrences }

/-- `settleResultWaiters`. -/
def settleResultWaiters (t : CommandTables) (commandId : String)
    (result : Option CommandResult) : CommandTables :=
  { t with
      resultWaiters := t.resultWaiters.erase commandId
      occurrences := ((t.waitsFor commandId).map fun token =>
        CommandOccurrence.waitSettled token commandId result).reverse ++ t.occurrences }

/-- Bind a command to the Session it is for. -/
def bind (t : CommandTables) (command : CommandEnvelope) (provider : String) : CommandTables :=
  let binding : CommandBinding := ⟨command.hostId, command.sessionId, provider⟩
  { t with commandSessions := t.commandSessions.set command.commandId binding }

/-- Drop the binding of a command. -/
def unbind (t : CommandTables) (commandId : String) : CommandTables :=
  { t with commandSessions := t.commandSessions.erase commandId }

/-- Add a command to those in flight at its Session. The set keeps one copy. -/
def addInFlight (t : CommandTables) (command : CommandEnvelope) : CommandTables :=
  let current := t.inFlight command.sessionId
  let added := if command.commandId ∈ current then current else current ++ [command.commandId]
  { t with inFlightCommands := t.inFlightCommands.set command.sessionId added }

/-- Remove a command from those in flight at a Session. -/
def removeInFlight (t : CommandTables) (sessionId commandId : String) : CommandTables :=
  { t with inFlightCommands := match t.inFlightCommands.get? sessionId with
      | none => t.inFlightCommands
      | some current => setOrDelete t.inFlightCommands sessionId
          (current.filter fun id => decide (id ≠ commandId)) }

/-- Drop the queue and the in-flight set of a Session. -/
def dropSession (t : CommandTables) (sessionId : String) : CommandTables :=
  { t with
      commandQueues := t.commandQueues.erase sessionId
      inFlightCommands := t.inFlightCommands.erase sessionId }

/-- What `loseOwnership` does with one command of the Session. -/
def orphan (t : CommandTables) (commandId : String) : CommandTables :=
  let orphaned := { t with
    orphanedCommandIds :=
      if commandId ∈ t.orphanedCommandIds then t.orphanedCommandIds
      else t.orphanedCommandIds ++ [commandId] }
  (orphaned.settleResultWaiters commandId none).unbind commandId

/-- The commands that are bound to a Session. -/
def boundTo (t : CommandTables) (sessionId : String) : List String :=
  (t.commandSessions.filter fun _ binding => decide (binding.sessionId = sessionId)).keys

end CommandTables

/-- The options of `cancelTerminalRetry`. -/
structure CancelTerminalOptions where
  committed : Bool := false
  removeSession : Bool := false
  nextDriverName : Option String := none
  persistedCancellation : Option PersistedTerminalCancellation := none
  replacementSession : Option CanonicalSessionState := none

namespace AgentAdapterRegistry

section
variable {ω : Type} (text : ProtocolText) (store : RegistryStateStore ω) (at_ : RegistryReadings)

/-! ### Delayed terminal events -/

/-- The terminal event that `cancelTerminalRetry` cancels: the delayed one, else the
persisted one. -/
def terminalToCancel (pending : Option PendingTerminal)
    (persisted : Option PersistedTerminalCancellation) :
    Except Thrown (Option PersistedTerminalCancellation) :=
  match pending with
  | some terminal => do
      let fingerprint ← producerEventFingerprint text (producerPart terminal.event)
      return some ⟨terminal.event.eventId, fingerprint⟩
  | none => .ok persisted

/-- The terminal maps after a Session's retry is cancelled. -/
def forgetTerminal (t : TerminalTables) (sessionId : String) : TerminalTables where
  delayedTerminalEvents := t.delayedTerminalEvents.erase sessionId
  terminalRetryAttempts := t.terminalRetryAttempts.erase sessionId
  terminalRetryTimers := t.terminalRetryTimers.erase sessionId

/-- The cancellation that `cancelTerminalRetry` persists. -/
def persistCancellation (sessionId : String) (options : CancelTerminalOptions)
    (cancellation : Option PersistedTerminalCancellation) : RegistryEffect ω Unit :=
  match cancellation with
  | some cancelled =>
      if options.committed then pure ()
      else storeCall (store.cancelTerminalEvent {
        eventId := cancelled.eventId
        sessionId := sessionId
        fingerprint := cancelled.fingerprint
        removeSession := options.removeSession
        nextDriverName := options.nextDriverName
        createdAt := at_.nowIso
        replacementSession := options.replacementSession })
  | none => pure ()

/-- `cancelTerminalRetry`. -/
def cancelTerminalRetry (sessionId : String) (options : CancelTerminalOptions) :
    RegistryEffect ω Unit := do
  let registry ← read
  let cancellation ← Effect.ofExcept (terminalToCancel text
    (registry.terminals.delayedTerminalEvents.get? sessionId) options.persistedCancellation)
  persistCancellation store at_ sessionId options cancellation
  setTerminals fun t => forgetTerminal t sessionId

/-- `fromCanonicalTerminalSession`. -/
def fromCanonicalTerminalSession (current : RegisteredSession)
    (terminal : CanonicalSessionState) : RegisteredSession :=
  { current with
      status := terminal.status
      latestActivityText := terminal.latestActivityText
      lastEventId := terminal.lastEventId
      semanticUpdatedAt := terminal.updatedAt }

/-- `commitTerminalSession`. -/
def commitTerminalSession (sessionId : String) (previous terminal : RegisteredSession) :
    RegistryEffect ω Unit := do
  setSessions fun sessions => sessions.set sessionId terminal
  if semanticFingerprint terminal.toAdapterSession
      = semanticFingerprint previous.toAdapterSession then pure ()
  else onMutation .semantic

/-- `commitPendingTerminal`. -/
def commitPendingTerminal (sessionId : String) (pending : PendingTerminal)
    (fingerprint : String) : RegistryEffect ω Unit := do
  let registry ← read
  match registry.sessions.get? sessionId with
  | none => throw (.error ("Session " ++ sessionId ++ " is not registered"))
  | some current =>
      storeCall (store.queuePendingEvent pending.event pending.session fingerprint)
      commitTerminalSession sessionId current (fromCanonicalTerminalSession current pending.session)
      cancelTerminalRetry text store at_ sessionId { committed := true }

/-- `scheduleTerminalRetry`. The delay of the timer is not modelled. -/
def scheduleTerminalRetry (sessionId : String) : RegistryEffect ω Unit := do
  let registry ← read
  if registry.disposed || !(registry.terminals.delayedTerminalEvents.contains sessionId)
      || registry.terminals.terminalRetryTimers.contains sessionId then pure ()
  else setTerminals fun t => { t with
    terminalRetryAttempts := t.terminalRetryAttempts.set sessionId
      ((t.terminalRetryAttempts.get? sessionId).getD 0 + 1)
    terminalRetryTimers := t.terminalRetryTimers.set sessionId () }

/-- `promotePendingTerminal`. -/
def promotePendingTerminal (sessionId : String) (pending : PendingTerminal)
    (fingerprint : String) : RegistryEffect ω Unit :=
  tryCatch (commitPendingTerminal text store at_ sessionId pending fingerprint) fun thrown => do
    scheduleTerminalRetry sessionId
    throw thrown

/-- The commit that `flushDelayedTerminalEvent` attempts. -/
def attemptDelayedTerminal (sessionId : String) (pending : PendingTerminal) :
    RegistryEffect ω Unit := do
  let fingerprint ← Effect.ofExcept (producerEventFingerprint text (producerPart pending.event))
  commitPendingTerminal text store at_ sessionId pending fingerprint

/-- `flushDelayedTerminalEvent`. -/
def flushDelayedTerminalEvent (sessionId : String) : RegistryEffect ω Unit := do
  let registry ← read
  if registry.commands.hasPendingCommandWork sessionId then pure ()
  else match registry.terminals.delayedTerminalEvents.get? sessionId with
    | none => pure ()
    | some pending =>
        if registry.sessions.contains sessionId then
          tryCatch (attemptDelayedTerminal text store at_ sessionId pending) fun _ =>
            scheduleTerminalRetry sessionId
        else cancelTerminalRetry text store at_ sessionId {}

/-- The timer of `scheduleTerminalRetry` fires. -/
def terminalRetryTimerFires (sessionId : String) : RegistryEffect ω Unit := do
  setTerminals fun t => { t with terminalRetryTimers := t.terminalRetryTimers.erase sessionId }
  let registry ← read
  if registry.disposed then pure ()
  else flushDelayedTerminalEvent text store at_ sessionId

/-! ### Ownership -/

/-- One round of the loop of `loseOwnership`. -/
def orphanCommand (commandId : String) : RegistryEffect ω Unit := do
  tryCatch (storeCall (store.markCommandOutcomeUnknownIfPresent commandId)) fun _ => pure ()
  setCommands fun t => t.orphan commandId

/-- The durable half of `loseOwnership`. -/
def releaseDurably (sessionId : String) : RegistryEffect ω Unit := do
  let persistedCancellation ← storeCall (store.getTerminalEventCancellation sessionId)
  let registry ← read
  if registry.terminals.delayedTerminalEvents.contains sessionId
      || persistedCancellation.isSome then
    cancelTerminalRetry text store at_ sessionId
      { removeSession := true, persistedCancellation := persistedCancellation }
  else
    let driverName ← storeCall (store.getDriverNameForSession sessionId)
    storeCall (store.removeSession sessionId driverName)

/-- `loseOwnership`. The parked polls of the Session are not among what it clears. -/
def loseOwnership (session : RegisteredSession) (reason : RegistryMutationReason) :
    RegistryEffect ω Unit := do
  let sessionId := session.sessionId
  releaseDurably text store at_ sessionId
  let registry ← read
  Effect.forEach (registry.commands.boundTo sessionId) (orphanCommand store)
  setCommands fun t => t.dropSession sessionId
  setSessions fun sessions => sessions.erase sessionId
  onMutation reason

/-- `unregister`. -/
def unregister (sessionId : String) (reason : RegistryMutationReason) :
    RegistryEffect ω Bool := do
  let registry ← read
  match registry.sessions.get? sessionId with
  | none => return false
  | some session =>
      loseOwnership text store at_ session reason
      return true

/-- `monotonicNow - session.lastOwnerLeaseMonotonic > OWNER_LEASE_TTL_MS`. -/
def leaseExpired (session : RegisteredSession) (monotonicNow : Nat) : Bool :=
  decide (session.lastOwnerLeaseMonotonic + ownerLeaseTtl < monotonicNow)

/-- `assertCurrentOwner`. -/
def assertCurrentOwner (sessionId driverInstanceId ownerLease : String) :
    RegistryEffect ω Unit := do
  let registry ← read
  match registry.sessions.get? sessionId with
  | none => throw (sessionNotFoundError sessionId)
  | some session =>
      if leaseExpired session at_.monotonicNow then
        loseOwnership text store at_ session .ttl
        throw (staleOwnerError sessionId)
      else if session.driverInstanceId ≠ driverInstanceId ∨ session.ownerLease ≠ ownerLease then
        throw (staleOwnerError sessionId)
      else pure ()

/-! ### Registration and heartbeat -/

/-- What `restorePersistedTerminalForRegistration` finds. -/
inductive TerminalRecovery
  | pending (terminal : PendingTerminal)
  | committed (session : CanonicalSessionState)

/-- The reserved tuple restores the registration. -/
def tupleRestores (input : RegisterSessionInput) (reservation : PersistedProducerEventReservationV1)
    (tuple : PendingTerminal) : Except Thrown Bool :=
  if tuple.event.sessionId = input.sessionId ∧ tuple.event.status = .needHuman
      ∧ tuple.session.status = .needHuman
      ∧ tuple.session.lastEventId = some tuple.event.eventId then do
    let fingerprint ← producerEventFingerprint text (producerPart tuple.event)
    return decide (fingerprint = reservation.fingerprint)
      && decide (canonicalProducerContextFingerprint tuple.session
        = registerContextFingerprint input)
  else .ok false

/-- The recent event restores the registration. -/
def recentEventRestores (input : RegisterSessionInput)
    (reservation : PersistedProducerEventReservationV1) (event : CanonicalEvent) :
    Except Thrown Bool :=
  if event.sessionId = input.sessionId ∧ event.status = .needHuman then do
    let fingerprint ← producerEventFingerprint text (producerPart event)
    return decide (fingerprint = reservation.fingerprint)
      && decide (eventContextFingerprint event = registerContextFingerprint input)
  else .ok false

/-- The Session that a recent event restores. -/
def committedRecovery (input : RegisterSessionInput) (event : CanonicalEvent) :
    CanonicalSessionState where
  sessionId := input.sessionId
  hostId := event.hostId
  provider := input.provider
  projectName := input.projectName
  nameText := input.nameText
  openingText := input.openingText
  latestActivityText := some event.agentText
  workingDirectory := some input.cwd
  harnessProvider := input.harnessProvider
  status := .needHuman
  updatedAt := event.createdAt
  lastEventId := some event.eventId
  snoozedUntil := none

/-- The reserved tuple, when it restores the registration. -/
def recoverTuple (input : RegisterSessionInput)
    (reservation : PersistedProducerEventReservationV1) :
    RegistryEffect ω (Option PendingTerminal) := do
  let tuple ← storeCall (store.getProducerEventTuple reservation.eventId reservation.fingerprint)
  match tuple with
  | none => return none
  | some found =>
      let restores ← Effect.ofExcept (tupleRestores text input reservation found)
      return if restores then some found else none

/-- The recent event of a reservation, when it restores the registration. -/
def recoverRecentEvent (input : RegisterSessionInput)
    (reservation : PersistedProducerEventReservationV1) :
    RegistryEffect ω (Option CanonicalEvent) := do
  let recent ← storeCall (store.getRecentEvent reservation.eventId)
  match recent with
  | none => return none
  | some event =>
      let restores ← Effect.ofExcept (recentEventRestores text input reservation event)
      return if restores then some event else none

/-- The loop of `restorePersistedTerminalForRegistration`. -/
def restoreFromReservations (input : RegisterSessionInput) :
    List PersistedProducerEventReservationV1 → RegistryEffect ω (Option TerminalRecovery)
  | [] => pure none
  | reservation :: rest => do
      let tuple ← recoverTuple text store input reservation
      match tuple with
      | some found => return some (.pending found)
      | none =>
          let recent ← recoverRecentEvent text store input reservation
          match recent with
          | some event => return some (.committed (committedRecovery input event))
          | none => restoreFromReservations input rest

/-- The reservations, latest first: `sort` with `localeCompare` on the creation. -/
def newestFirst (reservations : List PersistedProducerEventReservationV1) :
    List PersistedProducerEventReservationV1 :=
  reservations.mergeSort fun left right =>
    decide (text.localeCompare right.createdAt left.createdAt ≠ .gt)

/-- `restorePersistedTerminalForRegistration`. -/
def restorePersistedTerminalForRegistration (input : RegisterSessionInput)
    (persistedSession : Option CanonicalSessionState) :
    RegistryEffect ω (Option TerminalRecovery) := do
  let contextDiffers := persistedSession.any fun persisted =>
    decide (canonicalProducerContextFingerprint persisted ≠ registerContextFingerprint input)
  if contextDiffers then return none
  else
    let reservations ← storeCall (store.listProducerEventReservations input.sessionId)
    restoreFromReservations text store input (newestFirst text reservations)

/-- The first part of `register`: a persisted terminal event is restored for a Session that
returns as `need_human`. -/
def restoreForRegistration (input : RegisterSessionInput) (previous : Option RegisteredSession)
    (persistedSession : Option CanonicalSessionState) :
    RegistryEffect ω (Option CanonicalSessionState) := do
  let restorable := previous.isNone && decide (input.status = some .needHuman)
    && persistedSession.all fun persisted =>
      decide (persisted.status ≠ .needHuman) || decide (persisted.lastEventId.getD "" = "")
  if restorable then
    let recovery ← restorePersistedTerminalForRegistration text store input persistedSession
    match recovery with
    | none => return persistedSession
    | some (.pending terminal) =>
        let fingerprint ← Effect.ofExcept
          (producerEventFingerprint text (producerPart terminal.event))
        storeCall (store.queuePendingEvent terminal.event terminal.session fingerprint)
        storeCall (store.getSession input.sessionId)
    | some (.committed session) =>
        storeCall (store.setSessionDriver input.sessionId "agent-adapter" session)
        storeCall (store.getSession input.sessionId)
  else return persistedSession

/-- The expiry and conflict checks of `register` against the live Session. -/
def revokeOrRefuse (input : RegisterSessionInput) (previous : Option RegisteredSession) :
    RegistryEffect ω Unit :=
  match previous with
  | none => pure ()
  | some live =>
      if leaseExpired live at_.monotonicNow then loseOwnership text store at_ live .ttl
      else if live.driverInstanceId ≠ input.driverInstanceId then
        throw (ownerConflictError input.sessionId)
      else pure ()

/-- The durable part of `register`. -/
def persistRegistration (input : RegisterSessionInput) (transition : RegistrationTransition) :
    RegistryEffect ω Unit :=
  match transition.persistence with
  | .durableSetSessionDriver =>
      storeCall (store.setSessionDriver input.sessionId "agent-adapter"
        (toCanonicalSessionState transition.nextSession))
  | .durableCancelTerminal nextDriverName persistedCancellation =>
      cancelTerminalRetry text store at_ input.sessionId {
        nextDriverName := some nextDriverName
        persistedCancellation := some persistedCancellation
        replacementSession := some (toCanonicalSessionState transition.nextSession) }

/-- Report a change that is semantic. -/
def mutatedWhen (semanticChanged : Bool) (reason : RegistryMutationReason) :
    RegistryEffect ω Unit :=
  if semanticChanged then onMutation reason else pure ()

/-- The lease of a registration: the kept one, else a new one. -/
def leaseFor (kept : Option RegisteredSession) : RegistryEffect ω String :=
  match kept with
  | some live => pure live.ownerLease
  | none => createOwnerLease at_

/-- The last part of `register`: the Session gets its owner. The same instance keeps its
lease while it is still registered, and every other owner draws a new one. -/
def grantOwnership (input : RegisterSessionInput) (previous : Option RegisteredSession)
    (transition : RegistrationTransition) : RegistryEffect ω RegisteredSession := do
  let registry ← read
  let kept := previous.filter fun live => decide (live.driverInstanceId = input.driverInstanceId)
    && registry.sessions.contains input.sessionId
  let ownerLease ← leaseFor at_ kept
  let owned : RegisteredSession := {
    transition.nextSession with
    driverInstanceId := input.driverInstanceId
    ownerLease := ownerLease
    lastOwnerLeaseMonotonic := at_.monotonicNow }
  setSessions fun sessions => sessions.set input.sessionId owned
  mutatedWhen transition.semanticChanged .register
  return owned

/-- `register`. -/
def register (input : RegisterSessionInput) : RegistryEffect ω RegisteredSession := do
  if input.driverInstanceId = "" then
    throw (requestValidationError "driverInstanceId is required")
  else
    let registry ← read
    let previous := registry.sessions.get? input.sessionId
    let stored ← storeCall (store.getSession input.sessionId)
    let persistedSession ← restoreForRegistration text store input previous stored
    if authorizeRegistration previous persistedSession input then
      revokeOrRefuse text store at_ input previous
      let persistedCancellation ← storeCall (store.getTerminalEventCancellation input.sessionId)
      let transition := reduceRegistration ⟨previous, persistedSession, persistedCancellation⟩
        input registry.hostId at_.nowIso
      Effect.ofExcept (assertRegistrable transition.nextSession)
      persistRegistration text store at_ input transition
      grantOwnership at_ input previous transition
    else throw (sessionIdCollisionError input.sessionId)

/-- The status that a heartbeat applies: a delayed terminal event defers its own status. -/
def effectiveHeartbeat (pending : Option PendingTerminal) (session : RegisteredSession)
    (input : HeartbeatInput) : HeartbeatInput :=
  let deferred := pending.any fun terminal =>
    decide (terminal.session.status = input.status) && decide (input.status ≠ session.status)
  { input with status := if deferred then session.status else input.status }

/-- Cancel the terminal retry of a Session whose context changed. -/
def cancelWhen (contextChanged : Bool) (sessionId : String) : RegistryEffect ω Unit :=
  if contextChanged then cancelTerminalRetry text store at_ sessionId {} else pure ()

/-- `heartbeat`. -/
def heartbeat (sessionId : String) (input : HeartbeatInput) :
    RegistryEffect ω (Option RegisteredSession) := do
  let registry ← read
  match registry.sessions.get? sessionId with
  | none => return none
  | some session =>
      let pending := registry.terminals.delayedTerminalEvents.get? sessionId
      let transition := reduceHeartbeat session (effectiveHeartbeat pending session input) at_.nowIso
      Effect.ofExcept (assertRegistrable transition.nextSession.toAdapterSession)
      cancelWhen text store at_ transition.contextChanged sessionId
      mutatedWhen transition.semanticChanged .semantic
      let nextSession : RegisteredSession :=
        { transition.nextSession with lastOwnerLeaseMonotonic := at_.monotonicNow }
      setSessions fun sessions => sessions.set sessionId nextSession
      return some nextSession

/-- The loop of `listSessions`. -/
def listActive : List RegisteredSession → RegistryEffect ω (List CanonicalSessionState)
  | [] => pure []
  | session :: rest =>
      if leaseExpired session at_.monotonicNow then do
        let _ ← unregister text store at_ session.sessionId .ttl
        listActive rest
      else do
        let active ← listActive rest
        return toCanonicalSessionState session.toAdapterSession :: active

/-- `listSessions`. -/
def listSessions : RegistryEffect ω (List CanonicalSessionState) := do
  let registry ← read
  let active ← listActive text store at_ registry.sessions.values
  return active.mergeSort fun left right =>
    decide (text.localeCompare right.updatedAt left.updatedAt ≠ .gt)

/-- `isAuthoritativeSetReady`. -/
def isAuthoritativeSetReady (registry : AgentAdapterRegistry)
    (persistedSessions : List CanonicalSessionState) : Bool :=
  persistedSessions.isEmpty || decide (registry.recoveryDeadlineMs < at_.nowMs)
    || persistedSessions.all fun persisted => registry.sessions.contains persisted.sessionId

/-! ### Producer events and handles -/

/-- `AgentAdapterEventRequest`. -/
structure AgentAdapterEventRequest where
  producerEventId : String
  producerEventOrder : String
  event : AgentAdapterEventInput
deriving DecidableEq

/-- The disposition of an event response. -/
inductive EventDisposition
  | committed
  | duplicate
deriving DecidableEq

/-- `AgentAdapterEventResponse`. -/
structure AgentAdapterEventResponse where
  eventId : String
  producerEventId : String
  producerEventOrder : String
  disposition : EventDisposition
deriving DecidableEq

/-- A character of the lowercase hexadecimal alphabet. -/
def isLowerHexChar (c : Char) : Bool := c.isDigit || ('a' ≤ c && c ≤ 'f')

/-- `isAgentAdapterProducerEventOrder`. -/
def isAgentAdapterProducerEventOrder (value : String) : Bool :=
  decide (value.toList.length = 32) && value.toList.all isLowerHexChar
    && value.toList.any fun c => c != '0'

/-- The value of a hexadecimal digit. -/
def hexDigitValue (c : Char) : Nat := if c.isDigit then c.toNat - 48 else c.toNat - 87

/-- `producerEventOrderAsBigInt`. -/
def producerEventOrderAsNat (value : String) : Option Nat :=
  if isAgentAdapterProducerEventOrder value then
    some (value.toList.foldl (fun n c => 16 * n + hexDigitValue c) 0)
  else none

/-- `isAgentAdapterProducerEventId`: 22 characters of base64url for 16 bytes, so the last
one has its four low bits clear. -/
def isAgentAdapterProducerEventId (value : String) : Bool :=
  decide (value.toList.length = 22) && value.toList.all isBase64UrlChar
    && (value.toList.drop 21).all fun c => c == 'A' || c == 'Q' || c == 'g' || c == 'w'

/-- The JSON text of an event, as the size check of `validateAgentAdapterEventRequest` sees
it. -/
def eventRequestJson (input : AgentAdapterEventInput) : String :=
  jsonObject [("sessionId", some (jsonText input.sessionId)),
    ("provider", some (jsonText input.provider)),
    ("type", some (jsonText (EventKind.typeText input.kind))),
    ("status", some (jsonText (EventKind.statusText input.kind))),
    ("agentText", some (jsonText input.agentText)),
    ("humanText", input.humanText.map jsonText),
    ("projectName", input.projectName.map jsonText),
    ("workingDirectory", input.workingDirectory.map jsonText),
    ("harnessProvider", input.harnessProvider.map jsonText),
    ("createdAt", some (jsonText input.createdAt)),
    ("needHuman", (EventKind.needHuman? input.kind).map needHumanJson)]

/-- `validateAgentAdapterEventRequest`, on a request of the right shape. -/
def validateAgentAdapterEventRequest (request : AgentAdapterEventRequest) : Bool :=
  isAgentAdapterProducerEventId request.producerEventId
    && isAgentAdapterProducerEventOrder request.producerEventOrder
    && decide ((eventRequestJson request.event).utf8ByteSize ≤ contentPlaintextBytes)

/-- `commitProducerEventSource`. -/
def commitProducerEventSource (sessionId : String)
    (reservation : PersistedProducerEventReservationV1) (request : AgentAdapterEventRequest)
    (fingerprint : String) : RegistryEffect ω Unit :=
  storeCall (store.acceptProducerEventSource {
    reservation := reservation
    checkpoint := {
      sessionId := sessionId
      producerEventId := request.producerEventId
      producerEventOrder := request.producerEventOrder
      eventId := reservation.eventId
      fingerprint := fingerprint
      createdAt := at_.nowIso } })

/-- Stage a terminal event. -/
def stageTerminal (sessionId : String) (pending : PendingTerminal) : RegistryEffect ω Unit :=
  setTerminals fun t =>
    { t with delayedTerminalEvents := t.delayedTerminalEvents.set sessionId pending }

/-- Promote a staged terminal event when the plan says so. -/
def promoteWhen (promoteNow : Bool) (sessionId : String) (pending : PendingTerminal)
    (fingerprint : String) : RegistryEffect ω Unit :=
  if promoteNow then promotePendingTerminal text store at_ sessionId pending fingerprint
  else pure ()

/-- Stage and promote the tuple of an accepted source that is still reserved. -/
def promoteAcceptedSource (sessionId : String) (checkpoint : ProducerEventSourceCheckpointV1)
    (fingerprint : String) : RegistryEffect ω Unit := do
  let reservation ← storeCall (store.getProducerEventReservation sessionId fingerprint)
  match reservation with
  | none => pure ()
  | some reserved =>
      if reserved.eventId ≠ checkpoint.eventId then
        throw (requestValidationError "accepted Event checkpoint conflicts with its reservation")
      else
        let tuple ← storeCall (store.getProducerEventTuple checkpoint.eventId fingerprint)
        match tuple with
        | none => throw (requestValidationError
            "accepted Event checkpoint is missing its durable terminal tuple")
        | some pending =>
            stageTerminal sessionId pending
            let registry ← read
            promoteWhen text store at_ (!registry.commands.hasPendingCommandWork sessionId)
              sessionId pending fingerprint

/-- The answer to a source tuple that the checkpoint already has. -/
def answerAcceptedSource (sessionId : String) (checkpoint : ProducerEventSourceCheckpointV1)
    (request : AgentAdapterEventRequest) (fingerprint : String) :
    RegistryEffect ω AgentAdapterEventResponse :=
  if checkpoint.fingerprint ≠ fingerprint then
    throw (orderConflictError "same producer source tuple with a different content fingerprint")
  else do
    promoteAcceptedSource text store at_ sessionId checkpoint fingerprint
    return ⟨checkpoint.eventId, request.producerEventId, request.producerEventOrder, .duplicate⟩

/-- The order of a new source tuple is above that of the checkpoint. -/
def orderIncreases (checkpoint : ProducerEventSourceCheckpointV1)
    (request : AgentAdapterEventRequest) : Bool :=
  match producerEventOrderAsNat checkpoint.producerEventOrder,
      producerEventOrderAsNat request.producerEventOrder with
  | some previousOrder, some currentOrder => decide (previousOrder < currentOrder)
  | _, _ => false

/-- The delayed event has the fingerprint of the new one. -/
def isLiveDuplicate (existing : Option PendingTerminal) (fingerprint : String) :
    Except Thrown Bool :=
  match existing with
  | none => .ok false
  | some pending => hasFingerprint text pending fingerprint

/-- The persisted reservation that `pushEventSource` reads for an event that is not a live
duplicate. -/
def reservationFor (duplicate : Bool) (sessionId fingerprint : String) :
    RegistryEffect ω (Option PersistedProducerEventReservationV1) :=
  if duplicate then pure none
  else storeCall (store.getProducerEventReservation sessionId fingerprint)

/-- The persisted tuple of a reservation. -/
def tupleFor (reservation : Option PersistedProducerEventReservationV1) (fingerprint : String) :
    RegistryEffect ω (Option PendingTerminal) :=
  match reservation with
  | none => pure none
  | some reserved => storeCall (store.getProducerEventTuple reserved.eventId fingerprint)

/-- The event id of the answer. -/
def eventIdFor (duplicate : Bool) (existing : Option PendingTerminal)
    (reservation : Option PersistedProducerEventReservationV1) : String :=
  match duplicate, existing with
  | true, some pending => pending.event.eventId
  | _, _ => (reservation.map (·.eventId)).getD at_.eventId

/-- The answer of `pushEventSource`. -/
def respond (request : AgentAdapterEventRequest) (eventId : String)
    (disposition : EventDisposition) : AgentAdapterEventResponse :=
  ⟨eventId, request.producerEventId, request.producerEventOrder, disposition⟩

/-- Stage a tuple, commit its source and promote it. -/
def stageAndCommit (sessionId : String) (request : AgentAdapterEventRequest)
    (fingerprint : String) (tuple : PendingTerminal)
    (reservation : PersistedProducerEventReservationV1) (promoteNow : Bool) :
    RegistryEffect ω AgentAdapterEventResponse := do
  stageTerminal sessionId tuple
  commitProducerEventSource store at_ sessionId reservation request fingerprint
  promoteWhen text store at_ promoteNow sessionId tuple fingerprint
  return respond request reservation.eventId .committed

/-- Carry out a plan: the `switch` of `pushEventSource`. The two cases that the plan excludes
throw. -/
def carryOutPlan (sessionId : String) (request : AgentAdapterEventRequest) (fingerprint : String)
    (existing : Option PendingTerminal)
    (persistedReservation : Option PersistedProducerEventReservationV1) :
    TerminalEventPlan → RegistryEffect ω AgentAdapterEventResponse
  | .reject thrown => throw thrown
  | .returnLiveDuplicate promoteNow =>
      match existing with
      | none => throw (.error "a live duplicate has a delayed event")
      | some duplicate => do
          promoteWhen text store at_ promoteNow sessionId duplicate fingerprint
          return respond request duplicate.event.eventId .duplicate
  | .returnReservationWithoutTuple eventId => return respond request eventId .duplicate
  | .stageReservedTuple tuple promoteNow =>
      match persistedReservation with
      | none => throw (.error "a reserved tuple has a reservation")
      | some reservation =>
          stageAndCommit text store at_ sessionId request fingerprint tuple reservation promoteNow
  | .cancelOlderAndReserve tuple reservation promoteNow => do
      cancelTerminalRetry text store at_ sessionId {}
      storeCall (store.reserveProducerEventTuple tuple.event tuple.session fingerprint)
      stageAndCommit text store at_ sessionId request fingerprint tuple reservation promoteNow
  | .reserveNewTuple tuple reservation promoteNow => do
      storeCall (store.reserveProducerEventTuple tuple.event tuple.session fingerprint)
      stageAndCommit text store at_ sessionId request fingerprint tuple reservation promoteNow

/-- The second half of `pushEventSource`: plan the event and carry the plan out. -/
def acceptNewSource (sessionId : String) (session : RegisteredSession)
    (request : AgentAdapterEventRequest) (fingerprint : String) :
    RegistryEffect ω AgentAdapterEventResponse := do
  let registry ← read
  let existing := registry.terminals.delayedTerminalEvents.get? sessionId
  let duplicate ← Effect.ofExcept (isLiveDuplicate text existing fingerprint)
  let persistedReservation ← reservationFor store duplicate sessionId fingerprint
  let persistedTuple ← tupleFor store persistedReservation fingerprint
  let plan ← Effect.ofExcept (planTerminalEvent text {
    session := session
    livePending := existing
    persistedReservation := persistedReservation
    persistedTuple := persistedTuple
    hasPendingCommandWork := registry.commands.hasPendingCommandWork sessionId
    input := request.event
    eventId := eventIdFor at_ duplicate existing persistedReservation })
  carryOutPlan text store at_ sessionId request fingerprint existing persistedReservation plan

/-- `pushEventSource`. -/
def pushEventSource (sessionId : String) (request : AgentAdapterEventRequest) :
    RegistryEffect ω AgentAdapterEventResponse := do
  let registry ← read
  match registry.sessions.get? sessionId with
  | none => throw (sessionNotFoundError sessionId)
  | some session =>
      if validateAgentAdapterEventRequest request then
        let input ← Effect.ofExcept (acceptProducerEventInput text sessionId session request.event)
        let fingerprint ← Effect.ofExcept (producerEventFingerprint text input)
        let checkpoint ← storeCall (store.getProducerEventCheckpoint sessionId)
        match checkpoint with
        | none => acceptNewSource text store at_ sessionId session request fingerprint
        | some accepted =>
            if accepted.producerEventId = request.producerEventId
                ∧ accepted.producerEventOrder = request.producerEventOrder then
              answerAcceptedSource text store at_ sessionId accepted request fingerprint
            else if orderIncreases accepted request then
              acceptNewSource text store at_ sessionId session request fingerprint
            else throw (orderConflictError
              "producerEventOrder must be strictly increasing per Session")
      else throw (requestValidationError "invalid Event request")

/-- The handle request that reaches `handleSession`. `handledAt` is normalised. -/
structure HandleSessionRequest where
  handledThroughEventId : String
  handledThroughEventCreatedAt : Option String
  handledAt : String
  action : PendingHandleAction
deriving DecidableEq

/-- `handleSession`. -/
def handleSession (sessionId : String) (request : HandleSessionRequest) :
    RegistryEffect ω Unit := do
  let registry ← read
  match registry.sessions.get? sessionId with
  | none =>
      throw (requestValidationError ("Session " ++ sessionId ++ " is not registered"))
  | some session =>
      if request.handledThroughEventId.toList.all Char.isWhitespace then
        throw (requestValidationError "handledThroughEventId is required")
      else
        storeCall (store.queuePendingSessionHandle {
          hostId := session.hostId
          sessionId := sessionId
          handledThroughEventId := request.handledThroughEventId
          handledThroughEventCreatedAt := request.handledThroughEventCreatedAt
          handledAt := request.handledAt
          action := request.action
          updatedAt := at_.nowIso })
        onMutation .handle

/-! ### Commands -/

/-- `assertCommandDispatchReady`: the Session that the command goes to. -/
def dispatchTarget (registry : AgentAdapterRegistry) (command : CommandEnvelope) :
    Except Thrown RegisteredSession :=
  if registry.disposed then .error (.typeError "Agent Adapter registry is disposed")
  else match registry.sessions.get? command.sessionId with
    | none => .error (.typeError "command does not match a registered adapter Session and Host")
    | some session =>
        if command.hostId = registry.hostId ∧ session.hostId = command.hostId then .ok session
        else .error (.typeError "command does not match a registered adapter Session and Host")

/-- `markCommandInFlight`. -/
def markCommandInFlight (command : CommandEnvelope) : RegistryEffect ω Unit := do
  let registry ← read
  match registry.sessions.get? command.sessionId with
  | none => throw (.typeError "command Session is no longer registered")
  | some session => setCommands fun t => (t.bind command session.provider).addInFlight command

/-- `clearCommandInFlight`. -/
def clearCommandInFlight (sessionId commandId : String) : RegistryEffect ω Unit := do
  setCommands fun t => t.removeInFlight sessionId commandId
  flushDelayedTerminalEvent text store at_ sessionId

/-- `enqueueCommand`: the oldest parked poll gets the command, else it is queued. -/
def enqueueCommand (command : CommandEnvelope) : RegistryEffect ω Unit := do
  let registry ← read
  let session ← Effect.ofExcept (dispatchTarget registry command)
  setCommands fun t => (t.bind command session.provider).record (.enqueued command)
  match registry.commands.waiters command.sessionId with
  | poll :: rest =>
      setCommands fun t =>
        { t with commandWaiters :=
            CommandTables.setOrDelete t.commandWaiters command.sessionId rest }
      markCommandInFlight command
      setCommands fun t => t.settlePoll poll (some command)
  | [] => setCommands fun t =>
      { t with commandQueues :=
          t.commandQueues.set command.sessionId (t.queue command.sessionId ++ [command]) }

/-- `dequeueCommand`. A poll with a timeout is parked when nothing is queued. -/
def dequeueCommand (poll : PollRequest) (timeoutMs : Nat) : RegistryEffect ω Unit := do
  let registry ← read
  if registry.disposed then setCommands fun t => t.record (.pollSettled poll none)
  else match registry.commands.queue poll.sessionId with
    | command :: rest =>
        setCommands fun t =>
          { t with commandQueues :=
              CommandTables.setOrDelete t.commandQueues poll.sessionId rest }
        markCommandInFlight command
        setCommands fun t => t.record (.pollSettled poll (some command))
    | [] =>
        if timeoutMs = 0 then setCommands fun t => t.record (.pollSettled poll none)
        else setCommands fun t =>
          { t with commandWaiters :=
              t.commandWaiters.set poll.sessionId (t.waiters poll.sessionId ++ [poll]) }

/-- The timer of a long poll fires. A poll that is settled has no timer. -/
def pollTimerFires (poll : PollRequest) : RegistryEffect ω Unit :=
  setCommands fun t => if poll ∈ t.waiters poll.sessionId then t.settlePoll poll none else t

/-- `cancelCommandPolls`, for one Session or for all. -/
def cancelCommandPolls (sessionId : Option String) : RegistryEffect ω Unit :=
  setCommands fun t =>
    let cancelled := match sessionId with
      | some id => t.waiters id
      | none => t.commandWaiters.values.flatten
    { t with
        commandWaiters := match sessionId with
          | some id => t.commandWaiters.erase id
          | none => ∅
        occurrences := (cancelled.map fun poll =>
          CommandOccurrence.pollSettled poll none).reverse ++ t.occurrences }

/-- `waitForResult`. -/
def waitForResult (token : Nat) (commandId : String) : RegistryEffect ω Unit := do
  let registry ← read
  if registry.disposed then setCommands fun t => t.record (.waitSettled token commandId none)
  else match registry.commands.results.get? commandId with
    | some result => setCommands fun t => t.record (.waitSettled token commandId (some result))
    | none => setCommands fun t =>
        { t with resultWaiters :=
            t.resultWaiters.set commandId (t.waitsFor commandId ++ [token]) }

/-- The timer of a result waiter fires. -/
def waitTimerFires (token : Nat) (commandId : String) : RegistryEffect ω Unit :=
  setCommands fun t =>
    if token ∈ t.waitsFor commandId then
      { t with
          resultWaiters := CommandTables.setOrDelete t.resultWaiters commandId
            ((t.waitsFor commandId).erase token)
          occurrences := .waitSettled token commandId none :: t.occurrences }
    else t

/-- `parseAgentAdapterCommandResult`, on a result of the right shape: an adapter cannot
report `expired`. -/
def parseAgentAdapterCommandResult (value : CommandResult) : Except Thrown CommandResult := do
  throwIf (!validateCommandResult value || decide (value.status = .expired))
    (.typeError "Agent Adapter command result is invalid")
  return value

/-- The match of `resolveCommand` between a result and the binding of its command. -/
def resultMatches (registry : AgentAdapterRegistry) (commandId submittedSessionId : String)
    (result : CommandResult) : Option CommandBinding :=
  match registry.commands.commandSessions.get? commandId,
      registry.sessions.get? submittedSessionId with
  | some binding, some session =>
      if commandId = result.commandId ∧ submittedSessionId = result.sessionId
          ∧ binding.hostId = result.hostId ∧ binding.sessionId = result.sessionId
          ∧ session.hostId = binding.hostId ∧ session.provider = binding.provider then
        some binding
      else none
  | _, _ => none

/-- `resolveCommand`. Whether the command was handed over is not among its checks. -/
def resolveCommand (commandId : String) (value : CommandResult) (submittedSessionId : String) :
    RegistryEffect ω Unit := do
  let result ← Effect.ofExcept (parseAgentAdapterCommandResult value)
  let registry ← read
  if registry.disposed then throw (.typeError
    "command result does not match its queued adapter command and registered Session")
  else match resultMatches registry commandId submittedSessionId result with
    | none => throw (requestValidationError
        "command result does not match its queued adapter command and registered Session")
    | some binding =>
        setCommands fun t => { t with
          results := t.results.set commandId result
          occurrences := .resultAccepted commandId result :: t.occurrences }
        clearCommandInFlight text store at_ binding.sessionId commandId
        setCommands fun t => (t.settleResultWaiters commandId (some result)).unbind commandId

/-- `abandonCommand`. The queue of the Session is not among what it clears. -/
def abandonCommand (commandId : String) : RegistryEffect ω Unit := do
  setCommands fun t => t.record (.abandoned commandId)
  let registry ← read
  match registry.commands.commandSessions.get? commandId with
  | none => pure ()
  | some binding =>
      setCommands fun t => { t with results := t.results.erase commandId }
      clearCommandInFlight text store at_ binding.sessionId commandId
      setCommands fun t => (t.settleResultWaiters commandId none).unbind commandId

/-- `dispose`. -/
def dispose : RegistryEffect ω Unit := do
  let registry ← read
  if registry.disposed then pure ()
  else
    modify fun w => { w with registry := { w.registry with disposed := true } }
    setTerminals fun _ => .empty
    cancelCommandPolls none
    setCommands fun t =>
      let settled := t.resultWaiters.keys.foldl (fun u id => u.settleResultWaiters id none) t
      { settled with
          commandQueues := ∅
          inFlightCommands := ∅
          results := ∅
          commandSessions := ∅
          orphanedCommandIds := [] }

end

end AgentAdapterRegistry

end Ariava.AgentAdapter
