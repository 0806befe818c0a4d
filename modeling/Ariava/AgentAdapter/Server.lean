import Ariava.Lib.Run
import Ariava.AgentAdapter.Registry

/-!
# `Ariava.AgentAdapter.Server`: the adapter routes and the runs of the registry

Every way into the registry. The owner routes of `server.ts` check the owner headers and
then call one method, with no await between the two, so a request is one step. Its check
and its method may read the monotonic clock at different instants. The other steps are the
calls of the daemon and of its command driver, and the timers.

`RegistryStep` allows all of them in every order, at monotonic readings that do not go
back, with lease ids and poll ids that do not repeat. The store may be changed by the rest
of the daemon between two steps, in any way.
-/

set_option autoImplicit false

namespace Ariava.AgentAdapter

open Ariava.Lib
open Ariava.Protocol
open Ariava.StateStore

/-- The method of an owner route, with its parsed body. -/
inductive OwnerOperation
  | unregister
  | event (request : AgentAdapterRegistry.AgentAdapterEventRequest)
  | handle (request : AgentAdapterRegistry.HandleSessionRequest)
  | heartbeat (input : HeartbeatInput)
  | poll (id timeoutMs : Nat)
  | result (commandId : String) (value : CommandResult)
  /-- A body that the route cannot parse. -/
  | malformed (message : String)
deriving DecidableEq

/-- A request to an owner route. The headers are absent when they are missing or
malformed. -/
structure OwnerRequest where
  sessionId : String
  headers : Option (String × String)
  operation : OwnerOperation

/-- One step of the registry. -/
inductive RegistryAction (ω : Type)
  | register (input : RegisterSessionInput)
  | request (request : OwnerRequest)
  | listSessions
  | enqueueCommand (command : CommandEnvelope)
  | waitForResult (token : Nat) (commandId : String)
  | waitTimerFires (token : Nat) (commandId : String)
  | pollTimerFires (poll : PollRequest)
  | abandonCommand (commandId : String)
  | cancelCommandPolls (sessionId : Option String)
  | terminalRetryTimerFires (sessionId : String)
  | storeChanges (store : ω)
  | dispose

namespace AgentAdapterServer

section
variable {ω : Type} (text : ProtocolText) (store : RegistryStateStore ω)

/-- `requireCurrentOwner`: the headers of the current owner. -/
def requireCurrentOwner (at_ : RegistryReadings) (request : OwnerRequest) :
    RegistryEffect ω (String × String) :=
  match request.headers with
  | none => throw (clientInputError
      "Owner route requires a valid X-Ariava-Driver-Instance and X-Ariava-Owner-Lease header")
  | some headers => do
      AgentAdapterRegistry.assertCurrentOwner text store at_ request.sessionId headers.1 headers.2
      return headers

/-- The command result route, after the owner check. -/
def submitResult (at_ : RegistryReadings) (sessionId commandId : String) (value : CommandResult) :
    RegistryEffect ω Unit := do
  let registry ← AgentAdapterRegistry.read
  if commandId ∈ registry.commands.orphanedCommandIds then pure ()
  else match AgentAdapterRegistry.parseAgentAdapterCommandResult value with
    | .error _ => throw (clientInputError "Agent Adapter command result is invalid")
    | .ok result =>
        if result.commandId ≠ commandId then
          throw (clientInputError "commandId in result does not match URL")
        else AgentAdapterRegistry.resolveCommand text store at_ commandId result sessionId

/-- The method of an owner route, after the owner check. -/
def performOperation (at_ : RegistryReadings) (sessionId ownerLease : String) :
    OwnerOperation → RegistryEffect ω Unit
  | .unregister => do
      let _ ← AgentAdapterRegistry.unregister text store at_ sessionId .unregister
      pure ()
  | .event request => do
      let _ ← AgentAdapterRegistry.pushEventSource text store at_ sessionId request
      pure ()
  | .handle request => AgentAdapterRegistry.handleSession store at_ sessionId request
  | .heartbeat input => do
      let _ ← AgentAdapterRegistry.heartbeat text store at_ sessionId input
      pure ()
  | .poll id timeoutMs => AgentAdapterRegistry.dequeueCommand ⟨id, sessionId, ownerLease⟩ timeoutMs
  | .result commandId value => submitResult text store at_ sessionId commandId value
  | .malformed message => throw (clientInputError message)

/-- An owner route: the owner check at the first readings, the method at the second. -/
def handleOwnerRequest (checkedAt at_ : RegistryReadings) (request : OwnerRequest) :
    RegistryEffect ω Unit := do
  let headers ← requireCurrentOwner text store checkedAt request
  performOperation text store at_ request.sessionId headers.2 request.operation

/-- The program of an action. -/
def perform (checkedAt at_ : RegistryReadings) : RegistryAction ω → RegistryEffect ω Unit
  | .register input => do
      let _ ← AgentAdapterRegistry.register text store at_ input
      pure ()
  | .request request => handleOwnerRequest text store checkedAt at_ request
  | .listSessions => do
      let _ ← AgentAdapterRegistry.listSessions text store at_
      pure ()
  | .enqueueCommand command => AgentAdapterRegistry.enqueueCommand command
  | .waitForResult token commandId => AgentAdapterRegistry.waitForResult token commandId
  | .waitTimerFires token commandId => AgentAdapterRegistry.waitTimerFires token commandId
  | .pollTimerFires poll => AgentAdapterRegistry.pollTimerFires poll
  | .abandonCommand commandId => AgentAdapterRegistry.abandonCommand text store at_ commandId
  | .cancelCommandPolls sessionId => AgentAdapterRegistry.cancelCommandPolls sessionId
  | .terminalRetryTimerFires sessionId =>
      AgentAdapterRegistry.terminalRetryTimerFires text store at_ sessionId
  | .storeChanges next => modify fun w => { w with store := next }
  | .dispose => AgentAdapterRegistry.dispose

end

end AgentAdapterServer

/-- The registry, the last monotonic reading and the poll ids used so far. -/
structure RegistrySystem (ω : Type) where
  world : RegistryWorld ω
  clock : Nat
  usedPolls : List Nat

/-- An action with its readings: those of the owner check and those of the method. -/
structure TimedAction (ω : Type) where
  action : RegistryAction ω
  checkedAt : RegistryReadings
  at_ : RegistryReadings

/-- The poll id that an action uses. -/
def RegistryAction.pollId {ω : Type} : RegistryAction ω → Option Nat
  | .request ⟨_, _, .poll id _⟩ => some id
  | _ => none

/-- One step of a run of the registry. -/
structure RegistryStep {ω : Type} (text : ProtocolText) (store : RegistryStateStore ω)
    (s : RegistrySystem ω) (a : TimedAction ω) (s' : RegistrySystem ω) : Prop where
  clock : s.clock ≤ a.checkedAt.monotonicNow ∧ a.checkedAt.monotonicNow ≤ a.at_.monotonicNow
  freshLease : a.at_.ownerLease ∉ s.world.drawnLeases
  freshPoll : ∀ id ∈ a.action.pollId, id ∉ s.usedPolls
  world : s'.world = (AgentAdapterServer.perform text store a.checkedAt a.at_ a.action).final s.world
  clock' : s'.clock = a.at_.monotonicNow
  usedPolls' : s'.usedPolls = a.action.pollId.toList ++ s.usedPolls

/-- The system after an action. -/
def RegistrySystem.next {ω : Type} (text : ProtocolText) (store : RegistryStateStore ω)
    (s : RegistrySystem ω) (a : TimedAction ω) : RegistrySystem ω where
  world := (AgentAdapterServer.perform text store a.checkedAt a.at_ a.action).final s.world
  clock := a.at_.monotonicNow
  usedPolls := a.action.pollId.toList ++ s.usedPolls

/-- An action can be taken: its readings are not before the clock and its ids are fresh. -/
def Admissible {ω : Type} (s : RegistrySystem ω) (a : TimedAction ω) : Prop :=
  (s.clock ≤ a.checkedAt.monotonicNow ∧ a.checkedAt.monotonicNow ≤ a.at_.monotonicNow) ∧
    a.at_.ownerLease ∉ s.world.drawnLeases ∧ ∀ id ∈ a.action.pollId, id ∉ s.usedPolls

instance {ω : Type} (s : RegistrySystem ω) (a : TimedAction ω) : Decidable (Admissible s a) :=
  inferInstanceAs (Decidable (_ ∧ _ ∧ _))

/-- An admissible action takes the system to the next one. -/
theorem Admissible.step {ω : Type} {text : ProtocolText} {store : RegistryStateStore ω}
    {s : RegistrySystem ω} {a : TimedAction ω} (h : Admissible s a) :
    RegistryStep text store s a (s.next text store a) :=
  ⟨h.1, h.2.1, h.2.2, rfl, rfl, rfl⟩

/-- A registry before its first registration. -/
def RegistrySystem.start {ω : Type} (hostId : String) (nowMs : Int) (store : ω) :
    RegistrySystem ω where
  world := ⟨AgentAdapterRegistry.new hostId nowMs, store, [], []⟩
  clock := 0
  usedPolls := []

end Ariava.AgentAdapter
