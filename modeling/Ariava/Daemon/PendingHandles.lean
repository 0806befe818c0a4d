import Ariava.Daemon.RelayClient
import Ariava.StateStore.SessionTransitions

/-!
# `Ariava.Daemon.PendingHandles`: the flush of the pending handles

`flushPendingHandles` of `daemon.ts`. The loop goes over the handles that were pending when it
started. It sends one request after another, takes a handle out when the Relay answered and the
state was written, and ends at the first `catch`, whether the error is local or not.

While a request is under way, the adapter server may queue handles. `Await` is what happens then:
the handles that are queued, and how the request ends.
-/

set_option autoImplicit false

namespace Ariava.Daemon

open Ariava.Protocol
open Ariava.StateStore
open Ariava.AgentAdapter (HandleSessionRequest SessionHandleAction)

/-- The action of a pending handle in its request. -/
def requestAction : PendingHandleAction → SessionHandleAction
  | .piInput => .piInput
  | .bridgeRecovery => .bridgeRecovery

/-- The request of a pending handle. -/
def handleRequest (handle : PendingSessionHandle) : HandleSessionRequest where
  handledThroughEventId := jsString handle.handledThroughEventId
  handledThroughEventCreatedAt := handle.handledThroughEventCreatedAt.map jsString
  handledAt := some (jsString handle.handledAt)
  action := some (requestAction handle.action)

/-- How a request that was sent ends: with an answer and a written state, with an error of the
transport or the Relay, or with an answer and a failed write. -/
inductive RequestEnd
  | completed
  | failed
  | unsaved
deriving DecidableEq

/-- What happens while a request is under way. -/
structure Await where
  queued : List PendingSessionHandle
  requestEnd : RequestEnd
deriving DecidableEq

/-- The state, and the handles that were sent with their requests, in order. -/
structure HandleQueue where
  state : PersistedBridgeState
  sent : List (PendingSessionHandle × RelayRequest)

/-- `queuePendingSessionHandle`. A throw leaves the state. -/
def HandleQueue.queue (localeCompare : LocaleCompare) (q : HandleQueue)
    (handle : PendingSessionHandle) : HandleQueue :=
  { q with
      state := StateTransition.stateAfter q.state
        (queuePendingSessionHandleTransition localeCompare q.state handle) }

/-- `removePendingSessionHandle`, for a handle that was sent. -/
def HandleQueue.remove (q : HandleQueue) (handle : PendingSessionHandle) : HandleQueue :=
  { q with
      state := (removePendingSessionHandleTransition q.state handle.hostId handle.sessionId
        (some handle.handledThroughEventId)).stateFrom q.state }

/-- The queue while this request is under way. -/
def HandleQueue.send (localeCompare : LocaleCompare) (q : HandleQueue)
    (handle : PendingSessionHandle) (request : RelayRequest) (queued : List PendingSessionHandle) :
    HandleQueue :=
  queued.foldl (HandleQueue.queue localeCompare) { q with sent := q.sent ++ [(handle, request)] }

/-- The loop of `flushPendingHandles` over these handles, with the handles flushed so far. -/
def flushHandles (localeCompare : LocaleCompare) (signer : RelaySigner)
    (relay : PendingSessionHandle → Await) :
    List PendingSessionHandle → Nat → HandleQueue → Nat × HandleQueue
  | [], flushed, q => (flushed, q)
  | handle :: rest, flushed, q =>
      match handleSession signer (jsString handle.sessionId) (handleRequest handle) with
      | .error _ => (flushed, q)
      | .ok request =>
          let q' := q.send localeCompare handle request (relay handle).queued
          match (relay handle).requestEnd with
          | .completed =>
              flushHandles localeCompare signer relay rest (flushed + 1) (q'.remove handle)
          | .failed | .unsaved => (flushed, q')

/-- `flushPendingHandles`. -/
def flushPendingHandles (localeCompare : LocaleCompare) (signer : RelaySigner)
    (relay : PendingSessionHandle → Await) (q : HandleQueue) : Nat × HandleQueue :=
  flushHandles localeCompare signer relay q.state.pendingHandles.values 0 q

/-- What happens to the pending handles: the adapter server queues one, or the daemon flushes. -/
inductive HandleAction
  | queue (handle : PendingSessionHandle)
  | flush (signer : RelaySigner) (relay : PendingSessionHandle → Await)

/-- The queue after an action. -/
def HandleAction.apply (localeCompare : LocaleCompare) (q : HandleQueue) :
    HandleAction → HandleQueue
  | .queue handle => q.queue localeCompare handle
  | .flush signer relay => (flushPendingHandles localeCompare signer relay q).2

/-- The queue after a run of actions. -/
def runHandles (localeCompare : LocaleCompare) (q : HandleQueue) (actions : List HandleAction) :
    HandleQueue :=
  actions.foldl (HandleAction.apply localeCompare) q

end Ariava.Daemon
