import Ariava.AgentAdapter.RegistryStoreFrames
import Ariava.StateStore.StoreFrames

/-!
# `Ariava.AgentAdapter.BridgeRegistry`: the registry over the Bridge's store

The registry is modelled over an arbitrary `RegistryStateStore`. Here it gets the store that
the Bridge gives it, `bridgeStateStore`, and the frame rules of the two are put together: a
property of the producer checkpoint of a Session stays through every action that neither
takes the Session from its owner nor accepts a source for it.
-/

set_option autoImplicit false

namespace Ariava.AgentAdapter

open Ariava.Lib
open Ariava.Protocol
open Ariava.StateStore

/-- The registry over the Bridge's store. -/
abbrev BridgeWorld : Type := RegistryWorld BridgeStore

/-- A property of the producer checkpoint of a Session. -/
def AtCheckpoint (sessionId : String) (J : Option ProducerEventSourceCheckpointV1 → Prop)
    (state : PersistedBridgeState) : Prop :=
  J (state.producerEventCheckpoints.get? sessionId)

section
variable {sessionId : String} {J : Option ProducerEventSourceCheckpointV1 → Prop}

theorem ofCheckpoints_atCheckpoint : OfCheckpoints (AtCheckpoint sessionId J) := by
  intro state state' hsame hstate
  rw [AtCheckpoint, hsame]
  exact hstate

theorem atCheckpoint_withoutSession {id : String} (hid : id ≠ sessionId)
    {state : PersistedBridgeState} (h : AtCheckpoint sessionId J state) :
    AtCheckpoint sessionId J (withoutSession state id) := by
  rw [AtCheckpoint, withoutSession, Dict.get?_erase_ne _ hid.symm]
  exact h

/-- The calls of the store keep a property of the checkpoint, but those that end the Session
or accept a source for it. -/
theorem respects_bridgeStateStore (text : ProtocolText) :
    Respects (bridgeStateStore text) sessionId (Stays (AtCheckpoint sessionId J)) where
  refl := Stays.refl
  trans := Stays.trans
  getSession _ := stays_readStore _
  getDriverNameForSession _ := stays_readStore _
  setSessionDriver _ _ _ := stays_setSessionDriver ofCheckpoints_atCheckpoint _ _ _
  removeSession _ _ hid := stays_bind
    (stays_removeSession (fun _ => atCheckpoint_withoutSession hid) _) fun _ => stays_pure ()
  getTerminalEventCancellation _ := stays_readStore _
  cancelTerminalEvent _ hid := stays_cancelTerminalEvent ofCheckpoints_atCheckpoint _
    fun hremove _ => atCheckpoint_withoutSession (hid hremove)
  reserveProducerEventTuple _ _ _ := stays_enqueuePendingEvent _ _ _ _
  getProducerEventTuple _ _ := stays_readStore _
  acceptProducerEventSource input hid := by
    refine stays_acceptProducerEventSource fun state reservations hstate => ?_
    rw [AtCheckpoint, Dict.get?_set_ne _ _ hid.symm]
    exact hstate
  getProducerEventReservation _ _ := stays_readStore _
  listProducerEventReservations _ := stays_readStore _
  getProducerEventCheckpoint _ := stays_readStore _
  getRecentEvent _ := stays_readStore _
  queuePendingEvent _ _ _ := stays_queuePendingEvent text ofCheckpoints_atCheckpoint _ _ _
  queuePendingSessionHandle _ :=
    stays_queuePendingSessionHandle text ofCheckpoints_atCheckpoint _
  markCommandOutcomeUnknownIfPresent _ :=
    stays_markCommandOutcomeUnknownIfPresent text ofCheckpoints_atCheckpoint _

end

end Ariava.AgentAdapter
