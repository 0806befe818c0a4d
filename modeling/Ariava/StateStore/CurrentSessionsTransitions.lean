import Ariava.StateStore.State

/-!
# `Ariava.StateStore.CurrentSessionsTransitions`: the publication of the current Sessions

The pure transitions of `current-sessions-transitions.ts`: the revision of a publication is
allocated, its acceptance is recorded, and the recipient-set version moves forward.
-/

set_option autoImplicit false

namespace Ariava.StateStore

open Ariava.Lib
open Ariava.Protocol

/-- `CurrentSessionsPublicationParameters`. -/
structure CurrentSessionsPublicationParameters where
  hostId : String
  contentDigest : String
  recipientSetVersion : Nat
  observedAt : String
  minimumRevision : Nat
deriving DecidableEq

/-- `CurrentSessionsPublicationResult`. -/
structure CurrentSessionsPublicationResult where
  request : ReplaceE2ECurrentSessionsRequestV1
  contentDigest : String
deriving DecidableEq

/-- `createCurrentSessionsPublicationTransition`. -/
def createCurrentSessionsPublicationTransition (state : PersistedBridgeState)
    (parameters : CurrentSessionsPublicationParameters) :
    StateTransition (Option CurrentSessionsPublicationResult) :=
  let current := state.currentSessionsSnapshot
  if current.lastAcceptedContentDigest = some parameters.contentDigest
      ∧ current.lastAcceptedRecipientSetVersion = some parameters.recipientSetVersion
      ∧ parameters.minimumRevision ≤ current.lastAcceptedRevision then .unchanged none
  else
    let revision := max (max (current.lastAllocatedRevision + 1)
      (current.lastAcceptedRevision + 1)) parameters.minimumRevision
    .next
      { state with currentSessionsSnapshot := { current with lastAllocatedRevision := revision } }
      (some {
        request := {
          hostId := parameters.hostId
          revision := revision
          observedAt := parameters.observedAt
          recipientSetVersion := parameters.recipientSetVersion
          sessions := [] }
        contentDigest := parameters.contentDigest })

/-- `acceptCurrentSessionsPublicationTransition`. -/
def acceptCurrentSessionsPublicationTransition (state : PersistedBridgeState)
    (request : ReplaceE2ECurrentSessionsRequestV1) (digest contentDigest : String) :
    Except Thrown (StateTransition Bool) := do
  let current := state.currentSessionsSnapshot
  throwIf (decide (state.recipientSetVersion ≠ some request.recipientSetVersion))
    (.typeError "current Sessions publication recipient set is not locally committed")
  let accepted : PersistedCurrentSessionsSnapshotState := {
    lastAllocatedRevision := max current.lastAllocatedRevision request.revision
    lastAcceptedRevision := max current.lastAcceptedRevision request.revision
    lastAcceptedDigest := some digest
    lastAcceptedContentDigest := some contentDigest
    lastAcceptedRecipientSetVersion := some request.recipientSetVersion }
  return if request.revision < current.lastAcceptedRevision then .unchanged false
    else .next { state with currentSessionsSnapshot := accepted } true

/-- `noteCurrentSessionsSnapshotRevisionLowerBoundTransition`. -/
def noteCurrentSessionsSnapshotRevisionLowerBoundTransition (state : PersistedBridgeState)
    (revision : Nat) : StateTransition Unit :=
  let current := state.currentSessionsSnapshot
  let nextAllocated := max current.lastAllocatedRevision revision
  if nextAllocated = current.lastAllocatedRevision then .unchanged ()
  else .next { state with
    currentSessionsSnapshot := { current with lastAllocatedRevision := nextAllocated } } ()

/-- `setRecipientSetVersionTransition`. -/
def setRecipientSetVersionTransition (state : PersistedBridgeState) (version : Nat) :
    Except Thrown (StateTransition Unit) := do
  throwIf (!isPositiveSafeInteger version
      || state.recipientSetVersion.any fun current => decide (version < current))
    (.typeError "recipient set version rollback rejected")
  return .next { state with recipientSetVersion := some version } ()

end Ariava.StateStore
