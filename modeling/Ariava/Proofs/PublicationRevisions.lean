import Mathlib.Data.List.Basic
import Ariava.Protocol.Validation
import Ariava.StateStore.CurrentSessionsTransitions
import Ariava.StateStore.StateCodec

/-!
# `Ariava.Proofs.PublicationRevisions`: the revisions of the current-Sessions publication

A publication is created with a revision, sent to the Relay, and accepted when the Relay has
answered. An acceptance can come late, repeated or out of order, because the revision of the next
publication is allocated before the answer to this one is known. The Relay also names revisions of
its own, as lower bounds, and the recipient set moves forward between two publications.

`PublicationAction.apply` is one call of the four transitions, where a throw leaves the state.
`publish` is a run of them. `publicationRevisions_of_accepted` states what holds of every run from
a state that the codec accepts:

- the created revisions increase strictly;
- the accepted revision never decreases, and is at most the last allocated one;
- the recorded digests are those of the acceptance with this revision, so no late acceptance of
  an older revision replaces them;
- they are there exactly when a revision was accepted;
- the accepted recipient-set version is at most the stored one.

Each of the four transitions has one lemma (`_cases`) that says all it can do to the snapshot.
-/

set_option autoImplicit false

namespace Ariava.Proofs.PublicationRevisions

open Ariava.Lib
open Ariava.Protocol
open Ariava.StateStore

/-- `isCurrentSnapshot`. The version and the types of the fields are in the type. -/
def isCurrentSnapshot (snapshot : PersistedCurrentSessionsSnapshotState) : Bool :=
  isNonNegativeSafeInteger snapshot.lastAllocatedRevision
    && isNonNegativeSafeInteger snapshot.lastAcceptedRevision
    && decide (snapshot.lastAcceptedRevision ≤ snapshot.lastAllocatedRevision)
    && snapshot.lastAcceptedRecipientSetVersion.all isPositiveSafeInteger

/-- The publication part of what `parseCurrentState` checks. -/
structure PublicationAccepted (state : PersistedBridgeState) : Prop where
  snapshot : isCurrentSnapshot state.currentSessionsSnapshot = true
  relationships : assertCurrentPublicationRelationships state.currentSessionsSnapshot
    state.recipientSetVersion = .ok ()

/-! ### The calls -/

/-- A call of one of the four transitions. -/
inductive PublicationAction
  | create (parameters : CurrentSessionsPublicationParameters)
  | accept (request : ReplaceE2ECurrentSessionsRequestV1) (digest contentDigest : String)
  | note (revision : Nat)
  | setRecipientSetVersion (version : Nat)
deriving DecidableEq

/-- The state after a call. -/
def PublicationAction.apply (state : PersistedBridgeState) :
    PublicationAction → PersistedBridgeState
  | .create parameters =>
      (createCurrentSessionsPublicationTransition state parameters).stateFrom state
  | .accept request digest contentDigest => StateTransition.stateAfter state
      (acceptCurrentSessionsPublicationTransition state request digest contentDigest)
  | .note revision =>
      (noteCurrentSessionsSnapshotRevisionLowerBoundTransition state revision).stateFrom state
  | .setRecipientSetVersion version =>
      StateTransition.stateAfter state (setRecipientSetVersionTransition state version)

/-- The revision of the request that a call hands out. -/
def PublicationAction.created (state : PersistedBridgeState) : PublicationAction → Option Nat
  | .create parameters => (createCurrentSessionsPublicationTransition state parameters).result.map
      fun publication => publication.request.revision
  | _ => none

/-- A call that records an acceptance: `accept` returns true. -/
def PublicationAction.recorded (state : PersistedBridgeState) : PublicationAction → Bool
  | .accept request digest contentDigest =>
      match acceptCurrentSessionsPublicationTransition state request digest contentDigest with
      | .ok transition => transition.result
      | .error _ => false
  | _ => false

/-- The state after a run of calls. -/
def publish (state : PersistedBridgeState) (actions : List PublicationAction) :
    PersistedBridgeState :=
  actions.foldl PublicationAction.apply state

/-- The revisions that a run hands out, in order. -/
def createdRevisions : PersistedBridgeState → List PublicationAction → List Nat
  | _, [] => []
  | state, action :: rest =>
      (action.created state).toList ++ createdRevisions (action.apply state) rest

/-- A run records an acceptance. -/
def recordsAcceptance : PersistedBridgeState → List PublicationAction → Bool
  | _, [] => false
  | state, action :: rest => action.recorded state || recordsAcceptance (action.apply state) rest

/-! ### What a call does -/

section
variable {state : PersistedBridgeState}

/-- `create` keeps the state, or allocates the revision that it hands out. -/
theorem create_cases (state : PersistedBridgeState)
    (parameters : CurrentSessionsPublicationParameters) :
    ((PublicationAction.create parameters).created state = none ∧
        (PublicationAction.create parameters).apply state = state) ∨
      ∃ revision, (PublicationAction.create parameters).created state = some revision ∧
        state.currentSessionsSnapshot.lastAllocatedRevision < revision ∧
        state.currentSessionsSnapshot.lastAcceptedRevision < revision ∧
        (PublicationAction.create parameters).apply state = { state with
          currentSessionsSnapshot := { state.currentSessionsSnapshot with
            lastAllocatedRevision := revision } } := by
  unfold PublicationAction.created PublicationAction.apply
    createCurrentSessionsPublicationTransition
  dsimp only
  split
  · exact .inl ⟨rfl, rfl⟩
  · have hallocated : state.currentSessionsSnapshot.lastAllocatedRevision
        < max (max (state.currentSessionsSnapshot.lastAllocatedRevision + 1)
          (state.currentSessionsSnapshot.lastAcceptedRevision + 1)) parameters.minimumRevision := by
      omega
    have haccepted : state.currentSessionsSnapshot.lastAcceptedRevision
        < max (max (state.currentSessionsSnapshot.lastAllocatedRevision + 1)
          (state.currentSessionsSnapshot.lastAcceptedRevision + 1)) parameters.minimumRevision := by
      omega
    exact .inr ⟨_, rfl, hallocated, haccepted, rfl⟩

/-- `accept` keeps the state, or records a revision that is at least the accepted one, for the
stored recipient-set version. -/
theorem accept_cases (state : PersistedBridgeState)
    (request : ReplaceE2ECurrentSessionsRequestV1) (digest contentDigest : String) :
    ((PublicationAction.accept request digest contentDigest).recorded state = false ∧
        (PublicationAction.accept request digest contentDigest).apply state = state) ∨
      ((PublicationAction.accept request digest contentDigest).recorded state = true ∧
        state.recipientSetVersion = some request.recipientSetVersion ∧
        state.currentSessionsSnapshot.lastAcceptedRevision ≤ request.revision ∧
        (PublicationAction.accept request digest contentDigest).apply state = { state with
          currentSessionsSnapshot := {
            lastAllocatedRevision :=
              max state.currentSessionsSnapshot.lastAllocatedRevision request.revision
            lastAcceptedRevision := request.revision
            lastAcceptedDigest := some digest
            lastAcceptedContentDigest := some contentDigest
            lastAcceptedRecipientSetVersion := some request.recipientSetVersion } }) := by
  unfold PublicationAction.recorded PublicationAction.apply
    acceptCurrentSessionsPublicationTransition
  dsimp only
  by_cases hversion : state.recipientSetVersion = some request.recipientSetVersion
  case neg =>
    have hthrows : (throwIf (decide (state.recipientSetVersion ≠ some request.recipientSetVersion))
        (.typeError "current Sessions publication recipient set is not locally committed") :
          Except Thrown Unit)
        = .error (.typeError
          "current Sessions publication recipient set is not locally committed") := by
      rw [decide_eq_true hversion]
      rfl
    rw [hthrows]
    exact .inl ⟨rfl, rfl⟩
  have hpasses : decide (state.recipientSetVersion ≠ some request.recipientSetVersion) = false :=
    decide_eq_false (not_not.mpr hversion)
  rw [hpasses]
  by_cases hstale : request.revision < state.currentSessionsSnapshot.lastAcceptedRevision
  · refine .inl ⟨?_, ?_⟩
    · simp [throwIf, hstale, StateTransition.result]
    · simp [throwIf, hstale, StateTransition.stateFrom, StateTransition.stateAfter]
  · have hmax : max state.currentSessionsSnapshot.lastAcceptedRevision request.revision
        = request.revision := by omega
    refine .inr ⟨?_, hversion, by omega, ?_⟩
    · simp [throwIf, hstale, StateTransition.result]
    · simp [throwIf, hstale, StateTransition.stateFrom, StateTransition.stateAfter, hmax]

/-- `note` only raises the last allocated revision. -/
theorem note_cases (state : PersistedBridgeState) (revision : Nat) : ∃ allocated,
    state.currentSessionsSnapshot.lastAllocatedRevision ≤ allocated ∧
      (PublicationAction.note revision).apply state = { state with
        currentSessionsSnapshot := { state.currentSessionsSnapshot with
          lastAllocatedRevision := allocated } } := by
  unfold PublicationAction.apply noteCurrentSessionsSnapshotRevisionLowerBoundTransition
  dsimp only
  split
  · exact ⟨_, le_refl _, rfl⟩
  · exact ⟨_, le_max_left _ _, rfl⟩

/-- `setRecipientSetVersion` only raises the version. -/
theorem setRecipientSetVersion_cases (state : PersistedBridgeState) (version : Nat) :
    (PublicationAction.setRecipientSetVersion version).apply state = state ∨
      ((∀ current, state.recipientSetVersion = some current → current ≤ version) ∧
        (PublicationAction.setRecipientSetVersion version).apply state
          = { state with recipientSetVersion := some version }) := by
  unfold PublicationAction.apply setRecipientSetVersionTransition
  dsimp only
  by_cases hthrows : (!isPositiveSafeInteger version
      || state.recipientSetVersion.any fun current => decide (version < current)) = true
  · rw [hthrows]
    exact .inl rfl
  · rw [Bool.not_eq_true] at hthrows
    rw [hthrows]
    refine .inr ⟨fun current hcurrent => ?_, rfl⟩
    rw [hcurrent] at hthrows
    simp only [Option.any_some, Bool.or_eq_false_iff, decide_eq_false_iff_not] at hthrows
    omega

end

/-! ### What holds between two states of a run -/

/-- What the two counters and the recipient-set version do between two states. -/
structure Forward (state next : PersistedBridgeState) : Prop where
  allocated : state.currentSessionsSnapshot.lastAllocatedRevision
    ≤ next.currentSessionsSnapshot.lastAllocatedRevision
  accepted : state.currentSessionsSnapshot.lastAcceptedRevision
    ≤ next.currentSessionsSnapshot.lastAcceptedRevision
  version : ∀ current, state.recipientSetVersion = some current →
    ∃ version, next.recipientSetVersion = some version ∧ current ≤ version

/-- The snapshot records the acceptance: its revision, its digests and its recipient set. -/
def Records (snapshot : PersistedCurrentSessionsSnapshotState) : PublicationAction → Prop
  | .accept request digest contentDigest =>
      snapshot.lastAcceptedRevision = request.revision ∧
        snapshot.lastAcceptedDigest = some digest ∧
        snapshot.lastAcceptedContentDigest = some contentDigest ∧
        snapshot.lastAcceptedRecipientSetVersion = some request.recipientSetVersion
  | _ => False

/-- What two snapshots say of the last acceptance is the same. -/
structure SameAcceptance (snapshot next : PersistedCurrentSessionsSnapshotState) : Prop where
  revision : next.lastAcceptedRevision = snapshot.lastAcceptedRevision
  digest : next.lastAcceptedDigest = snapshot.lastAcceptedDigest
  contentDigest : next.lastAcceptedContentDigest = snapshot.lastAcceptedContentDigest
  recipientSetVersion :
    next.lastAcceptedRecipientSetVersion = snapshot.lastAcceptedRecipientSetVersion

/-- The invariant of the runs. -/
structure Consistent (state : PersistedBridgeState) : Prop where
  bounded : state.currentSessionsSnapshot.lastAcceptedRevision
    ≤ state.currentSessionsSnapshot.lastAllocatedRevision
  committed : ∀ accepted, state.currentSessionsSnapshot.lastAcceptedRecipientSetVersion
    = some accepted → ∃ version, state.recipientSetVersion = some version ∧ accepted ≤ version
  together : state.currentSessionsSnapshot.lastAcceptedDigest.isSome
      = state.currentSessionsSnapshot.lastAcceptedRecipientSetVersion.isSome ∧
    state.currentSessionsSnapshot.lastAcceptedContentDigest.isSome
      = state.currentSessionsSnapshot.lastAcceptedRecipientSetVersion.isSome

section
variable {state next : PersistedBridgeState}

theorem Forward.refl (state : PersistedBridgeState) : Forward state state :=
  ⟨le_refl _, le_refl _, fun current hcurrent => ⟨current, hcurrent, le_refl _⟩⟩

theorem Forward.trans {last : PersistedBridgeState} (h : Forward state next)
    (h' : Forward next last) : Forward state last where
  allocated := h.allocated.trans h'.allocated
  accepted := h.accepted.trans h'.accepted
  version current hcurrent := by
    obtain ⟨version, hversion, hle⟩ := h.version current hcurrent
    obtain ⟨last, hlast, hle'⟩ := h'.version version hversion
    exact ⟨last, hlast, hle.trans hle'⟩

theorem SameAcceptance.refl (snapshot : PersistedCurrentSessionsSnapshotState) :
    SameAcceptance snapshot snapshot := ⟨rfl, rfl, rfl, rfl⟩

theorem Records.congr {snapshot snapshot' : PersistedCurrentSessionsSnapshotState}
    {action : PublicationAction} (h : Records snapshot action)
    (hsame : SameAcceptance snapshot snapshot') : Records snapshot' action := by
  cases action with
  | accept request digest contentDigest =>
    obtain ⟨hrevision, hdigest, hcontent, hversion⟩ := h
    exact ⟨hsame.revision.trans hrevision, hsame.digest.trans hdigest,
      hsame.contentDigest.trans hcontent, hsame.recipientSetVersion.trans hversion⟩
  | create _ => exact h.elim
  | note _ => exact h.elim
  | setRecipientSetVersion _ => exact h.elim

/-- A state that the codec accepts meets the invariant. -/
theorem PublicationAccepted.consistent (h : PublicationAccepted state) : Consistent state := by
  have hbounded := h.snapshot
  simp only [isCurrentSnapshot, Bool.and_eq_true, decide_eq_true_eq] at hbounded
  have hrelationships := h.relationships
  unfold assertCurrentPublicationRelationships at hrelationships
  dsimp only at hrelationships
  split at hrelationships
  · rw [throwIf_eq_ok] at hrelationships
    simp only [Bool.or_eq_false_iff, Option.isSome_eq_false_iff, Option.isNone_iff_eq_none]
      at hrelationships
    obtain ⟨⟨hdigest, hcontent⟩, hversion⟩ := hrelationships
    refine ⟨hbounded.1.2, fun accepted haccepted => ?_, ?_⟩
    · rw [hversion] at haccepted
      cases haccepted
    · rw [hdigest, hcontent, hversion]
      exact ⟨rfl, rfl⟩
  · split at hrelationships
    · next accepted version haccepted hversion =>
      rw [throwIf_eq_ok] at hrelationships
      simp only [Bool.or_eq_false_iff, decide_eq_false_iff_not, Option.isNone_eq_false_iff]
        at hrelationships
      obtain ⟨⟨hdigest, hcontent⟩, hle⟩ := hrelationships
      refine ⟨hbounded.1.2, fun accepted' haccepted' => ?_, ?_⟩
      · rw [haccepted] at haccepted'
        cases haccepted'
        exact ⟨version, hversion, not_lt.mp hle⟩
      · rw [haccepted, hdigest, hcontent]
        exact ⟨rfl, rfl⟩
    · cases hrelationships

/-- The step lemma: what a call does to the counters, to the record of the last acceptance and to
the invariant. -/
theorem apply_spec (h : Consistent state) (action : PublicationAction) :
    Consistent (action.apply state) ∧ Forward state (action.apply state) ∧
      ((action.recorded state = false ∧
          SameAcceptance state.currentSessionsSnapshot
            (action.apply state).currentSessionsSnapshot) ∨
        (action.recorded state = true ∧
          Records (action.apply state).currentSessionsSnapshot action)) := by
  cases action with
  | create parameters =>
    rcases create_cases state parameters with ⟨-, happly⟩ |
      ⟨revision, -, hallocated, haccepted, happly⟩
    · rw [happly]
      exact ⟨h, .refl state, .inl ⟨rfl, .refl _⟩⟩
    · rw [happly]
      exact ⟨⟨haccepted.le, h.committed, h.together⟩,
        ⟨hallocated.le, le_refl _, (Forward.refl state).version⟩, .inl ⟨rfl, ⟨rfl, rfl, rfl, rfl⟩⟩⟩
  | accept request digest contentDigest =>
    rcases accept_cases state request digest contentDigest with ⟨hfalse, happly⟩ |
      ⟨htrue, hversion, hle, happly⟩
    · rw [happly]
      exact ⟨h, .refl state, .inl ⟨hfalse, .refl _⟩⟩
    · rw [happly]
      refine ⟨⟨le_max_right _ _, fun accepted haccepted => ?_, ⟨rfl, rfl⟩⟩,
        ⟨le_max_left _ _, hle, (Forward.refl state).version⟩, .inr ⟨htrue, rfl, rfl, rfl, rfl⟩⟩
      cases haccepted
      exact ⟨_, hversion, le_refl _⟩
  | note revision =>
    obtain ⟨allocated, hle, happly⟩ := note_cases state revision
    rw [happly]
    exact ⟨⟨h.bounded.trans hle, h.committed, h.together⟩,
      ⟨hle, le_refl _, (Forward.refl state).version⟩, .inl ⟨rfl, ⟨rfl, rfl, rfl, rfl⟩⟩⟩
  | setRecipientSetVersion version =>
    rcases setRecipientSetVersion_cases state version with happly | ⟨hle, happly⟩
    · rw [happly]
      exact ⟨h, .refl state, .inl ⟨rfl, .refl _⟩⟩
    · rw [happly]
      refine ⟨⟨h.bounded, fun accepted haccepted => ?_, h.together⟩,
        ⟨le_refl _, le_refl _, fun current hcurrent => ⟨version, rfl, hle current hcurrent⟩⟩,
        .inl ⟨rfl, .refl _⟩⟩
      obtain ⟨current, hcurrent, hbelow⟩ := h.committed accepted haccepted
      exact ⟨version, rfl, hbelow.trans (hle current hcurrent)⟩

/-- A revision that is handed out is above the last allocated one, and becomes it. -/
theorem created_eq_some {action : PublicationAction} {revision : Nat}
    (h : action.created state = some revision) :
    state.currentSessionsSnapshot.lastAllocatedRevision < revision ∧
      (action.apply state).currentSessionsSnapshot.lastAllocatedRevision = revision := by
  cases action with
  | create parameters =>
    rcases create_cases state parameters with ⟨hnone, -⟩ |
      ⟨created, hcreated, hallocated, -, happly⟩
    · rw [hnone] at h
      cases h
    · rw [hcreated] at h
      cases h
      rw [happly]
      exact ⟨hallocated, rfl⟩
  | accept _ _ _ => cases h
  | note _ => cases h
  | setRecipientSetVersion _ => cases h

end

/-! ### Runs -/

section
variable {state : PersistedBridgeState}

theorem publish_append (state : PersistedBridgeState) (before after : List PublicationAction) :
    publish state (before ++ after) = publish (publish state before) after := by
  rw [publish, publish, publish, List.foldl_append]

/-- The run lemma of the invariant and the counters. -/
theorem publish_spec (h : Consistent state) (actions : List PublicationAction) :
    Consistent (publish state actions) ∧ Forward state (publish state actions) := by
  induction actions generalizing state with
  | nil => exact ⟨h, .refl state⟩
  | cons action rest ih =>
    obtain ⟨hconsistent, hforward, -⟩ := apply_spec h action
    obtain ⟨hrest, hforward'⟩ := ih hconsistent
    exact ⟨hrest, hforward.trans hforward'⟩

/-- The revisions of a run are above the last allocated one, and increase strictly. -/
theorem createdRevisions_spec (h : Consistent state) (actions : List PublicationAction) :
    (∀ revision ∈ createdRevisions state actions,
        state.currentSessionsSnapshot.lastAllocatedRevision < revision) ∧
      (createdRevisions state actions).Pairwise (· < ·) := by
  induction actions generalizing state with
  | nil => exact ⟨fun _ hmem => absurd hmem List.not_mem_nil, .nil⟩
  | cons action rest ih =>
    obtain ⟨hconsistent, hforward, -⟩ := apply_spec h action
    obtain ⟨habove, hpairwise⟩ := ih hconsistent
    have hrest : ∀ revision ∈ createdRevisions (action.apply state) rest,
        state.currentSessionsSnapshot.lastAllocatedRevision < revision :=
      fun revision hmem => lt_of_le_of_lt hforward.allocated (habove revision hmem)
    rw [createdRevisions]
    cases hcreated : action.created state with
    | none => exact ⟨hrest, hpairwise⟩
    | some created =>
      obtain ⟨hlt, hlast⟩ := created_eq_some hcreated
      rw [hlast] at habove
      exact ⟨List.forall_mem_cons.mpr ⟨hlt, hrest⟩, List.pairwise_cons.mpr ⟨habove, hpairwise⟩⟩

/-- After a run the snapshot still has the acceptance of the start, or that of a call of the
run. -/
theorem acceptance_publish (h : Consistent state) (actions : List PublicationAction) :
    (recordsAcceptance state actions = false ∧ SameAcceptance state.currentSessionsSnapshot
        (publish state actions).currentSessionsSnapshot) ∨
      (recordsAcceptance state actions = true ∧
        ∃ action ∈ actions, Records (publish state actions).currentSessionsSnapshot action) := by
  induction actions generalizing state with
  | nil => exact .inl ⟨rfl, .refl _⟩
  | cons action rest ih =>
    obtain ⟨hconsistent, -, hstep⟩ := apply_spec h action
    rw [recordsAcceptance]
    rcases ih hconsistent with ⟨hfalse, hsame⟩ | ⟨htrue, last, hlast, hrecords⟩
    · rcases hstep with ⟨hfalse', hsame'⟩ | ⟨htrue, hrecords⟩
      · rw [hfalse, hfalse']
        exact .inl ⟨rfl, ⟨hsame.revision.trans hsame'.revision, hsame.digest.trans hsame'.digest,
          hsame.contentDigest.trans hsame'.contentDigest,
          hsame.recipientSetVersion.trans hsame'.recipientSetVersion⟩⟩
      · rw [htrue]
        exact .inr ⟨rfl, action, List.mem_cons_self .., hrecords.congr hsame⟩
    · rw [htrue, Bool.or_true]
      exact .inr ⟨rfl, last, List.mem_cons_of_mem _ hlast, hrecords⟩

/-- The digest fields of an accepted state are there exactly when it has an accepted revision. -/
theorem PublicationAccepted.present (h : PublicationAccepted state) :
    state.currentSessionsSnapshot.lastAcceptedRecipientSetVersion.isSome = true ↔
      state.currentSessionsSnapshot.lastAcceptedRevision ≠ 0 := by
  have hrelationships := h.relationships
  unfold assertCurrentPublicationRelationships at hrelationships
  dsimp only at hrelationships
  split at hrelationships
  · next hzero =>
    rw [throwIf_eq_ok, Bool.or_eq_false_iff] at hrelationships
    rw [hrelationships.2]
    exact ⟨fun hfalse => absurd hfalse (by simp), fun hne => absurd hzero hne⟩
  · next hne =>
    split at hrelationships
    · next accepted version haccepted hversion =>
      rw [haccepted]
      exact ⟨fun _ => hne, fun _ => rfl⟩
    · cases hrelationships

/-- The revision of each request that a run accepts is positive, as those of `create` are. -/
def AcceptsPositive (actions : List PublicationAction) : Prop :=
  ∀ request digest contentDigest, .accept request digest contentDigest ∈ actions →
    0 < request.revision

/-- What holds of a run of the four transitions from a state. -/
structure KeepsRevisions (state : PersistedBridgeState) (actions : List PublicationAction) :
    Prop where
  increasing : (createdRevisions state actions).Pairwise (· < ·)
  nondecreasing : ∀ before after, actions = before ++ after →
    (publish state before).currentSessionsSnapshot.lastAcceptedRevision
      ≤ (publish state actions).currentSessionsSnapshot.lastAcceptedRevision
  bounded : (publish state actions).currentSessionsSnapshot.lastAcceptedRevision
    ≤ (publish state actions).currentSessionsSnapshot.lastAllocatedRevision
  newest : ∀ before after, actions = before ++ after →
    SameAcceptance (publish state before).currentSessionsSnapshot
        (publish state actions).currentSessionsSnapshot ∨
      ∃ request digest contentDigest, .accept request digest contentDigest ∈ after ∧
        (publish state before).currentSessionsSnapshot.lastAcceptedRevision ≤ request.revision ∧
        Records (publish state actions).currentSessionsSnapshot
          (.accept request digest contentDigest)
  together : (publish state actions).currentSessionsSnapshot.lastAcceptedDigest.isSome
      = (publish state actions).currentSessionsSnapshot.lastAcceptedRecipientSetVersion.isSome ∧
    (publish state actions).currentSessionsSnapshot.lastAcceptedContentDigest.isSome
      = (publish state actions).currentSessionsSnapshot.lastAcceptedRecipientSetVersion.isSome
  present : (publish state actions).currentSessionsSnapshot.lastAcceptedRecipientSetVersion.isSome
      = true ↔
    state.currentSessionsSnapshot.lastAcceptedRevision ≠ 0 ∨ recordsAcceptance state actions = true
  zero : AcceptsPositive actions →
    ((publish state actions).currentSessionsSnapshot.lastAcceptedRecipientSetVersion.isSome = true ↔
      (publish state actions).currentSessionsSnapshot.lastAcceptedRevision ≠ 0)
  committed : ∀ accepted,
    (publish state actions).currentSessionsSnapshot.lastAcceptedRecipientSetVersion = some accepted →
      ∃ version, (publish state actions).recipientSetVersion = some version ∧ accepted ≤ version

/-- Every run from a state that the codec accepts keeps the revisions in order. -/
theorem publicationRevisions_of_accepted (h : PublicationAccepted state)
    (actions : List PublicationAction) : KeepsRevisions state actions := by
  have hstart := h.consistent
  have hend := (publish_spec hstart actions).1
  have hsplit : ∀ {before after}, actions = before ++ after →
      Forward (publish state before) (publish state actions) := by
    intro before after hactions
    rw [hactions, publish_append]
    exact (publish_spec (publish_spec hstart before).1 after).2
  constructor
  case increasing => exact (createdRevisions_spec hstart actions).2
  case nondecreasing => exact fun _ _ hactions => (hsplit hactions).accepted
  case bounded => exact hend.bounded
  case newest =>
    intro before after hactions
    have hforward := (hsplit hactions).accepted
    rw [hactions, publish_append] at hforward ⊢
    rcases acceptance_publish (publish_spec hstart before).1 after with ⟨-, hsame⟩ |
      ⟨-, action, hmem, hrecords⟩
    · exact .inl hsame
    · cases action with
      | accept request digest contentDigest =>
        exact .inr ⟨request, digest, contentDigest, hmem, hrecords.1 ▸ hforward, hrecords⟩
      | create _ => exact hrecords.elim
      | note _ => exact hrecords.elim
      | setRecipientSetVersion _ => exact hrecords.elim
  case together => exact hend.together
  case present =>
    rcases acceptance_publish hstart actions with ⟨hfalse, hsame⟩ | ⟨htrue, action, -, hrecords⟩
    · rw [hsame.recipientSetVersion, h.present, hfalse]
      simp
    · cases action with
      | accept request digest contentDigest =>
        rw [hrecords.2.2.2, htrue]
        simp
      | create _ => exact hrecords.elim
      | note _ => exact hrecords.elim
      | setRecipientSetVersion _ => exact hrecords.elim
  case zero =>
    intro hpositive
    rcases acceptance_publish hstart actions with ⟨-, hsame⟩ | ⟨-, action, hmem, hrecords⟩
    · rw [hsame.recipientSetVersion, hsame.revision]
      exact h.present
    · cases action with
      | accept request digest contentDigest =>
        have hrevision := hpositive request digest contentDigest hmem
        rw [hrecords.2.2.2, hrecords.1]
        exact ⟨fun _ => hrevision.ne', fun _ => rfl⟩
      | create _ => exact hrecords.elim
      | note _ => exact hrecords.elim
      | setRecipientSetVersion _ => exact hrecords.elim
  case committed => exact hend.committed

/-- The request with a revision for the first recipient set. -/
def requestAt (revision : Nat) : ReplaceE2ECurrentSessionsRequestV1 where
  hostId := "host"
  revision := revision
  observedAt := "2026-01-01T00:00:00.000Z"
  recipientSetVersion := 1
  sessions := []

/-- Two publications for the first recipient set, where the answer to the first comes last. -/
def lateAcceptance : List PublicationAction :=
  [.setRecipientSetVersion 1, .create ⟨"host", "first", 1, "2026-01-01T00:00:00.000Z", 0⟩,
    .create ⟨"host", "second", 1, "2026-01-01T00:00:00.000Z", 0⟩,
    .accept (requestAt 2) "digest2" "second", .accept (requestAt 1) "digest1" "first"]

theorem publicationRevisions_of_lateAcceptance :
    createdRevisions (emptyState "epoch") lateAcceptance = [1, 2] ∧
      (publish (emptyState "epoch") lateAcceptance).currentSessionsSnapshot.lastAcceptedDigest
        = some "digest2" ∧
      KeepsRevisions (emptyState "epoch") lateAcceptance :=
  ⟨by decide, by decide, publicationRevisions_of_accepted ⟨by decide, rfl⟩ lateAcceptance⟩

end

end Ariava.Proofs.PublicationRevisions
