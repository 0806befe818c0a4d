import Mathlib.Logic.Relation
import Ariava.StateStore.CommandMethods
import Ariava.StateStore.StateCodec
import Ariava.Proofs.ReceiptConstruction

/-!
# `Ariava.Proofs.CommandExecutions`: the life of a command execution

`Arrow` has the moves of a record from one state to another: a claim is dispatched, an
unfinished command ends in one of three ways, and a blocked receipt is delivered at last.
`Forward` says that a record is a later version of another: its state is reached along the
arrows, what identifies the command is the same, and the dispatch instant, the result and
the receipt stay once they are set.

- `transitionEffect_of_next`: what a transition does to every record, from a state whose
  records are valid. A record is valid in its own state only, so this is where the invariant
  is used: the result of an unfinished record is not set.
- `ExecutionStore` is the invariant of the store. A write that fails may have replaced the
  file, so the file is the state in memory or one transition ahead of it.
- `commandExecutions_of_run`: every store that a run reaches from an accepted state has
  valid records, a call that throws leaves its state alone, a call touches its own records
  only, and a record that is not pruned moves forward along the rest of the run.
-/

set_option autoImplicit false

namespace Ariava.Proofs.CommandExecutions

open Ariava.Lib
open Ariava.Protocol
open Ariava.StateStore
open Ariava.Proofs.ReceiptConstruction (linkCrypto linkCommand linkRecord)

/-! ### Forward -/

/-- The moves of a command execution. -/
inductive Arrow : CommandExecutionState → CommandExecutionState → Prop
  | dispatched : Arrow .claimed .dispatchStarted
  | lost {s : CommandExecutionState} (h : s = .claimed ∨ s = .dispatchStarted) :
      Arrow s .outcomeUnknown
  | blocked {s : CommandExecutionState} (h : s = .claimed ∨ s = .dispatchStarted) :
      Arrow s .terminalReceiptBlocked
  | finished {s : CommandExecutionState} (h : s = .claimed ∨ s = .dispatchStarted) :
      Arrow s .terminal
  | delivered : Arrow .terminalReceiptBlocked .terminal

/-- The outbox moves from pending to acknowledged or undeliverable, with the same receipt. -/
structure OutboxForward (o o' : PersistedCommandReceiptOutboxV1) : Prop where
  canonicalBody : o'.canonicalBody = o.canonicalBody
  receiptDigest : o'.receiptDigest = o.receiptDigest
  state : o'.state = o.state ∨
    (o.state = .pending ∧ (o'.state = .acknowledged ∨ o'.state = .undeliverable))

/-- The second record is a later version of the first one. -/
structure Forward (x x' : PersistedCommandExecutionV4) : Prop where
  originalEncryptedCommand : x'.originalEncryptedCommand = x.originalEncryptedCommand
  commandDigest : x'.commandDigest = x.commandDigest
  pinReference : x'.pinReference = x.pinReference
  watchDeviceId : x'.watchDeviceId = x.watchDeviceId
  nonce : x'.nonce = x.nonce
  expiresAt : x'.expiresAt = x.expiresAt
  claimedAt : x'.claimedAt = x.claimedAt
  state : Relation.ReflTransGen Arrow x.state x'.state
  dispatchStartedAt : ∀ t, x.dispatchStartedAt = some t → x'.dispatchStartedAt = some t
  terminalResult : ∀ r, x.terminalResult = some r → x'.terminalResult = some r
  receiptOutbox : ∀ o, x.receiptOutbox = some o →
    ∃ o', x'.receiptOutbox = some o' ∧ OutboxForward o o'

theorem OutboxForward.refl (o : PersistedCommandReceiptOutboxV1) : OutboxForward o o :=
  ⟨rfl, rfl, .inl rfl⟩

theorem OutboxForward.trans {o₁ o₂ o₃ : PersistedCommandReceiptOutboxV1}
    (h₁ : OutboxForward o₁ o₂) (h₂ : OutboxForward o₂ o₃) : OutboxForward o₁ o₃ where
  canonicalBody := h₂.canonicalBody.trans h₁.canonicalBody
  receiptDigest := h₂.receiptDigest.trans h₁.receiptDigest
  state := by
    rcases h₂.state with h | ⟨hpending, hmark⟩
    · rw [h]
      exact h₁.state
    · rcases h₁.state with h | ⟨-, h | h⟩
      · exact .inr ⟨h ▸ hpending, hmark⟩
      · rw [h] at hpending
        cases hpending
      · rw [h] at hpending
        cases hpending

theorem Forward.refl (x : PersistedCommandExecutionV4) : Forward x x where
  originalEncryptedCommand := rfl
  commandDigest := rfl
  pinReference := rfl
  watchDeviceId := rfl
  nonce := rfl
  expiresAt := rfl
  claimedAt := rfl
  state := .refl
  dispatchStartedAt := fun _ h => h
  terminalResult := fun _ h => h
  receiptOutbox := fun o h => ⟨o, h, OutboxForward.refl o⟩

theorem Forward.trans {x y z : PersistedCommandExecutionV4} (h₁ : Forward x y)
    (h₂ : Forward y z) : Forward x z where
  originalEncryptedCommand := h₂.originalEncryptedCommand.trans h₁.originalEncryptedCommand
  commandDigest := h₂.commandDigest.trans h₁.commandDigest
  pinReference := h₂.pinReference.trans h₁.pinReference
  watchDeviceId := h₂.watchDeviceId.trans h₁.watchDeviceId
  nonce := h₂.nonce.trans h₁.nonce
  expiresAt := h₂.expiresAt.trans h₁.expiresAt
  claimedAt := h₂.claimedAt.trans h₁.claimedAt
  state := h₁.state.trans h₂.state
  dispatchStartedAt := fun t h => h₂.dispatchStartedAt t (h₁.dispatchStartedAt t h)
  terminalResult := fun r h => h₂.terminalResult r (h₁.terminalResult r h)
  receiptOutbox := by
    intro o ho
    obtain ⟨o', ho', h⟩ := h₁.receiptOutbox o ho
    obtain ⟨o'', ho'', h'⟩ := h₂.receiptOutbox o' ho'
    exact ⟨o'', ho'', h.trans h'⟩

/-- No arrow leaves outcome unknown. -/
theorem Forward.outcomeUnknown {x x' : PersistedCommandExecutionV4} (h : Forward x x')
    (hx : x.state = .outcomeUnknown) : x'.state = .outcomeUnknown := by
  have hstuck : ∀ s, Relation.ReflTransGen Arrow .outcomeUnknown s → s = .outcomeUnknown := by
    intro s hs
    induction hs with
    | refl => rfl
    | tail _ harrow ih =>
      subst ih
      cases harrow with
      | lost h | blocked h | finished h => rcases h with h | h <;> cases h
  have hstate := h.state
  rw [hx] at hstate
  exact hstuck _ hstate

/-- A record with neither a result nor an outbox moves forward along an arrow, whatever
result and outbox it gets. -/
theorem forward_of_arrow {x x' : PersistedCommandExecutionV4} (harrow : Arrow x.state x'.state)
    (hresult : x.terminalResult = none) (houtbox : x.receiptOutbox = none)
    (hdispatch : ∀ t, x.dispatchStartedAt = some t → x'.dispatchStartedAt = some t)
    (hsame : x' = { x with
      state := x'.state
      dispatchStartedAt := x'.dispatchStartedAt
      terminalResult := x'.terminalResult
      receiptOutbox := x'.receiptOutbox }) : Forward x x' where
  originalEncryptedCommand := by rw [hsame]
  commandDigest := by rw [hsame]
  pinReference := by rw [hsame]
  watchDeviceId := by rw [hsame]
  nonce := by rw [hsame]
  expiresAt := by rw [hsame]
  claimedAt := by rw [hsame]
  state := .single harrow
  dispatchStartedAt := hdispatch
  terminalResult := by
    intro r hr
    rw [hresult] at hr
    cases hr
  receiptOutbox := by
    intro o ho
    rw [houtbox] at ho
    cases ho

/-! ### Valid records -/

/-- Every record passes `assertCommandExecution` and is stored under its own command id. -/
def ExecutionsValid (hash : ContentHash) (state : PersistedBridgeState) : Prop :=
  ∀ id x, state.commandExecutions.get? id = some x →
    assertCommandExecution hash x = .ok () ∧ x.originalEncryptedCommand.commandId = id

section
variable {hash : ContentHash} {state : PersistedBridgeState}

/-- The loop over the executions checks every one of them. -/
theorem assertExecutionBindings_mem {hostId : String} {bindings : List _}
    {entries : List (String × PersistedCommandExecutionV4)}
    (h : assertExecutionBindings hash hostId bindings entries = .ok ()) :
    ∀ entry ∈ entries, assertCommandExecution hash entry.2 = .ok () ∧
      entry.2.originalEncryptedCommand.commandId = entry.1 := by
  induction entries generalizing bindings with
  | nil => exact fun _ hmem => absurd hmem List.not_mem_nil
  | cons first rest ih =>
    obtain ⟨commandId, execution⟩ := first
    rw [assertExecutionBindings, check_bind_eq_ok, check_bind_eq_ok, check_bind_eq_ok] at h
    obtain ⟨hvalid, hbound, -, hrest⟩ := h
    rw [throwIf_eq_ok, Bool.or_eq_false_iff, decide_eq_false_iff_not, not_not] at hbound
    intro entry hmem
    rcases List.mem_cons.mp hmem with rfl | hmem
    · exact ⟨hvalid, hbound.1.symm⟩
    · exact ih hrest entry hmem

/-- The records of an accepted state are valid. -/
theorem executionsValid_of_accepted {hostId : String}
    (h : assertCurrentStateRelationships hash state hostId = .ok ()) :
    ExecutionsValid hash state := by
  obtain ⟨events, hbindings, -, -⟩ := assertCurrentStateRelationships_eq_ok_iff.mp h
  intro id x hget
  exact assertExecutionBindings_mem hbindings.executions (id, x) (Dict.mem_entries_iff.mpr hget)

/-- An unfinished record has neither a result nor an outbox. -/
theorem unset_of_orphaned {x : PersistedCommandExecutionV4} (hvalid : ValidExecution hash x)
    (horphan : isOrphaned x = true) : x.terminalResult = none ∧ x.receiptOutbox = none := by
  have hshape := hvalid.shape
  unfold assertCommandExecutionShape at hshape
  rw [isOrphaned, Bool.or_eq_true, decide_eq_true_eq, decide_eq_true_eq] at horphan
  rcases horphan with hstate | hstate
  · rw [hstate] at hshape
    simp only [throwIf_eq_ok, Bool.or_eq_false_iff, Option.isSome_eq_false_iff,
      Option.isNone_iff_eq_none] at hshape
    exact ⟨hshape.1.2, hshape.2⟩
  · rw [hstate] at hshape
    simp only [throwIf_eq_ok, Bool.or_eq_false_iff, Option.isSome_eq_false_iff,
      Option.isNone_iff_eq_none] at hshape
    exact ⟨hshape.1.2, hshape.2⟩

/-- An unfinished record stays valid as outcome unknown: that state asks for no dispatch
instant. -/
theorem validExecution_outcomeUnknown {x : PersistedCommandExecutionV4}
    (hvalid : ValidExecution hash x) (horphan : isOrphaned x = true) :
    ValidExecution hash { x with state := .outcomeUnknown } where
  record := hvalid.record
  bound := hvalid.bound
  result := hvalid.result
  outbox := hvalid.outbox
  shape := by
    obtain ⟨hresult, houtbox⟩ := unset_of_orphaned hvalid horphan
    simp [assertCommandExecutionShape, hresult, houtbox, throwIf_eq_ok]

/-- A blocked record that becomes terminal keeps its result and gets its first outbox. -/
theorem forward_of_delivered {x : PersistedCommandExecutionV4} {result : CommandResult}
    {outbox : PersistedCommandReceiptOutboxV1} (hvalid : ValidExecution hash x)
    (hblocked : x.state = .terminalReceiptBlocked) (hresult : x.terminalResult = some result) :
    Forward x { x with
      state := .terminal, terminalResult := some result, receiptOutbox := some outbox } := by
  have hshape := hvalid.shape
  rw [assertCommandExecutionShape, hblocked] at hshape
  simp only [throwIf_eq_ok, Bool.or_eq_false_iff, Option.isSome_eq_false_iff,
    Option.isNone_iff_eq_none] at hshape
  have hunset := hshape.2
  exact
    { Forward.refl x with
      state := hblocked ▸ .single .delivered
      terminalResult := fun r hr => hresult.symm.trans hr
      receiptOutbox := by
        intro o ho
        rw [hunset] at ho
        cases ho }

/-- A mark moves the outbox of a record from pending. -/
theorem forward_of_mark {x : PersistedCommandExecutionV4}
    {outbox : PersistedCommandReceiptOutboxV1} {mark : ReceiptOutboxMark}
    (houtbox : x.receiptOutbox = some outbox) (hpending : outbox.state = .pending) :
    Forward x { x with receiptOutbox := some { outbox with state := mark.state } } where
  originalEncryptedCommand := rfl
  commandDigest := rfl
  pinReference := rfl
  watchDeviceId := rfl
  nonce := rfl
  expiresAt := rfl
  claimedAt := rfl
  state := .refl
  dispatchStartedAt := fun _ h => h
  terminalResult := fun _ h => h
  receiptOutbox := by
    intro o ho
    rw [houtbox] at ho
    cases ho
    refine ⟨_, rfl, rfl, rfl, .inr ⟨hpending, ?_⟩⟩
    cases mark
    · exact .inl rfl
    · exact .inr rfl

/-- The states of an unfinished record. -/
theorem isOrphaned_eq_true_iff {x : PersistedCommandExecutionV4} :
    isOrphaned x = true ↔ x.state = .claimed ∨ x.state = .dispatchStarted := by
  rw [isOrphaned, Bool.or_eq_true, decide_eq_true_eq, decide_eq_true_eq]

end

/-! ### The effect of a call -/

/-- The records that a call may move: the one it names, or the unfinished ones. -/
def Touches (id : String) (x : PersistedCommandExecutionV4) : CommandCall → Prop
  | .dispatchStarted commandId _
  | .outcomeUnknown commandId
  | .receiptBlocked commandId _
  | .terminalReceipt commandId _ _
  | .outbox commandId _ => id = commandId
  | .recoverOrphaned => isOrphaned x = true
  | .claim _ => False
  | .prune _ => False

/-- What a call does to the record at an id. -/
inductive RecordEffect (call : CommandCall) (id : String) :
    Option PersistedCommandExecutionV4 → Option PersistedCommandExecutionV4 → Prop
  | untouched (x : Option PersistedCommandExecutionV4) : RecordEffect call id x x
  | claimed (input : CommandClaimInput) (claim : call = .claim input)
      (own : id = input.originalEncryptedCommand.commandId) :
      RecordEffect call id none (some (claimCandidate input))
  | moved (x x' : PersistedCommandExecutionV4) (touches : Touches id x call)
      (forward : Forward x x') : RecordEffect call id (some x) (some x')
  | pruned (x : PersistedCommandExecutionV4) (now : CanonicalTimestamp) (through : IsoText)
      (prune : call = .prune now)
      (retained : commandExecutionRetainedThrough x = .ok through)
      (expired : through < now.toIsoText) : RecordEffect call id (some x) none

/-- What a call does to the state: something to the records, and nothing else. -/
structure TransitionEffect (call : CommandCall) (state state' : PersistedBridgeState) : Prop where
  records : ∀ id, RecordEffect call id (state.commandExecutions.get? id)
    (state'.commandExecutions.get? id)
  rest : state' = { state with commandExecutions := state'.commandExecutions }

/-- A call either leaves a record at its id or prunes it. -/
theorem RecordEffect.kept {call : CommandCall} {id : String}
    {x : PersistedCommandExecutionV4} {o : Option PersistedCommandExecutionV4}
    (h : RecordEffect call id (some x) o) : o = none ∨ ∃ x', o = some x' ∧ Forward x x' := by
  cases h with
  | untouched => exact .inr ⟨x, rfl, Forward.refl x⟩
  | moved _ x' _ forward => exact .inr ⟨x', rfl, forward⟩
  | pruned => exact .inl rfl

section
variable {hash : ContentHash} {state : PersistedBridgeState}

/-- The write of one record, at the id of the call. -/
theorem transitionEffect_withCommandExecution {call : CommandCall} {id : String}
    {x x' : PersistedCommandExecutionV4} (hget : state.commandExecutions.get? id = some x)
    (htouches : Touches id x call) (hforward : Forward x x') :
    TransitionEffect call state (withCommandExecution state id x') where
  records := by
    intro k
    by_cases hk : k = id
    · subst hk
      rw [withCommandExecution, Dict.get?_set_self, hget]
      exact .moved x x' htouches hforward
    · rw [withCommandExecution, Dict.get?_set_ne _ _ hk]
      exact .untouched _
  rest := rfl

/-- The write of a valid record under its own id keeps the records valid. -/
theorem executionsValid_withCommandExecution (hvalid : ExecutionsValid hash state) {id : String}
    {x' : PersistedCommandExecutionV4} (hx' : ValidExecution hash x')
    (hid : x'.originalEncryptedCommand.commandId = id) :
    ExecutionsValid hash (withCommandExecution state id x') := by
  intro k y hget
  rcases Dict.get?_set_cases hget with ⟨rfl, rfl⟩ | ⟨-, hold⟩
  · exact ⟨(assertCommandExecution_eq_ok_iff hash).mpr hx', hid⟩
  · exact hvalid k y hold

/-- The claim of a new command. -/
theorem transitionEffect_claim {input : CommandClaimInput}
    (hfree : state.commandExecutions.get? input.originalEncryptedCommand.commandId = none) :
    TransitionEffect (.claim input) state
      (withCommandExecution state input.originalEncryptedCommand.commandId
        (claimCandidate input)) where
  records := by
    intro k
    by_cases hk : k = input.originalEncryptedCommand.commandId
    · subst hk
      rw [withCommandExecution, Dict.get?_set_self, hfree]
      exact .claimed input rfl rfl
    · rw [withCommandExecution, Dict.get?_set_ne _ _ hk]
      exact .untouched _
  rest := rfl

/-- Recovery moves the unfinished records to outcome unknown. -/
theorem transitionEffect_recover (hvalid : ExecutionsValid hash state)
    {state' : PersistedBridgeState} {result : Nat}
    (h : recoverOrphanedCommandExecutionsTransition state = .next state' result) :
    TransitionEffect .recoverOrphaned state state' ∧ ExecutionsValid hash state' := by
  have hget : ∀ id, state'.commandExecutions.get? id
      = (state.commandExecutions.get? id).map fun execution =>
          if isOrphaned execution then { execution with state := .outcomeUnknown }
          else execution := by
    intro id
    rw [← recoverOrphanedCommandExecutions_get?, h]
    rfl
  refine ⟨⟨fun id => ?_, ?_⟩, fun id x' hx' => ?_⟩
  · rw [hget]
    rcases hx : state.commandExecutions.get? id with _ | x
    · exact .untouched none
    · rw [Option.map_some]
      split
      · rename_i horphan
        obtain ⟨hresult, houtbox⟩ :=
          unset_of_orphaned ((assertCommandExecution_eq_ok_iff hash).mp (hvalid id x hx).1) horphan
        refine .moved x _ horphan (forward_of_arrow (.lost (isOrphaned_eq_true_iff.mp horphan))
          hresult houtbox (fun _ ht => ht) rfl)
      · exact .untouched (some x)
  · unfold recoverOrphanedCommandExecutionsTransition at h
    dsimp only at h
    split at h
    · cases h
    · cases h
      rfl
  · rw [hget, Option.map_eq_some_iff] at hx'
    obtain ⟨x, hx, rfl⟩ := hx'
    obtain ⟨hassert, hid⟩ := hvalid id x hx
    split
    · rename_i horphan
      have hx := validExecution_outcomeUnknown ((assertCommandExecution_eq_ok_iff hash).mp hassert)
        horphan
      exact ⟨(assertCommandExecution_eq_ok_iff hash).mpr hx, hid⟩
    · exact ⟨hassert, hid⟩

/-- The prune removes records whose retention has run out. -/
theorem transitionEffect_prune (hvalid : ExecutionsValid hash state) {now : CanonicalTimestamp}
    {state' : PersistedBridgeState} {removed : List PersistedCommandExecutionV4}
    (h : pruneEligibleCommandExecutionsTransition state now = .ok (.next state' removed)) :
    TransitionEffect (.prune now) state state' ∧ ExecutionsValid hash state' := by
  have hcases := pruneEligibleCommandExecutions_cases h
  refine ⟨⟨fun id => ?_, ?_⟩, fun id x hx => hvalid id x ((hcases id x).mp hx).1⟩
  · rcases hx' : state'.commandExecutions.get? id with _ | x'
    · rcases hx : state.commandExecutions.get? id with _ | x
      · exact .untouched none
      · have hgone : ¬ ∀ through, commandExecutionRetainedThrough x = .ok through →
            ¬ through < now.toIsoText := by
          intro hall
          have hstill := (hcases id x).mpr ⟨hx, hall⟩
          rw [show (StateTransition.next state' removed).stateFrom state = state' from rfl,
            hx'] at hstill
          cases hstill
        push Not at hgone
        obtain ⟨through, hretained, hover⟩ := hgone
        exact .pruned x now through rfl hretained hover
    · rw [((hcases id x').mp hx').1]
      exact .untouched (some x')
  · rw [pruneEligibleCommandExecutionsTransition, bind_eq_ok_iff] at h
    obtain ⟨eligible, -, h⟩ := h
    split at h
    · cases h
    · cases h
      rfl

/-- A transition with a result has the next state of the transition without it. -/
theorem map_withoutResult_eq_next {α : Type} {t : Except Thrown (StateTransition α)}
    {state' : PersistedBridgeState}
    (h : t.map StateTransition.withoutResult = .ok (StateTransition.next state' ())) :
    ∃ result, t = .ok (.next state' result) := by
  rcases t with e | (result | ⟨next, result⟩)
  · cases h
  · cases h
  · cases h
    exact ⟨result, rfl⟩

/-- What a call does to a state whose records are valid, and that it keeps them valid. -/
theorem transitionEffect_of_next (hvalid : ExecutionsValid hash state) {call : CommandCall}
    {state' : PersistedBridgeState} (h : call.transition hash state = .ok (.next state' ())) :
    TransitionEffect call state state' ∧ ExecutionsValid hash state' := by
  -- The record that a call names is valid before the call.
  have hbefore : ∀ {id x}, state.commandExecutions.get? id = some x →
      ValidExecution hash x ∧ x.originalEncryptedCommand.commandId = id := fun hget =>
    ⟨(assertCommandExecution_eq_ok_iff hash).mp (hvalid _ _ hget).1, (hvalid _ _ hget).2⟩
  cases call with
  | claim input =>
    obtain ⟨result, ht⟩ := map_withoutResult_eq_next h
    obtain ⟨hcandidate, ⟨result', hunchanged, -⟩ | ⟨hfree, -, hnext⟩⟩ :=
      claimCommandExecution_cases ht
    · cases hunchanged
    · cases hnext
      exact ⟨transitionEffect_claim hfree,
        executionsValid_withCommandExecution hvalid hcandidate rfl⟩
  | dispatchStarted commandId at_ =>
    obtain ⟨result, ht⟩ := map_withoutResult_eq_next h
    obtain ⟨x, hx, hstate, x', rfl, hx', hnext⟩ := markCommandDispatchStarted_cases ht
    cases hnext
    obtain ⟨hvalidx, hid⟩ := hbefore hx
    have horphan : isOrphaned x = true := isOrphaned_eq_true_iff.mpr (.inl hstate)
    obtain ⟨hresult, houtbox⟩ := unset_of_orphaned hvalidx horphan
    have hforward : Forward x
        { x with state := .dispatchStarted, dispatchStartedAt := some at_ } := by
      refine forward_of_arrow (hstate ▸ Arrow.dispatched) hresult houtbox (fun t ht => ?_) rfl
      -- A claimed record has no dispatch instant.
      have hshape := hvalidx.shape
      rw [assertCommandExecutionShape, hstate] at hshape
      simp [throwIf_eq_ok, ht] at hshape
    exact ⟨transitionEffect_withCommandExecution hx rfl hforward,
      executionsValid_withCommandExecution hvalid hx' hid⟩
  | recoverOrphaned =>
    rcases hrecover : recoverOrphanedCommandExecutionsTransition state with result | ⟨next, result⟩
    · rw [CommandCall.transition, hrecover] at h
      cases h
    · rw [CommandCall.transition, hrecover] at h
      cases h
      exact transitionEffect_recover hvalid hrecover
  | outcomeUnknown commandId =>
    obtain ⟨result, ht⟩ := map_withoutResult_eq_next h
    obtain ⟨x, hx, horphan, x', rfl, hx', hnext⟩ := markCommandOutcomeUnknown_cases ht
    cases hnext
    obtain ⟨hvalidx, hid⟩ := hbefore hx
    obtain ⟨hresult, houtbox⟩ := unset_of_orphaned hvalidx horphan
    exact ⟨transitionEffect_withCommandExecution hx rfl
        (forward_of_arrow (.lost (isOrphaned_eq_true_iff.mp horphan)) hresult houtbox
          (fun _ ht => ht) rfl),
      executionsValid_withCommandExecution hvalid hx' hid⟩
  | receiptBlocked commandId terminalResult =>
    obtain ⟨result, ht⟩ := map_withoutResult_eq_next h
    obtain ⟨x, hx, horphan, x', rfl, hx', hnext⟩ := persistTerminalReceiptBlocked_cases ht
    cases hnext
    obtain ⟨hvalidx, hid⟩ := hbefore hx
    obtain ⟨hresult, houtbox⟩ := unset_of_orphaned hvalidx horphan
    exact ⟨transitionEffect_withCommandExecution hx rfl
        (forward_of_arrow (.blocked (isOrphaned_eq_true_iff.mp horphan)) hresult houtbox
          (fun _ ht => ht) rfl),
      executionsValid_withCommandExecution hvalid hx' hid⟩
  | terminalReceipt commandId terminalResult input =>
    obtain ⟨result, ht⟩ := map_withoutResult_eq_next h
    obtain ⟨x, hx, hbranch, x', rfl, hx', hnext⟩ := persistTerminalCommandReceipt_cases ht
    cases hnext
    obtain ⟨hvalidx, hid⟩ := hbefore hx
    refine ⟨transitionEffect_withCommandExecution hx rfl ?_,
      executionsValid_withCommandExecution hvalid hx' hid⟩
    rcases hbranch with horphan | ⟨hblocked, hresult⟩
    · obtain ⟨hresult, houtbox⟩ := unset_of_orphaned hvalidx horphan
      exact forward_of_arrow (.finished (isOrphaned_eq_true_iff.mp horphan)) hresult houtbox
        (fun _ ht => ht) rfl
    · exact forward_of_delivered hvalidx hblocked hresult
  | outbox commandId mark =>
    obtain ⟨result, ht⟩ := map_withoutResult_eq_next h
    obtain ⟨x, o, hx, -, houtbox, hpending, x', rfl, hx', hnext⟩ :=
      markCommandReceiptOutbox_cases ht
    cases hnext
    exact ⟨transitionEffect_withCommandExecution hx rfl (forward_of_mark houtbox hpending),
      executionsValid_withCommandExecution hvalid hx' (hbefore hx).2⟩
  | prune now =>
    obtain ⟨removed, ht⟩ := map_withoutResult_eq_next h
    exact transitionEffect_prune hvalid ht

end

/-! ### The store -/

/-- The record of a command in the memory of the store. -/
def recordOf (s : BridgeStore) (id : String) : Option PersistedCommandExecutionV4 :=
  s.state.commandExecutions.get? id

/-- The records in memory and in the file are valid, and the file is the state in memory or
the next state of a call whose write reported an error after it. -/
structure ExecutionStore (hash : ContentHash) (s : BridgeStore) : Prop where
  memory : ExecutionsValid hash s.state
  file : ExecutionsValid hash s.files.state
  ahead : s.files.state = s.state ∨ ∃ call, TransitionEffect call s.state s.files.state

variable {text : ProtocolText} {s s' : BridgeStore}

/-- What a call does to the store: the memory is left alone or gets the effect of the call,
and the invariant is kept. -/
theorem executionStore_call (h : ExecutionStore text.hash s) (call : CommandCall) :
    ExecutionStore text.hash ((call.program text).final s) ∧
      (((call.program text).final s).state = s.state ∨
        TransitionEffect call s.state ((call.program text).final s).state) := by
  unfold Effect.final
  rcases call.program_cases text s with ⟨e, hrun⟩ | hcases
  · rw [hrun]
    exact ⟨h, .inl rfl⟩
  generalize hrun : (call.program text).run s = r at hcases ⊢
  cases hcases with
  | thrown e hthrown => exact ⟨h, .inl rfl⟩
  | unchanged result hunchanged => exact ⟨h, .inl rfl⟩
  | committed state result s' hnext memory files =>
    obtain ⟨heffect, hvalid⟩ := transitionEffect_of_next h.memory hnext
    have hfile : s'.files.state = s'.state := by rw [files, memory]
    have hmemory : ExecutionsValid text.hash s'.state := memory ▸ hvalid
    exact ⟨⟨hmemory, hfile ▸ hmemory, .inl hfile⟩, .inr (memory ▸ heffect)⟩
  | failed state result e s' hnext memory files =>
    obtain ⟨heffect, hvalid⟩ := transitionEffect_of_next h.memory hnext
    have hmemory : ExecutionsValid text.hash s'.state := memory ▸ h.memory
    refine ⟨?_, .inl memory⟩
    rcases files with files | files
    · exact ⟨hmemory, files ▸ h.file, by rw [files, memory]; exact h.ahead⟩
    · have hfile : s'.files.state = state := by rw [files]
      exact ⟨hmemory, hfile ▸ hvalid, .inr ⟨call, by rw [hfile, memory]; exact heffect⟩⟩

/-- One step of the store keeps its invariant, and its memory stays or gets the effect of a
call. -/
theorem executionStore_step (h : ExecutionStore text.hash s) {event : CommandEvent}
    (hstep : CommandStoreStep text s event s') :
    ExecutionStore text.hash s' ∧
      (s'.state = s.state ∨ ∃ call, TransitionEffect call s.state s'.state) := by
  rw [CommandStoreStep] at hstep
  subst hstep
  cases event with
  | call method =>
    obtain ⟨hstore, heffect⟩ := executionStore_call h method
    exact ⟨hstore, heffect.imp_right fun heffect => ⟨method, heffect⟩⟩
  | pinsValidated => exact ⟨⟨h.memory, h.file, h.ahead⟩, .inl rfl⟩
  | restart writes => exact ⟨⟨h.file, h.file, .inl rfl⟩, h.ahead⟩

/-- The store that opens an accepted state satisfies the invariant. -/
theorem executionStore_opened {files : RuntimeFiles} {ready : Bool} {writes : List WriteOutcome}
    {hostId : String}
    (haccepted : assertCurrentStateRelationships text.hash files.state hostId = .ok ()) :
    ExecutionStore text.hash (BridgeStore.opened files ready writes) :=
  have hvalid := executionsValid_of_accepted haccepted
  ⟨hvalid, hvalid, .inl rfl⟩

/-- The steps after which the store still has a record at the id. -/
def KeepingStep (text : ProtocolText) (id : String) (s : BridgeStore) (event : CommandEvent)
    (s' : BridgeStore) : Prop :=
  CommandStoreStep text s event s' ∧ (recordOf s' id).isSome = true

/-- Along a run that keeps the record of an id, the record moves forward. -/
theorem forward_of_run (h : ExecutionStore text.hash s) {id : String}
    {x : PersistedCommandExecutionV4} {events : List CommandEvent} (hx : recordOf s id = some x)
    (hrun : Run (KeepingStep text id) s events s') :
    ExecutionStore text.hash s' ∧ ∃ x', recordOf s' id = some x' ∧ Forward x x' := by
  induction hrun with
  | nil => exact ⟨h, x, hx, Forward.refl x⟩
  | @snoc t u _ event _ last ih =>
    obtain ⟨ht, y, hy, hforward⟩ := ih
    obtain ⟨hstep, hsome⟩ := last
    obtain ⟨hu, hsame | ⟨call, heffect⟩⟩ := executionStore_step ht hstep
    · exact ⟨hu, y, by rw [recordOf, hsame]; exact hy, hforward⟩
    · have hrecord := heffect.records id
      rw [show t.state.commandExecutions.get? id = some y from hy] at hrecord
      rcases hrecord.kept with hnone | ⟨z, hz, hnext⟩
      · rw [recordOf, hnone] at hsome
        cases hsome
      · exact ⟨hu, z, hz, hforward.trans hnext⟩

/-- What holds of every store that a run reaches from an accepted state.

- `valid`: every record satisfies `assertCommandExecution`, under its own id;
- `transitionThrows`: a transition that throws leaves the whole store alone;
- `callThrows`: a call that throws, also for its write, leaves the state in memory alone;
- `effect`: a call that returns leaves the state alone or has the effect of its transition,
  which leaves the other records alone;
- `restarted`: so does a restart, with the transition whose write failed last;
- `forward`: as long as a record is there, it moves forward, and never out of outcome
  unknown. -/
structure ForwardOnly (text : ProtocolText) (s : BridgeStore) : Prop where
  valid : ∀ id x, recordOf s id = some x →
    assertCommandExecution text.hash x = .ok () ∧ x.originalEncryptedCommand.commandId = id
  transitionThrows : ∀ (call : CommandCall) thrown,
    call.transition text.hash s.state = .error thrown → (call.program text).final s = s
  callThrows : ∀ (call : CommandCall) thrown, (call.program text).outcome s = .error thrown →
    ((call.program text).final s).state = s.state
  effect : ∀ call : CommandCall, ((call.program text).final s).state = s.state ∨
    TransitionEffect call s.state ((call.program text).final s).state
  restarted : s.files.state = s.state ∨ ∃ call, TransitionEffect call s.state s.files.state
  forward : ∀ id x events s', recordOf s id = some x → Run (KeepingStep text id) s events s' →
    ∃ x', recordOf s' id = some x' ∧ Forward x x' ∧
      (x.state = .outcomeUnknown → x'.state = .outcomeUnknown)

/-- From every accepted state, every run of command calls, failing writes and restarts keeps
the records valid and moves them forward only. -/
theorem commandExecutions_of_run {files : RuntimeFiles} {ready : Bool}
    {writes : List WriteOutcome} {hostId : String} {events : List CommandEvent}
    (haccepted : assertCurrentStateRelationships text.hash files.state hostId = .ok ())
    (hrun : Run (CommandStoreStep text) (BridgeStore.opened files ready writes) events s) :
    ForwardOnly text s := by
  have hstep : ∀ t event t', ExecutionStore text.hash t → CommandStoreStep text t event t' →
      ExecutionStore text.hash t' := fun _ _ _ h hstep => (executionStore_step h hstep).1
  have hstore : ExecutionStore text.hash s :=
    Run.invariant hstep hrun (executionStore_opened haccepted)
  refine ⟨hstore.memory, ?_, ?_, fun call => (executionStore_call hstore call).2, hstore.ahead, ?_⟩
  · intro call thrown hthrown
    unfold Effect.final
    rcases call.program_cases text s with ⟨e, hrun⟩ | hcases
    · rw [hrun]
    · rw [hthrown] at hcases
      generalize hr : (call.program text).run s = r at hcases ⊢
      cases hcases with
      | thrown => rfl
      | unchanged _ h => cases h
      | committed _ _ _ h => cases h
      | failed _ _ _ _ h => cases h
  · intro call thrown hthrown
    unfold Effect.outcome at hthrown
    unfold Effect.final
    rcases call.program_cases text s with ⟨e, hrun⟩ | hcases
    · rw [hrun]
    · generalize hr : (call.program text).run s = r at hcases hthrown ⊢
      cases hcases with
      | thrown => rfl
      | unchanged => rfl
      | committed => cases hthrown
      | failed _ _ _ _ _ memory _ => exact memory
  · intro id x rest s' hx hrest
    obtain ⟨-, x', hx', hforward⟩ := forward_of_run hstore hx hrest
    exact ⟨x', hx', hforward, hforward.outcomeUnknown⟩

/-! ### A sample run -/

/-- The primitives of the link, with a comparison of texts. -/
def linkText : ProtocolText where
  hash := linkCrypto.hash
  localeCompare := compare
  isNeedHumanError _ := true

/-- A store without commands. The second write replaces the file and then reports an error. -/
def freshStore : BridgeStore :=
  BridgeStore.opened ⟨emptyState "epoch", []⟩ false [.written, .replaced]

/-- The claim of the command of the link. -/
def linkClaim : CommandEvent :=
  .call (.claim ⟨linkCommand, linkRecord.commandDigest, linkRecord.pinReference,
    linkRecord.claimedAt⟩)

/-- The store after the claim. -/
def claimedStore : BridgeStore :=
  linkClaim.apply linkText (CommandEvent.pinsValidated.apply linkText freshStore)

/-- The store after the command is marked, in a write that reports an error. -/
def markedStore : BridgeStore :=
  (CommandEvent.call (.outcomeUnknown "command")).apply linkText claimedStore

/-- The next process opens the file. -/
def reopenedStore : BridgeStore := (CommandEvent.restart []).apply linkText markedStore

set_option maxRecDepth 20000 in
/-- The memory has the claimed record after the failed write, and the next process has the
marked one. -/
theorem commandExecutions_of_restart :
    ForwardOnly linkText reopenedStore ∧
      (recordOf markedStore "command").map (·.state) = some .claimed ∧
      (recordOf reopenedStore "command").map (·.state) = some .outcomeUnknown := by
  have hrun : Run (CommandStoreStep linkText) freshStore
      [.pinsValidated, linkClaim, .call (.outcomeUnknown "command"), .restart []] reopenedStore :=
    ((((Run.nil freshStore).snoc rfl).snoc rfl).snoc rfl).snoc rfl
  have haccepted : assertCurrentStateRelationships linkText.hash (emptyState "epoch") "host"
      = .ok () := by decide +kernel
  refine ⟨commandExecutions_of_run haccepted hrun, ?_, ?_⟩
  · decide +kernel
  · decide +kernel

end Ariava.Proofs.CommandExecutions
