import Ariava.Lib.ReplayGuard
import Ariava.Daemon.CommandJournal

/-!
# `Ariava.Proofs.CommandReplay`: at-most-once execution of commands

The Bridge recognises a replayed command only by its retained execution record. A record
that is pruned while its envelope is still valid lets the same envelope be claimed, and its
command dispatched, once more.

The journal is a `ReplayGuard` (`guard`): the claimed envelopes are the accepted messages,
the records are the memory, the expiry is the deadline, and two envelopes clash when they
share the command id or the device nonce. `guardStep_of_evolve` and `guardStep_claim` show
that a step of the journal is a step of the guard, as long as a pruned record has outlived
its replays (`OutlivesReplays`).

An unfinished record has: it is kept for the clock skew past the expiry. A terminal record
is kept for thirty days past the instant that the *adapter* put into its result, so it
outlives its replays only when that instant is late enough. `RetentionCovers` is the
condition on the result, and `RetentionCoversStep` asks it of each step that records one.

- `atMostOnce_of_retentionCovers`: every run whose steps meet the condition dispatches no
  command twice and claims no device nonce twice.
- `dispatchedTwice_of_early_result`: a run with a result from 1970 dispatches a command
  twice.
-/

set_option autoImplicit false

namespace Ariava.Proofs.CommandReplay

open Ariava.Lib
open Ariava.Lib.ReplayGuard
open Ariava.Protocol
open Ariava.StateStore
open Ariava.E2e
open Ariava.Daemon

/-! ### The journal as a replay guard -/

/-- Two envelopes clash when they share the command id or the device nonce. -/
def Clash (e e' : EncryptedCommandEnvelopeV1) : Prop :=
  e.commandId = e'.commandId ∨ (e.watchDeviceId = e'.watchDeviceId ∧ e.nonce = e'.nonce)

/-- The instant at which an envelope stops being acceptable. -/
def deadline (e : EncryptedCommandEnvelopeV1) : Int := e.expiresAt.epochMs

/-- The execution of a command in the journal. -/
def recordAt (w : CommandJournal) (id : String) : Option PersistedCommandExecutionV4 :=
  w.state.commandExecutions.get? id

/-- The journal as a guard: it remembers the envelopes of its records. -/
def guard (w : CommandJournal) : ReplayGuard EncryptedCommandEnvelopeV1 Int where
  accepted := w.claimed
  remembered := {e | ∃ id x, recordAt w id = some x ∧ x.originalEncryptedCommand = e}
  now := w.now.epochMs

section
variable (issued : EncryptedCommandEnvelopeV1 → Prop)

/-- The record is retained until every envelope that clashes with its own has expired. -/
def OutlivesReplays (x : PersistedCommandExecutionV4) : Prop :=
  ∃ through, commandExecutionRetainedThrough x = .ok through ∧
    ∀ now : CanonicalTimestamp, through < now.toIsoText →
      Stale issued Clash deadline x.originalEncryptedCommand now.epochMs

/-- The issued envelopes that clash expire within the clock skew of each other, and the
skew past an expiry is still an instant of a four-digit year. A replay is the case of one
envelope. -/
def IssuedTogether : Prop :=
  ∀ e e', issued e → issued e' → Clash e e' →
    e.expiresAt.epochMs + clockSkewMs ≤ maxEpochMs ∧
      e'.expiresAt.epochMs ≤ e.expiresAt.epochMs + clockSkewMs + 1

/-- The result is dated such that thirty days after it are within the four-digit years, and
every envelope that clashes with the command of the result has expired by then. -/
def RetentionCovers (command : EncryptedCommandEnvelopeV1) (result : CommandResult) : Prop :=
  result.updatedAt.epochMs + commandReceiptRetentionMs ≤ maxEpochMs ∧
    ∀ e', issued e' → Clash command e' →
      e'.expiresAt.epochMs ≤ result.updatedAt.epochMs + commandReceiptRetentionMs + 1

/-- The condition on a step: a recorded result covers the replays of its command. -/
def RetentionCoversStep (w : CommandJournal) : CommandAction → Prop
  | .terminalReceiptBlocked id result
  | .terminalReceipt id result _ =>
      ∀ x, recordAt w id = some x → RetentionCovers issued x.originalEncryptedCommand result
  | _ => True

/-- What holds of every record: it names its own command, that command was issued and
claimed, the record outlives its replays, and a command that is merely claimed has not been
dispatched. -/
structure RecordInvariant (w : CommandJournal) (id : String)
    (x : PersistedCommandExecutionV4) : Prop where
  commandId : x.originalEncryptedCommand.commandId = id
  watchDeviceId : x.watchDeviceId = x.originalEncryptedCommand.watchDeviceId
  nonce : x.nonce = x.originalEncryptedCommand.nonce
  expiresAt : x.expiresAt = x.originalEncryptedCommand.expiresAt
  issuedCommand : issued x.originalEncryptedCommand
  claimed : x.originalEncryptedCommand ∈ w.claimed
  outlives : OutlivesReplays issued x
  undispatched : x.state = .claimed → id ∉ w.dispatched

/-- What holds of every journal that a run reaches. -/
structure JournalInvariant (w : CommandJournal) : Prop where
  records : ∀ id x, recordAt w id = some x → RecordInvariant issued w id x
  sound : Sound issued Clash deadline (guard w)
  dispatchedClaimed : ∀ id ∈ w.dispatched, ∃ e ∈ w.claimed, e.commandId = id
  dispatchedOnce : w.dispatched.Nodup

end

/-- Two records of one claim. -/
structure SameCommand (x x' : PersistedCommandExecutionV4) : Prop where
  originalEncryptedCommand : x'.originalEncryptedCommand = x.originalEncryptedCommand
  watchDeviceId : x'.watchDeviceId = x.watchDeviceId
  nonce : x'.nonce = x.nonce
  expiresAt : x'.expiresAt = x.expiresAt

theorem SameCommand.refl (x : PersistedCommandExecutionV4) : SameCommand x x :=
  ⟨rfl, rfl, rfl, rfl⟩

variable {issued : EncryptedCommandEnvelopeV1 → Prop} {crypto : NodeCrypto}
  {w w' : CommandJournal}

/-! ### How long a record is retained -/

/-- A record without a result is kept for the skew past its expiry, so it outlives its
replays. -/
theorem outlivesReplays_of_unfinished (hissued : IssuedTogether issued)
    {x : PersistedCommandExecutionV4} (hx : issued x.originalEncryptedCommand)
    (hexpires : x.expiresAt = x.originalEncryptedCommand.expiresAt)
    (hstate : isOrphaned x = true ∨ x.state = .outcomeUnknown) : OutlivesReplays issued x := by
  refine ⟨x.expiresAt.addMilliseconds clockSkewMs, ?_, ?_⟩
  · unfold commandExecutionRetainedThrough
    rcases hstate with horphaned | hunknown
    · simp only [isOrphaned, Bool.or_eq_true, decide_eq_true_eq] at horphaned
      rcases horphaned with h | h <;> rw [h]
    · rw [hunknown]
  · intro now hlt e' he' hclash
    obtain ⟨hrange, hclose⟩ := hissued _ _ hx he' hclash
    rw [hexpires, CanonicalTimestamp.addMilliseconds_lt_iff
      (CanonicalTimestamp.addMilliseconds_expanded_eq_false.mpr hrange)] at hlt
    show e'.expiresAt.epochMs ≤ now.epochMs
    omega

/-- A terminal record outlives its replays when its result is dated late enough. -/
theorem outlivesReplays_of_terminal {x : PersistedCommandExecutionV4} {result : CommandResult}
    (hstate : x.state = .terminalReceiptBlocked ∨ x.state = .terminal)
    (hresult : x.terminalResult = some result)
    (hcovers : RetentionCovers issued x.originalEncryptedCommand result) :
    OutlivesReplays issued x := by
  refine ⟨result.updatedAt.addMilliseconds commandReceiptRetentionMs, ?_, ?_⟩
  · unfold commandExecutionRetainedThrough
    rcases hstate with h | h <;> rw [h, hresult]
  · intro now hlt e' he' hclash
    rw [CanonicalTimestamp.addMilliseconds_lt_iff
      (CanonicalTimestamp.addMilliseconds_expanded_eq_false.mpr hcovers.1)] at hlt
    have hle := hcovers.2 e' he' hclash
    show e'.expiresAt.epochMs ≤ now.epochMs
    omega

/-! ### Steps that claim nothing -/

/-- A step that claims nothing: each record comes from a record of the same command and
outlives its replays, a record that is gone was stale, and at most one claimed command is
dispatched. -/
structure Evolves (issued : EncryptedCommandEnvelopeV1 → Prop) (w w' : CommandJournal) :
    Prop where
  claimed : w'.claimed = w.claimed
  clock : w.now ≤ w'.now
  records : ∀ id x', recordAt w' id = some x' → ∃ x, recordAt w id = some x ∧
    SameCommand x x' ∧ OutlivesReplays issued x' ∧
    (x'.state = .claimed → x.state = .claimed ∧ (id ∈ w'.dispatched → id ∈ w.dispatched))
  kept : ∀ id x, recordAt w id = some x → (∃ x', recordAt w' id = some x' ∧ SameCommand x x') ∨
    Stale issued Clash deadline x.originalEncryptedCommand w'.now.epochMs
  dispatched : w'.dispatched = w.dispatched ∨ ∃ id x, recordAt w id = some x ∧
    x.state = .claimed ∧ w'.dispatched = id :: w.dispatched

/-- A step that claims nothing is a step of the guard. -/
theorem guardStep_of_evolve (h : Evolves issued w w') :
    GuardStep issued Clash deadline (guard w) (guard w') where
  clock := h.clock
  forgets := by
    rintro e ⟨id, x, hx, rfl⟩
    rcases h.kept id x hx with ⟨x', hx', hsame⟩ | hstale
    · exact Or.inl ⟨id, x', hx', hsame.originalEncryptedCommand⟩
    · exact Or.inr hstale
  accepts := Or.inl h.claimed

/-- A step that claims nothing keeps the invariant. -/
theorem invariant_of_evolve (hinv : JournalInvariant issued w) (h : Evolves issued w w') :
    JournalInvariant issued w' where
  records := by
    intro id x' hx'
    obtain ⟨x, hx, hsame, houtlives, hclaimed⟩ := h.records id x' hx'
    have hrecord := hinv.records id x hx
    refine
      { commandId := hsame.originalEncryptedCommand ▸ hrecord.commandId
        watchDeviceId := ?_
        nonce := ?_
        expiresAt := ?_
        issuedCommand := hsame.originalEncryptedCommand ▸ hrecord.issuedCommand
        claimed := ?_
        outlives := houtlives
        undispatched := ?_ }
    · rw [hsame.watchDeviceId, hsame.originalEncryptedCommand, hrecord.watchDeviceId]
    · rw [hsame.nonce, hsame.originalEncryptedCommand, hrecord.nonce]
    · rw [hsame.expiresAt, hsame.originalEncryptedCommand, hrecord.expiresAt]
    · rw [h.claimed, hsame.originalEncryptedCommand]
      exact hrecord.claimed
    · intro hstate hmem
      exact hrecord.undispatched (hclaimed hstate).1 ((hclaimed hstate).2 hmem)
  sound := (guardStep_of_evolve h).sound hinv.sound
  dispatchedClaimed := by
    intro id hmem
    rw [h.claimed]
    rcases h.dispatched with hsame | ⟨id', x, hx, -, hcons⟩
    · exact hinv.dispatchedClaimed id (hsame ▸ hmem)
    · rw [hcons, List.mem_cons] at hmem
      rcases hmem with rfl | hmem
      · exact ⟨_, (hinv.records id x hx).claimed, (hinv.records id x hx).commandId⟩
      · exact hinv.dispatchedClaimed id hmem
  dispatchedOnce := by
    rcases h.dispatched with hsame | ⟨id, x, hx, hstate, hcons⟩
    · rw [hsame]
      exact hinv.dispatchedOnce
    · rw [hcons, List.nodup_cons]
      exact ⟨(hinv.records id x hx).undispatched hstate, hinv.dispatchedOnce⟩

/-- A step that only moves the clock. -/
theorem evolves_clock (hinv : JournalInvariant issued w) {now : CanonicalTimestamp}
    (hclock : w.now ≤ now) : Evolves issued w (w.at_ now) where
  claimed := rfl
  clock := hclock
  records := fun _ x hx =>
    ⟨x, hx, SameCommand.refl x, (hinv.records _ x hx).outlives,
      fun hstate => ⟨hstate, fun hmem => hmem⟩⟩
  kept := fun _ x hx => Or.inl ⟨x, hx, SameCommand.refl x⟩
  dispatched := Or.inl rfl

/-- A step that rewrites the record of one command: the command stays, the new record is no
longer merely claimed and outlives its replays. -/
theorem evolves_rewrite (hinv : JournalInvariant issued w) {id : String}
    {current next : PersistedCommandExecutionV4} (hcurrent : recordAt w id = some current)
    (hsame : SameCommand current next) (hnext : OutlivesReplays issued next)
    (hstate : next.state ≠ .claimed) (hclock : w.now ≤ w'.now)
    (hstate' : w'.state = withCommandExecution w.state id next) (hclaimed : w'.claimed = w.claimed)
    (hdispatched : w'.dispatched = w.dispatched ∨
      (current.state = .claimed ∧ w'.dispatched = id :: w.dispatched)) :
    Evolves issued w w' := by
  have hget : ∀ id', recordAt w' id' = if id' = id then some next else recordAt w id' := by
    intro id'
    rw [recordAt, hstate', withCommandExecution, Dict.get?_set]
    rfl
  refine ⟨hclaimed, hclock, fun id' x' hx' => ?_, fun id' x hx => ?_, ?_⟩
  · rw [hget] at hx'
    by_cases hid : id' = id
    · rw [if_pos hid, Option.some.injEq] at hx'
      subst hid hx'
      exact ⟨current, hcurrent, hsame, hnext, fun h => absurd h hstate⟩
    · rw [if_neg hid] at hx'
      refine ⟨x', hx', SameCommand.refl x', (hinv.records id' x' hx').outlives, fun h => ⟨h, ?_⟩⟩
      intro hmem
      rcases hdispatched with hd | ⟨-, hd⟩
      · exact hd ▸ hmem
      · rw [hd, List.mem_cons] at hmem
        exact hmem.resolve_left hid
  · refine Or.inl ?_
    by_cases hid : id' = id
    · subst hid
      rw [hcurrent, Option.some.injEq] at hx
      subst hx
      exact ⟨next, by rw [hget, if_pos rfl], hsame⟩
    · exact ⟨x, by rw [hget, if_neg hid, hx], SameCommand.refl x⟩
  · rcases hdispatched with hd | ⟨hcurrentState, hd⟩
    · exact Or.inl hd
    · exact Or.inr ⟨id, current, hcurrent, hcurrentState, hd⟩

/-- Pruning drops only records that have outlived their replays. -/
theorem evolves_prune (hinv : JournalInvariant issued w) {now : CanonicalTimestamp}
    (hclock : w.now ≤ now) {t : StateTransition (List PersistedCommandExecutionV4)}
    (h : pruneEligibleCommandExecutionsTransition w.state now = .ok t) :
    Evolves issued w { w with state := t.stateFrom w.state, now := now } := by
  have hiff := pruneEligibleCommandExecutions_cases h
  refine ⟨rfl, hclock, fun id x hx => ?_, fun id x hx => ?_, Or.inl rfl⟩
  · have hold := ((hiff id x).mp hx).1
    exact ⟨x, hold, SameCommand.refl x, (hinv.records id x hold).outlives, fun hs => ⟨hs, fun hm => hm⟩⟩
  · obtain ⟨through, hthrough, hstale⟩ := (hinv.records id x hx).outlives
    by_cases hlt : through < now.toIsoText
    · exact Or.inr (hstale now hlt)
    · refine Or.inl ⟨x, (hiff id x).mpr ⟨hx, fun through' hthrough' => ?_⟩, SameCommand.refl x⟩
      rw [hthrough, Except.ok.injEq] at hthrough'
      exact hthrough' ▸ hlt

/-- The record that recovery leaves. -/
def recovered (x : PersistedCommandExecutionV4) : PersistedCommandExecutionV4 :=
  if isOrphaned x then { x with state := .outcomeUnknown } else x

/-- Recovery keeps the command of a record, and leaves none merely claimed. -/
theorem recovered_sameCommand (x : PersistedCommandExecutionV4) :
    SameCommand x (recovered x) ∧ (recovered x).state ≠ .claimed := by
  unfold recovered
  by_cases h : isOrphaned x = true
  · rw [if_pos h]
    exact ⟨⟨rfl, rfl, rfl, rfl⟩, by simp⟩
  · rw [if_neg h]
    refine ⟨SameCommand.refl x, fun hstate => h ?_⟩
    simp [isOrphaned, hstate]

/-- Recovery turns unfinished records into records of unknown outcome. -/
theorem evolves_recover (hissued : IssuedTogether issued) (hinv : JournalInvariant issued w) :
    Evolves issued w { w with
      state := (recoverOrphanedCommandExecutionsTransition w.state).stateFrom w.state } := by
  have hget : ∀ id, recordAt { w with
        state := (recoverOrphanedCommandExecutionsTransition w.state).stateFrom w.state } id
      = (recordAt w id).map recovered := fun id =>
    recoverOrphanedCommandExecutions_get? w.state id
  refine ⟨rfl, le_refl _, fun id x' hx' => ?_, fun id x hx => ?_, Or.inl rfl⟩
  · rw [hget, Option.map_eq_some_iff] at hx'
    obtain ⟨x, hx, rfl⟩ := hx'
    obtain ⟨hsame, hstate⟩ := recovered_sameCommand x
    refine ⟨x, hx, hsame, ?_, fun h => absurd h hstate⟩
    have hrecord := hinv.records id x hx
    unfold recovered
    by_cases h : isOrphaned x = true
    · rw [if_pos h]
      exact outlivesReplays_of_unfinished hissued hrecord.issuedCommand hrecord.expiresAt
        (Or.inr rfl)
    · rw [if_neg h]
      exact hrecord.outlives
  · exact Or.inl ⟨recovered x, by rw [hget, hx]; rfl, (recovered_sameCommand x).1⟩

/-! ### The claim -/

/-- A pull that claims is a step of the guard: the record of the envelope is new, and no
record has its id or its nonce. -/
theorem guardStep_claim (hinv : JournalInvariant issued w) {input : CommandClaimInput}
    {observedAt claimedAt : CanonicalTimestamp}
    (hissued : issued input.originalEncryptedCommand) (hobserved : w.now ≤ observedAt)
    (hclaimedAt : observedAt ≤ claimedAt)
    (hwindow : observedAt.epochMs < input.originalEncryptedCommand.expiresAt.epochMs)
    (hnone : recordAt w input.originalEncryptedCommand.commandId = none)
    (hnonce : ∀ id x, recordAt w id = some x →
      sameNonceBinding x (claimCandidate input) = false) :
    GuardStep issued Clash deadline (guard w) (guard
      { state := withCommandExecution w.state input.originalEncryptedCommand.commandId
          (claimCandidate input)
        now := claimedAt
        claimed := input.originalEncryptedCommand :: w.claimed
        dispatched := w.dispatched }) where
  clock := le_trans hobserved hclaimedAt
  forgets := by
    rintro e ⟨id, x, hx, rfl⟩
    refine Or.inl ⟨id, x, ?_, rfl⟩
    have hid : id ≠ input.originalEncryptedCommand.commandId := by
      rintro rfl
      rw [hnone] at hx
      exact absurd hx (by simp)
    rw [recordAt, withCommandExecution, Dict.get?_set_ne _ _ hid]
    exact hx
  accepts := by
    refine Or.inr ⟨input.originalEncryptedCommand, rfl, ?_, hissued,
      ⟨observedAt.epochMs, hobserved, hwindow⟩, ?_⟩
    · exact ⟨input.originalEncryptedCommand.commandId, claimCandidate input,
        Dict.get?_set_self _ _ _, rfl⟩
    · rintro e ⟨id, x, hx, rfl⟩ (hid | ⟨hwatch, hsameNonce⟩)
      · rw [(hinv.records id x hx).commandId] at hid
        rw [hid, hnone] at hx
        exact absurd hx (by simp)
      · have hrecord := hinv.records id x hx
        have hfalse := hnonce id x hx
        simp only [sameNonceBinding, claimCandidate, hrecord.watchDeviceId, hrecord.nonce, hwatch,
          hsameNonce, decide_true, Bool.and_self] at hfalse
        exact absurd hfalse (by simp)

/-- A pull that claims keeps the invariant. -/
theorem invariant_claim (htogether : IssuedTogether issued) (hinv : JournalInvariant issued w)
    {input : CommandClaimInput} {observedAt claimedAt : CanonicalTimestamp}
    (hissued : issued input.originalEncryptedCommand) (hobserved : w.now ≤ observedAt)
    (hclaimedAt : observedAt ≤ claimedAt)
    (hwindow : observedAt.epochMs < input.originalEncryptedCommand.expiresAt.epochMs)
    (hnone : recordAt w input.originalEncryptedCommand.commandId = none)
    (hnonce : ∀ id x, recordAt w id = some x →
      sameNonceBinding x (claimCandidate input) = false) :
    JournalInvariant issued
      { state := withCommandExecution w.state input.originalEncryptedCommand.commandId
          (claimCandidate input)
        now := claimedAt
        claimed := input.originalEncryptedCommand :: w.claimed
        dispatched := w.dispatched } := by
  have hguard := guardStep_claim hinv hissued hobserved hclaimedAt hwindow hnone hnonce
  have hsound := hguard.sound hinv.sound
  refine ⟨fun id x hx => ?_, hsound, fun id hmem => ?_, hinv.dispatchedOnce⟩
  · rw [recordAt, withCommandExecution] at hx
    rcases Dict.get?_set_cases hx with ⟨rfl, rfl⟩ | ⟨-, hx⟩
    · refine ⟨rfl, rfl, rfl, rfl, hissued, List.mem_cons_self .., ?_, fun _ hmem => ?_⟩
      · exact outlivesReplays_of_unfinished htogether hissued rfl (Or.inl rfl)
      · -- A dispatched id belongs to an earlier claim, which would clash with this one.
        obtain ⟨e, he, hid⟩ := hinv.dispatchedClaimed _ hmem
        exact (List.pairwise_cons.mp hsound.distinct).1 e he (Or.inl hid)
    · have hrecord := hinv.records id x hx
      exact { hrecord with claimed := List.mem_cons_of_mem _ hrecord.claimed }
  · obtain ⟨e, he, hid⟩ := hinv.dispatchedClaimed id hmem
    exact ⟨e, List.mem_cons_of_mem _ he, hid⟩

/-- A pull keeps the invariant, whether it is refused, a duplicate, a conflict or a
claim. -/
theorem invariant_pull (htogether : IssuedTogether issued) (hinv : JournalInvariant issued w)
    {keyring : Option LocalLinkKeyring} {command : EncryptedCommandEnvelopeV1}
    {observedAt claimedAt : CanonicalTimestamp} (hissued : issued command)
    (hobserved : w.now ≤ observedAt) (hclaimedAt : observedAt ≤ claimedAt) :
    JournalInvariant issued (w.pull crypto keyring command observedAt claimedAt) := by
  have hclock : JournalInvariant issued (w.at_ claimedAt) :=
    invariant_of_evolve hinv (evolves_clock hinv (le_trans hobserved hclaimedAt))
  unfold CommandJournal.pull
  split
  · exact hclock
  · rename_i prepared hprepared
    obtain ⟨-, -, ring, -, -, horiginal, -, -⟩ := prepareCommandForExecution_eq_ok hprepared
    have hwindow := (prepareCommandForExecution_window hprepared).2
    unfold CommandJournal.commitClaim
    split
    · rename_i t ht
      obtain ⟨-, ⟨result, rfl, hresult⟩ | ⟨hnone, hnonce, rfl⟩⟩ := claimCommandExecution_cases ht
      · -- The claim was a duplicate or a conflict.
        split
        · rename_i execution heq
          exact absurd heq (hresult execution)
        · exact hclock
      · simp only [StateTransition.result]
        rw [← horiginal] at hissued hwindow
        exact invariant_claim htogether hinv hissued hobserved hclaimedAt hwindow hnone hnonce
    · exact hclock

/-! ### Runs -/

/-- A transition of one record that keeps its command keeps the invariant. -/
theorem invariant_commit {α : Type} {transition : Except Thrown (StateTransition α)}
    (hinv : JournalInvariant issued w)
    (h : ∀ t, transition = .ok t → ∃ id current next, recordAt w id = some current ∧
      SameCommand current next ∧ OutlivesReplays issued next ∧ next.state ≠ .claimed ∧
      t.stateFrom w.state = withCommandExecution w.state id next) :
    JournalInvariant issued (w.commit transition) := by
  unfold CommandJournal.commit
  split
  · rename_i t
    obtain ⟨id, current, next, hcurrent, hsame, hnext, hstate, ht⟩ := h t rfl
    exact invariant_of_evolve hinv (evolves_rewrite hinv hcurrent hsame hnext hstate (le_refl _) ht
      rfl (Or.inl rfl))
  · exact hinv

/-- Every step that meets the condition keeps the invariant. -/
theorem invariant_step (htogether : IssuedTogether issued) (hinv : JournalInvariant issued w)
    {action : CommandAction} (hcovers : RetentionCoversStep issued w action)
    (hstep : CommandStep crypto issued w action w') : JournalInvariant issued w' := by
  obtain ⟨hclock, hissued, rfl⟩ := hstep
  cases action with
  | pull keyring command observedAt claimedAt =>
    exact invariant_pull htogether hinv hissued hclock.1 hclock.2
  | dispatchStarted id now =>
    show JournalInvariant issued (CommandJournal.commitDispatch _ _ _)
    unfold CommandJournal.commitDispatch
    split
    · rename_i t ht
      obtain ⟨current, hcurrent, hstate, next, hnext, -, rfl⟩ :=
        markCommandDispatchStarted_cases ht
      have hrecord := hinv.records id current hcurrent
      have hsame : SameCommand current next := hnext ▸ ⟨rfl, rfl, rfl, rfl⟩
      have houtlives : OutlivesReplays issued next := by
        rw [hnext]
        exact outlivesReplays_of_unfinished htogether hrecord.issuedCommand hrecord.expiresAt
          (Or.inl rfl)
      have hnotClaimed : next.state ≠ .claimed := by simp [hnext]
      exact invariant_of_evolve hinv (evolves_rewrite hinv hcurrent hsame houtlives hnotClaimed
        hclock rfl rfl (Or.inr ⟨hstate, rfl⟩))
    · exact invariant_of_evolve hinv (evolves_clock hinv hclock)
  | outcomeUnknown id =>
    refine invariant_commit hinv fun t ht => ?_
    obtain ⟨current, hcurrent, -, next, hnext, -, rfl⟩ := markCommandOutcomeUnknown_cases ht
    have hrecord := hinv.records id current hcurrent
    refine ⟨id, current, next, hcurrent, hnext ▸ ⟨rfl, rfl, rfl, rfl⟩, ?_, by simp [hnext], rfl⟩
    rw [hnext]
    exact outlivesReplays_of_unfinished htogether hrecord.issuedCommand hrecord.expiresAt
      (Or.inr rfl)
  | terminalReceiptBlocked id result =>
    refine invariant_commit hinv fun t ht => ?_
    obtain ⟨current, hcurrent, -, next, hnext, -, rfl⟩ := persistTerminalReceiptBlocked_cases ht
    refine ⟨id, current, next, hcurrent, hnext ▸ ⟨rfl, rfl, rfl, rfl⟩, ?_, by simp [hnext], rfl⟩
    rw [hnext]
    exact outlivesReplays_of_terminal (Or.inl rfl) rfl (hcovers current hcurrent)
  | terminalReceipt id result outbox =>
    refine invariant_commit hinv fun t ht => ?_
    obtain ⟨current, hcurrent, -, next, hnext, -, rfl⟩ := persistTerminalCommandReceipt_cases ht
    refine ⟨id, current, next, hcurrent, hnext ▸ ⟨rfl, rfl, rfl, rfl⟩, ?_, by simp [hnext], rfl⟩
    rw [hnext]
    exact outlivesReplays_of_terminal (Or.inr rfl) rfl (hcovers current hcurrent)
  | receiptOutbox id mark =>
    refine invariant_commit hinv fun t ht => ?_
    obtain ⟨current, outbox, hcurrent, hstate, -, -, next, hnext, -, rfl⟩ :=
      markCommandReceiptOutbox_cases ht
    refine ⟨id, current, next, hcurrent, hnext ▸ ⟨rfl, rfl, rfl, rfl⟩, ?_,
      by simp [hnext, hstate], rfl⟩
    -- The retention of a terminal record does not read its outbox.
    rw [hnext]
    exact (hinv.records id current hcurrent).outlives
  | prune now =>
    show JournalInvariant issued (CommandJournal.commit _ _)
    unfold CommandJournal.commit
    split
    · rename_i t ht
      exact invariant_of_evolve hinv (evolves_prune hinv hclock ht)
    · exact invariant_of_evolve hinv (evolves_clock hinv hclock)
  | recoverOrphaned => exact invariant_of_evolve hinv (evolves_recover htogether hinv)

/-- The journal before the first command satisfies the invariant. -/
theorem invariant_start {state : PersistedBridgeState} (hstate : state.commandExecutions = ∅)
    (now : CanonicalTimestamp) : JournalInvariant issued (CommandJournal.start state now) where
  records := by
    intro id x hx
    rw [recordAt, CommandJournal.start, hstate] at hx
    exact absurd hx (by simp)
  sound := Sound.initial _ _
  dispatchedClaimed := fun id hmem => absurd hmem (by simp [CommandJournal.start])
  dispatchedOnce := List.nodup_nil

/-- No command id is dispatched twice, and no two claimed commands share the device and the
nonce. -/
def AtMostOnce (w : CommandJournal) : Prop :=
  w.dispatched.Nodup ∧
    w.claimed.Pairwise fun e e' => ¬ (e.watchDeviceId = e'.watchDeviceId ∧ e.nonce = e'.nonce)

/-- Take a run from a journal without executions, over issued envelopes that clash only when
they expire together. If every recorded result covers the replays of its command, then no
command is dispatched twice and no device nonce is claimed twice. -/
theorem atMostOnce_of_retentionCovers {state : PersistedBridgeState} {now : CanonicalTimestamp}
    {actions : List CommandAction} (hstate : state.commandExecutions = ∅)
    (htogether : IssuedTogether issued)
    (hrun : Run (Guarded (CommandStep crypto issued) (RetentionCoversStep issued))
      (CommandJournal.start state now) actions w) : AtMostOnce w := by
  have hstep : ∀ v action v', JournalInvariant issued v →
      Guarded (CommandStep crypto issued) (RetentionCoversStep issued) v action v' →
      JournalInvariant issued v' := fun _ _ _ hinv hguarded =>
    invariant_step htogether hinv hguarded.1 hguarded.2
  have hinv : JournalInvariant issued w := hrun.invariant hstep (invariant_start hstate now)
  refine ⟨hinv.dispatchedOnce, hinv.sound.distinct.imp fun hclash hsame => hclash ?_⟩
  exact Or.inr ⟨hsame.1.symm, hsame.2.symm⟩

/-! ### A result from 1970 -/

/-- The journal in which the sample command is pulled. -/
def sampleJournal : CommandJournal :=
  CommandJournal.start (emptyState "epoch") (sampleInstant 3456000000)

/-- A pull of the sample command, two seconds after its issue. -/
def samplePull : CommandAction :=
  .pull (some sampleKeyring) sampleCommand (sampleInstant 3456002000) (sampleInstant 3456002000)

/-- A result of the sample command with the given instant. -/
def sampleResult (updatedAt : CanonicalTimestamp) : CommandResult where
  commandId := "command"
  hostId := "host"
  sessionId := "session"
  status := .executed
  updatedAt := updatedAt

/-- The command is pulled and dispatched, gets a result with the given instant, and is
pulled again after the prune. -/
def replayActions (updatedAt : CanonicalTimestamp) : List CommandAction :=
  [samplePull, .dispatchStarted "command" (sampleInstant 3456002000),
    .terminalReceiptBlocked "command" (sampleResult updatedAt),
    .prune (sampleInstant 3456002000), samplePull,
    .dispatchStarted "command" (sampleInstant 3456002000)]

/-- The journal after the actions. -/
def replayJournal (updatedAt : CanonicalTimestamp) : CommandJournal :=
  (replayActions updatedAt).foldl (CommandJournal.apply sampleCrypto) sampleJournal

/-- The sample command clashes only with itself, within the skew. -/
theorem sample_issuedTogether : IssuedTogether (· = sampleCommand) := by
  rintro _ _ rfl rfl -
  decide

/-- The run with a result of the day of the command: the second pull is a duplicate, and the
second dispatch mark is refused. -/
theorem atMostOnce_of_retentionCovers_timely :
    AtMostOnce (replayJournal (sampleInstant 3456002000)) := by
  have hcovers : ∀ w : CommandJournal,
      (recordAt w "command").map (·.originalEncryptedCommand) = some sampleCommand →
      RetentionCoversStep (· = sampleCommand) w
        (.terminalReceiptBlocked "command" (sampleResult (sampleInstant 3456002000))) := by
    intro w hcommand x hx
    rw [hx, Option.map_some, Option.some.injEq] at hcommand
    rw [hcommand]
    exact ⟨by decide, by rintro _ rfl -; decide⟩
  have hrun : Run (Guarded (CommandStep sampleCrypto (· = sampleCommand))
      (RetentionCoversStep (· = sampleCommand))) sampleJournal
      (replayActions (sampleInstant 3456002000)) (replayJournal (sampleInstant 3456002000)) :=
    .cons ⟨trivial, by decide, rfl, rfl⟩ (.cons ⟨trivial, by decide, trivial, rfl⟩
      (.cons ⟨hcovers _ (by decide), trivial, trivial, rfl⟩
      (.cons ⟨trivial, by decide, trivial, rfl⟩ (.cons ⟨trivial, by decide, rfl, rfl⟩
      (.cons ⟨trivial, by decide, trivial, rfl⟩ (.nil _))))))
  exact atMostOnce_of_retentionCovers (by rfl) sample_issuedTogether hrun

/-- A result from 1970 is retained for thirty days of 1970, so the prune drops it at once,
the same envelope is claimed again, and the command is dispatched twice. -/
theorem dispatchedTwice_of_early_result :
    Run (CommandStep sampleCrypto (· = sampleCommand)) sampleJournal
        (replayActions (sampleInstant 0)) (replayJournal (sampleInstant 0)) ∧
      ¬ AtMostOnce (replayJournal (sampleInstant 0)) := by
  refine ⟨?_, fun h => absurd h.1 (by decide)⟩
  exact .cons ⟨by decide, rfl, rfl⟩ (.cons ⟨by decide, trivial, rfl⟩
    (.cons ⟨trivial, trivial, rfl⟩ (.cons ⟨by decide, trivial, rfl⟩
    (.cons ⟨by decide, rfl, rfl⟩ (.cons ⟨by decide, trivial, rfl⟩ (.nil _))))))

end Ariava.Proofs.CommandReplay
